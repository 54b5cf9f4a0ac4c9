import BuildDispatch.Job

/-! Readings of the clock, in milliseconds of 64 bits that wrap around. -/
namespace BuildDispatch.Timestamp

/-- Where a clock that is moved by hand starts. -/
def start : Timestamp := 1000000

/-- The milliseconds since an earlier reading, or zero if that lies ahead. -/
def since (now earlier : Timestamp) : UInt64 := if earlier ≤ now then now - earlier else 0

end BuildDispatch.Timestamp
