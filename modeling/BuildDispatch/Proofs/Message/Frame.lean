import Mathlib.Data.List.Basic
import BuildDispatch.Message.Frame

/-!
Frames: messages come back whole and in order, however their bytes were cut into chunks and
wherever the stream was cut off (`Frame.framing_lossless`). What is received depends on the bytes
of a stream alone, and a frame at its start gives its message (`Frame.read_frame`).
-/
namespace BuildDispatch

namespace Bytes

theorem toNat_word (a b c d : UInt8) :
    (word a b c d).toNat = ((a.toNat * 256 + b.toNat) * 256 + c.toNat) * 256 + d.toNat := by
  have ha := a.toNat_lt
  have hb := b.toNat_lt
  have hc := c.toNat_lt
  have hd := d.toNat_lt
  have joins {y i : Nat} (x : Nat) (h : y < 2 ^ i) : x * 2 ^ i ||| y = x * 2 ^ i + y := by
    rw [← Nat.shiftLeft_eq, Nat.shiftLeft_add_eq_or_of_lt h]
  have first : a.toNat * 2 ^ 24 ||| b.toNat * 2 ^ 16 = (a.toNat * 256 + b.toNat) * 2 ^ 16 := by
    rw [joins _ (by omega)]
    omega
  have second : (a.toNat * 256 + b.toNat) * 2 ^ 16 ||| c.toNat * 2 ^ 8 =
      ((a.toNat * 256 + b.toNat) * 256 + c.toNat) * 2 ^ 8 := by
    rw [joins _ (by omega)]
    omega
  unfold word
  simp only [UInt32.toNat_or, UInt32.toNat_shiftLeft, UInt8.toNat_toUInt32, Nat.shiftLeft_eq,
    UInt32.reduceToNat, Nat.reduceMod]
  rw [Nat.mod_eq_of_lt (by omega), Nat.mod_eq_of_lt (by omega), Nat.mod_eq_of_lt (by omega),
    first, second]
  exact (joins _ hd).trans (by omega)

theorem exists_word_ofWord (n : UInt32) :
    ∃ a b c d, ofWord n = [a, b, c, d] ∧ word a b c d = n := by
  refine ⟨_, _, _, _, rfl, UInt32.toNat_inj.1 ?_⟩
  have hn := n.toNat_lt
  rw [toNat_word]
  simp only [UInt32.toNat_toUInt8, UInt32.toNat_shiftRight, Nat.shiftRight_eq_div_pow,
    UInt32.reduceToNat, Nat.reduceMod]
  omega

end Bytes

/-- What a reader is told when the bytes of a stream run out. -/
def Ending.error : Ending → WireError
  | closes => .closed
  | staysSilent => .timedOut

namespace Stream

/-- Chunks do not matter: what is split off are the first bytes. -/
theorem splitChunks_of_le {n : Nat} {chunks : List Bytes} (h : n ≤ chunks.flatten.length) :
    ∃ rest, splitChunks n chunks = some (chunks.flatten.take n, rest) ∧
      rest.flatten = chunks.flatten.drop n := by
  fun_induction splitChunks n chunks with
  | case1 chunks => exact ⟨chunks, rfl, rfl⟩
  | case2 n => simp at h
  | case3 n chunk rest within =>
    refine ⟨chunk.drop (n + 1) :: rest, ?_, ?_⟩
    · rw [List.flatten_cons, List.take_append_of_le_length within]
    · rw [List.flatten_cons, List.flatten_cons, List.drop_append_of_le_length within]
  | case4 n chunk rest beyond ih =>
    have hlen : n + 1 ≤ chunk.length + rest.flatten.length := by simpa using h
    have hchunk : chunk.length ≤ n + 1 := Nat.le_of_not_le beyond
    obtain ⟨left, hsplit, hleft⟩ := ih (by omega)
    refine ⟨left, ?_, ?_⟩
    · rw [hsplit, List.flatten_cons, List.take_append, List.take_of_length_le hchunk]
      rfl
    · rw [hleft, List.flatten_cons, List.drop_append, List.drop_of_length_le hchunk]
      rfl

theorem splitChunks_of_lt {n : Nat} {chunks : List Bytes} (h : chunks.flatten.length < n) :
    splitChunks n chunks = none := by
  fun_induction splitChunks n chunks with
  | case1 => omega
  | case2 => rfl
  | case3 n chunk rest within =>
    have hlen : chunk.length + rest.flatten.length < n + 1 := by simpa using h
    omega
  | case4 n chunk rest beyond ih =>
    have hlen : chunk.length + rest.flatten.length < n + 1 := by simpa using h
    rw [ih (by omega)]
    rfl

theorem receive_of_le {s : Stream} {n : Nat} (h : n ≤ s.bytes.length) :
    ∃ s', s.receive n = .ok (s.bytes.take n, s') ∧ s'.bytes = s.bytes.drop n ∧
      s'.ending = s.ending := by
  obtain ⟨left, hsplit, hleft⟩ := splitChunks_of_le h
  refine ⟨{ s with chunks := left }, ?_, hleft, rfl⟩
  rw [receive, hsplit]
  rfl

theorem receive_append {s : Stream} {b rest : Bytes} (h : s.bytes = b ++ rest) :
    ∃ s', s.receive b.length = .ok (b, s') ∧ s'.bytes = rest ∧ s'.ending = s.ending := by
  have hlen : b.length ≤ s.bytes.length := by
    rw [h, List.length_append]
    omega
  obtain ⟨s', hr, hrest, hend⟩ := receive_of_le hlen
  rw [h, List.take_left] at hr
  rw [h, List.drop_left] at hrest
  exact ⟨s', hr, hrest, hend⟩

theorem receive_of_lt {s : Stream} {n : Nat} (h : s.bytes.length < n) :
    s.receive n = .error s.ending.error := by
  rw [receive, splitChunks_of_lt h]
  cases s.ending with
  | closes => rfl
  | staysSilent => rfl

end Stream

namespace Frame

def framed (message : Bytes) : Bytes := Bytes.ofWord message.length.toUInt32 ++ message

theorem write_eq_ok {m : Bytes} (h : m.length ≤ maxMessageSize) : write m = .ok (framed m) :=
  if_neg (Nat.not_lt.2 h)

theorem write_eq_error {m : Bytes} (h : maxMessageSize < m.length) :
    write m = .error (.tooLarge m.length) := if_pos h

theorem length_framed (m : Bytes) : (framed m).length = m.length + 4 := by
  unfold framed
  rw [List.length_append, Nat.add_comm]
  rfl

theorem toNat_length {m : Bytes} (h : m.length ≤ maxMessageSize) :
    m.length.toUInt32.toNat = m.length := by
  rw [Nat.toUInt32, UInt32.toNat_ofNat']
  exact Nat.mod_eq_of_lt (Nat.lt_of_le_of_lt h (by decide))

/-- After four bytes that announce a size, as many bytes are taken. -/
theorem read_of_header {s : Stream} {a b c d : UInt8} {rest : Bytes}
    (h : s.bytes = a :: b :: c :: d :: rest) :
    ∃ s' : Stream, s'.bytes = rest ∧ s'.ending = s.ending ∧
      read s =
        if maxMessageSize < (Bytes.word a b c d).toNat then
          .error (.tooLarge (Bytes.word a b c d).toNat)
        else s'.receive (Bytes.word a b c d).toNat := by
  obtain ⟨s', hr, hs'⟩ := Stream.receive_append (b := [a, b, c, d]) h
  refine ⟨s', hs'.1, hs'.2, ?_⟩
  unfold read
  rw [show ([a, b, c, d] : Bytes).length = 4 from rfl] at hr
  rw [hr]
  rfl

theorem read_of_short {s : Stream} (h : s.bytes.length < 4) : read s = .error s.ending.error := by
  unfold read
  rw [Stream.receive_of_lt h]
  rfl

theorem read_frame {s : Stream} {m rest : Bytes} (fits : m.length ≤ maxMessageSize)
    (h : s.bytes = framed m ++ rest) :
    ∃ s', read s = .ok (m, s') ∧ s'.bytes = rest ∧ s'.ending = s.ending := by
  obtain ⟨a, b, c, d, hword, hsize⟩ := Bytes.exists_word_ofWord m.length.toUInt32
  have hb : s.bytes = a :: b :: c :: d :: (m ++ rest) := by
    rw [h, framed, hword]
    rfl
  obtain ⟨s', hs', hend, hread⟩ := read_of_header hb
  rw [hsize, toNat_length fits, if_neg (Nat.not_lt.2 fits)] at hread
  obtain ⟨s'', hr, hrest, hend'⟩ := Stream.receive_append hs'
  exact ⟨s'', hread.trans hr, hrest, hend'.trans hend⟩

/-- A stream that ends within a frame has no message. -/
theorem read_of_cut {s : Stream} {m : Bytes} {n : Nat} (fits : m.length ≤ maxMessageSize)
    (within : n < (framed m).length) (h : s.bytes = (framed m).take n) :
    read s = .error s.ending.error := by
  rcases Nat.lt_or_ge n 4 with short | header
  · refine read_of_short ?_
    rw [h, List.length_take]
    omega
  · obtain ⟨a, b, c, d, hword, hsize⟩ := Bytes.exists_word_ofWord m.length.toUInt32
    have hb : s.bytes = a :: b :: c :: d :: m.take (n - 4) := by
      obtain ⟨k, rfl⟩ := Nat.exists_eq_add_of_le header
      rw [h, framed, hword, Nat.add_comm 4 k, Nat.add_sub_cancel]
      rfl
    obtain ⟨s', hs', hend, hread⟩ := read_of_header hb
    rw [hsize, toNat_length fits, if_neg (Nat.not_lt.2 fits)] at hread
    rw [hread, ← hend]
    refine Stream.receive_of_lt ?_
    rw [length_framed] at within
    rw [hs', List.length_take]
    omega

theorem length_of_read {s s' : Stream} {m : Bytes} (h : read s = .ok (m, s')) :
    s'.bytes.length < s.bytes.length := by
  match hs : s.bytes with
  | a :: b :: c :: d :: rest =>
    obtain ⟨t, ht, -, hread⟩ := read_of_header hs
    rw [hread] at h
    split_ifs at h
    rcases Nat.lt_or_ge t.bytes.length (Bytes.word a b c d).toNat with short | enough
    · rw [Stream.receive_of_lt short] at h
      cases h
    · obtain ⟨t', hr, hrest, -⟩ := Stream.receive_of_le enough
      rw [hr] at h
      cases h
      rw [hrest, ht, List.length_drop]
      simp only [List.length_cons]
      omega
  | [] | [_] | [_, _] | [_, _, _] =>
    rw [read_of_short (by simp [hs])] at h
    cases h

/-- The messages of a stream, one after the other, and why no more came. -/
def readAll (s : Stream) : List Bytes × WireError :=
  match h : read s with
  | .ok (m, s') =>
    have : s'.bytes.length < s.bytes.length := length_of_read h
    let (rest, why) := readAll s'
    (m :: rest, why)
  | .error why => ([], why)
termination_by s.bytes.length

def writeAll (messages : List Bytes) : Bytes :=
  messages.flatMap fun m =>
    match write m with
    | .ok b => b
    | .error _ => []

theorem readAll_of_ok {s s' : Stream} {m : Bytes} (h : read s = .ok (m, s')) :
    readAll s = (m :: (readAll s').1, (readAll s').2) := by
  rw [readAll]
  split
  case h_1 m' t ht =>
    rw [h] at ht
    cases ht
    rfl
  case h_2 why ht =>
    rw [h] at ht
    cases ht

theorem readAll_of_error {s : Stream} {why : WireError} (h : read s = .error why) :
    readAll s = ([], why) := by
  rw [readAll]
  split
  case h_1 m t ht =>
    rw [h] at ht
    cases ht
  case h_2 why' ht =>
    rw [h] at ht
    cases ht
    rfl

theorem writeAll_cons {m : Bytes} (fits : m.length ≤ maxMessageSize) (rest : List Bytes) :
    writeAll (m :: rest) = framed m ++ writeAll rest := by
  rw [writeAll, List.flatMap_cons, write_eq_ok fits]
  rfl

theorem writeAll_cons_of_lt {m : Bytes} (h : maxMessageSize < m.length) (rest : List Bytes) :
    writeAll (m :: rest) = writeAll rest := by
  rw [writeAll, List.flatMap_cons, write_eq_error h]
  rfl

/-- Whole messages are read, and then whatever stops the reader. -/
theorem readAll_of_bytes {messages : List Bytes} {s : Stream} {tail : Bytes}
    (fit : ∀ m ∈ messages, m.length ≤ maxMessageSize) (hs : s.bytes = writeAll messages ++ tail)
    {why : WireError}
    (stops : ∀ t : Stream, t.bytes = tail → t.ending = s.ending → read t = .error why) :
    readAll s = (messages, why) := by
  induction messages generalizing s with
  | nil => exact readAll_of_error (stops s hs rfl)
  | cons m rest ih =>
    have hm : m.length ≤ maxMessageSize := fit m List.mem_cons_self
    rw [writeAll_cons hm, List.append_assoc] at hs
    obtain ⟨s', hread, hrest, hend⟩ := read_frame hm hs
    have step := ih (fun x hx => fit x (List.mem_cons_of_mem _ hx)) hrest
      fun t ht he => stops t ht (he.trans hend)
    rw [readAll_of_ok hread, step]

/-- A stream that is cut off holds whole frames and at most a part of one more. -/
theorem exists_take_writeAll {messages : List Bytes}
    (fit : ∀ m ∈ messages, m.length ≤ maxMessageSize) (n : Nat) :
    ∃ k ≤ messages.length, (writeAll (messages.take k)).length ≤ n ∧
      (∀ m ∈ messages[k]?, n < (writeAll (messages.take (k + 1))).length) ∧
      ∃ tail, (writeAll messages).take n = writeAll (messages.take k) ++ tail ∧
        ∀ t : Stream, t.bytes = tail → read t = .error t.ending.error := by
  induction messages generalizing n with
  | nil =>
    refine ⟨0, Nat.le_refl 0, Nat.zero_le n, nofun, [], List.take_nil, fun t ht => ?_⟩
    exact read_of_short (by rw [ht]; decide)
  | cons m rest ih =>
    have hm : m.length ≤ maxMessageSize := fit m List.mem_cons_self
    rw [writeAll_cons hm]
    rcases Nat.lt_or_ge n (framed m).length with within | beyond
    · refine ⟨0, Nat.zero_le _, Nat.zero_le n, fun _ _ => ?_, (framed m).take n, ?_, fun t ht => ?_⟩
      · rw [Nat.zero_add, List.take_succ_cons, List.take_zero, writeAll_cons hm, List.length_append]
        omega
      · rw [List.take_append_of_le_length (Nat.le_of_lt within)]
        rfl
      · exact read_of_cut hm within ht
    · obtain ⟨k, hk, hle, hlt, tail, htake, hstop⟩ :=
        ih (fun x hx => fit x (List.mem_cons_of_mem _ hx)) (n - (framed m).length)
      have hcons (j : Nat) : writeAll ((m :: rest).take (j + 1)) =
          framed m ++ writeAll (rest.take j) := by
        rw [List.take_succ_cons, writeAll_cons hm]
      refine ⟨k + 1, Nat.succ_le_succ hk, ?_, fun x hx => ?_, tail, ?_, hstop⟩
      · rw [hcons, List.length_append]
        omega
      · have := hlt x (by simpa using hx)
        rw [hcons, List.length_append]
        omega
      · rw [hcons, List.take_append, List.take_of_length_le beyond, htake, List.append_assoc]

/--
Messages come back whole and in order, however the stream is cut into chunks. Of a stream that is
cut off, the messages whose frames it holds come back. A header that announces too much is refused
with the size that it announces, and a message that is too long is refused before anything is
written.
-/
theorem framing_lossless {messages : List Bytes}
    (fit : ∀ m ∈ messages, m.length ≤ maxMessageSize) {s : Stream} (closes : s.ending = .closes) :
    (s.bytes = writeAll messages → readAll s = (messages, .closed)) ∧
    (∀ n, s.bytes = (writeAll messages).take n →
      ∃ k ≤ messages.length, (writeAll (messages.take k)).length ≤ n ∧
        (∀ m ∈ messages[k]?, n < (writeAll (messages.take (k + 1))).length) ∧
        readAll s = (messages.take k, .closed)) ∧
    (∀ (a b c d : UInt8) (rest : Bytes) (size : Nat),
      size = ((a.toNat * 256 + b.toNat) * 256 + c.toNat) * 256 + d.toNat →
      maxMessageSize < size → s.bytes = writeAll messages ++ a :: b :: c :: d :: rest →
        readAll s = (messages, .tooLarge size)) ∧
    (∀ m : Bytes, maxMessageSize < m.length →
      write m = .error (.tooLarge m.length) ∧ writeAll [m] = []) ∧
    ∀ m : Bytes, m.length ≤ maxMessageSize →
      ∃ a b c d : UInt8, write m = .ok (a :: b :: c :: d :: m) ∧
        ((a.toNat * 256 + b.toNat) * 256 + c.toNat) * 256 + d.toNat = m.length := by
  refine ⟨fun hs => ?_, fun n hs => ?_, fun a b c d rest size hsize large hs => ?_,
    fun m large => ⟨write_eq_error large, writeAll_cons_of_lt large []⟩, fun m fits => ?_⟩
  · have whole : s.bytes = writeAll messages ++ [] := by rw [hs, List.append_nil]
    refine readAll_of_bytes fit whole fun t ht he => ?_
    rw [read_of_short (by rw [ht]; decide), he, closes]
    rfl
  · obtain ⟨k, hk, hle, hlt, tail, htake, stops⟩ := exists_take_writeAll fit n
    refine ⟨k, hk, hle, hlt, ?_⟩
    refine readAll_of_bytes (fun m hm => fit m (List.mem_of_mem_take hm)) (hs.trans htake)
      fun t ht he => ?_
    rw [stops t ht, he, closes]
    rfl
  · refine readAll_of_bytes fit hs fun t ht _ => ?_
    obtain ⟨t', -, -, hread⟩ := read_of_header ht
    rw [Bytes.toNat_word, ← hsize, if_pos large] at hread
    exact hread
  · obtain ⟨a, b, c, d, hword, hsize⟩ := Bytes.exists_word_ofWord m.length.toUInt32
    refine ⟨a, b, c, d, ?_, ?_⟩
    · rw [write_eq_ok fits, framed, hword]
      rfl
    · rw [← Bytes.toNat_word, hsize, toNat_length fits]

/-- Three messages, one of them empty, cut within headers and within a message. -/
theorem framing_lossless_cut :
    let messages : List Bytes := [[0x68, 0x69], [], [0x21]]
    let s (n : Nat) : Stream :=
      ⟨[[0, 0], [0, 2, 0x68], [0x69, 0, 0, 0, 0, 0], [], [0, 0, 1, 0x21].take n], .closes⟩
    readAll (s 4) = (messages, .closed) ∧ readAll (s 3) = (messages.take 2, .closed) := by
  intro messages s
  have fit : ∀ m ∈ messages, m.length ≤ maxMessageSize := by decide
  have whole := (framing_lossless fit (s := s 4) rfl).1 (by decide)
  obtain ⟨k, hk, hle, hlt, cut⟩ := (framing_lossless fit (s := s 3) rfl).2.1 14 (by decide)
  have two : k = 2 := by
    match k, hk with
    | 0, _ => exact absurd (hlt _ rfl) (by decide)
    | 1, _ => exact absurd (hlt _ rfl) (by decide)
    | 2, _ => rfl
    | 3, _ => exact absurd hle (by decide)
  exact ⟨whole, two ▸ cut⟩

end Frame

end BuildDispatch
