/-! Plain values, as they are written. -/
namespace BuildDispatch.Data

/-- A value without types: what a typed value is written as. -/
inductive Value where
  | null
  | flag (b : Bool)
  | whole (n : UInt64)
  | text (s : String)
  | list (items : List Value)
  | object (members : List (String × Value))

end BuildDispatch.Data
