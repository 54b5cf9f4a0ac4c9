/-! Texts cut to a number of characters. -/
namespace BuildDispatch.Text

def short (s : String) (n : Nat) : String := String.ofList (s.toList.take n)

end BuildDispatch.Text
