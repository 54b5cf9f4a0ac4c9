import BuildDispatch.Board

/-! Observers of a board, who may fall behind and then miss the oldest events. -/
namespace BuildDispatch

/-- How many events are kept for an observer. -/
def eventCapacity : Nat := 256

/-- An observer, who has seen the first `seen` events or passed over them. -/
structure Observer where
  seen : Nat
  deriving DecidableEq, Repr

/-- What an observer is given: how many events it missed, and then those that are kept. -/
structure Delivery where
  missed : Nat
  events : List JobEvent
  deriving DecidableEq, Repr

namespace Board

def subscribe (b : Board) : Observer := ⟨b.events.length⟩

def drain (b : Board) (o : Observer) : Delivery × Observer :=
  let unseen := b.events.length - o.seen
  let kept := min unseen eventCapacity
  (⟨unseen - kept, (b.events.take kept).reverse⟩, ⟨b.events.length⟩)

end Board

end BuildDispatch
