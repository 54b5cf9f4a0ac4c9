/-! The versions of the protocol, and how two sides settle on one. -/
namespace BuildDispatch.Protocol

def newest : UInt32 := 1

def oldest : UInt32 := 1

/-- The version of the program, which each side tells the other. -/
def programVersion : String := "0.2.0"

/-- The protocol that both sides speak. A client that is newer is spoken to in our own. -/
def negotiate (client : UInt32) : Option UInt32 :=
  if client < oldest then none else some (min client newest)

end BuildDispatch.Protocol
