/-!
# Identities of connections

Connections are numbered from 1 in the order in which they are made.
-/

namespace Telecontrol

/-- The identity of a connection. -/
structure ConnectionId where
  number : Nat
  deriving DecidableEq, Repr

namespace ConnectionId

/-- The identity in short notation. -/
def text (id : ConnectionId) : String := s!"#{id.number}"

/-- The identities of the first connections. -/
def first (count : Nat) : List ConnectionId := (List.range count).map fun i => ⟨i + 1⟩

end ConnectionId

end Telecontrol
