import HttpTunnel.Key

/-!
The register of open tunnels. It leads from a key to the number of a tunnel, and holds
each key at most once.
-/

namespace HttpTunnel.Server

structure Registry where
  entries : List (Key × Nat) := []
  deriving DecidableEq, Repr

namespace Registry

def find? (registry : Registry) (key : Key) : Option Nat := registry.entries.lookup key

def contains (registry : Registry) (key : Key) : Bool := (registry.find? key).isSome

def size (registry : Registry) : Nat := registry.entries.length

def erase (registry : Registry) (key : Key) : Registry :=
  ⟨registry.entries.filter fun entry => entry.1 != key⟩

/-- Registers a tunnel under a key, in place of any other. -/
def insert (registry : Registry) (key : Key) (number : Nat) : Registry :=
  ⟨(key, number) :: (registry.erase key).entries⟩

/-- Forgets a key, if it still leads to a certain tunnel. -/
def release (registry : Registry) (key : Key) (number : Nat) : Registry :=
  if registry.find? key = some number then registry.erase key else registry

def numbers (registry : Registry) : List Nat := registry.entries.map Prod.snd

end Registry

end HttpTunnel.Server
