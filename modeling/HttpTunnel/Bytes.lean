/-!
Byte strings and the two byte orders of the wire. A big-endian string is read as
one number; a little-endian word has a fixed width.
-/

namespace HttpTunnel

abbrev Bytes := List UInt8

/-- The digits of a number in a radix of at least two, least significant first.
Zero has no digits. -/
def digits (radix value : Nat) : List Nat :=
  if more : 2 ≤ radix ∧ value ≠ 0 then
    have _smaller := Nat.div_lt_self (Nat.pos_of_ne_zero more.2) more.1
    value % radix :: digits radix (value / radix)
  else []
termination_by value

/-- The number that a digit string spells, most significant digit first. -/
def ofDigits (radix : Nat) (places : List Nat) : Nat :=
  places.foldl (fun value place => value * radix + place) 0

namespace Bytes

def ofText (text : String) : Bytes := text.toUTF8.toList

def asciiText (bytes : Bytes) : String :=
  String.ofList (bytes.map fun byte => Char.ofNat byte.toNat)

def bigEndian (bytes : Bytes) : Nat := ofDigits 256 (bytes.map UInt8.toNat)

/-- The low `width` bytes of a number, least significant first. -/
def ofLittleEndian : (width : Nat) → (value : Nat) → Bytes
  | 0, _ => []
  | width + 1, value => UInt8.ofNat value :: ofLittleEndian width (value / 256)

def littleEndian : Bytes → Nat
  | [] => 0
  | byte :: rest => byte.toNat + 256 * littleEndian rest

/-- The first `length` bytes and the rest, if there are so many. -/
def split? (length : Nat) (bytes : Bytes) : Option (Bytes × Bytes) :=
  if length ≤ bytes.length then some (bytes.take length, bytes.drop length) else none

end Bytes

end HttpTunnel
