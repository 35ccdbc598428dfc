import HttpTunnel.Bytes

/-!
Numerals inside addresses: the longest run of digits at the front of a text, read
under a digit count, a rule on leading zeros and a largest value.
-/

namespace HttpTunnel.Address

def decimalValue? (char : Char) : Option Nat :=
  if '0' ≤ char ∧ char ≤ '9' then some (char.toNat - 48) else none

def hexValue? (char : Char) : Option Nat :=
  if '0' ≤ char ∧ char ≤ '9' then some (char.toNat - 48)
  else if 'a' ≤ char ∧ char ≤ 'f' then some (char.toNat - 87)
  else if 'A' ≤ char ∧ char ≤ 'F' then some (char.toNat - 55)
  else none

/-- The values of the leading digits, and the text behind them. -/
def digitRun (value? : Char → Option Nat) : List Char → List Nat × List Char
  | [] => ([], [])
  | char :: rest =>
      match value? char with
      | none => ([], char :: rest)
      | some place =>
          let (places, behind) := digitRun value? rest
          (place :: places, behind)

/-- A decimal numeral of at most three digits and no leading zero, up to 255. -/
def readOctet (text : List Char) : Option (UInt8 × List Char) :=
  let (places, rest) := digitRun decimalValue? text
  let value := ofDigits 10 places
  if places = [] ∨ 3 < places.length ∨ (places.head? = some 0 ∧ 1 < places.length) ∨ 255 < value
  then none
  else some (UInt8.ofNat value, rest)

/-- A hexadecimal numeral of at most four digits. -/
def readGroup (text : List Char) : Option (UInt16 × List Char) :=
  let (places, rest) := digitRun hexValue? text
  if places = [] ∨ 4 < places.length then none
  else some (UInt16.ofNat (ofDigits 16 places), rest)

/-- A decimal numeral of any length up to a largest value. -/
def readBounded (largest : Nat) (text : List Char) : Option (Nat × List Char) :=
  let (places, rest) := digitRun decimalValue? text
  let value := ofDigits 10 places
  if places = [] ∨ largest < value then none else some (value, rest)

def expect (char : Char) : List Char → Option (List Char)
  | [] => none
  | first :: rest => if first = char then some rest else none

def decimalText (value : Nat) : List Char :=
  match (digits 10 value).reverse with
  | [] => ['0']
  | places => places.map fun place => Char.ofNat (48 + place)

def hexText (value : Nat) : List Char :=
  match (digits 16 value).reverse with
  | [] => ['0']
  | places => places.map fun place => Char.ofNat (if place < 10 then 48 + place else 87 + place)

end HttpTunnel.Address
