import HttpTunnel.Address.Numeral

/-!
IP addresses and their texts. A version 4 address is four octets between dots. A
version 6 address is eight groups between colons; one run of zero groups may stand
as `::`, and the last two groups may be written as a version 4 address.
-/

namespace HttpTunnel.Address

structure V4 where
  first : UInt8
  second : UInt8
  third : UInt8
  fourth : UInt8
  deriving DecidableEq, Repr

structure V6 where
  groups : Vector UInt16 8
  deriving DecidableEq, Repr

inductive Ip where
  | v4 (address : V4)
  | v6 (address : V6)
  deriving DecidableEq, Repr

namespace V4

def text (address : V4) : List Char :=
  decimalText address.first.toNat ++ '.' :: decimalText address.second.toNat ++
    '.' :: decimalText address.third.toNat ++ '.' :: decimalText address.fourth.toNat

def read (text : List Char) : Option (V4 × List Char) := do
  let (first, text) ← readOctet text
  let (second, text) ← readOctet (← expect '.' text)
  let (third, text) ← readOctet (← expect '.' text)
  let (fourth, text) ← readOctet (← expect '.' text)
  some (⟨first, second, third, fourth⟩, text)

def highGroup (address : V4) : UInt16 :=
  UInt16.ofNat (address.first.toNat * 256 + address.second.toNat)

def lowGroup (address : V4) : UInt16 :=
  UInt16.ofNat (address.third.toNat * 256 + address.fourth.toNat)

end V4

namespace V6

/-- Reads at most `room` groups; every one but the first of an address part stands
behind a colon. A version 4 address ends the part and counts for two groups. The
flag says whether one was read. -/
def readGroups : (room : Nat) → (first : Bool) → List Char → List UInt16 × Bool × List Char
  | 0, _, text => ([], false, text)
  | room + 1, first, text =>
      let start := if first then some text else expect ':' text
      let embedded := if room = 0 then none else start.bind V4.read
      match embedded with
      | some (address, rest) => ([address.highGroup, address.lowGroup], true, rest)
      | none =>
          match start.bind readGroup with
          | none => ([], false, text)
          | some (group, rest) =>
              let (groups, dotted, behind) := readGroups room false rest
              (group :: groups, dotted, behind)

def ofGroups? (groups : List UInt16) : Option V6 :=
  if eight : groups.length = 8 then some ⟨⟨groups.toArray, by simp [eight]⟩⟩ else none

def read (text : List Char) : Option (V6 × List Char) := do
  let (front, dotted, rest) := readGroups 8 true text
  if front.length = 8 then
    return (← ofGroups? front, rest)
  else if dotted then
    none
  else
    let rest ← expect ':' (← expect ':' rest)
    let (back, _, rest) := readGroups (7 - front.length) true rest
    let zeros := List.replicate (8 - front.length - back.length) 0
    return (← ofGroups? (front ++ zeros ++ back), rest)

/-- The version 4 address that an address of the form `::ffff:0:0/96` stands for. -/
def mapped? (address : V6) : Option V4 :=
  match address.groups.toList with
  | [0, 0, 0, 0, 0, 0xffff, high, low] =>
      some ⟨UInt8.ofNat (high.toNat / 256), UInt8.ofNat high.toNat,
        UInt8.ofNat (low.toNat / 256), UInt8.ofNat low.toNat⟩
  | _ => none

/-- Start and length of the first longest run of zero groups. -/
def zeroRun (groups : List UInt16) : Nat × Nat :=
  go 0 groups (0, 0) (0, 0)
where
  go : Nat → List UInt16 → Nat × Nat → Nat × Nat → Nat × Nat
    | _, [], _, longest => longest
    | place, group :: rest, current, longest =>
        if group = 0 then
          let current := if current.2 = 0 then (place, 1) else (current.1, current.2 + 1)
          go (place + 1) rest current (if longest.2 < current.2 then current else longest)
        else go (place + 1) rest (0, 0) longest

def groupsText (groups : List UInt16) : List Char :=
  [':'].intercalate (groups.map fun group => hexText group.toNat)

def text (address : V6) : List Char :=
  match address.mapped? with
  | some inner => "::ffff:".toList ++ inner.text
  | none =>
      let groups := address.groups.toList
      let (start, length) := zeroRun groups
      if 1 < length then
        groupsText (groups.take start) ++ "::".toList ++ groupsText (groups.drop (start + length))
      else groupsText groups

end V6

namespace Ip

def text : Ip → List Char
  | .v4 address => address.text
  | .v6 address => address.text

def parse? (text : List Char) : Option Ip :=
  match V4.read text with
  | some (address, []) => some (.v4 address)
  | some _ => none
  | none =>
      match V6.read text with
      | some (address, []) => some (.v6 address)
      | _ => none

def version : Ip → Nat
  | .v4 _ => 4
  | .v6 _ => 6

end Ip

end HttpTunnel.Address
