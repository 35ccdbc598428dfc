import HttpTunnel.Bytes

/-!
Base 36 over the digits `0-9a-z`: a byte string is read as one big-endian number
and written with at least a given number of digits. Reading accepts the lower
case alphabet only and returns the shortest byte string of the value. Both ways are
schoolbook arithmetic on the bytes; what is carried along is a word of 32 bits.
-/

namespace HttpTunnel.Base36

def digitByte (place : Nat) : UInt8 :=
  if place < 10 then UInt8.ofNat (48 + place) else UInt8.ofNat (87 + place)

def digitValue? (byte : UInt8) : Option UInt8 :=
  if 48 ≤ byte ∧ byte ≤ 57 then some (byte - 48)
  else if 97 ≤ byte ∧ byte ≤ 122 then some (byte - 97 + 10)
  else none

/-- Divides by 36 from the first byte on. The remainder so far goes in front of the next byte. -/
def divide (remainder : UInt32) : Bytes → Bytes × UInt32
  | [] => ([], remainder)
  | byte :: rest =>
      let dividend := (remainder <<< 8) ||| byte.toUInt32
      let (quotient, last) := divide (dividend % 36) rest
      ((dividend / 36).toUInt8 :: quotient, last)

theorem dividend_value (remainder : UInt32) (byte : UInt8) (small : remainder.toNat < 36) :
    ((remainder <<< 8) ||| byte.toUInt32).toNat = 256 * remainder.toNat + byte.toNat := by
  have shifted : (remainder <<< 8).toNat = 2 ^ 8 * remainder.toNat := by
    simp only [UInt32.toNat_shiftLeft, Nat.shiftLeft_eq, UInt32.reduceToNat, Nat.reduceMod,
      Nat.reducePow]
    omega
  rw [UInt32.toNat_or, shifted, UInt8.toNat_toUInt32, ← Nat.two_pow_add_eq_or_of_lt byte.toNat_lt]

/-- A quotient fits into a byte, if the remainder before it was one. -/
theorem quotient_byte (dividend : UInt32) (fits : dividend.toNat < 256 * 36) :
    (dividend / 36).toUInt8.toNat = dividend.toNat / 36 := by
  simp only [UInt32.toNat_toUInt8, UInt32.toNat_div, UInt32.reduceToNat]
  omega

theorem divide_length (remainder : UInt32) (bytes : Bytes) :
    (divide remainder bytes).1.length = bytes.length := by
  induction bytes generalizing remainder with
  | nil => rfl
  | cons byte rest induction => exact congrArg (· + 1) (induction _)

/-- The bytes of a number without the zeros in front. -/
def strip (bytes : Bytes) : Bytes := bytes.dropWhile (· == 0)

/-- What gets smaller with each division: the number of bytes, or else the first byte. -/
def weight : Bytes → Nat
  | [] => 0
  | first :: rest => 256 * rest.length + first.toNat

theorem weight_le (bytes : Bytes) : weight bytes ≤ 256 * bytes.length := by
  cases bytes with
  | nil => exact Nat.zero_le _
  | cons first rest =>
      have bound := first.toNat_lt
      rw [weight, List.length_cons]
      omega

theorem strip_weight (bytes : Bytes) : weight (strip bytes) ≤ weight bytes := by
  induction bytes with
  | nil => exact Nat.le_refl _
  | cons byte rest induction =>
      rw [strip, List.dropWhile_cons]
      split
      · exact Nat.le_trans induction (Nat.le_trans (weight_le rest) (Nat.le_add_right _ _))
      · exact Nat.le_refl _

theorem divide_smaller (bytes : Bytes) (more : strip bytes ≠ []) :
    weight (strip (divide 0 (strip bytes)).1) < weight (strip bytes) := by
  refine Nat.lt_of_le_of_lt (strip_weight _) ?_
  have nonzero : ((strip bytes).head more == 0) = false := List.head_dropWhile_not (· == 0) more
  generalize strip bytes = number at more nonzero
  cases number with
  | nil => exact absurd rfl more
  | cons first rest =>
      have positive : 0 < first.toNat :=
        UInt8.lt_iff_toNat_lt.mp (UInt8.pos_iff_ne_zero.mpr (beq_eq_false_iff_ne.mp nonzero))
      have bound := first.toNat_lt
      have value := dividend_value 0 first (by decide)
      rw [UInt32.toNat_zero] at value
      rw [divide, weight, weight, divide_length]
      generalize ((0 : UInt32) <<< 8) ||| first.toUInt32 = dividend at value ⊢
      rw [quotient_byte dividend (by omega)]
      omega

/-- The digits of a number, least significant first. Zero has none, however many bytes it has. -/
def places (number : Bytes) : List Nat :=
  if more : strip number ≠ [] then
    have _smaller := divide_smaller number more
    (divide 0 (strip number)).2.toNat :: places (divide 0 (strip number)).1
  else []
termination_by weight (strip number)

/-- The digits of the value, padded on the left with `0` up to `width`. -/
def encode (bytes : Bytes) (width : Nat) : Bytes :=
  let written := (places bytes).map digitByte
  (written ++ List.replicate (width - written.length) (digitByte 0)).reverse

/-- Multiplies by 36 from the last byte on and adds a digit; what does not fit into a byte is
carried to the one before. -/
def multiply (digit : UInt32) : Bytes → Bytes × UInt32
  | [] => ([], digit)
  | byte :: rest =>
      let (product, carry) := multiply digit rest
      let sum := byte.toUInt32 * 36 + carry
      (sum.toUInt8 :: product, sum >>> 8)

theorem shift_value (carry : UInt32) : (carry >>> 8).toNat = carry.toNat / 256 := by
  rw [UInt32.toNat_shiftRight, Nat.shiftRight_eq_div_pow]
  rfl

theorem shift_smaller (carry : UInt32) (more : 0 < carry) : (carry >>> 8).toNat < carry.toNat := by
  rw [shift_value]
  exact Nat.div_lt_self (UInt32.lt_iff_toNat_lt.mp more) (by decide)

/-- Puts a carry in front, in as many bytes as it takes. -/
def spill (carry : UInt32) (number : Bytes) : Bytes :=
  if more : 0 < carry then
    have _smaller := shift_smaller carry more
    spill (carry >>> 8) (carry.toUInt8 :: number)
  else number
termination_by carry.toNat

def pushDigit (number : Bytes) (digit : UInt8) : Bytes :=
  let (product, carry) := multiply digit.toUInt32 number
  spill carry product

/-- Reads digits behind a number that has been read. -/
def readOn (number : Bytes) : Bytes → Option Bytes
  | [] => some number
  | byte :: rest => do
      let digit ← digitValue? byte
      readOn (pushDigit number digit) rest

def decode? (text : Bytes) : Option Bytes := readOn [] text

end HttpTunnel.Base36
