import HttpTunnel.Base36
import Mathlib.Data.Nat.Digits.Lemmas

/-!
Base 36 against the numbers that the byte strings stand for. Each pass of the long division and
of the long multiplication is exact, though it works in bytes and words of 32 bits; so writing
gives the digits of the value, reading gives the shortest byte string of the value, and either
undoes the other.
-/

namespace HttpTunnel

theorem fold_digits (radix start : Nat) (places : List Nat) :
    places.foldl (fun value place => value * radix + place) start =
      start * radix ^ places.length + ofDigits radix places := by
  induction places generalizing start with
  | nil => simp [ofDigits]
  | cons place places induction =>
      rw [ofDigits, List.foldl_cons, List.foldl_cons, induction, induction (0 * radix + place),
        List.length_cons, Nat.pow_succ', Nat.zero_mul, Nat.zero_add, Nat.add_mul, Nat.mul_assoc,
        Nat.add_assoc]

theorem of_digits_cons (radix place : Nat) (places : List Nat) :
    ofDigits radix (place :: places) =
      place * radix ^ places.length + ofDigits radix places := by
  rw [ofDigits, List.foldl_cons, fold_digits, Nat.zero_mul, Nat.zero_add]

theorem of_digits_reversed (radix : Nat) (places : List Nat) :
    ofDigits radix places = Nat.ofDigits radix places.reverse := by
  induction places with
  | nil => rfl
  | cons place places induction =>
      rw [of_digits_cons, induction, List.reverse_cons, Nat.ofDigits_append, Nat.ofDigits_singleton,
        List.length_reverse, Nat.add_comm, Nat.mul_comm]

namespace Bytes

theorem big_endian_cons (byte : UInt8) (rest : Bytes) :
    bigEndian (byte :: rest) = byte.toNat * 256 ^ rest.length + bigEndian rest := by
  rw [bigEndian, List.map_cons, of_digits_cons, List.length_map]
  rfl

theorem big_endian_lt (bytes : Bytes) : bytes.bigEndian < 256 ^ bytes.length := by
  rw [bigEndian, of_digits_reversed]
  have bound := Nat.ofDigits_lt_base_pow_length (b := 256)
    (l := (bytes.map UInt8.toNat).reverse) (by decide) (by
      intro place member
      obtain ⟨byte, _, rfl⟩ := List.mem_map.mp (List.mem_reverse.mp member)
      exact byte.toNat_lt)
  rwa [List.length_reverse, List.length_map] at bound

theorem leading_iff (first : UInt8) (rest : Bytes) :
    first ≠ 0 ↔ 256 ^ rest.length ≤ bigEndian (first :: rest) := by
  rw [big_endian_cons]
  constructor
  · intro nonzero
    have positive : 0 < first.toNat := UInt8.lt_iff_toNat_lt.mp (UInt8.pos_iff_ne_zero.mpr nonzero)
    have larger := Nat.mul_le_mul_right (256 ^ rest.length) positive
    omega
  · rintro larger rfl
    have bound := big_endian_lt rest
    rw [UInt8.toNat_zero, Nat.zero_mul] at larger
    omega

/-- A byte string of a number without zeros in front, and with none at all for zero. -/
def Shortest (bytes : Bytes) : Prop := bytes.head? ≠ some 0

theorem shortest_unique (bytes other : Bytes) (short : bytes.Shortest) (shortToo : other.Shortest)
    (same : bytes.bigEndian = other.bigEndian) : bytes = other := by
  have digits : ∀ bytes : Bytes, bytes.Shortest →
      Nat.digits 256 bytes.bigEndian = (bytes.map UInt8.toNat).reverse := by
    intro bytes short
    rw [bigEndian, of_digits_reversed]
    refine Nat.digits_ofDigits 256 (by decide) _ ?_ ?_
    · intro place member
      obtain ⟨byte, _, rfl⟩ := List.mem_map.mp (List.mem_reverse.mp member)
      exact byte.toNat_lt
    · intro some zero
      cases bytes with
      | nil => exact some rfl
      | cons first rest =>
          rw [List.getLast_reverse] at zero
          exact short (congrArg Option.some (UInt8.toNat_inj.mp zero))
  have places := (digits bytes short).symm.trans (same ▸ digits other shortToo)
  exact List.map_injective_iff.mpr (fun _ _ => UInt8.toNat_inj.mp) (List.reverse_injective places)

end Bytes

namespace Base36

theorem strip_shortest (bytes : Bytes) : (strip bytes).Shortest := by
  induction bytes with
  | nil => simp [strip, Bytes.Shortest]
  | cons byte rest induction =>
      rw [strip, List.dropWhile_cons]
      split
      · exact induction
      · rename_i nonzero
        intro first
        exact nonzero (beq_iff_eq.mpr (Option.some.inj first))

section Digits

def IsDigit (byte : UInt8) : Prop := (48 ≤ byte ∧ byte ≤ 57) ∨ (97 ≤ byte ∧ byte ≤ 122)

def place (byte : UInt8) : Nat := if byte ≤ 57 then byte.toNat - 48 else byte.toNat - 87

/-- What a text over the digits stands for. -/
def value (text : Bytes) : Nat := ofDigits 36 (text.map place)

theorem digit_byte_place (number : Nat) (small : number < 36) :
    IsDigit (digitByte number) ∧ place (digitByte number) = number := by
  unfold IsDigit
  revert number
  decide

theorem digit_place (byte : UInt8) (digit : IsDigit byte) :
    place byte < 36 ∧ digitByte (place byte) = byte := by
  simp only [IsDigit, UInt8.le_iff_toNat_le, UInt8.reduceToNat] at digit
  have decimal : byte ≤ 57 ↔ byte.toNat ≤ 57 := UInt8.le_iff_toNat_le
  rw [place]
  split_ifs with low
  · rw [decimal] at low
    refine ⟨by omega, UInt8.toNat_inj.mp ?_⟩
    rw [digitByte, if_pos (by omega), UInt8.toNat_ofNat']
    omega
  · rw [decimal] at low
    refine ⟨by omega, UInt8.toNat_inj.mp ?_⟩
    rw [digitByte, if_neg (by omega), UInt8.toNat_ofNat']
    omega

theorem digit_value_some (byte : UInt8) (digit : IsDigit byte) :
    ∃ found, digitValue? byte = some found ∧ found.toNat = place byte := by
  rw [digitValue?, place]
  rcases digit with decimal | letter
  · refine ⟨byte - 48, if_pos decimal, ?_⟩
    rw [if_pos decimal.2, UInt8.toNat_sub_of_le _ _ decimal.1]
    rfl
  · have high : ¬byte ≤ 57 := by
      have lower := UInt8.le_iff_toNat_le.mp letter.1
      rw [UInt8.le_iff_toNat_le]
      simp only [UInt8.reduceToNat] at lower ⊢
      omega
    refine ⟨byte - 97 + 10, ?_, ?_⟩
    · rw [if_neg (fun decimal => high decimal.2), if_pos letter]
    · rw [if_neg high, UInt8.toNat_add, UInt8.toNat_sub_of_le _ _ letter.1]
      simp only [UInt8.le_iff_toNat_le, UInt8.reduceToNat] at letter ⊢
      omega

theorem digit_value_none (byte : UInt8) : digitValue? byte = none ↔ ¬IsDigit byte := by
  rw [digitValue?, IsDigit, not_or]
  split_ifs with decimal letter
  · simp [decimal]
  · simp [letter]
  · simp only [decimal, letter, not_false_eq_true, and_self]

end Digits

section Writing

/-- A pass over the bytes is a division: no bit is cut off from a quotient or a remainder. -/
theorem divide_value (remainder : UInt32) (bytes : Bytes) (small : remainder.toNat < 36) :
    36 * (divide remainder bytes).1.bigEndian + (divide remainder bytes).2.toNat =
        remainder.toNat * 256 ^ bytes.length + bytes.bigEndian ∧
      (divide remainder bytes).2.toNat < 36 := by
  induction bytes generalizing remainder with
  | nil => exact ⟨by simp [divide, Bytes.bigEndian, ofDigits], small⟩
  | cons byte rest induction =>
      have bound := byte.toNat_lt
      have value := dividend_value remainder byte small
      rw [divide]
      generalize (remainder <<< 8) ||| byte.toUInt32 = dividend at value ⊢
      have place := quotient_byte dividend (by omega)
      have left : (dividend % 36).toNat = dividend.toNat % 36 := UInt32.toNat_mod _ _
      obtain ⟨further, last⟩ := induction (dividend % 36) (by omega)
      refine ⟨?_, last⟩
      calc
        36 * Bytes.bigEndian ((dividend / 36).toUInt8 :: (divide (dividend % 36) rest).1) +
            (divide (dividend % 36) rest).2.toNat
        _ = 36 * (dividend.toNat / 36) * 256 ^ rest.length +
              (36 * (divide (dividend % 36) rest).1.bigEndian +
                (divide (dividend % 36) rest).2.toNat) := by
            rw [Bytes.big_endian_cons, divide_length, place, Nat.mul_add, Nat.mul_assoc,
              Nat.add_assoc]
        _ = (36 * (dividend.toNat / 36) + dividend.toNat % 36) * 256 ^ rest.length +
              Bytes.bigEndian rest := by
            rw [further, left, Nat.add_mul, Nat.add_assoc]
        _ = (256 * remainder.toNat + byte.toNat) * 256 ^ rest.length +
              Bytes.bigEndian rest := by
            rw [Nat.div_add_mod, value]
        _ = remainder.toNat * 256 ^ (byte :: rest).length + Bytes.bigEndian (byte :: rest) := by
            rw [Bytes.big_endian_cons, List.length_cons, Nat.pow_succ', Nat.add_mul,
              Nat.mul_comm 256, Nat.mul_assoc, Nat.add_assoc]

theorem strip_value (bytes : Bytes) : (strip bytes).bigEndian = bytes.bigEndian := by
  induction bytes with
  | nil => rfl
  | cons byte rest induction =>
      rw [strip, List.dropWhile_cons]
      split
      · rename_i zero
        rw [Bytes.big_endian_cons, eq_of_beq zero, UInt8.toNat_zero, Nat.zero_mul, Nat.zero_add]
        exact induction
      · rfl

theorem strip_positive (bytes : Bytes) (more : strip bytes ≠ []) : 0 < bytes.bigEndian := by
  induction bytes with
  | nil => exact absurd rfl more
  | cons byte rest induction =>
      rw [strip, List.dropWhile_cons] at more
      rw [Bytes.big_endian_cons]
      split at more
      · exact Nat.add_pos_right _ (induction more)
      · rename_i nonzero
        have positive : 0 < byte.toNat :=
          UInt8.lt_iff_toNat_lt.mp (UInt8.pos_iff_ne_zero.mpr fun zero => nonzero (by simp [zero]))
        exact Nat.add_pos_left (Nat.mul_pos positive (Nat.pow_pos (by decide))) _

theorem places_digits (number : Bytes) : places number = Nat.digits 36 number.bigEndian := by
  induction number using places.induct with
  | case1 number more smaller induction =>
      obtain ⟨whole, last⟩ := divide_value 0 (strip number) (by decide)
      rw [strip_value, UInt32.toNat_zero, Nat.zero_mul, Nat.zero_add, Nat.add_comm] at whole
      have positive := strip_positive number more
      have digits := Nat.digits_add 36 (by decide) (divide 0 (strip number)).2.toNat
        (divide 0 (strip number)).1.bigEndian last (by omega)
      rw [whole, ← induction] at digits
      rw [places, dif_pos more, digits]
  | case2 number none =>
      have zero : number.bigEndian = 0 := by
        rw [← strip_value, not_not.mp none]
        rfl
      rw [places, dif_neg none, zero, Nat.digits_zero]

variable (bytes : Bytes) (width : Nat)

theorem encode_length :
    (encode bytes width).length = max width (Nat.digits 36 bytes.bigEndian).length := by
  rw [encode, List.length_reverse, List.length_append, List.length_replicate, List.length_map,
    places_digits]
  omega

/-- The text is the digits of the value behind so many zeros. -/
theorem encode_places : (encode bytes width).map place =
    (Nat.digits 36 bytes.bigEndian ++
      List.replicate (width - (Nat.digits 36 bytes.bigEndian).length) 0).reverse := by
  have undone : ((places bytes).map digitByte).map place = places bytes := by
    rw [List.map_map]
    refine (List.map_congr_left fun number member => ?_).trans (List.map_id _)
    rw [places_digits] at member
    exact (digit_byte_place number (Nat.digits_lt_base (by decide) member)).2
  rw [encode, List.map_reverse, List.map_append, undone, List.map_replicate, List.length_map,
    places_digits]
  rfl

theorem encode_digits (byte : UInt8) (member : byte ∈ encode bytes width) : IsDigit byte := by
  rw [encode, List.mem_reverse, List.mem_append] at member
  rcases member with written | padding
  · obtain ⟨number, found, rfl⟩ := List.mem_map.mp written
    rw [places_digits] at found
    exact (digit_byte_place number (Nat.digits_lt_base (by decide) found)).1
  · rw [List.eq_of_mem_replicate padding]
    exact (digit_byte_place 0 (by decide)).1

theorem encode_value : value (encode bytes width) = bytes.bigEndian := by
  rw [value, encode_places, of_digits_reversed, List.reverse_reverse,
    Nat.ofDigits_append_replicate_zero, Nat.ofDigits_digits]

end Writing

section Reading

theorem multiply_length (digit : UInt32) (bytes : Bytes) :
    (multiply digit bytes).1.length = bytes.length := by
  induction bytes with
  | nil => rfl
  | cons byte rest induction => exact congrArg (· + 1) induction

/-- A pass over the bytes is a multiplication: what is cut off from a sum is the carry. -/
theorem multiply_value (digit : UInt32) (bytes : Bytes) (small : digit.toNat < 36) :
    (multiply digit bytes).2.toNat * 256 ^ bytes.length + (multiply digit bytes).1.bigEndian =
        36 * bytes.bigEndian + digit.toNat ∧
      (multiply digit bytes).2.toNat < 36 := by
  induction bytes with
  | nil => exact ⟨by simp [multiply, Bytes.bigEndian, ofDigits], small⟩
  | cons byte rest induction =>
      obtain ⟨further, carried⟩ := induction
      have bound := byte.toNat_lt
      have length := multiply_length digit rest
      rw [multiply]
      generalize multiply digit rest = passed at further carried length ⊢
      rcases passed with ⟨product, carry⟩
      dsimp only at further carried length ⊢
      have sum : (byte.toUInt32 * 36 + carry).toNat = 36 * byte.toNat + carry.toNat := by
        simp only [UInt32.toNat_add, UInt32.toNat_mul, UInt8.toNat_toUInt32, UInt32.reduceToNat]
        omega
      generalize byte.toUInt32 * 36 + carry = acc at sum ⊢
      have low : acc.toUInt8.toNat = acc.toNat % 256 := UInt32.toNat_toUInt8 _
      have high := shift_value acc
      refine ⟨?_, by omega⟩
      calc
        (acc >>> 8).toNat * 256 ^ (byte :: rest).length +
            Bytes.bigEndian (acc.toUInt8 :: product)
        _ = (256 * (acc.toNat / 256) + acc.toNat % 256) * 256 ^ rest.length +
              Bytes.bigEndian product := by
            rw [Bytes.big_endian_cons, low, high, length, List.length_cons]
            ring
        _ = 36 * byte.toNat * 256 ^ rest.length +
              (carry.toNat * 256 ^ rest.length + Bytes.bigEndian product) := by
            rw [Nat.div_add_mod, sum]
            ring
        _ = 36 * Bytes.bigEndian (byte :: rest) + digit.toNat := by
            rw [further, Bytes.big_endian_cons]
            ring

theorem spill_value (carry : UInt32) (number : Bytes) :
    (spill carry number).bigEndian = carry.toNat * 256 ^ number.length + number.bigEndian := by
  induction carry, number using spill.induct with
  | case1 carry number more smaller induction =>
      have low : carry.toUInt8.toNat = carry.toNat % 256 := UInt32.toNat_toUInt8 _
      rw [spill, dif_pos more, induction, shift_value, Bytes.big_endian_cons, low,
        List.length_cons]
      calc
        carry.toNat / 256 * 256 ^ (number.length + 1) +
            (carry.toNat % 256 * 256 ^ number.length + number.bigEndian)
        _ = (256 * (carry.toNat / 256) + carry.toNat % 256) * 256 ^ number.length +
              number.bigEndian := by ring
        _ = carry.toNat * 256 ^ number.length + number.bigEndian := by rw [Nat.div_add_mod]
  | case2 carry number none =>
      have zero : carry = 0 := UInt32.le_zero_iff.mp (UInt32.not_lt.mp none)
      rw [spill, dif_neg none, zero, UInt32.toNat_zero, Nat.zero_mul, Nat.zero_add]

theorem spill_shortest (carry : UInt32) (number : Bytes)
    (short : carry = 0 → number.Shortest) : (spill carry number).Shortest := by
  induction carry, number using spill.induct with
  | case1 carry number more smaller induction =>
      rw [spill, dif_pos more]
      refine induction fun last first => ?_
      have high := shift_value carry
      have low := UInt32.toNat_toUInt8 carry
      rw [Option.some.inj first] at low
      rw [last] at high
      rw [UInt32.lt_iff_toNat_lt] at more
      simp only [UInt32.toNat_zero, UInt8.toNat_zero] at more high low
      omega
  | case2 carry number none =>
      rw [spill, dif_neg none]
      exact short (UInt32.le_zero_iff.mp (UInt32.not_lt.mp none))

theorem push_digit_value (number : Bytes) (digit : UInt8) (small : digit.toNat < 36) :
    (pushDigit number digit).bigEndian = 36 * number.bigEndian + digit.toNat := by
  rw [pushDigit, spill_value, multiply_length]
  exact (multiply_value digit.toUInt32 number small).1

theorem push_digit_shortest (number : Bytes) (digit : UInt8) (small : digit.toNat < 36)
    (short : number.Shortest) : (pushDigit number digit).Shortest := by
  have whole := (multiply_value digit.toUInt32 number small).1
  have length := multiply_length digit.toUInt32 number
  refine spill_shortest _ _ fun none => ?_
  rw [none, UInt32.toNat_zero, Nat.zero_mul, Nat.zero_add] at whole
  -- Without a carry the product has as many bytes and at least the value of the number.
  generalize (multiply digit.toUInt32 number).1 = product at whole length ⊢
  cases number with
  | nil =>
      rw [List.length_eq_zero_iff.mp length]
      exact short
  | cons first rest =>
      cases product with
      | nil => cases length
      | cons high low =>
          have long := (Bytes.leading_iff first rest).mp fun zero => short (congrArg some zero)
          refine fun zero => (Bytes.leading_iff high low).mpr ?_ (Option.some.inj zero)
          rw [Nat.succ.inj length, whole]
          omega

theorem value_cons (byte : UInt8) (text : Bytes) :
    value (byte :: text) = place byte * 36 ^ text.length + value text := by
  rw [value, List.map_cons, of_digits_cons, List.length_map]
  rfl

theorem read_on_value (number text : Bytes) (digits : ∀ byte ∈ text, IsDigit byte)
    (short : number.Shortest) : ∃ found, readOn number text = some found ∧
      found.bigEndian = number.bigEndian * 36 ^ text.length + value text ∧ found.Shortest := by
  induction text generalizing number with
  | nil => exact ⟨number, rfl, by simp [value, ofDigits], short⟩
  | cons byte text induction =>
      have digit := digits byte (List.mem_cons_self ..)
      obtain ⟨read, is, means⟩ := digit_value_some byte digit
      have small : read.toNat < 36 := means ▸ (digit_place byte digit).1
      obtain ⟨found, whole, counts, shortest⟩ := induction (pushDigit number read)
        (fun byte member => digits byte (List.mem_cons_of_mem _ member))
        (push_digit_shortest number read small short)
      refine ⟨found, ?_, ?_, shortest⟩
      · rw [readOn, is]
        exact whole
      · rw [counts, push_digit_value number read small, value_cons, means, List.length_cons]
        ring

theorem read_on_none (number text : Bytes) :
    readOn number text = none ↔ ∃ byte ∈ text, ¬IsDigit byte := by
  induction text generalizing number with
  | nil => simp [readOn]
  | cons byte text induction =>
      rw [readOn, List.exists_mem_cons_iff]
      cases read : digitValue? byte with
      | none => simp [(digit_value_none byte).mp read]
      | some digit =>
          have known : IsDigit byte := by
            by_contra other
            rw [(digit_value_none byte).mpr other] at read
            cases read
          simp only [known, not_true_eq_false, false_or]
          exact induction (pushDigit number digit)

end Reading

theorem value_injective (text other : Bytes) (length : text.length = other.length)
    (digits : ∀ byte ∈ text, IsDigit byte) (digitsToo : ∀ byte ∈ other, IsDigit byte)
    (same : value text = value other) : text = other := by
  have small : ∀ text : Bytes, (∀ byte ∈ text, IsDigit byte) →
      ∀ number ∈ (text.map place).reverse, number < 36 := by
    intro text digits number member
    obtain ⟨byte, found, rfl⟩ := List.mem_map.mp (List.mem_reverse.mp member)
    exact (digit_place byte (digits byte found)).1
  have written : ∀ text : Bytes, (∀ byte ∈ text, IsDigit byte) →
      (text.map place).map digitByte = text := by
    intro text digits
    rw [List.map_map]
    exact (List.map_congr_left fun byte member =>
      (digit_place byte (digits byte member)).2).trans (List.map_id _)
  rw [value, value, of_digits_reversed, of_digits_reversed] at same
  have places := Nat.ofDigits_inj_of_len_eq (by decide) (by simp [length]) (small text digits)
    (small other digitsToo) same
  rw [← written text digits, List.reverse_injective places, written other digitsToo]

theorem decode_value (text : Bytes) (digits : ∀ byte ∈ text, IsDigit byte) :
    ∃ number, decode? text = some number ∧ number.bigEndian = value text ∧ number.Shortest := by
  obtain ⟨number, read, counts, short⟩ := read_on_value [] text digits nofun
  refine ⟨number, read, ?_, short⟩
  rw [counts]
  simp [Bytes.bigEndian, ofDigits]

theorem decode_none (text : Bytes) : decode? text = none ↔ ∃ byte ∈ text, ¬IsDigit byte :=
  read_on_none [] text

theorem decode_encode (bytes : Bytes) (width : Nat) :
    decode? (encode bytes width) = some (strip bytes) := by
  obtain ⟨number, read, counts, short⟩ :=
    decode_value (encode bytes width) (encode_digits bytes width)
  rw [encode_value, ← strip_value bytes] at counts
  rw [read, Bytes.shortest_unique number (strip bytes) short (strip_shortest bytes) counts]

theorem value_lt (text : Bytes) (digits : ∀ byte ∈ text, IsDigit byte) :
    value text < 36 ^ text.length := by
  induction text with
  | nil => simp [value, ofDigits]
  | cons byte text induction =>
      have small := (digit_place byte (digits byte (List.mem_cons_self ..))).1
      have rest := induction fun byte member => digits byte (List.mem_cons_of_mem _ member)
      have larger := Nat.mul_le_mul_right (36 ^ text.length) (Nat.succ_le_of_lt small)
      rw [value_cons, List.length_cons, Nat.pow_succ']
      rw [Nat.succ_mul] at larger
      omega

theorem encode_decode (text number : Bytes) (digits : ∀ byte ∈ text, IsDigit byte)
    (counts : number.bigEndian = value text) : encode number text.length = text := by
  have few : (Nat.digits 36 (value text)).length ≤ text.length :=
    (Nat.digits_length_le_iff (by decide) _).mpr (value_lt text digits)
  refine value_injective _ _ ?_ (encode_digits number _) digits ?_
  · rw [encode_length, counts, max_eq_left few]
  · rw [encode_value, counts]

/-- Writing gives the digits of the value, behind zeros if they are fewer than asked for, and
reading gives the shortest byte string of the value; either undoes the other, and only a byte that
is no digit stops a reader. Each pass over the bytes is exact, in bytes and words of 32 bits: a
division gives quotient and remainder, and a digit is put behind a number of any length. -/
theorem codec_exact :
    (∀ (bytes : Bytes) (width : Nat),
      (encode bytes width).length = max width (Nat.digits 36 bytes.bigEndian).length ∧
      (∀ byte ∈ encode bytes width, IsDigit byte) ∧
      value (encode bytes width) = bytes.bigEndian ∧
      decode? (encode bytes width) = some (bytes.dropWhile (· == 0))) ∧
    (∀ text : Bytes, (∀ byte ∈ text, IsDigit byte) →
      ∃ number, decode? text = some number ∧ number.bigEndian = value text ∧
        number.head? ≠ some 0 ∧ encode number text.length = text) ∧
    (∀ text : Bytes, decode? text = none ↔ ∃ byte ∈ text, ¬IsDigit byte) ∧
    (∀ (remainder : UInt32) (bytes : Bytes), remainder.toNat < 36 →
      36 * (divide remainder bytes).1.bigEndian + (divide remainder bytes).2.toNat =
          remainder.toNat * 256 ^ bytes.length + bytes.bigEndian ∧
        (divide remainder bytes).2.toNat < 36) ∧
    (∀ (number : Bytes) (digit : UInt8), digit.toNat < 36 →
      (pushDigit number digit).bigEndian = 36 * number.bigEndian + digit.toNat) := by
  refine ⟨fun bytes width => ?_, fun text digits => ?_, decode_none, divide_value,
    push_digit_value⟩
  · exact ⟨encode_length bytes width, encode_digits bytes width, encode_value bytes width,
      decode_encode bytes width⟩
  · obtain ⟨number, read, counts, short⟩ := decode_value text digits
    exact ⟨number, read, counts, short, encode_decode text number digits counts⟩

/-- `0074` is 256, in two bytes and padded to four digits. -/
theorem padded_text_reads_back :
    (∀ byte ∈ [48, 48, 55, 52], IsDigit byte) ∧
      decode? [48, 48, 55, 52] = some [1, 0] ∧ encode [1, 0] 4 = [48, 48, 55, 52] := by
  have digits : ∀ byte ∈ ([48, 48, 55, 52] : Bytes), IsDigit byte := by
    simp [IsDigit]
  obtain ⟨number, read, counts, short, back⟩ := codec_exact.2.1 [48, 48, 55, 52] digits
  have shortest : Bytes.Shortest [1, 0] := by simp [Bytes.Shortest]
  obtain rfl : number = [1, 0] :=
    Bytes.shortest_unique number [1, 0] short shortest (counts.trans rfl)
  exact ⟨digits, read, back⟩

end Base36

end HttpTunnel
