import HttpTunnel.Address.Endpoint
import HttpTunnel.Proofs.Base36Codec

/-!
Numerals inside addresses, written and read back. A written numeral has no zero in front unless it
is zero, and a reader takes it as a whole as long as no further digit stands behind it.
-/

namespace HttpTunnel

theorem digits_standard (radix value : Nat) (radixLarge : 2 ≤ radix) :
    digits radix value = Nat.digits radix value := by
  induction value using Nat.strong_induction_on with
  | h value induction =>
      rw [digits]
      split_ifs with more
      · have positive := Nat.pos_of_ne_zero more.2
        rw [Nat.digits_def' radixLarge positive,
          induction _ (Nat.div_lt_self positive radixLarge)]
      · have zero : value = 0 := by omega
        rw [zero, Nat.digits_zero]

namespace Address

/-- The digits that a number is written with, the most significant first. -/
def numeral (radix value : Nat) : List Nat :=
  if value = 0 then [0] else (Nat.digits radix value).reverse

section Numeral

variable {radix : Nat} (radixLarge : 2 ≤ radix) (value : Nat)

theorem numeral_some : numeral radix value ≠ [] := by
  unfold numeral
  split_ifs with zero
  · exact List.cons_ne_nil _ _
  · rw [ne_eq, List.reverse_eq_nil_iff, Nat.digits_eq_nil_iff_eq_zero]
    exact zero

theorem numeral_leading (more : 1 < (numeral radix value).length) :
    (numeral radix value).head? ≠ some 0 := by
  unfold numeral at more ⊢
  split_ifs at more ⊢ with zero
  · simp at more
  · intro leading
    rw [List.head?_reverse, List.getLast?_eq_some_getLast
      (Nat.digits_ne_nil_iff_ne_zero.mpr zero)] at leading
    exact Nat.getLast_digit_ne_zero radix zero (Option.some.inj leading)

include radixLarge

theorem numeral_places (place : Nat) (member : place ∈ numeral radix value) : place < radix := by
  unfold numeral at member
  split_ifs at member
  · rw [List.mem_singleton.mp member]
    omega
  · exact Nat.digits_lt_base radixLarge (List.mem_reverse.mp member)

omit radixLarge in
theorem of_digits_numeral : ofDigits radix (numeral radix value) = value := by
  unfold numeral
  split_ifs with zero
  · rw [zero, of_digits_reversed]
    exact Nat.ofDigits_singleton
  · rw [of_digits_reversed, List.reverse_reverse, Nat.ofDigits_digits]

theorem numeral_length (width : Nat) (some : 0 < width) (fits : value < radix ^ width) :
    (numeral radix value).length ≤ width := by
  unfold numeral
  split_ifs
  · exact some
  · rw [List.length_reverse]
    exact (Nat.digits_length_le_iff radixLarge value).mpr fits

/-- However the digits are drawn, as long as zero is drawn as it is. -/
theorem drawn_numeral (draw : Nat → Char) (zeroDrawn : draw 0 = '0') :
    (match (digits radix value).reverse with
      | [] => ['0']
      | places => places.map draw) = (numeral radix value).map draw := by
  unfold numeral
  rw [digits_standard radix value radixLarge]
  split_ifs with zero
  · rw [zero, Nat.digits_zero, List.map_singleton, zeroDrawn]
    rfl
  · have nonempty := Nat.digits_ne_nil_iff_ne_zero (b := radix).mpr zero
    split
    · rename_i none
      exact absurd (List.reverse_eq_nil_iff.mp none) nonempty
    · rfl

end Numeral

section Digits

def decimalChar (place : Nat) : Char := Char.ofNat (48 + place)

def hexChar (place : Nat) : Char := Char.ofNat (if place < 10 then 48 + place else 87 + place)

theorem decimal_char_value (place : Nat) (small : place < 10) :
    decimalValue? (decimalChar place) = some place := by
  have all : ∀ place : Fin 10, decimalValue? (decimalChar place) = some place.val := by decide
  exact all ⟨place, small⟩

theorem hex_char_value (place : Nat) (small : place < 16) :
    hexValue? (hexChar place) = some place := by
  have all : ∀ place : Fin 16, hexValue? (hexChar place) = some place.val := by decide
  exact all ⟨place, small⟩

theorem decimal_none_of_hex (char : Char) (other : hexValue? char = none) :
    decimalValue? char = none := by
  unfold hexValue? at other
  unfold decimalValue?
  split_ifs at other ⊢
  rfl

theorem decimal_text_numeral (value : Nat) :
    decimalText value = (numeral 10 value).map decimalChar :=
  drawn_numeral (by decide) value decimalChar rfl

theorem hex_text_numeral (value : Nat) : hexText value = (numeral 16 value).map hexChar :=
  drawn_numeral (by decide) value hexChar rfl

theorem decimal_text_reads (value : Nat) :
    (decimalText value).map decimalValue? = (numeral 10 value).map some := by
  rw [decimal_text_numeral, List.map_map]
  apply List.map_congr_left
  intro place member
  exact decimal_char_value place (numeral_places (by decide) value place member)

theorem hex_text_reads (value : Nat) :
    (hexText value).map hexValue? = (numeral 16 value).map some := by
  rw [hex_text_numeral, List.map_map]
  apply List.map_congr_left
  intro place member
  exact hex_char_value place (numeral_places (by decide) value place member)

theorem not_digit {value? : Char → Option Nat} {text : List Char} {places : List Nat}
    (reads : text.map value? = places.map some) (char : Char) (other : value? char = none) :
    char ∉ text := by
  intro member
  have among : value? char ∈ places.map some := reads ▸ List.mem_map_of_mem member
  obtain ⟨place, _, same⟩ := List.mem_map.mp among
  rw [other] at same
  cases same

end Digits

section Runs

variable {value? : Char → Option Nat}

/-- No digit stands in front. -/
def Stops (value? : Char → Option Nat) (rest : List Char) : Prop :=
  ∀ char ∈ rest.head?, value? char = none

theorem stops_nil : Stops value? [] := nofun

theorem stops_cons (char : Char) (rest : List Char) (other : value? char = none) :
    Stops value? (char :: rest) := by
  intro first leads
  cases leads
  exact other

theorem digit_run_whole (text rest : List Char) (places : List Nat)
    (reads : text.map value? = places.map some) (stops : Stops value? rest) :
    digitRun value? (text ++ rest) = (places, rest) := by
  induction text generalizing places with
  | nil =>
      obtain rfl : places = [] := List.map_eq_nil_iff.mp reads.symm
      cases rest with
      | nil => rfl
      | cons char rest => simp only [List.nil_append, digitRun, stops char rfl]
  | cons char text induction =>
      cases places with
      | nil => cases reads
      | cons place places =>
          obtain ⟨first, others⟩ := List.cons.inj reads
          simp only [List.cons_append, digitRun, first, induction places others]

/-- Whatever the text, the run is what its digits stand for. -/
theorem digit_run_splits (text behind : List Char) (places : List Nat)
    (run : digitRun value? text = (places, behind)) :
    ∃ used, text = used ++ behind ∧ used.map value? = places.map some ∧ Stops value? behind := by
  induction text generalizing places with
  | nil =>
      cases run
      exact ⟨[], rfl, rfl, stops_nil⟩
  | cons char text induction =>
      cases first : value? char with
      | none =>
          simp only [digitRun, first] at run
          cases run
          exact ⟨[], rfl, rfl, stops_cons char text first⟩
      | some place =>
          simp only [digitRun, first] at run
          cases run
          obtain ⟨used, whole, reads, stops⟩ := induction _ rfl
          refine ⟨char :: used, congrArg (char :: ·) whole, ?_, stops⟩
          rw [List.map_cons, List.map_cons, first, reads]

end Runs

section Readers

variable (rest : List Char)

theorem read_octet_text (octet : UInt8) (stops : Stops decimalValue? rest) :
    readOctet (decimalText octet.toNat ++ rest) = some (octet, rest) := by
  have bound := octet.toNat_lt
  have short : (numeral 10 octet.toNat).length ≤ 3 :=
    numeral_length (by decide) octet.toNat 3 (by decide) (by omega)
  have run := digit_run_whole _ rest _ (decimal_text_reads octet.toNat) stops
  unfold readOctet
  simp only [run, of_digits_numeral]
  rw [if_neg, UInt8.ofNat_toNat]
  rintro (none | long | ⟨leading, more⟩ | large)
  · exact numeral_some _ none
  · omega
  · exact numeral_leading _ more leading
  · omega

theorem read_group_text (group : UInt16) (stops : Stops hexValue? rest) :
    readGroup (hexText group.toNat ++ rest) = some (group, rest) := by
  have bound := group.toNat_lt
  have short : (numeral 16 group.toNat).length ≤ 4 :=
    numeral_length (by decide) group.toNat 4 (by decide) (by omega)
  have run := digit_run_whole _ rest _ (hex_text_reads group.toNat) stops
  unfold readGroup
  simp only [run, of_digits_numeral]
  rw [if_neg, UInt16.ofNat_toNat]
  rintro (none | long)
  · exact numeral_some _ none
  · omega

theorem read_bounded_text (largest value : Nat) (fits : value ≤ largest)
    (stops : Stops decimalValue? rest) :
    readBounded largest (decimalText value ++ rest) = some (value, rest) := by
  have run := digit_run_whole _ rest _ (decimal_text_reads value) stops
  unfold readBounded
  simp only [run, of_digits_numeral]
  rw [if_neg]
  rintro (none | large)
  · exact numeral_some _ none
  · omega

theorem read_octet_stops (stops : Stops decimalValue? rest) : readOctet rest = none := by
  have run := digit_run_whole [] rest [] rfl stops
  unfold readOctet
  rw [List.nil_append] at run
  simp [run]

theorem read_group_stops (stops : Stops hexValue? rest) : readGroup rest = none := by
  have run := digit_run_whole [] rest [] rfl stops
  unfold readGroup
  rw [List.nil_append] at run
  simp [run]

/-- What an octet was read from consists of digits, and reads the same with anything else behind
it. -/
theorem read_octet_local (text : List Char) (octet : UInt8)
    (read : readOctet text = some (octet, rest)) :
    ∃ used, text = used ++ rest ∧ (∀ char ∈ used, (decimalValue? char).isSome) ∧
      Stops decimalValue? rest ∧
      ∀ other, Stops decimalValue? other → readOctet (used ++ other) = some (octet, other) := by
  unfold readOctet at read
  rcases run : digitRun decimalValue? text with ⟨places, behind⟩
  simp only [run] at read
  split_ifs at read with bad
  cases read
  obtain ⟨used, whole, reads, stops⟩ := digit_run_splits text _ _ run
  refine ⟨used, whole, ?_, stops, ?_⟩
  · intro char member
    by_contra none
    exact not_digit reads char (Option.not_isSome_iff_eq_none.mp none) member
  · intro other stopsToo
    unfold readOctet
    simp only [digit_run_whole used other places reads stopsToo]
    exact if_neg bad

theorem read_bounded_digits (largest value : Nat) (text : List Char)
    (read : readBounded largest text = some (value, rest)) :
    ∃ used, text = used ++ rest ∧ ∀ char ∈ used, (decimalValue? char).isSome := by
  unfold readBounded at read
  rcases run : digitRun decimalValue? text with ⟨places, behind⟩
  simp only [run] at read
  split_ifs at read with bad
  cases read
  obtain ⟨used, whole, reads, _⟩ := digit_run_splits text _ _ run
  refine ⟨used, whole, ?_⟩
  intro char member
  by_contra none
  exact not_digit reads char (Option.not_isSome_iff_eq_none.mp none) member

end Readers

section Ports

theorem bounded_value_places (largest start : Nat) (text : List Char) (places : List Nat)
    (reads : text.map decimalValue? = places.map some)
    (fits : start * 10 ^ places.length + ofDigits 10 places ≤ largest) :
    boundedValue largest start text = .ok (start * 10 ^ places.length + ofDigits 10 places) := by
  induction text generalizing start places with
  | nil =>
      obtain rfl : places = [] := List.map_eq_nil_iff.mp reads.symm
      simp [boundedValue, ofDigits]
  | cons char text induction =>
      cases places with
      | nil => cases reads
      | cons place places =>
          obtain ⟨first, others⟩ := List.cons.inj reads
          have grown : start * 10 ^ (place :: places).length + ofDigits 10 (place :: places) =
              (start * 10 + place) * 10 ^ places.length + ofDigits 10 places := by
            rw [of_digits_cons, List.length_cons, Nat.pow_succ']
            ring
          rw [grown] at fits ⊢
          have least : start * 10 + place ≤ (start * 10 + place) * 10 ^ places.length :=
            Nat.le_mul_of_pos_right _ (by positivity)
          simp only [boundedValue, first]
          rw [if_neg (by omega)]
          exact induction _ _ others fits

theorem parse_port_text (port : UInt16) : parsePort (decimalText port.toNat) = .ok port := by
  have bound := port.toNat_lt
  have reads := decimal_text_reads port.toNat
  have unsigned : parseUnsigned 65535 (decimalText port.toNat) =
      boundedValue 65535 0 (decimalText port.toNat) := by
    have plain : '+' ∉ decimalText port.toNat := not_digit reads '+' rfl
    generalize decimalText port.toNat = text at plain reads
    unfold parseUnsigned
    split
    · exact absurd (List.map_eq_nil_iff.mp reads.symm) (numeral_some _)
    · simp at plain
    · simp at plain
    · rfl
  have value := bounded_value_places 65535 0 _ _ reads (by rw [of_digits_numeral]; omega)
  rw [Nat.zero_mul, Nat.zero_add, of_digits_numeral] at value
  rw [parsePort, unsigned, value, Except.map, UInt16.ofNat_toNat]

end Ports

end Address

end HttpTunnel
