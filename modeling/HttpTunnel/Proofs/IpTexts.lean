import HttpTunnel.Proofs.AddressNumerals

/-!
IP addresses read back from their texts. The text of an address is one of the many that stand for
it, and the reader takes it as a whole wherever nothing behind it could belong to an address.
-/

namespace HttpTunnel.Address

section Expect

variable {char : Char} {text rest : List Char}

@[simp] theorem expect_self (char : Char) (rest : List Char) :
    expect char (char :: rest) = some rest := if_pos rfl

theorem expect_other (other : text.head? ≠ some char) : expect char text = none := by
  cases text with
  | nil => rfl
  | cons first rest =>
      rw [expect, if_neg]
      rintro rfl
      exact other rfl

theorem expect_came (came : expect char text = some rest) : text = char :: rest := by
  cases text with
  | nil => cases came
  | cons first behind =>
      rw [expect] at came
      split_ifs at came with same
      rw [same, Option.some.inj came]

end Expect

namespace V4

theorem read_text (address : V4) (rest : List Char) (stops : Stops decimalValue? rest) :
    read (address.text ++ rest) = some (address, rest) := by
  have dot : ∀ behind, Stops decimalValue? ('.' :: behind) :=
    fun behind => stops_cons '.' behind rfl
  simp only [read, text, List.append_assoc, List.cons_append]
  simp only [read_octet_text _ _ (dot _), read_octet_text _ _ stops, expect_self,
    Option.bind_eq_bind, Option.bind_some]

theorem read_stops (rest : List Char) (stops : Stops decimalValue? rest) : read rest = none := by
  simp only [read, read_octet_stops rest stops, Option.bind_eq_bind, Option.bind_none]

/-- No address begins with something undotted that is followed by neither a digit nor a dot. -/
theorem read_undotted (text rest : List Char) (dotless : '.' ∉ text)
    (undotted : rest.head? ≠ some '.') (stops : Stops decimalValue? rest) :
    read (text ++ rest) = none := by
  cases first : readOctet (text ++ rest) with
  | none => simp only [read, first, Option.bind_eq_bind, Option.bind_none]
  | some result =>
      rcases result with ⟨octet, behind⟩
      obtain ⟨used, whole, decimals, _⟩ := read_octet_local behind _ octet first
      have ahead : behind.head? ≠ some '.' := by
        intro dotted
        obtain ⟨more, rfl⟩ := List.head?_eq_some_iff.mp dotted
        -- The dot stands in the text or behind it, and both have been excluded.
        rcases List.append_eq_append_iff.mp whole with ⟨beyond, same, left⟩ | ⟨left, same, beyond⟩
        · cases beyond with
          | nil => exact undotted (left ▸ rfl)
          | cons char beyond =>
              have digit := decimals char (by simp [same])
              rw [stops char (left ▸ rfl)] at digit
              cases digit
        · cases left with
          | nil => exact undotted (List.nil_append rest ▸ beyond ▸ rfl)
          | cons char left =>
              obtain ⟨rfl, _⟩ := List.cons.inj beyond
              exact dotless (by simp [same])
      simp only [read, first, expect_other ahead, Option.bind_eq_bind, Option.bind_some,
        Option.bind_none]

/-- What an address was read from consists of digits and dots, and reads the same with anything
else behind it. -/
theorem read_local (text rest : List Char) (address : V4)
    (came : read text = some (address, rest)) :
    ∃ used, text = used ++ rest ∧
      (∀ char ∈ used, char = '.' ∨ (decimalValue? char).isSome) ∧
      ∀ other, Stops decimalValue? other → read (used ++ other) = some (address, other) := by
  simp only [read, Option.bind_eq_bind, Option.bind_eq_some_iff] at came
  obtain ⟨⟨first, _⟩, one, _, dot, ⟨second, _⟩, two, _, dotToo, ⟨third, _⟩, three, _, lastDot,
    ⟨fourth, _⟩, four, same⟩ := came
  cases same
  obtain ⟨usedFirst, rfl, decimalsFirst, _, againFirst⟩ := read_octet_local _ _ _ one
  obtain rfl := expect_came dot
  obtain ⟨usedSecond, rfl, decimalsSecond, _, againSecond⟩ := read_octet_local _ _ _ two
  obtain rfl := expect_came dotToo
  obtain ⟨usedThird, rfl, decimalsThird, _, againThird⟩ := read_octet_local _ _ _ three
  obtain rfl := expect_came lastDot
  obtain ⟨usedFourth, rfl, decimalsFourth, _, againFourth⟩ := read_octet_local _ _ _ four
  refine ⟨usedFirst ++ '.' :: (usedSecond ++ '.' :: (usedThird ++ '.' :: usedFourth)), ?_, ?_, ?_⟩
  · simp only [List.append_assoc, List.cons_append]
  · intro char member
    simp only [List.mem_append, List.mem_cons] at member
    rcases member with inside | rfl | inside | rfl | inside | rfl | inside
    · exact .inr (decimalsFirst char inside)
    · exact .inl rfl
    · exact .inr (decimalsSecond char inside)
    · exact .inl rfl
    · exact .inr (decimalsThird char inside)
    · exact .inl rfl
    · exact .inr (decimalsFourth char inside)
  · intro other stops
    have dot : ∀ behind, Stops decimalValue? ('.' :: behind) :=
      fun behind => stops_cons '.' behind rfl
    simp only [read, List.append_assoc, List.cons_append, againFirst _ (dot _),
      againSecond _ (dot _), againThird _ (dot _), againFourth _ stops, expect_self,
      Option.bind_eq_bind, Option.bind_some]

theorem text_some (address : V4) : address.text ≠ [] := by
  rw [text]
  simp

end V4

namespace V6

section Groups

variable {rest : List Char}

/-- Nothing that stands in front could go on with an address: no digit, no dot, and no digit behind
a colon. -/
structure Ends (rest : List Char) : Prop where
  stops : Stops hexValue? rest
  undotted : rest.head? ≠ some '.'
  colon : ∀ further, expect ':' rest = some further → Stops hexValue? further

theorem Stops.decimal (stops : Stops hexValue? rest) : Stops decimalValue? rest :=
  fun char leads => decimal_none_of_hex char (stops char leads)

theorem ends_double_colon (rest : List Char) : Ends (':' :: ':' :: rest) := by
  refine ⟨stops_cons ':' _ rfl, by simp, ?_⟩
  intro further came
  rw [expect_self] at came
  rw [← Option.some.inj came]
  exact stops_cons ':' _ rfl

theorem ends_bracket (rest : List Char) : Ends (']' :: rest) := by
  refine ⟨stops_cons ']' _ rfl, by simp, ?_⟩
  intro further came
  cases expect_came came

theorem read_groups_end (room : Nat) (first : Bool) (ends : Ends rest) :
    readGroups room first rest = ([], false, rest) := by
  cases room with
  | zero => rfl
  | succ room =>
      have nothing : ∀ text, Stops hexValue? text → V4.read text = none ∧ readGroup text = none :=
        fun text stops => ⟨V4.read_stops text (Stops.decimal stops), read_group_stops text stops⟩
      cases first with
      | true =>
          obtain ⟨undotted, missing⟩ := nothing rest ends.stops
          simp [readGroups, undotted, missing]
      | false =>
          cases came : expect ':' rest with
          | none => simp [readGroups, came]
          | some further =>
              obtain ⟨undotted, missing⟩ := nothing further (ends.colon further came)
              simp [readGroups, came, undotted, missing]

/-- One group is read, and no version 4 address in its place. -/
theorem read_groups_step (room : Nat) (first : Bool) (text tail : List Char) (group : UInt16)
    (starts : (if first then some text else expect ':' text) =
      some (hexText group.toNat ++ tail))
    (stops : Stops hexValue? tail) (undotted : tail.head? ≠ some '.') :
    readGroups (room + 1) first text =
      (group :: (readGroups room false tail).1, (readGroups room false tail).2) := by
  have dotless : '.' ∉ hexText group.toNat := not_digit (hex_text_reads group.toNat) '.' rfl
  have embedded : (if room = 0 then none else V4.read (hexText group.toNat ++ tail)) = none := by
    split_ifs
    · rfl
    · exact V4.read_undotted _ tail dotless undotted (Stops.decimal stops)
  simp only [readGroups, starts, embedded, Option.bind_some, read_group_text tail group stops]

/-- The groups behind the first, each behind a colon. -/
def furtherText (groups : List UInt16) : List Char :=
  groups.flatMap fun group => ':' :: hexText group.toNat

theorem groups_text_cons (group : UInt16) (groups : List UInt16) :
    groupsText (group :: groups) = hexText group.toNat ++ furtherText groups := by
  induction groups generalizing group with
  | nil => simp [groupsText, furtherText]
  | cons next groups induction =>
      have more : groupsText (group :: next :: groups) =
          hexText group.toNat ++ ':' :: groupsText (next :: groups) := by
        simp [groupsText]
      rw [more, induction]
      rfl

theorem further_text_ahead (groups : List UInt16) (ends : Ends rest) :
    Stops hexValue? (furtherText groups ++ rest) ∧
      (furtherText groups ++ rest).head? ≠ some '.' := by
  cases groups with
  | nil => exact ⟨ends.stops, ends.undotted⟩
  | cons group groups => exact ⟨stops_cons ':' _ rfl, by simp [furtherText]⟩

theorem read_further_text (room : Nat) (groups : List UInt16) (ends : Ends rest)
    (fits : groups.length ≤ room) :
    readGroups room false (furtherText groups ++ rest) = (groups, false, rest) := by
  induction groups generalizing room with
  | nil => exact read_groups_end room false ends
  | cons group groups induction =>
      obtain ⟨room, rfl⟩ : ∃ less, room = less + 1 := ⟨room - 1, by simp at fits; omega⟩
      obtain ⟨stops, undotted⟩ := further_text_ahead groups ends
      rw [read_groups_step room false _ (furtherText groups ++ rest) group
        (by simp [furtherText]) stops undotted, induction room (by simpa using fits)]

theorem read_groups_text (room : Nat) (groups : List UInt16) (ends : Ends rest)
    (fits : groups.length ≤ room) :
    readGroups room true (groupsText groups ++ rest) = (groups, false, rest) := by
  cases groups with
  | nil => exact read_groups_end room true ends
  | cons group groups =>
      obtain ⟨room, rfl⟩ : ∃ less, room = less + 1 := ⟨room - 1, by simp at fits; omega⟩
      obtain ⟨stops, undotted⟩ := further_text_ahead groups ends
      rw [read_groups_step room true _ (furtherText groups ++ rest) group
        (by simp [groups_text_cons]) stops undotted,
        read_further_text room groups ends (by simpa using fits)]

end Groups

section Zeros

/-- So many groups from a place on are zero. -/
def HasZeros (groups : List UInt16) (run : Nat × Nat) : Prop :=
  ∃ front back, groups = front ++ List.replicate run.2 0 ++ back ∧ front.length = run.1

theorem HasZeros.more {groups : List UInt16} {run : Nat × Nat} (zeros : HasZeros groups run)
    (further : List UInt16) : HasZeros (groups ++ further) run := by
  obtain ⟨front, back, rfl, place⟩ := zeros
  exact ⟨front, back ++ further, by simp only [List.append_assoc], place⟩

def EndsInZeros (groups : List UInt16) (run : Nat × Nat) : Prop :=
  ∃ front, groups = front ++ List.replicate run.2 0 ∧ front.length = run.1

theorem EndsInZeros.zeros {groups : List UInt16} {run : Nat × Nat}
    (ending : EndsInZeros groups run) : HasZeros groups run := by
  obtain ⟨front, rfl, place⟩ := ending
  exact ⟨front, [], (List.append_nil _).symm, place⟩

theorem ends_in_more_zeros (groups : List UInt16) (current : Nat × Nat)
    (ending : current.2 ≠ 0 → EndsInZeros groups current) :
    EndsInZeros (groups ++ [0])
      (if current.2 = 0 then (groups.length, 1) else (current.1, current.2 + 1)) := by
  split_ifs with fresh
  · exact ⟨groups, rfl, rfl⟩
  · obtain ⟨front, whole, place⟩ := ending fresh
    refine ⟨front, ?_, place⟩
    rw [List.replicate_succ', ← List.append_assoc, ← whole]

theorem zero_run_go (rest seen : List UInt16) (current longest : Nat × Nat)
    (ending : current.2 ≠ 0 → EndsInZeros seen current) (zeros : HasZeros seen longest) :
    HasZeros (seen ++ rest) (zeroRun.go seen.length rest current longest) := by
  induction rest generalizing seen current longest with
  | nil =>
      rw [List.append_nil]
      exact zeros
  | cons group rest induction =>
      have place : seen.length + 1 = (seen ++ [group]).length := by simp
      have whole : seen ++ group :: rest = (seen ++ [group]) ++ rest := by simp
      rw [zeroRun.go, whole, place]
      by_cases zero : group = 0
      · subst zero
        have grown := ends_in_more_zeros seen current ending
        rw [if_pos rfl]
        generalize (if current.2 = 0 then (seen.length, 1) else (current.1, current.2 + 1)) =
          lengthened at grown ⊢
        apply induction _ _ _ (fun _ => grown)
        split_ifs
        · exact grown.zeros
        · exact zeros.more [0]
      · rw [if_neg zero]
        exact induction _ _ _ (fun some => absurd rfl some) (zeros.more [group])

theorem zero_run_zeros (groups : List UInt16) : HasZeros groups (zeroRun groups) :=
  zero_run_go groups [] (0, 0) (0, 0) (fun some => absurd rfl some) ⟨[], [], rfl, rfl⟩

end Zeros

section Texts

variable {rest : List Char}

theorem of_groups_self (address : V6) : ofGroups? address.groups.toList = some address := by
  have eight : address.groups.toList.length = 8 := address.groups.length_toList
  rw [ofGroups?, dif_pos eight]
  rfl

theorem read_full (address : V6) (text : List Char) (dotted : Bool)
    (groups : readGroups 8 true text = (address.groups.toList, dotted, rest)) :
    read text = some (address, rest) := by
  have eight : address.groups.toList.length = 8 := address.groups.length_toList
  simp [read, groups, eight, of_groups_self]

theorem read_gapped (address : V6) (text inside : List Char) (front back : List UInt16)
    (dotted : Bool)
    (before : readGroups 8 true text = (front, false, ':' :: ':' :: inside))
    (short : front.length ≠ 8)
    (behind : readGroups (7 - front.length) true inside = (back, dotted, rest))
    (whole : address.groups.toList =
      front ++ List.replicate (8 - front.length - back.length) 0 ++ back) :
    read text = some (address, rest) := by
  have built := of_groups_self address
  rw [whole] at built
  simp only [read, before, if_neg short, expect_self, behind, built, Option.bind_eq_bind,
    Option.bind_some, Bool.false_eq_true, if_false]
  rfl

theorem mapped_groups (address : V6) (inner : V4) (mapped : address.mapped? = some inner) :
    address.groups.toList = [0, 0, 0, 0, 0, 0xffff, inner.highGroup, inner.lowGroup] := by
  unfold mapped? at mapped
  split at mapped
  · rename_i high low same
    cases mapped
    have highBound := high.toNat_lt
    have lowBound := low.toNat_lt
    have join : ∀ group : UInt16,
        UInt16.ofNat ((UInt8.ofNat (group.toNat / 256)).toNat * 256 +
          (UInt8.ofNat group.toNat).toNat) = group := by
      intro group
      have bound := group.toNat_lt
      rw [UInt8.toNat_ofNat', UInt8.toNat_ofNat', ← UInt16.ofNat_toNat (x := group)]
      congr 1
      rw [UInt16.ofNat_toNat]
      omega
    rw [same, V4.highGroup, V4.lowGroup, join, join]
  · cases mapped

theorem read_mapped (address : V6) (inner : V4) (mapped : address.mapped? = some inner)
    (ends : Ends rest) :
    read ("::ffff:".toList ++ inner.text ++ rest) = some (address, rest) := by
  have dots := V4.read_text inner rest (Stops.decimal ends.stops)
  have written : hexText (0xffff : UInt16).toNat = "ffff".toList := by
    rw [hex_text_numeral]
    norm_num [numeral]
    decide
  have last : readGroups 6 false (':' :: (inner.text ++ rest)) =
      ([inner.highGroup, inner.lowGroup], true, rest) := by
    simp [readGroups, dots]
  have inside : readGroups 7 true (hexText (0xffff : UInt16).toNat ++
      ':' :: (inner.text ++ rest)) =
      ([0xffff, inner.highGroup, inner.lowGroup], true, rest) := by
    rw [read_groups_step 6 true _ (':' :: (inner.text ++ rest)) 0xffff rfl
      (stops_cons ':' _ rfl) (by simp), last]
  rw [written] at inside
  have before := read_groups_end 8 true
    (ends_double_colon ("ffff".toList ++ ':' :: (inner.text ++ rest)))
  have whole := mapped_groups address inner mapped
  rw [List.append_assoc]
  exact read_gapped address _ _ [] _ true before (by decide) inside whole

theorem read_text (address : V6) (ends : Ends rest) :
    read (address.text ++ rest) = some (address, rest) := by
  unfold text
  split
  · rename_i inner mapped
    exact read_mapped address inner mapped ends
  · have eight : address.groups.toList.length = 8 := address.groups.length_toList
    obtain ⟨front, back, whole, place⟩ := zero_run_zeros address.groups.toList
    rcases run : zeroRun address.groups.toList with ⟨start, length⟩
    rw [run] at whole place
    simp only [run]
    split_ifs with long
    · have total : front.length + length + back.length = 8 := by
        rw [← eight, whole]
        simp only [List.length_append, List.length_replicate]
      have taken : address.groups.toList.take start = front := by
        rw [whole, List.append_assoc]
        exact List.take_left' place
      have dropped : address.groups.toList.drop (start + length) = back := by
        rw [whole]
        apply List.drop_left'
        rw [List.length_append, List.length_replicate, place]
      rw [taken, dropped]
      have before := read_groups_text 8 front (ends_double_colon (groupsText back ++ rest))
        (by omega)
      have behind := read_groups_text (7 - front.length) back ends (by omega)
      have gap : 8 - front.length - back.length = length := by omega
      apply read_gapped address _ _ front back false _ (by omega) behind (by rw [gap]; exact whole)
      simpa [List.append_assoc] using before
    · exact read_full address _ false (read_groups_text 8 _ ends (Nat.le_of_eq eight))

theorem read_stuck (text : List Char) (stops : Stops hexValue? text)
    (colonless : ∀ further, expect ':' text = some further → expect ':' further = none) :
    read text = none := by
  have nothing : readGroups 8 true text = ([], false, text) := by
    simp [readGroups, V4.read_stops _ (Stops.decimal stops), read_group_stops _ stops]
  cases came : expect ':' text with
  | none => simp [read, nothing, came]
  | some further => simp [read, nothing, came, colonless further came]

theorem text_some (address : V6) : address.text ≠ [] := by
  intro none
  have came := read_text address (ends_bracket [])
  rw [none, List.nil_append, read_stuck _ (stops_cons ']' [] rfl) nofun] at came
  cases came

end Texts

end V6

end HttpTunnel.Address
