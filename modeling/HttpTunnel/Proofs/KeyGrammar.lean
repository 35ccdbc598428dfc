import HttpTunnel.Key
import HttpTunnel.Proofs.Base36Codec

/-!
Which texts are keys. The marker in front makes the number of every blob just so large that it
takes 149 digits in base 36, never fewer and never more, so nothing is padded and a blob can be
spelt in one way only. The tag may be any function of its two arguments that gives 32 bytes, as
HMAC over SHA-256 does.
-/

namespace HttpTunnel.Key

/-- A nonce and an authentication key of the right size. -/
structure Fits (nonce authKey : Bytes) : Prop where
  nonce : nonce.length = partLength
  authKey : authKey.length = partLength

def Sized (tag : Bytes → Bytes → Bytes) : Prop :=
  ∀ authKey message, (tag authKey message).length = partLength

section Blob

variable {tag : Bytes → Bytes → Bytes} {nonce authKey : Bytes}

theorem blob_length (sized : Sized tag) (fits : Fits nonce authKey) :
    (blob tag nonce authKey).length = blobLength := by
  rw [blob, List.length_cons, List.length_append, List.length_append, fits.nonce, fits.authKey,
    sized]
  rfl

/-- The marker is the leading digit of the blob in base 256. -/
theorem blob_range (sized : Sized tag) (fits : Fits nonce authKey) :
    256 ^ 96 ≤ (blob tag nonce authKey).bigEndian ∧
      (blob tag nonce authKey).bigEndian < 2 * 256 ^ 96 := by
  have length : (nonce ++ authKey ++ tag authKey nonce).length = 96 :=
    Nat.succ.inj (blob_length sized fits)
  have below := Bytes.big_endian_lt (nonce ++ authKey ++ tag authKey nonce)
  have one : marker.toNat = 1 := rfl
  rw [blob, Bytes.big_endian_cons, one, Nat.one_mul, length]
  rw [length] at below
  omega

theorem blob_digits (sized : Sized tag) (fits : Fits nonce authKey) :
    (Nat.digits 36 (blob tag nonce authKey).bigEndian).length = length := by
  obtain ⟨lower, upper⟩ := blob_range sized fits
  have few : 2 * 256 ^ 96 ≤ 36 ^ length := by
    rw [length]
    norm_num
  have many : 36 ^ (length - 1) ≤ 256 ^ 96 := by
    rw [length]
    norm_num
  have atMost := (Nat.digits_length_le_iff (by decide) _).mpr (Nat.lt_of_lt_of_le upper few)
  have atLeast := (Nat.lt_digits_length_iff (by decide) _).mpr (Nat.le_trans many lower)
  rw [length] at atMost atLeast ⊢
  omega

theorem blob_injective {other otherKey : Bytes} (sized : Sized tag) (fits : Fits nonce authKey)
    (fitsToo : Fits other otherKey) (same : blob tag nonce authKey = blob tag other otherKey) :
    nonce = other ∧ authKey = otherKey := by
  have parts := List.append_inj_left' (List.cons.inj same).2
    ((sized _ _).trans (sized _ _).symm)
  exact List.append_inj parts (fits.nonce.trans fitsToo.nonce.symm)

theorem verifies_iff (sized : Sized tag) (decoded : Bytes) : verifies tag decoded = true ↔
    ∃ nonce authKey, Fits nonce authKey ∧ decoded = blob tag nonce authKey := by
  constructor
  · intro verified
    cases decoded with
    | nil => cases verified
    | cons first parts =>
        simp only [verifies, Bool.and_eq_true, beq_iff_eq] at verified
        obtain ⟨⟨long, rfl⟩, claimed⟩ := verified
        have length : parts.length = 3 * partLength := by
          rw [blobLength] at long
          omega
        refine ⟨parts.take partLength, (parts.drop partLength).take partLength, ⟨?_, ?_⟩, ?_⟩
        · rw [List.length_take, length]
          rfl
        · rw [List.length_take, List.length_drop, length]
          rfl
        · rw [blob, ← claimed, Nat.two_mul, ← List.drop_drop, List.append_assoc,
            List.take_append_drop, List.take_append_drop]
  · rintro ⟨nonce, authKey, fits, rfl⟩
    have long := blob_length sized fits
    rw [blob, List.length_cons] at long
    have front : (nonce ++ authKey ++ tag authKey nonce).take partLength = nonce := by
      rw [List.append_assoc, List.take_left' fits.nonce]
    have middle : ((nonce ++ authKey ++ tag authKey nonce).drop partLength).take partLength =
        authKey := by
      rw [List.append_assoc, List.drop_left' fits.nonce, List.take_left' fits.authKey]
    have back : (nonce ++ authKey ++ tag authKey nonce).drop (2 * partLength) =
        tag authKey nonce := by
      refine List.drop_left' ?_
      rw [List.length_append, fits.nonce, fits.authKey]
      rfl
    simp only [verifies, blob, front, middle, back, long, beq_self_eq_true, Bool.and_self]

end Blob

section Texts

variable {tag : Bytes → Bytes → Bytes} {nonce authKey : Bytes}

theorem mint_length (sized : Sized tag) (fits : Fits nonce authKey) :
    (mintWith tag nonce authKey).text.length = length := by
  rw [mintWith, Base36.encode_length, blob_digits sized fits, max_self]

theorem mint_unpadded (sized : Sized tag) (fits : Fits nonce authKey) :
    (mintWith tag nonce authKey).text = Base36.encode (blob tag nonce authKey) 0 := by
  refine Base36.value_injective _ _ ?_ (Base36.encode_digits _ _) (Base36.encode_digits _ _) ?_
  · rw [mint_length sized fits, Base36.encode_length, blob_digits sized fits, Nat.zero_max]
  · rw [mintWith, Base36.encode_value, Base36.encode_value]

theorem mint_decodes (tag : Bytes → Bytes → Bytes) (nonce authKey : Bytes) :
    Base36.decode? (mintWith tag nonce authKey).text = some (blob tag nonce authKey) := by
  have unpadded : Base36.strip (blob tag nonce authKey) = blob tag nonce authKey := rfl
  rw [mintWith, Base36.decode_encode, unpadded]

theorem mint_injective {other otherKey : Bytes} (sized : Sized tag) (fits : Fits nonce authKey)
    (fitsToo : Fits other otherKey)
    (same : mintWith tag nonce authKey = mintWith tag other otherKey) :
    nonce = other ∧ authKey = otherKey := by
  have blobs := mint_decodes tag nonce authKey
  rw [same, mint_decodes] at blobs
  exact blob_injective sized fits fitsToo (Option.some.inj blobs).symm

/-- No other text of as many digits spells the same blob. -/
theorem spelt_once (text : Bytes) (long : text.length = length)
    (decoded : Base36.decode? text = some (blob tag nonce authKey)) :
    text = (mintWith tag nonce authKey).text := by
  have digits : ∀ byte ∈ text, Base36.IsDigit byte := by
    intro byte member
    by_contra other
    rw [(Base36.decode_none text).mpr ⟨byte, member, other⟩] at decoded
    cases decoded
  obtain ⟨number, read, counts, _⟩ := Base36.decode_value text digits
  rw [decoded] at read
  rw [← Option.some.inj read] at counts
  rw [mintWith, ← long, Base36.encode_decode text _ digits counts]

theorem parse_steps (bytes : Bytes) (key : Key) : parseWith? tag bytes = some key ↔
    length ≤ bytes.length ∧ key.text = bytes.take length ∧
      ∃ decoded, Base36.decode? (bytes.take length) = some decoded ∧
        verifies tag decoded = true := by
  rw [parseWith?, Bytes.split?]
  split_ifs with long
  · cases read : Base36.decode? (bytes.take length) with
    | none => simp [read]
    | some decoded =>
        cases verified : verifies tag decoded with
        | false => simp [read, verified]
        | true =>
            have whole : (some (⟨bytes.take length⟩ : Key) = some key) ↔
                key.text = bytes.take length := by
              rw [Option.some.injEq, Key.mk.injEq, eq_comm]
            simpa [read, verified, long] using whole
  · simp [long]

/-- A text is accepted just if it begins with the spelling of a blob that carries its own tag. -/
theorem parse_iff (sized : Sized tag) (bytes : Bytes) (key : Key) :
    parseWith? tag bytes = some key ↔
      key.text = bytes.take length ∧ ∃ nonce authKey, Fits nonce authKey ∧
        bytes.take length = (mintWith tag nonce authKey).text := by
  rw [parse_steps]
  constructor
  · rintro ⟨long, text, decoded, read, verified⟩
    obtain ⟨nonce, authKey, fits, rfl⟩ := (verifies_iff sized decoded).mp verified
    have front : (bytes.take length).length = length := by
      rw [List.length_take, Nat.min_eq_left long]
    exact ⟨text, nonce, authKey, fits, spelt_once (bytes.take length) front read⟩
  · rintro ⟨text, nonce, authKey, fits, spelt⟩
    have front : (bytes.take length).length = length := by
      rw [spelt, mint_length sized fits]
    refine ⟨?_, text, blob tag nonce authKey, ?_, ?_⟩
    · rw [List.length_take] at front
      omega
    · rw [spelt, mint_decodes]
    · exact (verifies_iff sized _).mpr ⟨nonce, authKey, fits, rfl⟩

theorem mint_parses (sized : Sized tag) (fits : Fits nonce authKey) (rest : Bytes) :
    parseWith? tag ((mintWith tag nonce authKey).text ++ rest) =
      some (mintWith tag nonce authKey) := by
  have front : ((mintWith tag nonce authKey).text ++ rest).take length =
      (mintWith tag nonce authKey).text := List.take_left' (mint_length sized fits)
  exact (parse_iff sized _ _).mpr ⟨front.symm, nonce, authKey, fits, front⟩

end Texts

/-- Every nonce and authentication key of 32 bytes give a key of 149 digits, without padding, that
spells their blob and is read back from the front of any byte string that it begins. What is read
is the first 149 bytes, and they are read just if they are the text of such a blob. Different
nonces or authentication keys give different keys, and the text of a blob is the only one. All this
holds with any tag of 32 bytes in the place of the one that is used. -/
theorem key_grammar (tag : Bytes → Bytes → Bytes)
    (sized : ∀ authKey message, (tag authKey message).length = 32) :
    (∀ nonce authKey : Bytes, nonce.length = 32 → authKey.length = 32 →
      (mintWith tag nonce authKey).text.length = 149 ∧
      (∀ byte ∈ (mintWith tag nonce authKey).text, Base36.IsDigit byte) ∧
      (mintWith tag nonce authKey).text = Base36.encode (blob tag nonce authKey) 0 ∧
      Base36.decode? (mintWith tag nonce authKey).text = some (blob tag nonce authKey) ∧
      (∀ rest, parseWith? tag ((mintWith tag nonce authKey).text ++ rest) =
        some (mintWith tag nonce authKey)) ∧
      (∀ other otherKey : Bytes, other.length = 32 → otherKey.length = 32 →
        mintWith tag nonce authKey = mintWith tag other otherKey →
          nonce = other ∧ authKey = otherKey) ∧
      (∀ text : Bytes, text.length = 149 → Base36.decode? text = some (blob tag nonce authKey) →
        text = (mintWith tag nonce authKey).text)) ∧
    (∀ (bytes : Bytes) (key : Key), parseWith? tag bytes = some key ↔
      key.text = bytes.take 149 ∧ ∃ nonce authKey : Bytes, nonce.length = 32 ∧ authKey.length = 32 ∧
        bytes.take 149 = Base36.encode (1 :: (nonce ++ authKey ++ tag authKey nonce)) 149) := by
  constructor
  · intro nonce authKey nonceLong authKeyLong
    have fits : Fits nonce authKey := ⟨nonceLong, authKeyLong⟩
    refine ⟨mint_length sized fits, Base36.encode_digits _ _, mint_unpadded sized fits,
      mint_decodes tag nonce authKey, mint_parses sized fits, ?_, fun text => spelt_once text⟩
    intro other otherKey otherLong otherKeyLong same
    exact mint_injective sized fits ⟨otherLong, otherKeyLong⟩ same
  · intro bytes key
    rw [parse_iff sized]
    constructor
    · rintro ⟨text, nonce, authKey, fits, spelt⟩
      exact ⟨text, nonce, authKey, fits.nonce, fits.authKey, spelt⟩
    · rintro ⟨text, nonce, authKey, nonceLong, authKeyLong, spelt⟩
      exact ⟨text, nonce, authKey, ⟨nonceLong, authKeyLong⟩, spelt⟩

/-- The keys that are in use: the nonce is all zeros, and more bytes stand behind the key. -/
theorem zero_key_parses :
    (∀ authKey message, (Hmac.tag authKey message).length = 32) ∧
      (List.replicate 32 (0 : UInt8)).length = 32 ∧ (List.replicate 32 (255 : UInt8)).length = 32 ∧
      parse? ((mint (List.replicate 32 0) (List.replicate 32 255)).text ++ [7, 8, 9]) =
        some (mint (List.replicate 32 0) (List.replicate 32 255)) := by
  have nonceLong : (List.replicate 32 (0 : UInt8)).length = 32 := rfl
  have authKeyLong : (List.replicate 32 (255 : UInt8)).length = 32 := rfl
  have grammar := (key_grammar Hmac.tag Hmac.tag_length).1 _ _ nonceLong authKeyLong
  exact ⟨Hmac.tag_length, nonceLong, authKeyLong, grammar.2.2.2.2.1 [7, 8, 9]⟩

end HttpTunnel.Key
