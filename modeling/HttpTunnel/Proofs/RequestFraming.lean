import HttpTunnel.Proofs.KeyGrammar
import HttpTunnel.Proofs.ReplyFraming

/-!
Which bodies are requests to tunnels. A body is read just if it is the encoding of a legitimate
key, a serial and a payload, and there is only one way to read it.
-/

namespace HttpTunnel

namespace Bytes

theorem little_endian_lt (bytes : Bytes) : littleEndian bytes < 256 ^ bytes.length := by
  induction bytes with
  | nil => exact Nat.one_pos
  | cons byte rest induction =>
      have small : byte.toNat < 256 := byte.toNat_lt
      rw [littleEndian, List.length_cons, Nat.pow_succ']
      omega

theorem of_little_endian_of_bytes (bytes : Bytes) :
    ofLittleEndian bytes.length (littleEndian bytes) = bytes := by
  induction bytes with
  | nil => rfl
  | cons byte rest induction =>
      have small : byte.toNat < 256 := byte.toNat_lt
      have front : UInt8.ofNat (byte.toNat + 256 * littleEndian rest) = byte := by
        apply UInt8.toNat_inj.mp
        rw [UInt8.toNat_ofNat']
        omega
      have back : (byte.toNat + 256 * littleEndian rest) / 256 = littleEndian rest := by omega
      rw [littleEndian, List.length_cons, ofLittleEndian, front, back, induction]

end Bytes

theorem serial_bytes_of_serial (bytes : Bytes) (long : bytes.length = serialLength) :
    serialBytes (serialOfBytes bytes) = bytes := by
  have small : bytes.littleEndian < UInt64.size := by
    have below := bytes.little_endian_lt
    rwa [long] at below
  rw [serialBytes, serialOfBytes, UInt64.toNat_ofNat_of_lt' small, ← long,
    Bytes.of_little_endian_of_bytes]

namespace Key

/-- A key that spells a nonce, an authentication key and their tag. -/
def Legitimate (key : Key) : Prop := ∃ nonce authKey, Fits nonce authKey ∧ key = mint nonce authKey

variable {key : Key}

theorem Legitimate.long (legitimate : key.Legitimate) : key.text.length = length := by
  obtain ⟨nonce, authKey, fits, rfl⟩ := legitimate
  exact mint_length Hmac.tag_length fits

theorem Legitimate.front (legitimate : key.Legitimate) (rest : Bytes) :
    (key.text ++ rest).take length = key.text :=
  List.take_left' legitimate.long

theorem parse_legitimate (bytes : Bytes) (key : Key) :
    parse? bytes = some key ↔ key.Legitimate ∧ bytes.take length = key.text := by
  rw [parse?, parse_iff Hmac.tag_length]
  constructor
  · rintro ⟨text, nonce, authKey, fits, spelt⟩
    have same : key.text = (mint nonce authKey).text := text.trans spelt
    exact ⟨⟨nonce, authKey, fits, congrArg Key.mk same⟩, text.symm⟩
  · rintro ⟨⟨nonce, authKey, fits, rfl⟩, front⟩
    exact ⟨front.symm, nonce, authKey, fits, front⟩

theorem parse_none (bytes : Bytes) : parse? bytes = none ↔
    ∀ key : Key, key.Legitimate → bytes.take length ≠ key.text := by
  constructor
  · intro unread key legitimate front
    rw [(parse_legitimate bytes key).mpr ⟨legitimate, front⟩] at unread
    cases unread
  · intro foreign
    apply Option.eq_none_iff_forall_ne_some.mpr
    intro key read
    obtain ⟨legitimate, front⟩ := (parse_legitimate bytes key).mp read
    exact foreign key legitimate front

end Key

namespace Request

variable {key : Key}

theorem encode_length (legitimate : key.Legitimate) (serial : UInt64) (payload : Bytes) :
    (encode key serial payload).length = requestHeaderLength + payload.length := by
  rw [encode, List.length_append, List.length_append, legitimate.long, serial_bytes_length,
    requestHeaderLength]

theorem encode_front (legitimate : key.Legitimate) (serial : UInt64) (payload : Bytes) :
    (encode key serial payload).take Key.length = key.text := by
  rw [encode, List.append_assoc]
  exact legitimate.front _

theorem parse_encode (legitimate : key.Legitimate) (serial : UInt64) (payload : Bytes) :
    parse? (encode key serial payload) = some ⟨key, serial.toInt64, payload⟩ := by
  have long : ¬ (encode key serial payload).length < requestHeaderLength := by
    rw [encode_length legitimate]
    omega
  have read : Key.parse? (encode key serial payload) = some key :=
    (Key.parse_legitimate _ key).mpr ⟨legitimate, encode_front legitimate serial payload⟩
  have behind : (encode key serial payload).drop Key.length = serialBytes serial ++ payload := by
    rw [encode, List.append_assoc, List.drop_left' legitimate.long]
  have split : Bytes.split? serialLength (serialBytes serial ++ payload) =
      some (serialBytes serial, payload) := by
    rw [← serial_bytes_length serial]
    exact Bytes.split_append _ _
  rw [parse?, if_neg long, read, behind]
  simp only [Option.bind_eq_bind, Option.bind_some, split, serial_of_serial_bytes]

/-- A body that is long enough and begins with a legitimate key is an encoding. -/
theorem encode_parts (body : Bytes) (front : body.take Key.length = key.text)
    (long : requestHeaderLength ≤ body.length) :
    encode key (serialOfBytes ((body.drop Key.length).take serialLength))
      (body.drop requestHeaderLength) = body := by
  have word : ((body.drop Key.length).take serialLength).length = serialLength := by
    rw [List.length_take, List.length_drop]
    rw [requestHeaderLength] at long
    omega
  rw [encode, serial_bytes_of_serial _ word, ← front, requestHeaderLength, ← List.drop_drop,
    List.append_assoc, List.take_append_drop, List.take_append_drop]

/-- A body is read just if it is the encoding of what is read, under a legitimate key. -/
theorem parse_iff (body : Bytes) (request : Request) : parse? body = some request ↔
    request.key.Legitimate ∧
      body = encode request.key request.serial.toUInt64 request.payload := by
  constructor
  · intro parsed
    have long : requestHeaderLength ≤ body.length := by
      by_contra short
      rw [parse?, if_pos (Nat.lt_of_not_le short)] at parsed
      cases parsed
    cases read : Key.parse? body with
    | none =>
        rw [parse?, if_neg (Nat.not_lt.mpr long), read] at parsed
        cases parsed
    | some key =>
        obtain ⟨legitimate, front⟩ := (Key.parse_legitimate body key).mp read
        have whole := encode_parts body front long
        have known := parse_encode legitimate
          (serialOfBytes ((body.drop Key.length).take serialLength)) (body.drop requestHeaderLength)
        rw [whole, parsed] at known
        cases known
        refine ⟨legitimate, ?_⟩
        rw [UInt64.toUInt64_toInt64]
        exact whole.symm
  · rintro ⟨legitimate, rfl⟩
    rw [parse_encode legitimate, Int64.toInt64_toUInt64]

theorem parse_front {body : Bytes} {request : Request} (parsed : parse? body = some request) :
    requestHeaderLength ≤ body.length ∧ Key.parse? body = some request.key := by
  obtain ⟨legitimate, rfl⟩ := (parse_iff body request).mp parsed
  constructor
  · rw [encode_length legitimate]
    exact Nat.le_add_right _ _
  · exact (Key.parse_legitimate _ _).mpr ⟨legitimate, encode_front legitimate _ _⟩

theorem parse_none (legitimate : key.Legitimate) (body : Bytes)
    (front : body.take Key.length = key.text) :
    parse? body = none ↔ body.length < requestHeaderLength := by
  constructor
  · intro unread
    by_contra long
    rw [← encode_parts body front (Nat.le_of_not_lt long), parse_encode legitimate] at unread
    cases unread
  · intro short
    rw [parse?, if_pos short]

end Request

end HttpTunnel
