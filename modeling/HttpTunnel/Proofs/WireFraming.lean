import HttpTunnel.Proofs.RequestFraming

/-!
The frames of requests and responses, on both ends. The end that writes a body and the end that
reads it agree: what is written is read back, and what is read was written so. The layout of a
frame is said here byte by byte, apart from the functions that write and read it.
-/

namespace HttpTunnel

/-- A body with something in front, the eight bytes of a serial, least significant first, and a
payload up to its end. -/
structure Framed (front : Bytes) (serial : UInt64) (payload body : Bytes) : Prop where
  begins : body.take front.length = front
  word : ∀ place < 8,
    (body[front.length + place]?).map UInt8.toNat = some (serial.toNat / 256 ^ place % 256)
  ends : body.drop (front.length + 8) = payload

namespace Bytes

theorem of_little_endian_place (width value place : Nat) (within : place < width) :
    ((ofLittleEndian width value)[place]?).map UInt8.toNat = some (value / 256 ^ place % 256) := by
  induction width generalizing value place with
  | zero => exact absurd within (Nat.not_lt_zero _)
  | succ width induction =>
      cases place with
      | zero => simp [ofLittleEndian]
      | succ place =>
          rw [ofLittleEndian, List.getElem?_cons_succ, induction _ _ (by omega),
            Nat.div_div_eq_div_mul, Nat.pow_succ']

end Bytes

theorem serial_framed (front : Bytes) (serial : UInt64) (payload : Bytes) :
    Framed front serial payload (front ++ serialBytes serial ++ payload) := by
  have long : (serialBytes serial).length = 8 := serial_bytes_length serial
  constructor
  · rw [List.append_assoc, List.take_left]
  · intro place within
    rw [List.append_assoc, List.getElem?_append_right (Nat.le_add_right _ _),
      Nat.add_sub_cancel_left, List.getElem?_append_left (by omega)]
    exact Bytes.of_little_endian_place 8 serial.toNat place within
  · have whole : (front ++ serialBytes serial).length = front.length + 8 := by
      rw [List.length_append, long]
    exact List.drop_left' whole

namespace Reply

theorem decode_heartbeat : decode [] = .ok heartbeat := rfl

theorem decode_encode (reply : Reply) :
    decode reply.encode = .ok (if reply.serial = none then heartbeat else reply) := by
  rcases reply with ⟨serial, payload⟩
  cases serial with
  | none => rfl
  | some serial => exact decode_data serial payload

theorem decode_long (body : Bytes) (long : serialLength ≤ body.length) :
    decode body = .ok ⟨some (serialOfBytes (body.take serialLength)), body.drop serialLength⟩ := by
  have present : body ≠ [] := by
    rintro rfl
    exact absurd long (by decide)
  rw [decode, if_neg present, Bytes.split?, if_pos long]

theorem decode_short (body : Bytes) (present : body ≠ []) (short : body.length < serialLength) :
    decode body = .error body.length := by
  rw [decode, if_neg present, Bytes.split?, if_neg (Nat.not_le.mpr short)]

/-- A body is refused just if it is neither empty nor long enough for a serial. -/
theorem decode_refuses (body : Bytes) (length : Nat) :
    decode body = .error length ↔ body.length = length ∧ 1 ≤ length ∧ length ≤ 7 := by
  by_cases empty : body = []
  · subst empty
    constructor
    · intro refused
      cases refused
    · rintro ⟨rfl, positive, _⟩
      cases positive
  · have positive : 1 ≤ body.length := List.length_pos_iff.mpr empty
    by_cases long : serialLength ≤ body.length
    · have beyond : 8 ≤ body.length := long
      rw [decode_long body long]
      constructor
      · intro refused
        cases refused
      · rintro ⟨rfl, _, few⟩
        omega
    · have few : body.length < 8 := Nat.lt_of_not_le long
      rw [decode_short body empty few, Except.error.injEq]
      constructor
      · rintro rfl
        exact ⟨rfl, positive, by omega⟩
      · exact And.left

theorem encode_decode (body : Bytes) (reply : Reply) (read : decode body = .ok reply) :
    reply.encode = body := by
  by_cases empty : body = []
  · rw [empty, decode_heartbeat] at read
    cases read
    exact empty.symm
  · by_cases long : serialLength ≤ body.length
    · rw [decode_long body long] at read
      cases read
      have word : (body.take serialLength).length = serialLength := List.length_take_of_le long
      show serialBytes (serialOfBytes (body.take serialLength)) ++ body.drop serialLength = body
      rw [serial_bytes_of_serial _ word, List.take_append_drop]
    · rw [decode_short body empty (Nat.lt_of_not_le long)] at read
      cases read

end Reply

/-- A request is laid out as its key, its serial and its payload, and with a legitimate key it is
read back, with the serial as a signed word; what is read as a request is what that request is
written as. A reply with a serial is laid out as the serial and the payload and read back as it
is, every other reply is an empty body and read as a heartbeat. Bodies of one to seven bytes are
the ones that are refused as replies, with their length, and any other body is what the reply read
from it is written as. -/
theorem frames_read_back :
    (∀ key : Key, key.Legitimate → ∀ (serial : UInt64) (payload : Bytes),
      key.text.length = 149 ∧ Framed key.text serial payload (Request.encode key serial payload) ∧
      Request.parse? (Request.encode key serial payload) = some ⟨key, serial.toInt64, payload⟩) ∧
    (∀ (body : Bytes) (request : Request), Request.parse? body = some request →
      request.key.Legitimate ∧
      Request.encode request.key request.serial.toUInt64 request.payload = body) ∧
    (∀ (serial : UInt64) (payload : Bytes),
      Framed [] serial payload (Reply.encode ⟨some serial, payload⟩) ∧
      Reply.decode (Reply.encode ⟨some serial, payload⟩) = .ok ⟨some serial, payload⟩) ∧
    (∀ payload : Bytes, Reply.encode ⟨none, payload⟩ = [] ∧
      Reply.decode (Reply.encode ⟨none, payload⟩) = .ok .heartbeat) ∧
    (∀ (body : Bytes) (length : Nat), Reply.decode body = .error length ↔
      body.length = length ∧ 1 ≤ length ∧ length ≤ 7) ∧
    (∀ (body : Bytes) (reply : Reply), Reply.decode body = .ok reply → reply.encode = body) := by
  refine ⟨?_, ?_, ?_, fun payload => ⟨rfl, Reply.decode_encode ⟨none, payload⟩⟩,
    Reply.decode_refuses, Reply.encode_decode⟩
  · intro key legitimate serial payload
    exact ⟨legitimate.long, serial_framed key.text serial payload,
      Request.parse_encode legitimate serial payload⟩
  · intro body request parsed
    obtain ⟨legitimate, written⟩ := (Request.parse_iff body request).mp parsed
    exact ⟨legitimate, written.symm⟩
  · intro serial payload
    exact ⟨serial_framed [] serial payload, Reply.decode_encode ⟨some serial, payload⟩⟩

/-- The greatest serial is read as minus one. -/
theorem greatest_serial_reads_back :
    (Key.mint (List.replicate 32 0) (List.replicate 32 255)).Legitimate ∧
      Request.parse? (Request.encode (Key.mint (List.replicate 32 0) (List.replicate 32 255))
          18446744073709551615 [104, 105]) =
        some ⟨Key.mint (List.replicate 32 0) (List.replicate 32 255), -1, [104, 105]⟩ := by
  have legitimate : (Key.mint (List.replicate 32 0) (List.replicate 32 255)).Legitimate :=
    ⟨List.replicate 32 0, List.replicate 32 255, ⟨rfl, rfl⟩, rfl⟩
  exact ⟨legitimate, (frames_read_back.1 _ legitimate 18446744073709551615 [104, 105]).2.2⟩

example : Reply.encode ⟨some 258, [104, 105]⟩ = [2, 1, 0, 0, 0, 0, 0, 0, 104, 105] := by decide

end HttpTunnel
