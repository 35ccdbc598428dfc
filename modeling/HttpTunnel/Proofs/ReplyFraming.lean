import HttpTunnel.Relay
import Mathlib.Algebra.Group.Nat.Defs
import Mathlib.Data.Nat.Basic

/-!
Serials in the frames of requests and responses. A request comes to the tunnel under the
serial that it left with, and an answer with data comes back with its serial and its bytes, as
long as the serial fits the eight bytes of the frame.
-/

namespace HttpTunnel

namespace Bytes

theorem of_little_endian_length (width value : Nat) :
    (ofLittleEndian width value).length = width := by
  induction width generalizing value with
  | zero => rfl
  | succ width induction => rw [ofLittleEndian, List.length_cons, induction]

theorem little_endian_of_word (width value : Nat) :
    littleEndian (ofLittleEndian width value) = value % 256 ^ width := by
  induction width generalizing value with
  | zero => simp [ofLittleEndian, littleEndian, Nat.mod_one]
  | succ width induction =>
      rw [ofLittleEndian, littleEndian, induction, Nat.pow_succ']
      rw [Nat.mod_mul]
      rfl

theorem split_append (front rest : Bytes) :
    split? front.length (front ++ rest) = some (front, rest) := by
  simp [split?]

end Bytes

theorem serial_bytes_length (serial : UInt64) : (serialBytes serial).length = serialLength :=
  Bytes.of_little_endian_length _ _

theorem serial_of_serial_bytes (serial : UInt64) :
    serialOfBytes (serialBytes serial) = serial := by
  unfold serialOfBytes serialBytes
  rw [Bytes.little_endian_of_word]
  have bound : serial.toNat < 256 ^ serialLength := serial.toNat_lt
  rw [Nat.mod_eq_of_lt bound, UInt64.ofNat_toNat]

theorem carried_serial (serial : Nat) (fits : serial < 2 ^ 63) :
    carriedSerial serial = serial := by
  have wide : serial < 2 ^ 64 := by omega
  have word : (UInt64.ofNat serial).toNat = serial := UInt64.toNat_ofNat_of_lt wide
  have positive : 2 * (UInt64.ofNat serial).toNat < 2 ^ 64 := by omega
  rw [carriedSerial, serial_of_serial_bytes, Int64.toInt, UInt64.toBitVec_toInt64,
    BitVec.toInt_eq_toNat_of_lt positive]
  exact congrArg Int.ofNat word

theorem Reply.decode_data (serial : UInt64) (payload : Bytes) :
    Reply.decode (Reply.encode ⟨some serial, payload⟩) = .ok ⟨some serial, payload⟩ := by
  have size := serial_bytes_length serial
  have present : serialBytes serial ++ payload ≠ [] := by
    intro empty
    have none := congrArg List.length empty
    rw [List.length_append, size] at none
    simp [serialLength] at none
  have framed : Reply.encode ⟨some serial, payload⟩ = serialBytes serial ++ payload := rfl
  rw [framed, Reply.decode, if_neg present, ← size, Bytes.split_append]
  simp only [serial_of_serial_bytes]

namespace Relay

open Server (Answer)

theorem data_trip_reply (serial : Nat) (payload : Bytes) (fits : serial < 2 ^ 64) :
    (tripOf (Answer.data serial payload).response).reply = .ok (some (serial, payload)) := by
  have word : (UInt64.ofNat serial).toNat = serial := UInt64.toNat_ofNat_of_lt fits
  have success : Status.ok.isSuccess = true := rfl
  simp only [tripOf, Answer.response, Answer.reply, Client.Trip.reply, success, if_true,
    Reply.decode_data, word]

end Relay

end HttpTunnel
