import HttpTunnel.Client.SendQueue
import Mathlib.Data.List.Basic

/-!
What is taken from the queue of local bytes, and what stays. Whatever way a taker gets a
parcel, the parcel has the next serial and the bytes from the front of the queue.
-/

namespace HttpTunnel.Client.SendQueue

variable {Taker : Type}

/-- A parcel leaves a queue with the next serial and the bytes from the front. -/
structure Takes (queue : SendQueue Taker) (parcel : Parcel) (after : SendQueue Taker) : Prop where
  serial : parcel.serial = queue.nextSerial
  counted : after.nextSerial = queue.nextSerial + 1
  bytes : queue.chunks.flatten = parcel.payload ++ after.chunks.flatten
  closed : after.closed = queue.closed

structure SameGoods (queue after : SendQueue Taker) : Prop where
  counted : after.nextSerial = queue.nextSerial
  chunks : after.chunks = queue.chunks
  closed : after.closed = queue.closed

/-- What each outcome of taking says about the queue before and after it. -/
def Drew (queue : SendQueue Taker) (after : SendQueue Taker) : Draw → Prop
  | .parcel parcel => queue.Takes parcel after
  | .drained => queue.closed = true ∧ queue.chunks = [] ∧ queue.SameGoods after
  | .waiting => queue.SameGoods after

theorem gather_keeps_bytes (limit : Nat) (taken : Bytes) (chunks : List Bytes) :
    (gather limit taken chunks).1 ++ (gather limit taken chunks).2.flatten =
      taken ++ chunks.flatten := by
  induction chunks generalizing taken with
  | nil => rfl
  | cons chunk rest induction =>
      rw [gather]
      split_ifs
      · rfl
      · rw [induction, List.flatten_cons, List.append_assoc]

theorem empty_takes (queue : SendQueue Taker) :
    queue.Takes queue.empty.1 queue.empty.2 ∧ queue.empty.1.payload = [] :=
  ⟨⟨rfl, rfl, rfl, rfl⟩, rfl⟩

theorem take_drew (queue : SendQueue Taker) : queue.Drew queue.take.2 queue.take.1 := by
  unfold take
  cases chunks : queue.chunks with
  | nil =>
      dsimp only
      split_ifs with closed
      · exact ⟨closed, chunks, rfl, rfl, rfl⟩
      · exact ⟨rfl, rfl, rfl⟩
  | cons chunk rest =>
      have bytes := gather_keeps_bytes queue.limit chunk rest
      refine ⟨rfl, rfl, ?_, rfl⟩
      rw [chunks, List.flatten_cons]
      exact bytes.symm

theorem ready_drew (queue : SendQueue Taker) :
    queue.Drew queue.ready.2 queue.ready.1 ∧ queue.ready.1 ≠ .waiting := by
  have drew := queue.take_drew
  unfold ready
  split_ifs
  · generalize queue.take = taken at drew
    rcases taken with ⟨draw, after⟩
    cases draw with
    | parcel parcel => exact ⟨drew, by simp⟩
    | drained => exact ⟨drew, by simp⟩
    | waiting => exact ⟨queue.empty_takes.1, by simp⟩
  · exact ⟨queue.empty_takes.1, by simp⟩

variable [DecidableEq Taker]

theorem draw_drew (queue : SendQueue Taker) (taker : Taker) :
    queue.Drew (queue.draw taker).2 (queue.draw taker).1 := by
  have drew := queue.take_drew
  unfold draw
  split_ifs
  · generalize queue.take = taken at drew
    rcases taken with ⟨draw, after⟩
    cases draw with
    | parcel parcel => exact ⟨drew.serial, drew.counted, drew.bytes, drew.closed⟩
    | drained =>
        rcases drew with ⟨closed, empty, same⟩
        exact ⟨closed, empty, same.counted, same.chunks, same.closed⟩
    | waiting => exact ⟨rfl, rfl, rfl⟩
  · exact ⟨rfl, rfl, rfl⟩

end HttpTunnel.Client.SendQueue
