import HttpTunnel.Bytes
import Mathlib.Data.List.Basic

/-!
Payloads under the serials that they were given, starting with one. Both directions of a
tunnel number what they send in this way, and both ends put it back together from there.
-/

namespace HttpTunnel

/-- A serial was given to a payload when the payloads that were sent were numbered. -/
def Carries (sent : List Bytes) (serial : Nat) (payload : Bytes) : Prop :=
  1 ≤ serial ∧ sent[serial - 1]? = some payload

theorem Carries.bound {sent : List Bytes} {serial : Nat} {payload : Bytes}
    (carries : Carries sent serial payload) : serial ≤ sent.length := by
  obtain ⟨bound, _⟩ := List.getElem?_eq_some_iff.mp carries.2
  have positive := carries.1
  omega

theorem Carries.more {sent : List Bytes} {serial : Nat} {payload : Bytes}
    (carries : Carries sent serial payload) (further : List Bytes) :
    Carries (sent ++ further) serial payload := by
  have bound := carries.bound
  have positive := carries.1
  refine ⟨positive, ?_⟩
  rw [List.getElem?_append_left (by omega)]
  exact carries.2

theorem carries_last (sent : List Bytes) (payload : Bytes) :
    Carries (sent ++ [payload]) (sent.length + 1) payload := by
  refine ⟨Nat.le_add_left _ _, ?_⟩
  rw [Nat.add_sub_cancel, List.getElem?_concat_length]

theorem Carries.unique {sent : List Bytes} {serial : Nat} {payload other : Bytes}
    (carries : Carries sent serial payload) (again : Carries sent serial other) :
    payload = other := by
  exact Option.some.inj (carries.2.symm.trans again.2)

theorem take_carried (sent : List Bytes) (serial : Nat) (payload : Bytes)
    (carries : Carries sent serial payload) :
    (sent.take serial).flatten = (sent.take (serial - 1)).flatten ++ payload := by
  rcases carries with ⟨positive, stored⟩
  obtain ⟨bound, same⟩ := List.getElem?_eq_some_iff.mp stored
  have split := List.take_succ_eq_append_getElem bound
  rw [show serial - 1 + 1 = serial by omega, same] at split
  rw [split, List.flatten_append]
  simp

theorem take_begins (sent : List Bytes) (count : Nat) :
    (sent.take count).flatten <+: sent.flatten := by
  have split := List.take_append_drop count sent
  exact ⟨(sent.drop count).flatten, by rw [← List.flatten_append, split]⟩

theorem take_eq_carried (sent : List Bytes) (payloadOf : Nat → Bytes) (count : Nat)
    (each : ∀ serial, 1 ≤ serial → serial ≤ count → Carries sent serial (payloadOf serial)) :
    (sent.take count).flatten = (List.range' 1 count).flatMap payloadOf := by
  induction count with
  | zero => rfl
  | succ count induction =>
      have last := each (count + 1) (Nat.le_add_left _ _) (Nat.le_refl _)
      have before := induction fun serial positive bound =>
        each serial positive (Nat.le_succ_of_le bound)
      rw [take_carried sent (count + 1) _ last, Nat.add_sub_cancel, before, List.range'_concat,
        List.flatMap_append]
      simp [Nat.add_comm]

end HttpTunnel
