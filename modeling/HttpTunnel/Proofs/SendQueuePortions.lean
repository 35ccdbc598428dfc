import HttpTunnel.Proofs.SendQueueTaking
import Mathlib.Order.Bounds.Basic

/-!
How much a taker gets of the queue of local bytes. It gets whole chunks from the front, as few of
them as come to the limit, and all of them if they stay below it; but it gets at least one. So a
payload goes beyond the limit by its last chunk only.
-/

namespace HttpTunnel.Client.SendQueue

/-- So many chunks from the front are what one taker gets. -/
structure Portion (limit : Nat) (chunks : List Bytes) (count : Nat) : Prop where
  positive : 0 < count
  within : count ≤ chunks.length
  below : ∀ fewer, 0 < fewer → fewer < count → (chunks.take fewer).flatten.length < limit
  full : count < chunks.length → limit ≤ (chunks.take count).flatten.length

section Portions

variable {limit count : Nat} {chunks : List Bytes}

theorem gather_counts (limit : Nat) (taken : Bytes) (chunks : List Bytes) :
    ∃ count, gather limit taken chunks =
        (taken ++ (chunks.take count).flatten, chunks.drop count) ∧ count ≤ chunks.length ∧
      (∀ fewer < count, (taken ++ (chunks.take fewer).flatten).length < limit) ∧
      (count < chunks.length → limit ≤ (taken ++ (chunks.take count).flatten).length) := by
  induction chunks generalizing taken with
  | nil => exact ⟨0, by simp [gather], Nat.le_refl _, by simp, by simp⟩
  | cons chunk rest induction =>
      rw [gather]
      split_ifs with reached
      · exact ⟨0, by simp, Nat.zero_le _, by simp, by simpa using reached⟩
      · obtain ⟨count, gathered, within, below, full⟩ := induction (taken ++ chunk)
        refine ⟨count + 1, ?_, Nat.succ_le_succ within, ?_, ?_⟩
        · simpa using gathered
        · intro fewer less
          cases fewer with
          | zero => simpa using reached
          | succ fewer => simpa using below fewer (by omega)
        · intro left
          simpa using full (by simpa using left)

theorem gather_portion (limit : Nat) (chunk : Bytes) (rest : List Bytes) :
    ∃ count, gather limit chunk rest =
        (((chunk :: rest).take count).flatten, (chunk :: rest).drop count) ∧
      Portion limit (chunk :: rest) count := by
  obtain ⟨count, gathered, within, below, full⟩ := gather_counts limit chunk rest
  refine ⟨count + 1, gathered, Nat.succ_pos _, Nat.succ_le_succ within, ?_, ?_⟩
  · intro fewer positive less
    cases fewer with
    | zero => cases positive
    | succ fewer => exact below fewer (by omega)
  · intro left
    exact full (by simpa using left)

/-- If all chunks together come to the limit, no fewer chunks do. -/
theorem Portion.least (portion : Portion limit chunks count)
    (enough : limit ≤ chunks.flatten.length) :
    IsLeast {number | 0 < number ∧ limit ≤ (chunks.take number).flatten.length} count := by
  constructor
  · refine ⟨portion.positive, ?_⟩
    rcases Nat.lt_or_eq_of_le portion.within with left | all
    · exact portion.full left
    · rw [all, List.take_length]
      exact enough
  · rintro number ⟨positive, reaches⟩
    by_contra fewer
    have below := portion.below number positive (Nat.lt_of_not_le fewer)
    omega

theorem Portion.whole (portion : Portion limit chunks count)
    (few : chunks.flatten.length < limit) : count = chunks.length := by
  by_contra different
  have reaches := portion.full (Nat.lt_of_le_of_ne portion.within different)
  have whole := congrArg List.length (congrArg List.flatten (List.take_append_drop count chunks))
  rw [List.flatten_append, List.length_append] at whole
  omega

theorem Portion.overshoots (portion : Portion limit chunks count) (limited : 0 < limit) :
    ∃ last : Bytes, (chunks.take count).getLast? = some last ∧
      (chunks.take count).flatten.length < limit + last.length := by
  obtain ⟨fewer, rfl⟩ := Nat.exists_eq_succ_of_ne_zero (Nat.pos_iff_ne_zero.mp portion.positive)
  have there : fewer < chunks.length := portion.within
  refine ⟨chunks[fewer], ?_, ?_⟩
  · rw [List.take_succ_eq_append_getElem there, List.getLast?_concat]
  · have front : (chunks.take fewer).flatten.length < limit := by
      cases fewer with
      | zero => simpa using limited
      | succ fewer => exact portion.below _ (Nat.succ_pos _) (Nat.lt_succ_self _)
    rw [List.take_succ_eq_append_getElem there, List.flatten_append, List.length_append,
      List.flatten_singleton]
    omega

end Portions

variable {Taker : Type}

def without (queue : SendQueue Taker) (count : Nat) : SendQueue Taker :=
  { queue with chunks := queue.chunks.drop count, nextSerial := queue.nextSerial + 1 }

theorem take_portion (queue : SendQueue Taker) (present : queue.chunks ≠ []) :
    ∃ count, Portion queue.limit queue.chunks count ∧
      queue.take = (.parcel ⟨queue.nextSerial, (queue.chunks.take count).flatten⟩,
        queue.without count) := by
  cases chunks : queue.chunks with
  | nil => exact absurd chunks present
  | cons chunk rest =>
      obtain ⟨count, gathered, portion⟩ := gather_portion queue.limit chunk rest
      refine ⟨count, portion, ?_⟩
      unfold take without
      simp only [chunks, gathered, number]

section Takers

variable {queue after : SendQueue Taker} {parcel : Parcel}

theorem ready_takes (free : queue.line = []) (took : queue.take = (.parcel parcel, after)) :
    queue.ready = (.parcel parcel, after) := by
  rw [ready, free, took]
  rfl

variable [DecidableEq Taker] {taker : Taker}

theorem draw_takes (holds : queue.holder? = some taker)
    (took : queue.take = (.parcel parcel, after)) :
    queue.draw taker = (.parcel parcel, after.leave taker) := by
  rw [draw, if_pos holds, took]

theorem join_takes (free : queue.line = []) (took : queue.take = (.parcel parcel, after)) :
    (queue.join taker).draw taker = (.parcel parcel, { after with line := [] }) := by
  have holds : (queue.join taker).holder? = some taker := by rw [holder?, join, free]; rfl
  have lined : (queue.join taker).take = (.parcel parcel, { after with line := [taker] }) := by
    rw [join, free]
    unfold take at took ⊢
    cases chunks : queue.chunks with
    | nil =>
        rw [chunks] at took
        cases closed : queue.closed <;> simp [closed] at took
    | cons chunk rest =>
        simp only [chunks] at took ⊢
        cases took
        rfl
  rw [draw_takes holds lined]
  simp [leave]

end Takers

variable [DecidableEq Taker]

/-- Who takes from a queue with chunks in it, at once while nobody stands in the line, or as the
first of the line, gets one parcel with the next serial and the chunks from the front: the fewest,
but at least one, that come to the limit together, or all if they do not. These chunks leave the
queue. If there is a limit a parcel without its last chunk is shorter than that, and a chunk stays
behind only if the parcel has come to the limit. -/
theorem shortest_portion_taken (queue : SendQueue Taker) (present : queue.chunks ≠ []) :
    ∃ count payload,
      (queue.limit ≤ queue.chunks.flatten.length →
        IsLeast {number | 0 < number ∧ queue.limit ≤ (queue.chunks.take number).flatten.length}
          count) ∧
      (queue.chunks.flatten.length < queue.limit → count = queue.chunks.length) ∧
      payload = (queue.chunks.take count).flatten ∧
      (queue.line = [] →
        queue.ready = (.parcel ⟨queue.nextSerial, payload⟩, queue.without count)) ∧
      (∀ taker, queue.line = [] → (queue.join taker).draw taker =
        (.parcel ⟨queue.nextSerial, payload⟩, queue.without count)) ∧
      (∀ taker, queue.holder? = some taker → queue.draw taker =
        (.parcel ⟨queue.nextSerial, payload⟩, (queue.without count).leave taker)) ∧
      (0 < queue.limit → ∃ last, (queue.chunks.take count).getLast? = some last ∧
        payload.length < queue.limit + last.length) ∧
      (queue.chunks.drop count ≠ [] → queue.limit ≤ payload.length) := by
  obtain ⟨count, portion, took⟩ := queue.take_portion present
  refine ⟨count, _, portion.least, portion.whole, rfl, fun free => ready_takes free took, ?_,
    fun taker holds => draw_takes holds took, portion.overshoots, ?_⟩
  · intro taker free
    have rests : { queue.without count with line := [] } = queue.without count := by
      rw [without, free]
    rw [join_takes free took, rests]
  · intro left
    apply portion.full
    by_contra all
    exact left (List.drop_eq_nil_of_le (Nat.le_of_not_lt all))

def fourChunks : SendQueue Nat :=
  { capacity := 8, limit := 5, chunks := [[97, 98], [99, 100], [101, 102], [103, 104]] }

/-- Three of the four chunks come to the limit. -/
theorem three_of_four_taken : fourChunks.chunks ≠ [] ∧
    fourChunks.ready = (.parcel ⟨1, [97, 98, 99, 100, 101, 102]⟩,
      { fourChunks with chunks := [[103, 104]], nextSerial := 2 }) := by
  have present : fourChunks.chunks ≠ [] := by decide
  obtain ⟨count, payload, least, _, rfl, ready, _⟩ := shortest_portion_taken fourChunks present
  have three : count = 3 := by
    apply (least (by decide)).unique
    refine ⟨⟨by decide, by decide⟩, ?_⟩
    rintro number ⟨positive, reaches⟩
    by_contra fewer
    have few : number = 1 ∨ number = 2 := by omega
    rcases few with rfl | rfl <;> exact absurd reaches (by decide)
  rw [three] at ready
  exact ⟨present, ready rfl⟩

end HttpTunnel.Client.SendQueue
