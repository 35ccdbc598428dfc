import HttpTunnel.SerialWindow
import Mathlib.Data.List.Basic

/-!
What a window does with the items that it takes. Released items carry the serials up to
the next one without a gap, kept items lie ahead of it and within reach, and each item
that was taken is in one of the two places. Both ends of a tunnel rest on these facts.
-/

namespace HttpTunnel.SerialWindow

variable {Item : Type}

structure Tidy (window : SerialWindow Item) : Prop where
  ascending : window.early.Pairwise fun first second => first.1 < second.1
  later : ∀ entry ∈ window.early, window.next < entry.1
  within : ∀ entry ∈ window.early, entry.1 ≤ window.next + window.ahead

/-- A run of items with the serials that they have if the first one has a given serial. -/
def numbered (first : Nat) : List Item → List (Nat × Item)
  | [] => []
  | item :: run => (first, item) :: numbered (first + 1) run

def taken (window : SerialWindow Item) (serial : Nat) : Nat :=
  (if serial < window.next then 1 else 0) +
    window.early.countP fun entry => entry.1 == serial

theorem of_width_tidy (first width : Nat) : (ofWidth first width : SerialWindow Item).Tidy :=
  ⟨List.Pairwise.nil, by simp [ofWidth], by simp [ofWidth]⟩

theorem numbered_items (first : Nat) (run : List Item) :
    (numbered first run).map Prod.snd = run := by
  induction run generalizing first with
  | nil => rfl
  | cons item run induction => simp [numbered, induction]

theorem numbered_serials (first : Nat) (run : List Item) :
    (numbered first run).map Prod.fst = List.range' first run.length := by
  induction run generalizing first with
  | nil => rfl
  | cons item run induction =>
      rw [numbered, List.map_cons, induction, List.length_cons, List.range'_succ]

theorem numbered_append (first : Nat) (run further : List Item) :
    numbered first (run ++ further) =
      numbered first run ++ numbered (first + run.length) further := by
  induction run generalizing first with
  | nil => rfl
  | cons item run induction =>
      rw [List.cons_append, numbered, induction, numbered, List.cons_append, List.length_cons,
        Nat.add_right_comm, Nat.add_assoc]

theorem numbered_count (first : Nat) (run : List Item) (serial : Nat) :
    (numbered first run).countP (fun entry => entry.1 == serial) =
      if first ≤ serial ∧ serial < first + run.length then 1 else 0 := by
  induction run generalizing first with
  | nil =>
      rw [if_neg (by simp)]
      rfl
  | cons item run induction =>
      rw [numbered, List.countP_cons, induction]
      simp only [beq_iff_eq, List.length_cons]
      split_ifs <;> omega

theorem insert_permutes (serial : Nat) (item : Item) (entries : List (Nat × Item)) :
    (insert serial item entries).Perm ((serial, item) :: entries) := by
  induction entries with
  | nil => exact List.Perm.refl _
  | cons entry rest induction =>
      rw [insert]
      split_ifs
      · exact List.Perm.refl _
      · exact (induction.cons entry).trans (List.Perm.swap _ _ _)

theorem insert_ascending (serial : Nat) (item : Item) (entries : List (Nat × Item))
    (ascending : entries.Pairwise fun first second => first.1 < second.1)
    (fresh : ∀ entry ∈ entries, entry.1 ≠ serial) :
    (insert serial item entries).Pairwise fun first second => first.1 < second.1 := by
  induction entries with
  | nil => exact List.pairwise_singleton _ _
  | cons entry rest induction =>
      obtain ⟨before, tail⟩ := List.pairwise_cons.mp ascending
      have different := fresh entry (by simp)
      rw [insert]
      split_ifs with earlier
      · refine List.pairwise_cons.mpr ⟨?_, ascending⟩
        intro other member
        rcases List.mem_cons.mp member with rfl | member
        · exact earlier
        · exact Nat.lt_trans earlier (before other member)
      · refine List.pairwise_cons.mpr ⟨?_, induction tail ?_⟩
        · intro other member
          rcases List.mem_cons.mp ((insert_permutes serial item rest).mem_iff.mp member)
            with rfl | member
          · show entry.1 < serial
            omega
          · exact before other member
        · intro other member
          exact fresh other (List.mem_cons_of_mem _ member)

/-- What a release lets go is the numbered front of the list, and it stops at the first
gap. -/
theorem release_run_splits (next : Nat) (entries : List (Nat × Item))
    (ascending : entries.Pairwise fun first second => first.1 < second.1)
    (start : ∀ entry ∈ entries, next ≤ entry.1) :
    entries = numbered next (releaseRun next entries).1 ++ (releaseRun next entries).2.2 ∧
      (releaseRun next entries).2.1 = next + (releaseRun next entries).1.length ∧
      ∀ entry ∈ (releaseRun next entries).2.2, (releaseRun next entries).2.1 < entry.1 := by
  induction entries generalizing next with
  | nil => simp [releaseRun, numbered]
  | cons entry rest induction =>
      rcases entry with ⟨serial, item⟩
      obtain ⟨before, tail⟩ := List.pairwise_cons.mp ascending
      have lower := start (serial, item) (by simp)
      by_cases due : serial = next
      · subst due
        have further := induction (serial + 1) tail (fun entry member => before entry member)
        rcases further with ⟨split, after, gap⟩
        simp only [releaseRun, if_true]
        refine ⟨?_, ?_, gap⟩
        · rw [numbered, List.cons_append, ← split]
        · rw [after, List.length_cons]
          omega
      · simp only [releaseRun, if_neg due]
        refine ⟨rfl, rfl, ?_⟩
        intro entry member
        rcases List.mem_cons.mp member with rfl | member
        · show next < serial
          simp only at lower
          omega
        · have larger := before entry member
          simp only at larger lower
          omega

/-- Everything that a successful push says about the window before and after it. -/
structure Pushed (window : SerialWindow Item) (serial : Nat) (item : Item)
    (released : List Item) (after : SerialWindow Item) : Prop where
  lower : window.next ≤ serial
  upper : serial ≤ window.next + window.ahead
  fresh : ∀ entry ∈ window.early, entry.1 ≠ serial
  ahead : after.ahead = window.ahead
  next : after.next = window.next + released.length
  split : (numbered window.next released ++ after.early).Perm ((serial, item) :: window.early)
  tidy : after.Tidy

theorem holds_iff (window : SerialWindow Item) (serial : Nat) :
    window.holds serial = true ↔ ∃ entry ∈ window.early, entry.1 = serial := by
  simp [holds]

theorem push_spec (window : SerialWindow Item) (serial : Nat) (item : Item)
    (released : List Item) (after : SerialWindow Item) (tidy : window.Tidy)
    (ok : window.push serial item = .ok (released, after)) :
    Pushed window serial item released after := by
  unfold push at ok
  split_ifs at ok with taken far
  · simp only [not_or, Nat.not_lt] at taken
    rcases taken with ⟨lower, unheld⟩
    have fresh : ∀ entry ∈ window.early, entry.1 ≠ serial := by
      intro entry member same
      exact unheld ((holds_iff window serial).mpr ⟨entry, member, same⟩)
    have ascending := insert_ascending serial item window.early tidy.ascending fresh
    have permuted := insert_permutes serial item window.early
    have start : ∀ entry ∈ insert serial item window.early, window.next ≤ entry.1 := by
      intro entry member
      rcases List.mem_cons.mp (permuted.mem_iff.mp member) with rfl | member
      · exact lower
      · exact Nat.le_of_lt (tidy.later entry member)
    obtain ⟨split, next, gap⟩ := release_run_splits window.next _ ascending start
    simp only [Except.ok.injEq, Prod.mk.injEq] at ok
    rcases ok with ⟨rfl, rfl⟩
    refine ⟨lower, by omega, fresh, rfl, next, ?_, ?_, gap, ?_⟩
    · exact split ▸ permuted
    · rw [split] at ascending
      exact (List.pairwise_append.mp ascending).2.1
    · intro entry member
      have origin : entry ∈ insert serial item window.early := by
        rw [split]
        exact List.mem_append_right _ member
      have reach : entry.1 ≤ window.next + window.ahead := by
        rcases List.mem_cons.mp (permuted.mem_iff.mp origin) with rfl | member
        · show serial ≤ _
          omega
        · exact tidy.within entry member
      simp only [next]
      omega

theorem push_succeeds (window : SerialWindow Item) (serial : Nat) (item : Item)
    (lower : window.next ≤ serial) (upper : serial ≤ window.next + window.ahead)
    (fresh : ∀ entry ∈ window.early, entry.1 ≠ serial) :
    ∃ released after, window.push serial item = .ok (released, after) := by
  have accepted : ¬(serial < window.next ∨ window.holds serial = true) := by
    rw [holds_iff]
    rintro (before | ⟨entry, member, same⟩)
    · omega
    · exact fresh entry member same
  unfold push
  rw [if_neg accepted, if_neg (by omega)]
  exact ⟨_, _, rfl⟩

theorem untaken (window : SerialWindow Item) (serial : Nat) (none : window.taken serial = 0) :
    window.next ≤ serial ∧ ∀ entry ∈ window.early, entry.1 ≠ serial := by
  unfold taken at none
  constructor
  · by_contra before
    rw [if_pos (by omega)] at none
    omega
  · intro entry member same
    have positive : 0 < window.early.countP fun entry => entry.1 == serial :=
      List.countP_pos_iff.mpr ⟨entry, member, by simpa using same⟩
    omega

theorem Pushed.taken_eq {window after : SerialWindow Item} {serial : Nat} {item : Item}
    {released : List Item} (pushed : Pushed window serial item released after) (other : Nat) :
    after.taken other = window.taken other + if serial = other then 1 else 0 := by
  have counts := pushed.split.countP_eq fun entry => entry.1 == other
  rw [List.countP_append, numbered_count, List.countP_cons] at counts
  have next := pushed.next
  simp only [beq_iff_eq] at counts
  unfold taken
  split_ifs at counts ⊢ <;> omega

/-- Released items and the items that stay come from the window or are the pushed one. -/
theorem Pushed.origin {window after : SerialWindow Item} {serial : Nat} {item : Item}
    {released : List Item} (pushed : Pushed window serial item released after)
    (entry : Nat × Item) (member : entry ∈ numbered window.next released ∨ entry ∈ after.early) :
    entry = (serial, item) ∨ entry ∈ window.early :=
  List.mem_cons.mp (pushed.split.mem_iff.mp (List.mem_append.mpr member))

/-- A window that reaches one serial ahead keeps an item only if it has none, and lets it go with
the item that closes the gap. -/
theorem Pushed.narrow {window after : SerialWindow Item} {serial : Nat} {item : Item}
    {released : List Item} (pushed : Pushed window serial item released after)
    (tidy : window.Tidy) (reach : window.ahead = 1) :
    (released = [] ∧ window.early = [] ∧ after.early = [(serial, item)] ∧
        serial = window.next + 1) ∨
      (released ≠ [] ∧ after.early = []) := by
  have upper := pushed.upper
  have next := pushed.next
  cases released with
  | nil =>
      have split : after.early.Perm ((serial, item) :: window.early) := pushed.split
      have beyond := pushed.tidy.later (serial, item) (split.mem_iff.mpr (List.mem_cons_self ..))
      have follows : serial = window.next + 1 := by
        simp only [List.length_nil] at next beyond
        omega
      have none : window.early = [] := by
        apply List.eq_nil_iff_forall_not_mem.mpr
        intro entry member
        have later := tidy.later entry member
        have within := tidy.within entry member
        exact pushed.fresh entry member (by omega)
      rw [none] at split
      exact .inl ⟨rfl, none, List.perm_singleton.mp split, follows⟩
  | cons first released =>
      refine .inr ⟨List.cons_ne_nil _ _, ?_⟩
      apply List.eq_nil_iff_forall_not_mem.mpr
      intro entry member
      have later := pushed.tidy.later entry member
      have within : entry.1 ≤ window.next + 1 := by
        rcases pushed.origin entry (.inr member) with rfl | before
        · show serial ≤ window.next + 1
          omega
        · have bound := tidy.within entry before
          omega
      rw [List.length_cons] at next
      omega

theorem push_not_duplicate (window : SerialWindow Item) (serial : Nat) (item : Item)
    (none : window.taken serial = 0) (repeated expected : Nat) :
    window.push serial item ≠ .error (.duplicate repeated expected) := by
  obtain ⟨lower, fresh⟩ := untaken window serial none
  by_cases far : serial ≤ window.next + window.ahead
  · obtain ⟨released, after, ok⟩ := push_succeeds window serial item lower far fresh
    rw [ok]
    simp
  · have accepted : ¬(serial < window.next ∨ window.holds serial = true) := by
      rw [holds_iff]
      rintro (before | ⟨entry, member, same⟩)
      · omega
      · exact fresh entry member same
    unfold push
    rw [if_neg accepted, if_pos (by omega)]
    simp

end HttpTunnel.SerialWindow
