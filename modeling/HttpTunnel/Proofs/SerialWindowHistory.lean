import HttpTunnel.Proofs.SerialWindowOrder

/-!
Whole histories of a window: items are pushed and the waiting ones drained, in any order. What a
window answers follows from what it has answered before. Its next serial counts the items that it
has released, and every item that it took in is with the released, the waiting or the drained ones.
-/

namespace HttpTunnel.SerialWindow

open scoped List

variable {Item : Type}

inductive Call (Item : Type) where
  | push (serial : Nat) (item : Item)
  | drain
  deriving DecidableEq, Repr

inductive Entry (Item : Type) where
  | took (serial : Nat) (item : Item) (released : List Item)
  | refused (serial : Nat) (item : Item) (refusal : Refusal)
  | drained (items : List Item)
  deriving DecidableEq, Repr

/-- A refused item leaves the window as it is. -/
def call (window : SerialWindow Item) : Call Item → SerialWindow Item × Entry Item
  | .push serial item =>
      match window.push serial item with
      | .ok (released, after) => (after, .took serial item released)
      | .error refusal => (window, .refused serial item refusal)
  | .drain => (window.drain.2, .drained window.drain.1)

def run (window : SerialWindow Item) : List (Call Item) → SerialWindow Item × List (Entry Item)
  | [] => (window, [])
  | first :: calls =>
      let (middle, entry) := window.call first
      let (after, trace) := middle.run calls
      (after, entry :: trace)

section Trace

/-- The items that were taken in, each with its serial. -/
def accepted (trace : List (Entry Item)) : List (Nat × Item) :=
  trace.filterMap fun
    | .took serial item _ => some (serial, item)
    | _ => none

/-- All released items, one after the other. -/
def released (trace : List (Entry Item)) : List Item :=
  trace.flatMap fun
    | .took _ _ released => released
    | _ => []

def drains (trace : List (Entry Item)) : List (List Item) :=
  trace.filterMap fun
    | .drained items => some items
    | _ => none

variable (trace further : List (Entry Item))

@[simp] theorem accepted_append :
    accepted (trace ++ further) = accepted trace ++ accepted further :=
  List.filterMap_append

@[simp] theorem drains_append : drains (trace ++ further) = drains trace ++ drains further :=
  List.filterMap_append

end Trace

def Ascending (entries : List (Nat × Item)) : Prop :=
  entries.Pairwise fun first second => first.1 < second.1

/-- What a history of a window that began with a serial tells about it. The batches are what was
drained, with the serials that it was taken in under. -/
structure Recorded (first : Nat) (window : SerialWindow Item) (trace : List (Entry Item))
    (batches : List (List (Nat × Item))) : Prop where
  tidy : window.Tidy
  next : window.next = first + (released trace).length
  places : (accepted trace).Perm
    (numbered first (released trace) ++ window.early ++ batches.flatten)
  drained : drains trace = batches.map fun batch => batch.map Prod.snd
  ordered : ∀ batch ∈ batches, Ascending batch

section Calls

variable {first : Nat} {window after : SerialWindow Item} {past : List (Entry Item)}
variable {batches : List (List (Nat × Item))}

theorem of_width_recorded (first width : Nat) :
    Recorded first (ofWidth first width : SerialWindow Item) [] [] :=
  ⟨of_width_tidy first width, rfl, .nil, rfl, nofun⟩

theorem Recorded.takes (recorded : Recorded first window past batches) (serial : Nat)
    (item : Item) (run : List Item) (pushed : Pushed window serial item run after) :
    Recorded first after (past ++ [.took serial item run]) batches := by
  have more : released (past ++ [.took serial item run]) = released past ++ run := by
    simp [released]
  constructor
  · exact pushed.tidy
  · rw [more, List.length_append, pushed.next, recorded.next, Nat.add_assoc]
  · -- The released run and the items that stay are the pushed item and those that waited.
    have split := pushed.split
    rw [recorded.next] at split
    rw [more, numbered_append]
    calc
      accepted (past ++ [.took serial item run])
      _ = accepted past ++ [(serial, item)] := by simp [accepted]
      _ ~ (serial, item) :: accepted past := List.perm_append_singleton _ _
      _ ~ (serial, item) :: (numbered first (released past) ++
            (window.early ++ batches.flatten)) := by
          rw [← List.append_assoc]
          exact recorded.places.cons _
      _ ~ numbered first (released past) ++
            ((serial, item) :: window.early ++ batches.flatten) := List.perm_middle.symm
      _ ~ numbered first (released past) ++ (numbered (first + (released past).length) run ++
            after.early ++ batches.flatten) := (split.symm.append_right _).append_left _
      _ = _ := by simp only [List.append_assoc]
  · rw [drains_append, recorded.drained]
    exact List.append_nil _
  · exact recorded.ordered

theorem Recorded.refuses (recorded : Recorded first window past batches) (serial : Nat)
    (item : Item) (refusal : Refusal) :
    Recorded first window (past ++ [.refused serial item refusal]) batches := by
  have same : released (past ++ [.refused serial item refusal]) = released past := by
    simp [released]
  constructor
  · exact recorded.tidy
  · rw [same]
    exact recorded.next
  · rw [same, accepted_append]
    exact (List.append_nil _).symm ▸ recorded.places
  · rw [drains_append, recorded.drained]
    exact List.append_nil _
  · exact recorded.ordered

theorem Recorded.drains (recorded : Recorded first window past batches) :
    Recorded first window.drain.2 (past ++ [.drained window.drain.1])
      (batches ++ [window.early]) := by
  have same : released (past ++ [.drained window.drain.1]) = released past := by
    simp [released]
  constructor
  · exact ⟨List.Pairwise.nil, nofun, nofun⟩
  · rw [same]
    exact recorded.next
  · have none : window.drain.2.early = [] := rfl
    rw [same, none, List.append_nil, List.flatten_append, List.flatten_singleton]
    calc
      accepted (past ++ [.drained window.drain.1])
      _ = accepted past := by simp [accepted]
      _ ~ numbered first (released past) ++ window.early ++ batches.flatten := recorded.places
      _ = numbered first (released past) ++ (window.early ++ batches.flatten) :=
          List.append_assoc ..
      _ ~ numbered first (released past) ++ (batches.flatten ++ window.early) :=
          List.perm_append_comm.append_left _
  · rw [drains_append, recorded.drained, List.map_append]
    rfl
  · intro batch member
    rcases List.mem_append.mp member with before | last
    · exact recorded.ordered batch before
    · rw [List.mem_singleton.mp last]
      exact recorded.tidy.ascending

theorem Recorded.call (recorded : Recorded first window past batches) (asked : Call Item) :
    ∃ further, Recorded first (window.call asked).1 (past ++ [(window.call asked).2])
      (batches ++ further) := by
  cases asked with
  | push serial item =>
      refine ⟨[], ?_⟩
      rw [List.append_nil, SerialWindow.call]
      cases pushed : window.push serial item with
      | error refusal => exact recorded.refuses serial item refusal
      | ok result =>
          exact recorded.takes serial item result.1
            (push_spec window serial item _ _ recorded.tidy pushed)
  | drain => exact ⟨[window.early], recorded.drains⟩

theorem run_records (calls : List (Call Item)) (window : SerialWindow Item)
    (past : List (Entry Item)) (batches : List (List (Nat × Item)))
    (recorded : Recorded first window past batches) :
    ∃ further, Recorded first (window.run calls).1 (past ++ (window.run calls).2)
      (batches ++ further) := by
  induction calls generalizing window past batches with
  | nil =>
      refine ⟨[], ?_⟩
      rw [run, List.append_nil, List.append_nil]
      exact recorded
  | cons asked calls induction =>
      obtain ⟨here, once⟩ := recorded.call asked
      obtain ⟨further, whole⟩ := induction _ _ _ once
      refine ⟨here ++ further, ?_⟩
      rw [run, ← List.append_assoc]
      rw [List.append_assoc past] at whole
      exact whole

theorem call_ahead (window : SerialWindow Item) (asked : Call Item) :
    (window.call asked).1.ahead = window.ahead := by
  cases asked with
  | push serial item =>
      simp only [call, push]
      split_ifs <;> rfl
  | drain => rfl

theorem run_ahead (calls : List (Call Item)) (window : SerialWindow Item) :
    (window.run calls).1.ahead = window.ahead := by
  induction calls generalizing window with
  | nil => rfl
  | cons asked calls induction => exact (induction _).trans (call_ahead window asked)

end Calls

section Verdict

variable (window : SerialWindow Item) (serial : Nat) (item : Item)

theorem push_succeeds_iff :
    (∃ released after, window.push serial item = .ok (released, after)) ↔
      window.next ≤ serial ∧ serial ≤ window.next + window.ahead ∧
        ∀ entry ∈ window.early, entry.1 ≠ serial := by
  constructor
  · rintro ⟨released, after, pushed⟩
    unfold push at pushed
    split_ifs at pushed with taken far
    simp only [not_or, Nat.not_lt] at taken
    refine ⟨taken.1, by omega, fun entry member same => taken.2 ?_⟩
    exact (holds_iff window serial).mpr ⟨entry, member, same⟩
  · rintro ⟨lower, upper, fresh⟩
    exact push_succeeds window serial item lower upper fresh

theorem push_duplicate
    (known : serial < window.next ∨ ∃ entry ∈ window.early, entry.1 = serial) :
    window.push serial item = .error (.duplicate serial window.next) := by
  rw [← holds_iff] at known
  rw [push, if_pos known]

/-- Nothing waits beyond the reach of the window, so what lies there is not a duplicate. -/
theorem push_too_far (tidy : window.Tidy) (far : window.next + window.ahead < serial) :
    window.push serial item = .error (.tooFarAhead serial window.next) := by
  have unknown : ¬(serial < window.next ∨ window.holds serial = true) := by
    rw [holds_iff]
    rintro (before | ⟨entry, member, rfl⟩)
    · omega
    · have within := tidy.within entry member
      omega
  rw [push, if_neg unknown, if_pos (by omega)]

theorem call_refused (refusal : Refusal) (refused : window.push serial item = .error refusal) :
    window.call (.push serial item) = (window, .refused serial item refusal) := by
  rw [call, refused]

end Verdict

theorem ascending_length (low reach : Nat) (entries : List (Nat × Item))
    (ascending : Ascending entries) (later : ∀ entry ∈ entries, low < entry.1)
    (within : ∀ entry ∈ entries, entry.1 ≤ low + reach) : entries.length ≤ reach := by
  induction entries generalizing low reach with
  | nil => exact Nat.zero_le _
  | cons entry rest induction =>
      obtain ⟨before, tail⟩ := List.pairwise_cons.mp ascending
      have first := later entry (List.mem_cons_self ..)
      have last := within entry (List.mem_cons_self ..)
      have fewer := induction entry.1 (low + reach - entry.1) tail before (by
        intro other member
        have bound := within other (List.mem_cons_of_mem _ member)
        omega)
      rw [List.length_cons]
      omega

theorem Tidy.backlog_le {window : SerialWindow Item} (tidy : window.Tidy) :
    window.backlog ≤ window.ahead :=
  ascending_length window.next window.ahead window.early tidy.ascending tidy.later tidy.within

/-- A window of a width takes in just the serials from its next one up to its width that do not
wait already, calls those it knows duplicates and those beyond too far ahead, and stays as it is
when it refuses. What it has released are accepted items with the serials from the first one up to
its next one, in this order; the other accepted items wait, between the next serial and the end
of the window, or were drained in the order of their serials. -/
theorem history_in_order (first width : Nat) (calls : List (Call Item)) :
    ∃ (window : SerialWindow Item) (trace : List (Entry Item))
        (batches : List (List (Nat × Item))),
      (ofWidth first width).run calls = (window, trace) ∧
      (∀ serial item, (∃ run after, window.push serial item = .ok (run, after)) ↔
        window.next ≤ serial ∧ serial < window.next + max width 1 ∧
          ∀ entry ∈ window.early, entry.1 ≠ serial) ∧
      (∀ serial item, (serial < window.next ∨ ∃ entry ∈ window.early, entry.1 = serial) →
        window.push serial item = .error (.duplicate serial window.next)) ∧
      (∀ serial item, window.next + max width 1 ≤ serial →
        window.push serial item = .error (.tooFarAhead serial window.next)) ∧
      (∀ serial item refusal, window.push serial item = .error refusal →
        window.call (.push serial item) = (window, .refused serial item refusal)) ∧
      window.next = first + (released trace).length ∧
      accepted trace ~ numbered first (released trace) ++ window.early ++ batches.flatten ∧
      drains trace = batches.map (fun batch => batch.map Prod.snd) ∧
      (∀ batch ∈ batches, Ascending batch) ∧
      window.call .drain =
        ({ window with early := [] }, .drained (window.early.map Prod.snd)) ∧
      Ascending window.early ∧
      (∀ entry ∈ window.early,
        window.next < entry.1 ∧ entry.1 < window.next + max width 1) ∧
      window.backlog ≤ max width 1 - 1 := by
  have begins : Recorded first (ofWidth first width : SerialWindow Item) [] [] :=
    of_width_recorded first width
  obtain ⟨batches, recorded⟩ := run_records calls _ [] [] begins
  have ahead := run_ahead calls (ofWidth first width)
  generalize ran : (ofWidth first width).run calls = outcome at recorded ahead
  rcases outcome with ⟨window, trace⟩
  simp only [List.nil_append] at recorded ahead
  -- The width counts the next serial as well, the reach does not.
  have reach : window.ahead + 1 = max width 1 := by
    rw [ahead]
    show width - 1 + 1 = max width 1
    omega
  have tidy := recorded.tidy
  refine ⟨window, trace, batches, rfl, ?_, ?_, ?_, ?_, recorded.next, recorded.places,
    recorded.drained, recorded.ordered, rfl, tidy.ascending, ?_, ?_⟩
  · intro serial item
    rw [push_succeeds_iff, ← reach, ← Nat.add_assoc, Nat.lt_succ_iff]
  · exact fun serial item => push_duplicate window serial item
  · intro serial item far
    exact push_too_far window serial item tidy (by omega)
  · exact fun serial item refusal => call_refused window serial item refusal
  · intro entry member
    have within := tidy.within entry member
    exact ⟨tidy.later entry member, by omega⟩
  · have few := tidy.backlog_le
    omega

example : released ((ofWidth 1 8).run [.push 5 "5", .push 1 "1", .push 3 "3", .push 3 "x",
    .push 2 "2", .push 4 "4"]).2 = ["1", "2", "3", "4", "5"] := by decide

end HttpTunnel.SerialWindow
