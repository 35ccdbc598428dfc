import HttpTunnel.Proofs.DecodedReplies
import Mathlib.Data.List.Induction
import Mathlib.Data.List.Nodup

/-!
What the local writer writes, for every order in which replies come. The replies alone say what
is due: they are taken up to the first one that cannot be put in order, and of those the payloads
are written under the serials from one on as far as none is missing. However the application cuts
the writing into pieces, the writer writes these bytes, says why it ended, and shuts down.
-/

namespace HttpTunnel.Client.Delivery

open Relay (Written next_window next_written numbered_bounds)
open SerialWindow (numbered numbered_append numbered_serials numbered_items)

section Replies

/-- The payloads that came under the serials from one on, up to the first serial that did not
come. -/
structure Gathered (arrived : List (Nat × Bytes)) (payloads : List Bytes) : Prop where
  came : ∀ reply ∈ numbered 1 payloads, reply ∈ arrived
  missing : payloads.length + 1 ∉ arrived.map Prod.fst

/-- A reply that cannot be put in order with those that came before: there is no serial zero, a
serial comes once, and it lies at most so far ahead of the first one that is missing. -/
def Offends (backlog : Nat) (arrived : List (Nat × Bytes)) (serial : Nat) : Prop :=
  serial = 0 ∨ serial ∈ arrived.map Prod.fst ∨
    ∃ payloads, Gathered arrived payloads ∧ payloads.length + 1 + backlog < serial

/-- No reply offends those before it. -/
def Orderly (backlog : Nat) (arrived : List (Nat × Bytes)) : Prop :=
  ∀ before serial payload later, arrived = before ++ (serial, payload) :: later →
    ¬Offends backlog before serial

/-- What is due for replies that come in a certain order: those before the first one that offends
are heard, and if there is one, it is named together with the serial that is missing. -/
structure Due (backlog : Nat) (arrivals heard : List (Nat × Bytes)) (payloads : List Bytes)
    (ending : Option Failure) : Prop where
  orderly : Orderly backlog heard
  gathered : Gathered heard payloads
  stops : (heard = arrivals ∧ ending = none) ∨
    ∃ serial payload later, arrivals = heard ++ (serial, payload) :: later ∧
      Offends backlog heard serial ∧ ending = some (.replyGap (payloads.length + 1) serial)

variable {backlog : Nat} {arrived : List (Nat × Bytes)} {payloads others : List Bytes}

theorem numbered_mem (first serial : Nat) (run : List Bytes) (lower : first ≤ serial)
    (upper : serial < first + run.length) : ∃ payload, (serial, payload) ∈ numbered first run := by
  have member : serial ∈ (numbered first run).map Prod.fst := by
    rw [numbered_serials, List.mem_range'_1]
    exact ⟨lower, upper⟩
  obtain ⟨⟨_, payload⟩, known, rfl⟩ := List.mem_map.mp member
  exact ⟨payload, known⟩

theorem Gathered.length_le (gathered : Gathered arrived payloads)
    (other : Gathered arrived others) : payloads.length ≤ others.length := by
  by_contra longer
  obtain ⟨payload, member⟩ := numbered_mem 1 (others.length + 1) payloads (by omega) (by omega)
  exact other.missing (List.mem_map_of_mem (gathered.came _ member))

theorem orderly_nil (backlog : Nat) : Orderly backlog [] := by
  intro before serial payload later split
  cases before <;> cases split

theorem orderly_last (serial : Nat) (payload : Bytes) :
    Orderly backlog (arrived ++ [(serial, payload)]) ↔
      Orderly backlog arrived ∧ ¬Offends backlog arrived serial := by
  constructor
  · intro orderly
    refine ⟨?_, orderly arrived serial payload [] rfl⟩
    rintro before other content later rfl
    exact orderly before other content (later ++ [(serial, payload)]) (by simp)
  · rintro ⟨orderly, fits⟩ before other content later split
    rcases List.eq_nil_or_concat later with rfl | ⟨front, last, rfl⟩
    · obtain ⟨rfl, same⟩ := List.append_inj' split rfl
      cases same
      exact fits
    · have cut : arrived ++ [(serial, payload)] =
          (before ++ (other, content) :: front) ++ [last] := by
        rw [split]
        simp
      exact orderly before other content front (List.append_inj' cut rfl).1

theorem Orderly.once (orderly : Orderly backlog arrived) : (arrived.map Prod.fst).Nodup := by
  induction arrived using List.reverseRecOn with
  | nil => exact List.nodup_nil
  | append_singleton arrived reply induction =>
      obtain ⟨front, fits⟩ := (orderly_last reply.1 reply.2).mp orderly
      rw [List.map_append, List.nodup_append]
      refine ⟨induction front, List.nodup_singleton _, ?_⟩
      intro serial known last member same
      rw [List.mem_singleton.mp member] at same
      exact fits (.inr (.inl (same ▸ known)))

theorem Gathered.unique (gathered : Gathered arrived payloads) (other : Gathered arrived others)
    (once : (arrived.map Prod.fst).Nodup) : payloads = others := by
  have length := Nat.le_antisymm (gathered.length_le other) (other.length_le gathered)
  have serials : (numbered 1 payloads).map Prod.fst = (numbered 1 others).map Prod.fst := by
    rw [numbered_serials, numbered_serials, length]
  have same : numbered 1 payloads = numbered 1 others := by
    have long : (numbered 1 payloads).length = (numbered 1 others).length := by
      simpa using congrArg List.length serials
    refine List.ext_getElem long fun place inside insideToo => ?_
    have key : (numbered 1 payloads)[place].1 = (numbered 1 others)[place].1 := by
      have keys := congrArg (·[place]?) serials
      simpa [inside, insideToo] using keys
    exact List.inj_on_of_nodup_map once (gathered.came _ (List.getElem_mem inside))
      (other.came _ (List.getElem_mem insideToo)) key
  rw [← numbered_items 1 payloads, same, numbered_items]

theorem Gathered.permuted {further : List (Nat × Bytes)} (gathered : Gathered arrived payloads)
    (same : arrived.Perm further) : Gathered further payloads :=
  ⟨fun reply member => same.mem_iff.mp (gathered.came reply member), fun known =>
    gathered.missing ((same.map Prod.fst).mem_iff.mpr known)⟩

theorem Due.begins {arrivals heard : List (Nat × Bytes)} {ending : Option Failure}
    (due : Due backlog arrivals heard payloads ending) : heard <+: arrivals := by
  rcases due.stops with ⟨rfl, _⟩ | ⟨serial, payload, later, split, _⟩
  · exact List.prefix_rfl
  · exact ⟨_, split.symm⟩

theorem Due.reaches {arrivals heard others : List (Nat × Bytes)} {ending : Option Failure}
    (due : Due backlog arrivals heard payloads ending) (begins : others <+: arrivals)
    (orderly : Orderly backlog others) : others <+: heard := by
  rcases List.prefix_or_prefix_of_prefix begins due.begins with within | beyond
  · exact within
  · obtain ⟨more, rfl⟩ := beyond
    cases more with
    | nil => simp
    | cons reply more =>
        rcases due.stops with ⟨rfl, _⟩ | ⟨serial, payload, later, rfl, offends, _⟩
        · exact begins
        · rw [List.prefix_append_right_inj, List.cons_prefix_cons] at begins
          rw [begins.1] at orderly
          exact absurd offends (orderly heard serial payload more rfl)

theorem Due.unique {arrivals heard further : List (Nat × Bytes)} {ending reason : Option Failure}
    (due : Due backlog arrivals heard payloads ending)
    (other : Due backlog arrivals further others reason) :
    further = heard ∧ others = payloads ∧ reason = ending := by
  have same : further = heard := by
    have one := due.reaches other.begins other.orderly
    have two := other.reaches due.begins due.orderly
    exact one.eq_of_length_le two.length_le
  subst same
  have run := other.gathered.unique due.gathered due.orderly.once
  subst run
  refine ⟨rfl, rfl, ?_⟩
  rcases due.stops with ⟨whole, rfl⟩ | ⟨serial, payload, later, split, _, rfl⟩
  · rcases other.stops with ⟨_, rfl⟩ | ⟨_, _, _, cut, _⟩
    · rfl
    · rw [whole] at cut
      exact absurd (List.self_eq_append_right.mp cut) (List.cons_ne_nil _ _)
  · rcases other.stops with ⟨whole, _⟩ | ⟨offender, _, _, cut, _, rfl⟩
    · rw [whole] at split
      exact absurd (List.self_eq_append_right.mp split) (List.cons_ne_nil _ _)
    · rw [split] at cut
      have heads := List.append_cancel_left cut
      cases heads
      rfl

end Replies

section Runs

def run (delivery : Delivery) : List Event → Option (Delivery × List Deed)
  | [] => some (delivery, [])
  | event :: events => do
      let (middle, deeds) ← delivery.step event
      let (after, further) ← middle.run events
      some (after, deeds ++ further)

def replies (events : List Event) : List (Nat × Bytes) :=
  events.filterMap fun
    | .reply serial payload => some (serial, payload)
    | _ => none

/-- The bytes that the application got. -/
def written (deeds : List Deed) : Bytes :=
  deeds.flatMap fun
    | .write chunk => chunk
    | _ => []

@[simp] theorem replies_append (past events : List Event) :
    replies (past ++ events) = replies past ++ replies events :=
  List.filterMap_append

@[simp] theorem written_append (past deeds : List Deed) :
    written (past ++ deeds) = written past ++ written deeds :=
  List.flatMap_append

theorem run_cons (delivery after : Delivery) (event : Event) (events : List Event)
    (deeds : List Deed) : delivery.run (event :: events) = some (after, deeds) ↔
      ∃ middle first further, delivery.step event = some (middle, first) ∧
        middle.run events = some (after, further) ∧ deeds = first ++ further := by
  cases stepped : delivery.step event with
  | none => simp [run, stepped]
  | some result =>
      rcases result with ⟨middle, first⟩
      cases ran : middle.run events with
      | none => simp [run, stepped, ran]
      | some result =>
          rcases result with ⟨final, rest⟩
          simp [run, stepped, ran, eq_comm]

theorem run_single (delivery after : Delivery) (event : Event) (deeds : List Deed)
    (stepped : delivery.step event = some (after, deeds)) :
    delivery.run [event] = some (after, deeds) :=
  (run_cons _ _ _ _ _).mpr ⟨after, deeds, [], stepped, rfl, (List.append_nil deeds).symm⟩

theorem run_append (delivery middle after : Delivery) (events more : List Event)
    (deeds further : List Deed) (ran : delivery.run events = some (middle, deeds))
    (goesOn : middle.run more = some (after, further)) :
    delivery.run (events ++ more) = some (after, deeds ++ further) := by
  induction events generalizing delivery deeds with
  | nil =>
      cases ran
      exact goesOn
  | cons event events induction =>
      obtain ⟨next, first, rest, stepped, later, rfl⟩ := (run_cons _ _ _ _ _).mp ran
      rw [List.append_assoc]
      exact (run_cons _ _ _ _ _).mpr ⟨next, first, _, stepped, induction next rest later, rfl⟩

theorem ended_stays (delivery : Delivery) (event : Event) (ended : delivery.hasEnded = true) :
    delivery.step event = none := by
  unfold hasEnded at ended
  split at ended
  · rename_i phase
    cases event <;> simp [step, phase]
  · cases ended

/-- What one step can do. An end comes with the same two deeds, whatever it is that ends. -/
inductive Move (delivery : Delivery) : Event → Delivery → List Deed → Prop where
  | order (serial : Nat) (payload : Bytes) (released : List Bytes) (window : SerialWindow Bytes)
      (receiving : delivery.phase = .receiving)
      (pushed : delivery.window.push serial payload = .ok (released, window)) :
      Move delivery (.reply serial payload) ({ delivery with window := window }.next released) []
  | refuse (serial : Nat) (payload : Bytes) (refusal : SerialWindow.Refusal)
      (receiving : delivery.phase = .receiving)
      (refused : delivery.window.push serial payload = .error refusal) :
      Move delivery (.reply serial payload)
        { delivery with phase := .ended (some (.replyGap delivery.window.next serial)) }
        [.endStream, .cancel]
  | finish (receiving : delivery.phase = .receiving) :
      Move delivery .exhausted { delivery with phase := .ended none } [.endStream, .cancel]
  | write (count : Nat) (rest : Bytes) (released : List Bytes)
      (writing : delivery.phase = .writing rest released) (positive : 0 < count)
      (within : count ≤ rest.length) : Move delivery (.wrote count)
        (if rest.drop count = [] then
          { delivery with total := delivery.total + count }.next released
        else
          { delivery with
            total := delivery.total + count
            phase := .writing (rest.drop count) released })
        [.write (rest.take count)]
  | fail (cause : IoFault) (rest : Bytes) (released : List Bytes)
      (writing : delivery.phase = .writing rest released) :
      Move delivery (.failed cause) { delivery with phase := .ended (some (.localIo cause)) }
        [.endStream, .cancel]

theorem refusal_names (window : SerialWindow Bytes) (serial : Nat) (payload : Bytes)
    (refusal : SerialWindow.Refusal) (refused : window.push serial payload = .error refusal) :
    refusal = .duplicate serial window.next ∨ refusal = .tooFarAhead serial window.next := by
  unfold SerialWindow.push at refused
  split_ifs at refused
  · exact .inl (Except.error.inj refused).symm
  · exact .inr (Except.error.inj refused).symm

theorem step_moves (delivery after : Delivery) (event : Event) (deeds : List Deed)
    (stepped : delivery.step event = some (after, deeds)) : Move delivery event after deeds := by
  rcases delivery with ⟨window, phase, total⟩
  cases event with
  | reply serial payload =>
      cases phase with
      | receiving =>
          simp only [step] at stepped
          cases pushed : window.push serial payload with
          | ok result =>
              rw [pushed] at stepped
              cases stepped
              exact .order serial payload result.1 result.2 rfl pushed
          | error refusal =>
              have refused := refusal_names window serial payload refusal pushed
              rw [pushed] at stepped
              rcases refused with rfl | rfl
              · cases stepped
                exact .refuse serial payload _ rfl pushed
              · cases stepped
                exact .refuse serial payload _ rfl pushed
      | writing rest released => cases stepped
      | ended failure => cases stepped
  | exhausted =>
      cases phase with
      | receiving =>
          cases stepped
          exact .finish rfl
      | writing rest released => cases stepped
      | ended failure => cases stepped
  | wrote count =>
      cases phase with
      | receiving => cases stepped
      | writing rest released =>
          simp only [step] at stepped
          split_ifs at stepped with fits done
          all_goals
            have moved : Move ⟨window, .writing rest released, total⟩ (.wrote count) _ _ :=
              .write count rest released rfl fits.1 fits.2
            simp only [done, if_true, if_false] at moved
            cases stepped
            exact moved
      | ended failure => cases stepped
  | failed cause =>
      cases phase with
      | receiving => cases stepped
      | writing rest released =>
          cases stepped
          exact .fail cause rest released rfl
      | ended failure => cases stepped

end Runs

/-- A writer that is not through: what it was given so far is written, about to be written, or
waits for a serial that is missing. -/
structure Ordered (backlog : Nat) (delivery : Delivery) (arrived : List (Nat × Bytes))
    (output : Bytes) (payloads : List Bytes) : Prop where
  next : delivery.window.next = payloads.length + 1
  ahead : delivery.window.ahead = backlog
  tidy : delivery.window.Tidy
  shares : arrived.Perm (numbered 1 payloads ++ delivery.window.early)
  orderly : Orderly backlog arrived
  running : delivery.hasEnded = false
  written : Written delivery payloads output
  busy : ∀ rest released, delivery.phase = .writing rest released → rest ≠ []

section Steps

variable {backlog : Nat} {delivery : Delivery} {arrived : List (Nat × Bytes)} {output : Bytes}
variable {payloads : List Bytes}

theorem next_busy (delivery : Delivery) (released more : List Bytes) (rest : Bytes)
    (writing : (delivery.next released).phase = .writing rest more) : rest ≠ [] := by
  induction released with
  | nil => cases writing
  | cons payload released induction =>
      rw [Delivery.next] at writing
      split_ifs at writing with empty
      · exact induction writing
      · cases writing
        exact empty

theorem next_running (delivery : Delivery) (released : List Bytes) :
    (delivery.next released).hasEnded = false := by
  cases phase : (delivery.next released).phase with
  | ended failure => exact absurd phase (Connection.next_runs delivery released failure)
  | receiving => simp [hasEnded, phase]
  | writing rest more => simp [hasEnded, phase]

theorem Ordered.issued (ordered : Ordered backlog delivery arrived output payloads) :
    payloads.take (delivery.window.next - 1) = payloads := by
  rw [ordered.next, Nat.add_sub_cancel, List.take_length]

theorem Ordered.received (ordered : Ordered backlog delivery arrived output payloads)
    (receiving : delivery.phase = .receiving) : output = payloads.flatten := by
  have progress := ordered.written
  rw [Written, receiving] at progress
  simp only at progress
  rwa [ordered.issued] at progress

theorem Ordered.gathered (ordered : Ordered backlog delivery arrived output payloads) :
    Gathered arrived payloads := by
  constructor
  · exact fun reply member => ordered.shares.mem_iff.mpr (List.mem_append_left _ member)
  · intro known
    obtain ⟨reply, member, serial⟩ := List.mem_map.mp known
    rcases List.mem_append.mp (ordered.shares.mem_iff.mp member) with written | waiting
    · have bound := numbered_bounds 1 payloads reply written
      omega
    · have later := ordered.tidy.later reply waiting
      have next := ordered.next
      omega

theorem Ordered.came_iff (ordered : Ordered backlog delivery arrived output payloads)
    (serial : Nat) : serial ∈ arrived.map Prod.fst ↔
      (1 ≤ serial ∧ serial < delivery.window.next) ∨
        ∃ entry ∈ delivery.window.early, entry.1 = serial := by
  have next := ordered.next
  rw [(ordered.shares.map Prod.fst).mem_iff, List.map_append, List.mem_append, numbered_serials,
    List.mem_range'_1, List.mem_map]
  refine or_congr ?_ Iff.rfl
  omega

theorem Ordered.refuses_iff (ordered : Ordered backlog delivery arrived output payloads)
    (serial : Nat) (payload : Bytes) : Offends backlog arrived serial ↔
      ∃ refusal, delivery.window.push serial payload = .error refusal := by
  have next := ordered.next
  have ahead := ordered.ahead
  constructor
  · intro offends
    cases pushed : delivery.window.push serial payload with
    | error refusal => exact ⟨refusal, rfl⟩
    | ok result =>
        have push := SerialWindow.push_spec _ _ _ _ _ ordered.tidy pushed
        have lower := push.lower
        have upper := push.upper
        exfalso
        rcases offends with zero | known | ⟨others, gathered, far⟩
        · omega
        · rcases (ordered.came_iff serial).mp known with before | ⟨entry, member, same⟩
          · omega
          · exact push.fresh entry member same
        · have same := gathered.length_le ordered.gathered
          have sameToo := ordered.gathered.length_le gathered
          omega
  · rintro ⟨refusal, refused⟩
    by_contra fits
    simp only [Offends, not_or, not_exists, not_and] at fits
    obtain ⟨positive, fresh, near⟩ := fits
    have close := near payloads ordered.gathered
    rw [ordered.came_iff] at fresh
    simp only [not_or, not_exists, not_and] at fresh
    obtain ⟨released, after, pushed⟩ := SerialWindow.push_succeeds delivery.window serial payload
      (by omega) (by omega) fresh.2
    rw [pushed] at refused
    cases refused

theorem Ordered.order (ordered : Ordered backlog delivery arrived output payloads) (serial : Nat)
    (payload : Bytes) (released : List Bytes) (window : SerialWindow Bytes)
    (receiving : delivery.phase = .receiving)
    (pushed : delivery.window.push serial payload = .ok (released, window)) :
    Ordered backlog ({ delivery with window := window }.next released)
      (arrived ++ [(serial, payload)]) output (payloads ++ released) := by
  have push := SerialWindow.push_spec _ _ _ _ _ ordered.tidy pushed
  have same : ({ delivery with window := window }.next released).window = window :=
    next_window _ _
  have counted : window.next = (payloads ++ released).length + 1 := by
    rw [push.next, ordered.next, List.length_append]
    omega
  have fits : ¬Offends backlog arrived serial := by
    rw [ordered.refuses_iff serial payload, pushed]
    simp
  constructor
  · rw [same, counted]
  · rw [same, push.ahead, ordered.ahead]
  · rw [same]
    exact push.tidy
  · -- The released run and those that wait now are those that waited and the new reply.
    have split := push.split
    rw [ordered.next, Nat.add_comm] at split
    rw [same, numbered_append, List.append_assoc]
    calc
      (arrived ++ [(serial, payload)]).Perm
          ((numbered 1 payloads ++ delivery.window.early) ++ [(serial, payload)]) :=
        ordered.shares.append_right _
      _ = numbered 1 payloads ++ (delivery.window.early ++ [(serial, payload)]) :=
        List.append_assoc ..
      List.Perm _ (numbered 1 payloads ++ ((serial, payload) :: delivery.window.early)) :=
        (List.perm_append_singleton _ _).append_left _
      List.Perm _ _ := split.symm.append_left _
  · exact (orderly_last serial payload).mpr ⟨ordered.orderly, fits⟩
  · exact next_running _ _
  · apply next_written
    show _ = ((payloads ++ released).take (window.next - 1)).flatten
    rw [ordered.received receiving, counted, Nat.add_sub_cancel, List.take_length,
      List.flatten_append]
  · exact fun rest more writing => next_busy _ released more rest writing

theorem Ordered.write (ordered : Ordered backlog delivery arrived output payloads) (count : Nat)
    (rest : Bytes) (released : List Bytes) (writing : delivery.phase = .writing rest released) :
    Ordered backlog
      (if rest.drop count = [] then
        { delivery with total := delivery.total + count }.next released
      else
        { delivery with
          total := delivery.total + count
          phase := .writing (rest.drop count) released })
      arrived (output ++ rest.take count) payloads := by
  have window : (if rest.drop count = [] then
      { delivery with total := delivery.total + count }.next released
    else
      { delivery with
        total := delivery.total + count
        phase := .writing (rest.drop count) released }).window = delivery.window := by
    split_ifs
    · exact next_window _ _
    · rfl
  have progress := ordered.written
  rw [Written, writing] at progress
  simp only at progress
  have split := List.take_append_drop count rest
  constructor
  · rw [window]
    exact ordered.next
  · rw [window]
    exact ordered.ahead
  · rw [window]
    exact ordered.tidy
  · rw [window]
    exact ordered.shares
  · exact ordered.orderly
  · split_ifs
    · exact next_running _ _
    · rfl
  · split_ifs with done
    · apply next_written
      rw [done, List.append_nil] at split
      rw [split]
      exact progress
    · show _ ++ rest.take count ++ rest.drop count ++ released.flatten = _
      rw [List.append_assoc output, split]
      exact progress
  · intro left more same
    split_ifs at same with done
    · exact next_busy _ released more left same
    · cases same
      exact done

theorem of_backlog_ahead (backlog : Nat) (fits : backlog + 1 < 2 ^ 64) :
    (ofBacklog backlog).window.ahead = backlog := by
  have width : (UInt64.ofNat backlog + 1).toNat = backlog + 1 := by
    simp only [UInt64.toNat_add, UInt64.toNat_ofNat', UInt64.toNat_one]
    omega
  exact (congrArg (· - 1) width).trans (Nat.add_sub_cancel backlog 1)

theorem of_backlog_ordered (backlog : Nat) (fits : backlog + 1 < 2 ^ 64) :
    Ordered backlog (ofBacklog backlog) [] [] [] :=
  ⟨rfl, of_backlog_ahead backlog fits, SerialWindow.of_width_tidy 1 _, List.Perm.refl _,
    orderly_nil backlog, rfl, rfl, fun _ _ writing => nomatch writing⟩

end Steps

section Course

/-- Where a run stands after these events, with these bytes written. -/
inductive Course (backlog : Nat) (past : List Event) (delivery : Delivery) (output : Bytes) :
    Prop where
  | running (payloads : List Bytes)
      (ordered : Ordered backlog delivery (replies past) output payloads)
  | through (payloads : List Bytes) (orderly : Orderly backlog (replies past))
      (gathered : Gathered (replies past) payloads) (all : output = payloads.flatten)
      (told : .exhausted ∈ past) (phase : delivery.phase = .ended none)
  | gap (heard : List (Nat × Bytes)) (serial : Nat) (payload : Bytes) (payloads : List Bytes)
      (last : replies past = heard ++ [(serial, payload)]) (orderly : Orderly backlog heard)
      (gathered : Gathered heard payloads) (offends : Offends backlog heard serial)
      (all : output = payloads.flatten)
      (phase : delivery.phase = .ended (some (.replyGap (payloads.length + 1) serial)))
  | broken (cause : IoFault) (told : .failed cause ∈ past)
      (phase : delivery.phase = .ended (some (.localIo cause)))

variable {backlog : Nat} {delivery after : Delivery} {past : List Event} {output : Bytes}

theorem Course.in_order (course : Course backlog past delivery output)
    (running : delivery.hasEnded = false) :
    ∃ payloads, Ordered backlog delivery (replies past) output payloads := by
  cases course with
  | running payloads ordered => exact ⟨payloads, ordered⟩
  | through payloads orderly gathered all told phase => simp [hasEnded, phase] at running
  | gap heard serial payload payloads last orderly gathered offends all phase =>
      simp [hasEnded, phase] at running
  | broken cause told phase => simp [hasEnded, phase] at running

theorem ordered_moves {event : Event} {deeds : List Deed} {payloads : List Bytes}
    (ordered : Ordered backlog delivery (replies past) output payloads)
    (move : Move delivery event after deeds) :
    Course backlog (past ++ [event]) after (output ++ written deeds) := by
  have told : event ∈ past ++ [event] := List.mem_append_right _ (List.mem_singleton_self event)
  cases move with
  | order serial payload released window receiving pushed =>
      refine .running (payloads ++ released) ?_
      rw [replies_append]
      simpa [replies, written] using ordered.order serial payload released window receiving pushed
  | refuse serial payload refusal receiving refused =>
      have last : replies (past ++ [.reply serial payload]) = replies past ++ [(serial, payload)] :=
        replies_append _ _
      refine .gap (replies past) serial payload payloads last ordered.orderly ordered.gathered
        ((ordered.refuses_iff serial payload).mpr ⟨refusal, refused⟩) ?_ (by rw [ordered.next])
      simpa [written] using ordered.received receiving
  | finish receiving =>
      have same : replies (past ++ [.exhausted]) = replies past := by simp [replies]
      refine .through payloads (same ▸ ordered.orderly) (same ▸ ordered.gathered) ?_ told rfl
      simpa [written] using ordered.received receiving
  | write count rest released writing positive within =>
      refine .running payloads ?_
      rw [replies_append]
      simpa [replies, written] using ordered.write count rest released writing
  | fail cause rest released writing => exact .broken cause told rfl

theorem Course.step {event : Event} {deeds : List Deed}
    (course : Course backlog past delivery output)
    (stepped : delivery.step event = some (after, deeds)) :
    Course backlog (past ++ [event]) after (output ++ written deeds) := by
  have running : delivery.hasEnded = false := by
    by_contra ended
    rw [ended_stays delivery event (by simpa using ended)] at stepped
    cases stepped
  obtain ⟨payloads, ordered⟩ := course.in_order running
  exact ordered_moves ordered (step_moves _ _ _ _ stepped)

theorem Course.run {events : List Event} {deeds : List Deed}
    (course : Course backlog past delivery output)
    (ran : delivery.run events = some (after, deeds)) :
    Course backlog (past ++ events) after (output ++ written deeds) := by
  induction events generalizing past delivery output deeds with
  | nil =>
      cases ran
      simpa [written] using course
  | cons event events induction =>
      obtain ⟨middle, first, further, stepped, later, rfl⟩ := (run_cons _ _ _ _ _).mp ran
      have reached := induction (course.step stepped) later
      simpa [List.append_assoc] using reached

theorem run_course {events : List Event} {deeds : List Deed} (fits : backlog + 1 < 2 ^ 64)
    (ran : (ofBacklog backlog).run events = some (after, deeds)) :
    Course backlog events after (written deeds) :=
  have start : Course backlog [] (ofBacklog backlog) [] :=
    .running [] (of_backlog_ordered backlog fits)
  start.run ran

/-- Nothing but writes, and last the stream is ended and the connection cancelled. -/
def Closed (deeds : List Deed) : Prop :=
  ∃ chunks : List Bytes, deeds = chunks.map .write ++ [.endStream, .cancel]

theorem ended_run_closes {events : List Event} {deeds : List Deed}
    (running : delivery.hasEnded = false) (ran : delivery.run events = some (after, deeds))
    (ended : after.hasEnded = true) : Closed deeds := by
  induction events generalizing delivery deeds with
  | nil =>
      cases ran
      rw [running] at ended
      cases ended
  | cons event events induction =>
      obtain ⟨middle, first, further, stepped, later, rfl⟩ := (run_cons _ _ _ _ _).mp ran
      have closing : middle.hasEnded = true → first = [.endStream, .cancel] →
          Closed (first ++ further) := by
        rintro ended rfl
        cases events with
        | nil =>
            cases later
            exact ⟨[], rfl⟩
        | cons event events =>
            obtain ⟨_, _, _, stepped, _⟩ := (run_cons _ _ _ _ _).mp later
            rw [ended_stays middle event ended] at stepped
            cases stepped
      cases step_moves _ _ _ _ stepped with
      | order serial payload released window receiving pushed =>
          exact induction (next_running _ _) later
      | refuse serial payload refusal receiving refused => exact closing rfl rfl
      | finish receiving => exact closing rfl rfl
      | write count rest released writing positive within =>
          have goesOn : Closed further := by
            refine induction ?_ later
            split_ifs
            · exact next_running _ _
            · rfl
          obtain ⟨chunks, rfl⟩ := goesOn
          exact ⟨rest.take count :: chunks, rfl⟩
      | fail cause rest released writing => exact closing rfl rfl

end Course

/-- What surrounds a writer whose application takes every write: it is given the replies in the
order of their arrival, and hears that there are no more only when it has got them all. -/
structure Served (arrivals : List (Nat × Bytes)) (events : List Event) : Prop where
  given : replies events <+: arrivals
  exhausted : .exhausted ∈ events → replies events = arrivals
  accepting : ∀ cause, .failed cause ∉ events

section Completion

variable {rest : List (Nat × Bytes)} {events more : List Event}

theorem Served.goes_on {arrivals : List (Nat × Bytes)} (served : Served arrivals events)
    (split : arrivals = replies events ++ rest) (further : Served rest more) :
    Served arrivals (events ++ more) := by
  refine ⟨?_, ?_, ?_⟩
  · rw [split, replies_append]
    exact (List.prefix_append_right_inj _).mpr further.given
  · intro told
    rw [replies_append]
    rcases List.mem_append.mp told with before | after
    · -- Those who heard of the end before get nothing more.
      have none : rest = [] := by
        have all := served.exhausted before
        rw [split] at all
        exact List.self_eq_append_right.mp all
      have given := further.given
      rw [none, List.prefix_nil] at given
      rw [given, List.append_nil]
      exact served.exhausted before
    · rw [further.exhausted after, split]
  · intro cause told
    rcases List.mem_append.mp told with before | after
    · exact served.accepting cause before
    · exact further.accepting cause after

theorem Served.after_writes {writes : List Nat} (served : Served rest more) :
    Served rest (writes.map .wrote ++ more) := by
  have silent : replies (writes.map .wrote) = [] := by
    simp [replies, List.filterMap_map]
  refine ⟨?_, ?_, ?_⟩
  · rw [replies_append, silent]
    exact served.given
  · intro told
    rw [replies_append, silent]
    exact served.exhausted (by simpa using told)
  · intro cause told
    exact served.accepting cause (by simpa using told)

theorem Served.after_reply (served : Served rest more) (serial : Nat) (payload : Bytes) :
    Served ((serial, payload) :: rest) (.reply serial payload :: more) := by
  refine ⟨?_, ?_, ?_⟩
  · exact (List.prefix_cons_inj _).mpr served.given
  · intro told
    have all := served.exhausted (by simpa using told)
    simp [replies, ← all]
  · intro cause told
    exact served.accepting cause (by simpa using told)

theorem released_get_written (delivery : Delivery) (released : List Bytes) :
    ∃ (writes : List Nat) (after : Delivery) (deeds : List Deed),
      (delivery.next released).run (writes.map .wrote) = some (after, deeds) ∧
        after.phase = .receiving := by
  induction released generalizing delivery with
  | nil => exact ⟨[], _, [], rfl, rfl⟩
  | cons payload released induction =>
      rw [next]
      split_ifs with empty
      · exact induction delivery
      · obtain ⟨writes, after, deeds, ran, receiving⟩ := induction
          { delivery with
            phase := .writing payload released
            total := delivery.total + payload.length }
        have stepped : step { delivery with phase := .writing payload released }
            (.wrote payload.length) = some (next
              { delivery with
                phase := .writing payload released
                total := delivery.total + payload.length } released, [.write payload]) := by
          simp [step, List.length_pos_iff.mpr empty]
        exact ⟨payload.length :: writes, after, _,
          (run_cons _ _ _ _ _).mpr ⟨_, _, deeds, stepped, ran, rfl⟩, receiving⟩

/-- The writer can come to an end with the replies that are left. -/
def Ends (delivery : Delivery) (rest : List (Nat × Bytes)) : Prop :=
  ∃ more final further, Served rest more ∧ delivery.run more = some (final, further) ∧
    final.hasEnded = true

theorem written_ends (delivery : Delivery) (released : List Bytes)
    (ends : ∀ after : Delivery, after.phase = .receiving → Ends after rest) :
    Ends (delivery.next released) rest := by
  obtain ⟨writes, after, deeds, ran, receiving⟩ := released_get_written delivery released
  obtain ⟨more, final, further, served, later, ended⟩ := ends after receiving
  exact ⟨_, final, _, served.after_writes, run_append _ _ _ _ _ _ _ ran later, ended⟩

theorem receiving_ends (delivery : Delivery) (rest : List (Nat × Bytes))
    (receiving : delivery.phase = .receiving) : Ends delivery rest := by
  induction rest generalizing delivery with
  | nil =>
      have served : Served [] [.exhausted] := ⟨List.prefix_rfl, fun _ => rfl, by simp⟩
      have stepped : delivery.step .exhausted = some (delivery.stop none) := by
        simp [step, receiving]
      exact ⟨_, _, _, served, run_single _ _ _ _ stepped, rfl⟩
  | cons reply rest induction =>
      rcases reply with ⟨serial, payload⟩
      cases pushed : delivery.window.push serial payload with
      | ok result =>
          obtain ⟨more, final, further, served, ran, ended⟩ :=
            written_ends { delivery with window := result.2 } result.1 induction
          have stepped : delivery.step (.reply serial payload) =
              some ({ delivery with window := result.2 }.next result.1, []) := by
            simp [step, receiving, pushed]
          exact ⟨_, final, _, served.after_reply serial payload,
            (run_cons _ _ _ _ _).mpr ⟨_, _, further, stepped, ran, rfl⟩, ended⟩
      | error refusal =>
          have served : Served ((serial, payload) :: rest) [.reply serial payload] :=
            ⟨by simp [replies], by simp, by simp⟩
          have refused := refusal_names delivery.window serial payload refusal pushed
          have stepped : delivery.step (.reply serial payload) =
              some (delivery.stop (some (.replyGap delivery.window.next serial))) := by
            rcases refused with rfl | rfl <;> simp [step, receiving, pushed]
          exact ⟨_, _, _, served, run_single _ _ _ _ stepped, rfl⟩

theorem Ordered.ends {backlog : Nat} {delivery : Delivery} {arrived : List (Nat × Bytes)}
    {output : Bytes} {payloads : List Bytes}
    (ordered : Ordered backlog delivery arrived output payloads) (rest : List (Nat × Bytes)) :
    Ends delivery rest := by
  cases phase : delivery.phase with
  | receiving => exact receiving_ends delivery rest phase
  | writing left released =>
      have resumed : delivery.next (left :: released) = delivery := by
        rw [Delivery.next, if_neg (ordered.busy left released phase), ← phase]
      rw [← resumed]
      exact written_ends delivery _ fun after => receiving_ends after rest
  | ended failure =>
      have running := ordered.running
      simp [hasEnded, phase] at running

end Completion

section Outcome

variable {backlog : Nat} {arrivals : List (Nat × Bytes)} {events : List Event}
variable {delivery : Delivery} {deeds : List Deed}

theorem Served.due (served : Served arrivals events) (fits : backlog + 1 < 2 ^ 64)
    (ran : (ofBacklog backlog).run events = some (delivery, deeds))
    (ended : delivery.hasEnded = true) : ∃ heard payloads ending,
      Due backlog arrivals heard payloads ending ∧ delivery.phase = .ended ending ∧
        written deeds = payloads.flatten := by
  cases run_course fits ran with
  | running payloads ordered =>
      rw [ordered.running] at ended
      cases ended
  | through payloads orderly gathered all told phase =>
      have whole := served.exhausted told
      exact ⟨_, payloads, none, ⟨orderly, gathered, .inl ⟨whole, rfl⟩⟩, phase, all⟩
  | gap heard serial payload payloads last orderly gathered offends all phase =>
      obtain ⟨later, split⟩ := served.given
      rw [last, List.append_assoc] at split
      exact ⟨heard, payloads, _,
        ⟨orderly, gathered, .inr ⟨serial, payload, later, split.symm, offends, rfl⟩⟩, phase, all⟩
  | broken cause told phase => exact absurd told (served.accepting cause)

theorem Served.continues (served : Served arrivals events) (fits : backlog + 1 < 2 ^ 64)
    (ran : (ofBacklog backlog).run events = some (delivery, deeds)) : ∃ more final further,
      Served arrivals (events ++ more) ∧ delivery.run more = some (final, further) ∧
        final.hasEnded = true := by
  cases ended : delivery.hasEnded with
  | true => exact ⟨[], delivery, [], by rwa [List.append_nil], rfl, ended⟩
  | false =>
      obtain ⟨payloads, ordered⟩ := (run_course fits ran).in_order ended
      obtain ⟨rest, split⟩ := served.given
      obtain ⟨more, final, further, serves, later, ends⟩ := ordered.ends rest
      exact ⟨more, final, further, served.goes_on split.symm serves, later, ends⟩

theorem exists_due (backlog : Nat) (arrivals : List (Nat × Bytes)) (fits : backlog + 1 < 2 ^ 64) :
    ∃ heard payloads ending, Due backlog arrivals heard payloads ending := by
  have nothing : Served arrivals [] := ⟨List.nil_prefix, nofun, by simp⟩
  have start : (ofBacklog backlog).run [] = some (ofBacklog backlog, []) := rfl
  obtain ⟨events, final, deeds, served, ran, ended⟩ := nothing.continues fits start
  obtain ⟨heard, payloads, ending, due, _⟩ := served.due fits ran ended
  exact ⟨heard, payloads, ending, due⟩

theorem whole_due {heard : List (Nat × Bytes)} {payloads : List Bytes} {ending : Option Failure}
    (due : Due backlog arrivals heard payloads ending) (orderly : Orderly backlog arrivals) :
    heard = arrivals :=
  due.begins.eq_of_length_le (due.reaches List.prefix_rfl orderly).length_le

/-- What the writer writes depends on the replies and on the order of their arrival alone, not on
how the application cuts the writing into pieces. The replies say what is due, in one way only, and
a run writes no more than that. A run that has got a reply too many has ended; one that has ended
did so for the reason that is due and wrote all that is due; and any other can go on until it ends.
Where no reply offends, the order of arrival does not matter either. And however a run ends, also by
a write that fails, the stream is ended, the connection cancelled, and nothing happens after. -/
theorem replies_written_in_order (backlog : Nat) (arrivals : List (Nat × Bytes))
    (fits : backlog + 1 < 2 ^ 64) :
    (∃ heard payloads ending, Due backlog arrivals heard payloads ending ∧
      (∀ others run reason, Due backlog arrivals others run reason →
        others = heard ∧ run = payloads ∧ reason = ending) ∧
      ∀ events delivery deeds, Served arrivals events →
        (ofBacklog backlog).run events = some (delivery, deeds) →
          written deeds <+: payloads.flatten ∧
          (heard.length < (replies events).length → delivery.hasEnded = true) ∧
          (delivery.hasEnded = true →
            delivery.phase = .ended ending ∧ written deeds = payloads.flatten) ∧
          ∃ more final further, Served arrivals (events ++ more) ∧
            delivery.run more = some (final, further) ∧ final.hasEnded = true) ∧
    (∀ others, arrivals.Perm others → Orderly backlog arrivals → Orderly backlog others →
      ∀ events delivery deeds further final acts, Served arrivals events → Served others further →
        (ofBacklog backlog).run events = some (delivery, deeds) → delivery.hasEnded = true →
        (ofBacklog backlog).run further = some (final, acts) → final.hasEnded = true →
          written deeds = written acts) ∧
    ∀ events delivery deeds, (ofBacklog backlog).run events = some (delivery, deeds) →
      delivery.hasEnded = true → Closed deeds ∧ ∀ event, delivery.step event = none := by
  refine ⟨?_, ?_, ?_⟩
  · obtain ⟨heard, payloads, ending, due⟩ := exists_due backlog arrivals fits
    refine ⟨heard, payloads, ending, due, fun _ _ _ other => due.unique other, ?_⟩
    intro events delivery deeds served ran
    have outcome : delivery.hasEnded = true →
        delivery.phase = .ended ending ∧ written deeds = payloads.flatten := by
      intro ended
      obtain ⟨_, _, _, other, phase, all⟩ := served.due fits ran ended
      obtain ⟨_, rfl, rfl⟩ := due.unique other
      exact ⟨phase, all⟩
    obtain ⟨more, final, further, serves, later, ends⟩ := served.continues fits ran
    refine ⟨?_, ?_, outcome, more, final, further, serves, later, ends⟩
    · have whole := run_append _ _ _ _ _ _ _ ran later
      obtain ⟨_, _, _, other, _, all⟩ := serves.due fits whole ends
      obtain ⟨_, rfl, _⟩ := due.unique other
      rw [written_append] at all
      exact ⟨written further, all⟩
    · intro beyond
      by_contra running
      obtain ⟨others, ordered⟩ := (run_course fits ran).in_order (Bool.eq_false_iff.mpr running)
      have within := (due.reaches served.given ordered.orderly).length_le
      omega
  · intro others same orderly orderlyToo events delivery deeds further final acts served servedToo
      ran ended ranToo endedToo
    obtain ⟨heard, payloads, _, due, _, all⟩ := served.due fits ran ended
    obtain ⟨heardToo, run, _, dueToo, _, allToo⟩ := servedToo.due fits ranToo endedToo
    have gathered := due.gathered
    have gatheredToo := dueToo.gathered
    rw [whole_due due orderly] at gathered
    rw [whole_due dueToo orderlyToo] at gatheredToo
    rw [all, allToo, (gathered.permuted same).unique gatheredToo orderlyToo.once]
  · intro events delivery deeds ran ended
    exact ⟨ended_run_closes rfl ran ended, fun event => ended_stays delivery event ended⟩

/-- The second reply comes first and waits for the first one; the application takes both. -/
theorem two_swapped_get_written :
    8 + 1 < 2 ^ 64 ∧ ∃ heard payloads ending,
      Due 8 [(2, [98]), (1, [97])] heard payloads ending ∧ ending = none ∧
        payloads.flatten = [97, 98] := by
  have fits : 8 + 1 < 2 ^ 64 := by decide
  obtain ⟨⟨heard, payloads, ending, due, _, outcome⟩, _⟩ :=
    replies_written_in_order 8 [(2, [98]), (1, [97])] fits
  have served : Served [(2, [98]), (1, [97])]
      [.reply 2 [98], .reply 1 [97], .wrote 1, .wrote 1, .exhausted] :=
    ⟨List.prefix_rfl, fun _ => rfl, by simp⟩
  obtain ⟨_, _, ended, _⟩ := outcome _ _ _ served rfl
  obtain ⟨phase, all⟩ := ended rfl
  exact ⟨fits, heard, payloads, ending, due, by injection phase.symm, all.symm⟩

/-- A reply under serial zero was neither written nor does it wait, nor is it too far ahead. It ends
the writer all the same, before the reply that would be next. And where a serial comes twice, the
order of arrival does matter, also if no reply is too far ahead. The greatest backlog leaves a
window that lets no reply wait at all. -/
theorem zero_serial_ends_writer :
    (∃ delivery, (ofBacklog 8).run [.reply 0 [120]] = some (delivery, [.endStream, .cancel]) ∧
      delivery.phase = .ended (some (.replyGap 1 0)) ∧
      delivery.step (.reply 1 [97]) = none ∧
      0 ∉ ([] : List (Nat × Bytes)).map Prod.fst ∧
      ∀ payloads, Gathered [] payloads → ¬payloads.length + 1 + 8 < 0) ∧
    (∃ delivery deeds final acts,
      (ofBacklog 8).run [.reply 1 [97], .wrote 1, .reply 1 [98]] = some (delivery, deeds) ∧
      delivery.hasEnded = true ∧ written deeds = [97] ∧
      (ofBacklog 8).run [.reply 1 [97], .wrote 1, .reply 2 [99], .wrote 1, .reply 1 [98]] =
        some (final, acts) ∧
      final.hasEnded = true ∧ written acts = [97, 99]) ∧
    ∃ delivery, (ofBacklog (2 ^ 64 - 1)).run [.reply 2 [98]] =
        some (delivery, [.endStream, .cancel]) ∧
      delivery.phase = .ended (some (.replyGap 1 2)) :=
  ⟨⟨_, rfl, rfl, rfl, by decide, fun _ _ => Nat.not_lt_zero _⟩,
    ⟨_, _, _, _, rfl, rfl, rfl, rfl, rfl, rfl⟩, _, rfl, rfl⟩

end Outcome

end HttpTunnel.Client.Delivery
