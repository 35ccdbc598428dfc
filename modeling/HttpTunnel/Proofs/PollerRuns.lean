import HttpTunnel.Proofs.ParkedRequests
import HttpTunnel.Proofs.PollerPartings
import Mathlib.Data.List.Nodup

/-!
Runs of a poller. Packets are delivered to it and events come to it, in any order and at any
moments, while clients hang up as they like. A run has a trace, which says what came of each
happening; what every turn keeps holds at the end of all runs.
-/

namespace HttpTunnel.Server.Poller

inductive Happening where
  | deliver (packet : Packet)
  | event (moment : Moment) (event : Event)

inductive Entry where
  | delivered (packet : Packet) (delivery : Delivery)
  | stepped (moment : Moment) (event : Event) (before after : Poller) (deeds : List Deed)

def happen (poller : Poller) : Happening → Option (Poller × Entry)
  | .deliver packet =>
      let (delivery, after) := poller.deliver packet
      some (after, .delivered packet delivery)
  | .event moment event =>
      (poller.step moment event).map fun (after, deeds) =>
        (after, .stepped moment event poller after deeds)

def run (poller : Poller) : List Happening → Option (Poller × List Entry)
  | [] => some (poller, [])
  | happening :: script => do
      let (middle, entry) ← poller.happen happening
      let (after, trace) ← middle.run script
      return (after, entry :: trace)

section Trace

/-- The packets that were delivered to the poller and accepted. -/
def accepted (trace : List Entry) : List Packet :=
  trace.filterMap fun
    | .delivered packet .queued => some packet
    | _ => none

def received (trace : List Entry) : Bytes :=
  trace.flatMap fun
    | .stepped _ event _ _ _ => event.brings
    | _ => []

def deedsOf (trace : List Entry) : List Deed :=
  trace.flatMap fun
    | .stepped _ _ _ _ deeds => deeds
    | _ => []

/-- The deeds of a poller that goes on taking packets in. -/
def served (trace : List Entry) : List Deed :=
  trace.flatMap fun
    | .stepped _ _ _ after deeds => if after.phase.live then deeds else []
    | _ => []

/-- The deeds since the poller takes no packets in any more. -/
def closing (trace : List Entry) : List Deed :=
  trace.flatMap fun
    | .stepped _ _ _ after deeds => if after.phase.live then [] else deeds
    | _ => []

/-- The packets that came to a place of the poller and were there at the end of a step, each with
the instant of that step. -/
def newcomers (place : Poller → List Packet) (trace : List Entry) : List (Nat × Packet) :=
  trace.flatMap fun
    | .stepped moment _ before after _ =>
        ((place after).filter fun packet => packet ∉ place before).map fun packet =>
          (moment.now, packet)
    | _ => []

/-- The requests that were parked and stayed so to the end of a step, each with the instant of
that step. -/
def parkings (trace : List Entry) : List (Nat × Packet) :=
  trace.flatMap fun
    | .stepped moment _ before after _ =>
        (after.parked.filter fun packet => packet ∉ before.parked).map fun packet =>
          (moment.now, packet)
    | _ => []

variable (trace further : List Entry) (place : Poller → List Packet)

@[simp] theorem accepted_append :
    accepted (trace ++ further) = accepted trace ++ accepted further :=
  List.filterMap_append

@[simp] theorem received_append :
    received (trace ++ further) = received trace ++ received further :=
  List.flatMap_append

@[simp] theorem deeds_of_append :
    deedsOf (trace ++ further) = deedsOf trace ++ deedsOf further :=
  List.flatMap_append

@[simp] theorem served_append :
    served (trace ++ further) = served trace ++ served further :=
  List.flatMap_append

@[simp] theorem closing_append :
    closing (trace ++ further) = closing trace ++ closing further :=
  List.flatMap_append

@[simp] theorem newcomers_append :
    newcomers place (trace ++ further) = newcomers place trace ++ newcomers place further :=
  List.flatMap_append

@[simp] theorem parkings_append :
    parkings (trace ++ further) = parkings trace ++ parkings further :=
  newcomers_append trace further Poller.parked

end Trace

section Delivered

variable (trace : List Entry) (packet : Packet) (delivery : Delivery)

@[simp] theorem received_delivered :
    received (trace ++ [.delivered packet delivery]) = received trace := by
  rw [received_append]
  exact List.append_nil _

@[simp] theorem deeds_of_delivered :
    deedsOf (trace ++ [.delivered packet delivery]) = deedsOf trace := by
  rw [deeds_of_append]
  exact List.append_nil _

@[simp] theorem served_delivered :
    served (trace ++ [.delivered packet delivery]) = served trace := by
  rw [served_append]
  exact List.append_nil _

@[simp] theorem closing_delivered :
    closing (trace ++ [.delivered packet delivery]) = closing trace := by
  rw [closing_append]
  exact List.append_nil _

@[simp] theorem newcomers_delivered (place : Poller → List Packet) :
    newcomers place (trace ++ [.delivered packet delivery]) = newcomers place trace := by
  rw [newcomers_append]
  exact List.append_nil _

@[simp] theorem parkings_delivered :
    parkings (trace ++ [.delivered packet delivery]) = parkings trace :=
  newcomers_delivered trace packet delivery Poller.parked

theorem accepted_other (other : delivery ≠ .queued) :
    accepted (trace ++ [.delivered packet delivery]) = accepted trace := by
  rw [accepted_append]
  cases delivery with
  | queued => exact absurd rfl other
  | _ => exact List.append_nil _

end Delivered

section Stepped

variable (trace : List Entry) (moment : Moment) (event : Event) (before after : Poller)
variable (deeds : List Deed)

@[simp] theorem accepted_stepped :
    accepted (trace ++ [.stepped moment event before after deeds]) = accepted trace := by
  rw [accepted_append]
  exact List.append_nil _

@[simp] theorem received_stepped :
    received (trace ++ [.stepped moment event before after deeds]) =
      received trace ++ event.brings := by
  simp [received]

@[simp] theorem deeds_of_stepped :
    deedsOf (trace ++ [.stepped moment event before after deeds]) = deedsOf trace ++ deeds := by
  simp [deedsOf]

theorem served_live (live : after.phase.live = true) :
    served (trace ++ [.stepped moment event before after deeds]) = served trace ++ deeds := by
  simp [served, live]

theorem served_dead (dead : after.phase.live = false) :
    served (trace ++ [.stepped moment event before after deeds]) = served trace := by
  simp [served, dead]

theorem closing_live (live : after.phase.live = true) :
    closing (trace ++ [.stepped moment event before after deeds]) = closing trace := by
  simp [closing, live]

theorem closing_dead (dead : after.phase.live = false) :
    closing (trace ++ [.stepped moment event before after deeds]) = closing trace ++ deeds := by
  simp [closing, dead]

theorem mem_newcomers_stepped (place : Poller → List Packet) (instant : Nat) (packet : Packet) :
    (instant, packet) ∈ newcomers place [.stepped moment event before after deeds] ↔
      instant = moment.now ∧ packet ∈ place after ∧ packet ∉ place before := by
  simp only [newcomers, List.flatMap_singleton, List.mem_map, List.mem_filter, decide_eq_true_eq,
    Prod.mk.injEq]
  constructor
  · rintro ⟨other, ⟨among, fresh⟩, rfl, rfl⟩
    exact ⟨rfl, among, fresh⟩
  · rintro ⟨rfl, among, fresh⟩
    exact ⟨packet, ⟨among, fresh⟩, rfl, rfl⟩

theorem newcomers_among (place : Poller → List Packet) :
    ((newcomers place [.stepped moment event before after deeds]).map Prod.snd).Sublist
      (place after) := by
  simp only [newcomers, List.flatMap_singleton, List.map_map]
  rw [show Prod.snd ∘ (fun packet : Packet => (moment.now, packet)) = id from rfl, List.map_id]
  exact List.filter_sublist

theorem mem_parkings_stepped (since : Nat) (packet : Packet) :
    (since, packet) ∈ parkings [.stepped moment event before after deeds] ↔
      since = moment.now ∧ packet ∈ after.parked ∧ packet ∉ before.parked :=
  mem_newcomers_stepped moment event before after deeds Poller.parked since packet

end Stepped

theorem recorded_once {records : List (Nat × Packet)} (once : (records.map Prod.snd).Nodup)
    {since : Nat} {packet : Packet} (told : (since, packet) ∈ records) (instant : Nat) :
    (instant, packet) ∈ records ↔ instant = since := by
  constructor
  · intro again
    have same := List.inj_on_of_nodup_map once again told rfl
    exact (Prod.mk.inj same).1
  · rintro rfl
    exact told

/-- One turn of a run. -/
inductive Turn (poller : Poller) : Poller → Entry → Prop where
  | queues (packet : Packet) (accepts : poller.accepting = true) :
      Turn poller { poller with queue := poller.queue ++ [packet] } (.delivered packet .queued)
  | turnsAway (packet : Packet) (delivery : Delivery) (other : delivery ≠ .queued) :
      Turn poller poller (.delivered packet delivery)
  | steps (moment : Moment) (event : Event) (after : Poller) (deeds : List Deed)
      (stepped : poller.step moment event = some (after, deeds)) :
      Turn poller after (.stepped moment event poller after deeds)

theorem happen_turns (poller after : Poller) (happening : Happening) (entry : Entry)
    (happened : poller.happen happening = some (after, entry)) : Turn poller after entry := by
  cases happening with
  | deliver packet =>
      simp only [happen, deliver] at happened
      split_ifs at happened with accepts room
      · cases happened
        exact .queues packet accepts
      · cases happened
        exact .turnsAway packet .full (by simp)
      · cases happened
        exact .turnsAway packet .refused (by simp)
  | event moment event =>
      obtain ⟨⟨last, deeds⟩, stepped, same⟩ := Option.map_eq_some_iff.mp happened
      cases same
      exact .steps moment event after deeds stepped

theorem run_keeps (invariant : Poller → List Entry → Prop)
    (keeps : ∀ poller after past entry, invariant poller past → Turn poller after entry →
      invariant after (past ++ [entry]))
    (script : List Happening) (poller after : Poller) (past trace : List Entry)
    (start : invariant poller past) (ran : poller.run script = some (after, trace)) :
    invariant after (past ++ trace) := by
  induction script generalizing poller past trace with
  | nil =>
      cases ran
      rw [List.append_nil]
      exact start
  | cons happening script induction =>
      simp only [run, Option.bind_eq_bind, Option.bind_eq_some_iff] at ran
      rcases ran with ⟨⟨middle, entry⟩, happened, ⟨last, later⟩, rest, same⟩
      cases same
      have turn := happen_turns poller middle happening entry happened
      have here := keeps poller middle past entry start turn
      have there := induction middle (past ++ [entry]) later here rest
      rwa [List.append_assoc] at there

/-- What is true of a poller at every point of a run. -/
structure Sound (terms : Terms) (poller : Poller) : Prop where
  steady : poller.Steady terms
  uncrowded : poller.Uncrowded
  aligned : poller.phase.live = true → poller.work.Aligned
  rests : poller.hasEnded = true → poller.AtRest

theorem of_start_sound (terms : Terms) (start : Nat) : (ofStart terms start).Sound terms := by
  constructor
  · exact ⟨rfl, rfl⟩
  · exact of_start_uncrowded terms start
  · exact fun _ => of_start_aligned terms start
  · intro ended
    cases ended

theorem Sound.turn {terms : Terms} {poller after : Poller} {entry : Entry}
    (sound : poller.Sound terms) (turn : Turn poller after entry) : after.Sound terms := by
  have most := sound.uncrowded.most
  cases turn with
  | queues packet accepts =>
      constructor
      · exact ⟨sound.steady.terms, sound.steady.published⟩
      · exact ⟨most, sound.uncrowded.waiting, sound.uncrowded.dry, sound.uncrowded.fits⟩
      · intro live
        have before := sound.aligned live
        exact ⟨before.tidy, before.ahead, before.started, before.next, before.keyed, before.run,
          before.current, before.parked⟩
      · intro ended
        have refuses := (sound.rests ended).refuses
        rw [refuses] at accepts
        cases accepts
  | turnsAway packet delivery other => exact sound
  | steps moment event _ deeds stepped =>
      constructor
      · exact step_steady poller after deeds most sound.steady stepped
      · exact step_uncrowds moment poller after event deeds sound.uncrowded stepped
      · intro live
        have before := sound.aligned (step_live poller after deeds stepped live)
        obtain ⟨outcome, keeps, _⟩ := step_keeps poller after deeds stepped live before
        exact keeps.aligned
      · exact step_rests poller after deeds most stepped

/-- What turns of a sound poller keep holds after every run from the start. -/
theorem run_sound (terms : Terms) (start : Nat) (invariant : Poller → List Entry → Prop)
    (begins : invariant (ofStart terms start) [])
    (keeps : ∀ poller after past entry, poller.Sound terms → invariant poller past →
      Turn poller after entry → invariant after (past ++ [entry]))
    (script : List Happening) (poller : Poller) (trace : List Entry)
    (ran : (ofStart terms start).run script = some (poller, trace)) :
    poller.Sound terms ∧ invariant poller trace := by
  refine run_keeps (fun poller past => poller.Sound terms ∧ invariant poller past) ?_ script _
    poller [] trace ⟨of_start_sound terms start, begins⟩ ran
  rintro before after past entry ⟨sound, holds⟩ turn
  exact ⟨sound.turn turn, keeps before after past entry sound holds turn⟩

end HttpTunnel.Server.Poller
