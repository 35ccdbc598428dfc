import HttpTunnel.Proofs.HeldPackets
import HttpTunnel.Proofs.ParkedTimers

/-!
How long requests stay with a poller on a clock that waits for nobody: it moves on only as far as
the next alarm. A poller that is free to act answers a parked request in the time of one poll or
of the prompt window, and gives up an early packet after the time of one poll, or of two if it has
to flush its last bytes. While it waits for the downstream writer it hears no alarm at all.
-/

namespace HttpTunnel.Server.Poller

variable {moment : Moment} {event : Event} {terms : Terms}

section Clock

def lastStep (start : Nat) : List Entry → Nat
  | [] => start
  | .delivered _ _ :: rest => lastStep start rest
  | .stepped moment _ _ _ _ :: rest => lastStep moment.now rest

/-- The clock has not gone past an alarm, unless the alarm was due when the poller came where it
is. -/
def OnTime (poller : Poller) (since now : Nat) : Prop :=
  ∀ alarm ∈ poller.alarms, now ≤ max alarm since

instance (poller : Poller) (since now : Nat) : Decidable (poller.OnTime since now) :=
  inferInstanceAs (Decidable (∀ alarm ∈ poller.alarms, now ≤ max alarm since))

def Event.rings : Event → Bool
  | .pollDue | .heldDue | .idleDue | .promptDue | .flushDue => true
  | _ => false

theorem alarm_rings (poller : Poller) (alarm : Nat) (set : alarm ∈ poller.alarms)
    (past : alarm ≤ moment.now) :
    ∃ event, event.rings = true ∧ (poller.step moment event).isSome = true := by
  cases phase : poller.phase with
  | serving =>
      simp only [alarms, phase, List.mem_append, Option.mem_toList, Option.map_eq_some_iff,
        List.mem_singleton] at set
      rcases set with (polls | ⟨⟨deadline, serial⟩, held, rfl⟩) | idles
      · exact ⟨.pollDue, rfl, by simp [step, phase, serve, due, polls, past]⟩
      · exact ⟨.heldDue, rfl, by simp only [step, phase, serve, held, if_pos past, Option.isSome]⟩
      · rw [idles] at past
        exact ⟨.idleDue, rfl, by simp only [step, phase, serve, if_pos past, Option.isSome]⟩
  | prompting deadline =>
      simp only [alarms, phase, List.mem_singleton] at set
      rw [set] at past
      exact ⟨.promptDue, rfl, by simp only [step, phase, prompt, if_pos past, Option.isSome]⟩
  | flushing deadline =>
      simp only [alarms, phase, List.mem_singleton] at set
      rw [set] at past
      exact ⟨.flushDue, rfl, by simp only [step, phase, flush, if_pos past, Option.isSome]⟩
  | _ =>
      simp only [alarms, phase] at set
      cases set

/-- Every step of a run comes on time. -/
def Timely (start : Nat) : List Entry → Prop
  | [] => True
  | .delivered _ _ :: rest => Timely start rest
  | .stepped moment _ before _ _ :: rest => before.OnTime start moment.now ∧ Timely moment.now rest

instance decidableTimely (start : Nat) (trace : List Entry) : Decidable (Timely start trace) :=
  match trace with
  | [] => .isTrue trivial
  | .delivered _ _ :: rest => decidableTimely start rest
  | .stepped moment _ before _ _ :: rest =>
      have : Decidable (Timely moment.now rest) := decidableTimely moment.now rest
      inferInstanceAs (Decidable (before.OnTime start moment.now ∧ Timely moment.now rest))

variable (start : Nat) (trace : List Entry)

theorem last_step_append (further : List Entry) :
    lastStep start (trace ++ further) = lastStep (lastStep start trace) further := by
  induction trace generalizing start with
  | nil => rfl
  | cons entry rest induction =>
      cases entry with
      | delivered _ _ => exact induction start
      | stepped moment _ _ _ _ => exact induction moment.now

theorem last_step_delivered (packet : Packet) (delivery : Delivery) :
    lastStep start (trace ++ [.delivered packet delivery]) = lastStep start trace :=
  last_step_append start trace _

theorem last_step_stepped (before after : Poller) (deeds : List Deed) :
    lastStep start (trace ++ [.stepped moment event before after deeds]) = moment.now :=
  last_step_append start trace _

theorem timely_append (further : List Entry) :
    Timely start (trace ++ further) ↔
      Timely start trace ∧ Timely (lastStep start trace) further := by
  induction trace generalizing start with
  | nil => exact ⟨fun timely => ⟨trivial, timely⟩, And.right⟩
  | cons entry rest induction =>
      cases entry with
      | delivered _ _ => exact induction start
      | stepped moment _ before _ _ =>
          exact (and_congr_right fun _ => induction moment.now).trans and_assoc.symm

end Clock

section Timers

theorem Acts.winds {first last : Work} {outcome : Outcome} (start : Option Nat)
    (steady : first.poller.Steady terms)
    (runs : first.poller.pollAt = Option.none ∨
      first.poller.pollAt = some (moment.now + terms.pollFor) ∨ first.poller.pollAt = start)
    (acts : Acts moment event first outcome last) :
    last.poller.pollAt = Option.none ∨ last.poller.pollAt = some (moment.now + terms.pollFor) ∨
      last.poller.pollAt = start := by
  induction acts with
  | none work => exact runs
  | more first middle last outcome further act acts induction =>
      apply induction (act.steady steady)
      cases act with
      | reply =>
          have replied := reply_oldest_replied moment first.poller
          dsimp only
          rw [replied.pollAt]
          split_ifs
          · exact .inl rfl
          · exact runs
      | park poller packet released passed room paid =>
          have terms : poller.terms = terms := steady.terms
          exact .inr (.inl (terms ▸ rfl))
      | repoll expired =>
          dsimp only
          split_ifs
          · exact runs
          · exact .inr (.inl (steady.terms ▸ rfl))
      | _ => exact runs

/-- Where packets have been taken in, the time of a poll and the prompt window begin. -/
structure Winds (moment : Moment) (after : Poller) : Prop where
  poll : after.phase = .serving →
    after.pollAt = none ∨ after.pollAt = some (moment.now + after.terms.pollFor)
  prompt : ∀ deadline, after.phase = .prompting deadline →
    deadline = moment.now + after.terms.promptFor ∧
      after.pollAt = some (moment.now + after.terms.pollFor)

theorem Winds.dead (after : Poller) (dead : after.phase.live = false) : after.Winds moment := by
  constructor
  · intro serving
    rw [serving] at dead
    cases dead
  · intro deadline prompting
    rw [prompting] at dead
    cases dead

theorem settle_serves (moment : Moment) (poller : Poller) :
    (poller.settle moment).1.phase = .serving ∧ (poller.settle moment).1.terms = poller.terms ∧
      ((poller.settle moment).1.pollAt = none ∨
        (poller.settle moment).1.pollAt = poller.pollAt) := by
  unfold settle
  dsimp only
  split_ifs
  · have replied := reply_oldest_replied moment { poller with phase := .serving }
    refine ⟨replied.phase, replied.terms, ?_⟩
    rw [replied.pollAt]
    split_ifs
    · exact .inl rfl
    · exact .inr rfl
  · exact ⟨rfl, rfl, .inr rfl⟩

theorem decide_reply_winds (poller : Poller)
    (fresh : poller.pollAt = some (moment.now + poller.terms.pollFor)) :
    (poller.decideReply moment).1.Winds moment := by
  unfold decideReply
  split_ifs
  · constructor
    · intro serving
      cases serving
    · intro deadline prompting
      cases prompting
      exact ⟨rfl, fresh⟩
  · obtain ⟨serves, terms, timer⟩ := settle_serves moment poller
    constructor
    · intro _
      rw [terms, ← fresh]
      exact timer
    · intro deadline prompting
      cases serves.symm.trans prompting

theorem park_winds (moment : Moment) (poller : Poller) (packet : Packet) :
    (poller.park moment packet).1.pollAt =
      some (moment.now + (poller.park moment packet).1.terms.pollFor) := by
  unfold park
  split_ifs <;> rfl

theorem resume_winds (moment : Moment) (poller : Poller) (packet : Packet)
    (released : List Packet)
    (further : ∀ other : Poller, other.pollAt = some (moment.now + other.terms.pollFor) →
      (other.takeIn moment released).1.Winds moment) :
    (poller.resume moment packet released).1.Winds moment := by
  have fresh := park_winds moment poller packet
  unfold resume
  generalize poller.park moment packet = parked at fresh
  dsimp only
  split_ifs
  · exact .dead _ (fail_parts moment parked.1 _).dead
  · exact further parked.1 fresh

theorem take_in_winds (released : List Packet) (poller : Poller)
    (fresh : released = [] → poller.pollAt = some (moment.now + poller.terms.pollFor)) :
    (poller.takeIn moment released).1.Winds moment := by
  induction released generalizing poller with
  | nil => exact decide_reply_winds poller (fresh rfl)
  | cons packet released induction =>
      by_cases empty : packet.payload = []
      · rw [takeIn, if_pos empty]
        exact resume_winds moment { poller with lastSeen := packet.serial } packet released
          fun other fresh => induction other fun _ => fresh
      · rw [takeIn, if_neg empty]
        constructor
        · intro serving
          cases serving
        · intro deadline prompting
          cases prompting

theorem receive_winds (moment : Moment) (poller : Poller) (packet : Packet)
    (serving : poller.phase = .serving)
    (busy : (poller.receive moment packet).1.phase ≠ .serving) :
    (poller.receive moment packet).1.Winds moment := by
  have refuses : ∀ failure, (poller.fail moment failure).1.Winds moment :=
    fun failure => .dead _ (fail_parts moment poller failure).dead
  unfold receive at busy ⊢
  dsimp only at busy ⊢
  split_ifs at busy ⊢
  · exact refuses _
  · cases pushed : poller.early.push packet.serial.toNat packet with
    | error refusal => exact refuses _
    | ok result =>
        rcases result with ⟨released, early⟩
        rw [pushed] at busy
        cases released with
        | nil => exact absurd serving busy
        | cons first released =>
            apply take_in_winds
            intro none
            cases none

variable (poller after : Poller) (deeds : List Deed)

theorem pass_winds (packet : Packet) (released : List Packet)
    (moved : poller.pass moment packet released event = some (after, deeds)) :
    after.phase = poller.phase ∨ after.Winds moment := by
  have resumed := resume_winds moment poller packet released
    fun other fresh => take_in_winds released other fun _ => fresh
  have abandoned := (fail_parts moment poller .downstreamClosed).dead
  cases event <;> simp only [pass] at moved
  case close =>
    rw [Option.some.inj moved] at resumed
    exact .inr resumed
  case passed =>
    cases moved
    exact .inr resumed
  case chunk chunk =>
    have same := take_keeps_phase poller moment chunk
    rw [Option.some.inj moved] at same
    exact .inl same
  case refused =>
    cases moved
    exact .inr (.dead _ abandoned)
  case downstreamEnd =>
    cases moved
    exact .inr (.dead _ abandoned)
  all_goals cases moved

theorem prompt_serves (deadline : Nat)
    (moved : poller.prompt moment deadline event = some (after, deeds)) :
    after.phase = .serving := by
  have settled := (settle_serves moment poller).1
  cases event <;> simp only [prompt] at moved
  case chunk chunk =>
    have fuller := (settle_serves moment (poller.absorb moment.now chunk)).1
    rwa [Option.some.inj moved] at fuller
  case downstreamEnd => rwa [Option.some.inj moved] at settled
  case promptDue =>
    split_ifs at moved
    rwa [Option.some.inj moved] at settled
  all_goals cases moved

theorem step_prompts (deadline : Nat) (stepped : poller.step moment event = some (after, deeds))
    (prompting : after.phase = .prompting deadline) :
    deadline = moment.now + after.terms.promptFor ∧
      after.pollAt = some (moment.now + after.terms.pollFor) := by
  have live : after.phase.live = true := by rw [prompting]; rfl
  have alive := step_live poller after deeds stepped live
  cases phase : poller.phase <;> simp only [step, phase] at stepped
  case serving =>
    by_cases came : event = .packet
    · rw [came] at stepped
      cases waiting : poller.queue <;> simp only [serve, waiting] at stepped
      case cons packet rest =>
        have received := receive_winds moment { poller with queue := rest } packet phase
        rw [Option.some.inj stepped] at received
        exact (received (by simp [prompting])).prompt deadline prompting
      all_goals cases stepped
    · cases (serve_stays poller after deeds phase came stepped live).symm.trans prompting
  case passing packet released =>
    rcases pass_winds poller after deeds packet released stepped with same | winds
    · cases (same.trans phase).symm.trans prompting
    · exact winds.prompt deadline prompting
  case prompting before =>
    cases (prompt_serves poller after deeds before stepped).symm.trans prompting
  all_goals
    rw [phase] at alive
    cases alive

/-- The timer of a free poller began in the step that led there, or it was heard before, too. -/
theorem step_polls (sound : poller.Sound terms)
    (stepped : poller.step moment event = some (after, deeds)) (serving : after.phase = .serving) :
    after.pollAt = none ∨ after.pollAt = some (moment.now + terms.pollFor) ∨
      ((poller.phase = .serving ∨ ∃ deadline, poller.phase = .prompting deadline) ∧
        after.pollAt = poller.pollAt) := by
  have live : after.phase.live = true := by rw [serving]; rfl
  have alive := step_live poller after deeds stepped live
  have steady := step_steady poller after deeds sound.uncrowded.most sound.steady stepped
  obtain ⟨outcome, acts, _, _⟩ := step_acts poller after deeds live stepped
  have goes := acts.winds poller.pollAt sound.steady (.inr (.inr rfl))
  cases phase : poller.phase with
  | serving => exact goes.imp_right (Or.imp_right fun same => ⟨.inl rfl, same⟩)
  | prompting deadline =>
      exact goes.imp_right (Or.imp_right fun same => ⟨.inr ⟨deadline, rfl⟩, same⟩)
  | passing packet released =>
      simp only [step, phase] at stepped
      rcases pass_winds poller after deeds packet released stepped with same | winds
      · cases (same.trans phase).symm.trans serving
      · rw [← steady.terms]
        exact (winds.poll serving).imp_right .inl
  | _ =>
      rw [phase] at alive
      cases alive

end Timers

/-- What a clock that waits for nobody makes of the timers. -/
structure Bounded (terms : Terms) (start : Nat) (poller : Poller) (trace : List Entry) : Prop where
  poll : poller.phase = .serving → ∀ since, poller.pollAt = some (since + terms.pollFor) →
    lastStep start trace ≤ since + max terms.pollFor terms.promptFor
  prompt : ∀ deadline, poller.phase = .prompting deadline →
    deadline = lastStep start trace + terms.promptFor ∧
      poller.pollAt = some (lastStep start trace + terms.pollFor)
  hold : poller.phase = .serving → ∀ deadline serial, poller.held = some (deadline, serial) →
    lastStep start trace ≤ deadline
  flush : ∀ deadline, poller.phase = .flushing deadline → poller.parked = [] ∧
    deadline = lastStep start trace + terms.pollFor ∧
    (poller.earlyPackets ≠ [] → ∀ due serial, poller.held = some (due, serial) →
      lastStep start trace ≤ due)

theorem of_start_bounded (start : Nat) : (ofStart terms start).Bounded terms start [] := by
  constructor
  · intro _ since unset
    cases unset
  · intro deadline prompting
    cases prompting
  · intro _ deadline serial unset
    cases unset
  · intro deadline flushing
    cases flushing

theorem Bounded.delivers {start : Nat} {poller : Poller} {past : List Entry}
    (bounded : poller.Bounded terms start past) (queue : List Packet) (packet : Packet)
    (delivery : Delivery) : ({ poller with queue := queue } : Poller).Bounded terms start
      (past ++ [.delivered packet delivery]) := by
  constructor <;> rw [last_step_delivered]
  · exact bounded.poll
  · exact bounded.prompt
  · exact bounded.hold
  · exact bounded.flush

theorem OnTime.serving {poller : Poller} {since now : Nat} (onTime : poller.OnTime since now)
    (serving : poller.phase = .serving) :
    (∀ instant, poller.pollAt = some instant → now ≤ max instant since) ∧
      ∀ deadline serial, poller.held = some (deadline, serial) → now ≤ max deadline since := by
  simp only [OnTime, alarms, serving] at onTime
  constructor
  · intro instant set
    exact onTime instant (by simp [set])
  · intro deadline serial held
    exact onTime deadline (by simp [held])

theorem OnTime.waiting {poller : Poller} {since now deadline : Nat}
    (onTime : poller.OnTime since now)
    (waiting : poller.phase = .prompting deadline ∨ poller.phase = .flushing deadline) :
    now ≤ max deadline since := by
  apply onTime
  rcases waiting with phase | phase <;> simp [alarms, phase]

section Bounds

variable {start now : Nat} {poller after : Poller} {deeds : List Deed} {past : List Entry}

theorem Bounded.polls (bounded : poller.Bounded terms start past)
    (onTime : poller.OnTime (lastStep start past) now)
    (hears : poller.phase = .serving ∨ ∃ deadline, poller.phase = .prompting deadline)
    (since : Nat) (timer : poller.pollAt = some (since + terms.pollFor)) :
    now ≤ since + max terms.pollFor terms.promptFor := by
  rcases hears with serving | ⟨deadline, prompting⟩
  · have heard := (onTime.serving serving).1 _ timer
    have last := bounded.poll serving since timer
    omega
  · have heard := onTime.waiting (.inl prompting)
    obtain ⟨ends, began⟩ := bounded.prompt deadline prompting
    have same : since + terms.pollFor = lastStep start past + terms.pollFor :=
      Option.some.inj (timer.symm.trans began)
    omega

theorem Bounded.holds (bounded : poller.Bounded terms start past)
    (onTime : poller.OnTime (lastStep start past) now) (serving : poller.phase = .serving)
    (deadline : Nat) (serial : Int) (held : poller.held = some (deadline, serial)) :
    now ≤ deadline := by
  have heard := (onTime.serving serving).2 deadline serial held
  have last := bounded.hold serving deadline serial held
  omega

theorem Bounded.step (sound : poller.Sound terms) (opened : poller.Open)
    (unset : poller.earlyPackets = [] → poller.held = none)
    (bounded : poller.Bounded terms start past)
    (onTime : poller.OnTime (lastStep start past) moment.now)
    (stepped : poller.step moment event = some (after, deeds)) :
    after.Bounded terms start (past ++ [.stepped moment event poller after deeds]) := by
  have steady := step_steady poller after deeds sound.uncrowded.most sound.steady stepped
  constructor <;> rw [last_step_stepped]
  · intro serving since timer
    rcases step_polls poller after deeds sound stepped serving with none | fresh | ⟨hears, same⟩
    · cases none.symm.trans timer
    · have began : since + terms.pollFor = moment.now + terms.pollFor :=
        Option.some.inj (timer.symm.trans fresh)
      omega
    · exact bounded.polls onTime hears since (same.symm.trans timer)
  · intro deadline prompting
    rw [← steady.terms]
    exact step_prompts poller after deeds deadline stepped prompting
  · intro serving deadline serial held
    have live : after.phase.live = true := by rw [serving]; rfl
    have alive := step_live poller after deeds stepped live
    have holds := step_holds poller after deeds sound unset stepped live
    have some : after.earlyPackets ≠ [] := by
      intro nobody
      cases (holds.unset nobody).symm.trans held
    obtain ⟨packet, among⟩ := List.exists_mem_of_ne_nil _ some
    rcases holds.set packet among with ⟨before, same⟩ | ⟨_, same⟩
    · -- Whoever was early before was so in a free poller, which heard the deadline.
      have free := opened.serving alive (List.ne_nil_of_mem before)
      exact bounded.holds onTime free deadline serial (same.symm.trans held)
    · cases held.symm.trans same
      exact Nat.le_add_right _ _
  · intro deadline flushing
    obtain ⟨early, held, nobody, ends⟩ :=
      step_flushes poller after deeds sound deadline stepped flushing
    refine ⟨nobody, ends, ?_⟩
    intro some due serial set
    have alive := flushes_from_live poller after deeds deadline stepped flushing
    have free : poller.phase = .serving := by
      apply opened.serving alive
      rwa [earlyPackets, ← early]
    exact bounded.holds onTime free due serial (held.symm.trans set)

end Bounds

/-- What is known of the early packets and the alarms at every point of a timely run. -/
theorem run_bounded (start : Nat) (script : List Happening) (poller : Poller)
    (trace : List Entry) (ran : (ofStart terms start).run script = some (poller, trace))
    (timely : Timely start trace) :
    poller.Early terms trace ∧ poller.Bounded terms start trace := by
  have both := run_sound terms start
    (fun poller past => poller.Early terms past ∧
      (Timely start past → poller.Bounded terms start past)) ?_ ?_ script poller trace ran
  · exact ⟨both.2.1, both.2.2 timely⟩
  · exact ⟨of_start_early start, fun _ => of_start_bounded start⟩
  · rintro before after past entry sound ⟨early, known⟩ turn
    refine ⟨early.turn sound turn, ?_⟩
    intro timely
    have both := (timely_append start past [entry]).mp timely
    have bounded := known both.1
    cases turn with
    | queues packet accepts => exact bounded.delivers _ packet .queued
    | turnsAway packet delivery other => exact bounded.delivers _ packet delivery
    | steps moment event _ deeds stepped =>
        have onTime : before.OnTime (lastStep start past) moment.now := both.2.1
        have waits := early.waits (step_active before after deeds stepped)
        exact bounded.step sound early.opened waits.unset onTime stepped

section Waiting

variable {start now : Nat} {poller : Poller} {trace : List Entry}

/-- Nobody stays parked past his time with a poller that is not waiting for the downstream
writer. -/
theorem Bounded.parks (bounded : poller.Bounded terms start trace) (sound : poller.Sound terms)
    (punctual : poller.phase.live = true → poller.Punctual terms trace)
    (onTime : poller.OnTime (lastStep start trace) now)
    (free : ∀ packet released, poller.phase ≠ .passing packet released) (packet : Packet)
    (among : packet ∈ poller.parked) :
    ∃ since, (∀ instant, (instant, packet) ∈ parkings trace ↔ instant = since) ∧
      now ≤ since + max terms.pollFor terms.promptFor := by
  have hears : poller.phase = .serving ∨ ∃ deadline, poller.phase = .prompting deadline := by
    cases phase : poller.phase with
    | serving => exact .inl rfl
    | prompting deadline => exact .inr ⟨deadline, rfl⟩
    | passing current released => exact absurd phase (free current released)
    | flushing deadline =>
        rw [(bounded.flush deadline phase).1] at among
        cases among
    | ended failure =>
        have rests := sound.rests (by rw [hasEnded, phase])
        rw [rests.parked] at among
        cases among
  have lives : poller.phase.live = true ∧ poller.phase.current = none := by
    rcases hears with phase | ⟨deadline, phase⟩ <;> rw [phase] <;> exact ⟨rfl, rfl⟩
  have known := punctual lives.1
  have lone := sound.uncrowded.waiting lives.1 lives.2
  -- One request at most is parked, so that the timer is the one of this request.
  have newest : packet ∈ poller.parked.getLast? := by
    rcases parked : poller.parked with _ | ⟨first, _ | ⟨second, rest⟩⟩
    · rw [parked] at among
      cases among
    · rw [parked] at among
      rw [List.mem_singleton.mp among]
      rfl
    · rw [parked] at lone
      simp at lone
  obtain ⟨since, told, timer⟩ := known.set packet newest
  exact ⟨since, recorded_once known.once told, bounded.polls onTime hears since timer⟩

/-- A packet without its predecessor is given up in time by a poller that is free to act, and
once more a poll time later by one that flushes its last bytes. -/
theorem Bounded.waits (bounded : poller.Bounded terms start trace) (sound : poller.Sound terms)
    (early : poller.Early terms trace) (onTime : poller.OnTime (lastStep start trace) now)
    (packet : Packet) (among : packet ∈ poller.earlyPackets) :
    ∃ arrival, (∀ instant, (instant, packet) ∈ holdings trace ↔ instant = arrival) ∧
      (poller.phase = .serving ∧ now ≤ arrival + terms.pollFor ∨
        (∃ deadline, poller.phase = .flushing deadline) ∧ now ≤ arrival + 2 * terms.pollFor) := by
  have active : poller.hasEnded = false := by
    apply Bool.eq_false_iff.mpr
    intro ended
    rw [earlyPackets, (sound.rests ended).early] at among
    cases among
  have known := early.waits active
  obtain ⟨arrival, taken, held⟩ := known.set packet among
  refine ⟨arrival, recorded_once known.once taken, ?_⟩
  by_cases live : poller.phase.live = true
  · have serving := early.opened.serving live (List.ne_nil_of_mem among)
    exact .inl ⟨serving, bounded.holds onTime serving _ _ held⟩
  · apply Or.inr
    cases phase : poller.phase with
    | flushing deadline =>
        obtain ⟨_, ends, before⟩ := bounded.flush deadline phase
        have began := before (List.ne_nil_of_mem among) _ _ held
        have heard := onTime.waiting (.inr phase)
        exact ⟨⟨deadline, rfl⟩, by omega⟩
    | ended failure =>
        rw [hasEnded, phase] at active
        cases active
    | _ =>
        rw [phase] at live
        exact absurd rfl live

end Waiting

/-- As long as the clock goes past no alarm, a parked request is with a poller that does not wait
for the downstream writer for the time of one poll or of the prompt window at most, counted from
the one instant at which it was parked; and a packet that is held for its predecessor is with it
for the time of one poll, or of two if the poller flushes its last bytes, counted from the one
instant at which it was taken in. The clock is not held up, since every alarm that is due can be
heard. But while a payload waits for the downstream writer there is no alarm, and no time is long
enough for the requests parked then. -/
theorem long_poll_bounded (terms : Terms) (start : Nat) (script : List Happening)
    (poller : Poller) (trace : List Entry)
    (ran : (ofStart terms start).run script = some (poller, trace)) (timely : Timely start trace)
    (now : Nat) (onTime : poller.OnTime (lastStep start trace) now) :
    ((∀ packet released, poller.phase ≠ .passing packet released) →
      ∀ packet ∈ poller.parked, ∃ since,
        (∀ instant, (instant, packet) ∈ parkings trace ↔ instant = since) ∧
          now ≤ since + max terms.pollFor terms.promptFor) ∧
      (∀ packet ∈ poller.earlyPackets, ∃ arrival,
        (∀ instant, (instant, packet) ∈ holdings trace ↔ instant = arrival) ∧
          (poller.phase = .serving ∧ now ≤ arrival + terms.pollFor ∨
            (∃ deadline, poller.phase = .flushing deadline) ∧
              now ≤ arrival + 2 * terms.pollFor)) ∧
      ∀ gone, ∀ alarm ∈ poller.alarms, alarm ≤ now →
        ∃ event, event.rings = true ∧ (poller.step ⟨now, gone⟩ event).isSome = true := by
  obtain ⟨sound, punctual⟩ := run_punctual start script poller trace ran
  obtain ⟨early, bounded⟩ := run_bounded start script poller trace ran timely
  refine ⟨bounded.parks sound punctual onTime, bounded.waits sound early onTime, ?_⟩
  exact fun gone alarm set past => alarm_rings poller alarm set past

def skippingOne : List Happening :=
  [.deliver ⟨0, 1, []⟩, .event ⟨5, fun _ => false⟩ .packet,
    .event ⟨15, fun _ => false⟩ .promptDue, .deliver ⟨1, 3, [9]⟩,
    .event ⟨25, fun _ => false⟩ .packet]

theorem skipping_one_bounded : ∃ poller trace,
    (ofStart { pollFor := 50 } 0).run skippingOne = some (poller, trace) ∧ Timely 0 trace ∧
      poller.phase = .serving ∧ poller.parked = [⟨0, 1, []⟩] ∧
      poller.earlyPackets = [⟨1, 3, [9]⟩] ∧
      ∀ now, poller.OnTime (lastStep 0 trace) now → now ≤ 55 := by
  have came : ∃ poller trace,
      (ofStart { pollFor := 50 } 0).run skippingOne = some (poller, trace) ∧ Timely 0 trace ∧
        poller.phase = .serving ∧ poller.parked = [⟨0, 1, []⟩] ∧
        poller.earlyPackets = [⟨1, 3, [9]⟩] ∧ (5, ⟨0, 1, []⟩) ∈ parkings trace :=
    ⟨_, _, rfl, by decide +kernel, rfl, rfl, rfl, by decide +kernel⟩
  obtain ⟨poller, trace, ran, timely, serving, parked, early, told⟩ := came
  refine ⟨poller, trace, ran, timely, serving, parked, early, ?_⟩
  intro now onTime
  obtain ⟨since, once, bound⟩ :=
    (long_poll_bounded { pollFor := 50 } 0 skippingOne poller trace ran timely now onTime).1
      (by simp [serving]) ⟨0, 1, []⟩ (by simp [parked])
  have same : 5 = since := (once 5).mp told
  simp only at bound
  omega

def stallingWriter : List Happening :=
  [.deliver ⟨0, 1, []⟩, .event ⟨0, fun _ => false⟩ .packet,
    .event ⟨10, fun _ => false⟩ .promptDue, .deliver ⟨1, 2, [7]⟩,
    .event ⟨20, fun _ => false⟩ .packet]

/-- Downstream sends bytes, a request comes early, and downstream ends just before it would be
given up. -/
def endingLate : List Happening :=
  [.event ⟨0, fun _ => false⟩ (.chunk [8]), .deliver ⟨0, 2, []⟩,
    .event ⟨10, fun _ => false⟩ .packet, .event ⟨59, fun _ => false⟩ .downstreamEnd]

/-- With fifty milliseconds for a poll and ten for a prompt answer, a request that was parked at
the start stays so for longer than any bound, and an early packet that came after ten milliseconds
is there after a hundred. -/
theorem stalled_request_overruns :
    (∃ poller trace, (ofStart { pollFor := 50, promptFor := 10 } 0).run stallingWriter =
        some (poller, trace) ∧ Timely 0 trace ∧ ⟨0, 1, []⟩ ∈ poller.parked ∧
        (0, ⟨0, 1, []⟩) ∈ parkings trace ∧
        ∀ bound, ∃ now, poller.OnTime (lastStep 0 trace) now ∧ ¬now ≤ 0 + bound) ∧
      ∃ poller trace, (ofStart { pollFor := 50, promptFor := 10 } 0).run endingLate =
        some (poller, trace) ∧ Timely 0 trace ∧ ⟨0, 2, []⟩ ∈ poller.earlyPackets ∧
        (10, ⟨0, 2, []⟩) ∈ holdings trace ∧
        poller.OnTime (lastStep 0 trace) 100 ∧ ¬100 ≤ 10 + 50 + 10 := by
  constructor
  · refine ⟨_, _, rfl, by decide +kernel, by decide +kernel, by decide +kernel, ?_⟩
    intro bound
    refine ⟨bound + 1, ?_, by omega⟩
    intro alarm among
    cases among
  · exact ⟨_, _, rfl, by decide +kernel, by decide +kernel, by decide +kernel, by decide +kernel,
      by decide⟩

end HttpTunnel.Server.Poller
