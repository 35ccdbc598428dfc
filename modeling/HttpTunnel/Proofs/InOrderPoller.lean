import HttpTunnel.Proofs.LongPollBound
import HttpTunnel.Proofs.ParkedRequests

/-!
A poller whose packets come in their order. It never holds one back, has no more than one in hand,
and goes on taking them: nothing ends it but what comes from outside, a request to close, the end
of downstream or of the packets, or the timer of an idle tunnel.
-/

namespace HttpTunnel.Server.Poller

variable {moment : Moment} {event : Event}

/-- What answers and parking leave as it is. -/
structure Spares (before after : Poller) : Prop where
  accepting : after.accepting = before.accepting
  queue : after.queue = before.queue
  early : after.early = before.early
  held : after.held = before.held

theorem Spares.trans {first second third : Poller} (before : first.Spares second)
    (after : second.Spares third) : first.Spares third :=
  ⟨after.accepting.trans before.accepting, after.queue.trans before.queue,
    after.early.trans before.early, after.held.trans before.held⟩

/-- A poller goes on: it takes packets in and has none in hand but the one it looks at. -/
structure GoesOn (before after : Poller) : Prop where
  spares : before.Spares after
  live : after.phase.live = true
  alone : after.phase.released = []

section Spared

variable (moment) (poller : Poller)

theorem reply_oldest_spares : poller.Spares (poller.replyOldest moment).1 := by
  have replied := reply_oldest_replied moment poller
  refine ⟨?_, replied.queue, replied.early, replied.held⟩
  unfold replyOldest
  cases poller.parked with
  | nil => rfl
  | cons oldest rest =>
      dsimp only
      split_ifs <;> rfl

theorem settle_goes_on : poller.GoesOn (poller.settle moment).1 := by
  have serves := (settle_serves moment poller).1
  refine ⟨?_, by rw [serves]; rfl, by rw [serves]; rfl⟩
  unfold settle
  dsimp only
  split_ifs
  · have spared := reply_oldest_spares moment { poller with phase := .serving }
    exact ⟨spared.accepting, spared.queue, spared.early, spared.held⟩
  · exact ⟨rfl, rfl, rfl, rfl⟩

theorem decide_reply_goes_on : poller.GoesOn (poller.decideReply moment).1 := by
  unfold decideReply
  split_ifs
  · exact ⟨⟨rfl, rfl, rfl, rfl⟩, rfl, rfl⟩
  · exact settle_goes_on moment poller

theorem park_spares (packet : Packet) : poller.Spares (poller.park moment packet).1 := by
  unfold park
  split_ifs
  · have spared := reply_oldest_spares moment poller
    exact ⟨spared.accepting, spared.queue, spared.early, spared.held⟩
  · exact ⟨rfl, rfl, rfl, rfl⟩

theorem resume_goes_on (packet : Packet) (most : poller.parked.length ≤ mostParked) :
    poller.GoesOn (poller.resume moment packet []).1 := by
  have parks := park_crowds moment poller packet most
  have spared := park_spares moment poller packet
  unfold resume
  generalize poller.park moment packet = parked at parks spared
  dsimp only
  rw [if_neg (by omega)]
  have decided := decide_reply_goes_on moment parked.1
  exact ⟨spared.trans decided.spares, decided.live, decided.alone⟩

theorem take_in_goes_on (packet : Packet) (most : poller.parked.length ≤ mostParked) :
    poller.GoesOn (poller.takeIn moment [packet]).1 := by
  by_cases empty : packet.payload = []
  · rw [takeIn, if_pos empty]
    have resumed := resume_goes_on moment { poller with lastSeen := packet.serial } packet most
    have spared := resumed.spares
    exact ⟨⟨spared.accepting, spared.queue, spared.early, spared.held⟩, resumed.live,
      resumed.alone⟩
  · rw [takeIn, if_neg empty]
    exact ⟨⟨rfl, rfl, rfl, rfl⟩, rfl, rfl⟩

theorem take_spares (chunk : Bytes) : poller.Spares (poller.take moment chunk).1 := by
  unfold take
  dsimp only
  split_ifs
  · exact ⟨rfl, rfl, rfl, rfl⟩
  · have spared := reply_oldest_spares moment (poller.absorb moment.now chunk)
    exact ⟨spared.accepting, spared.queue, spared.early, spared.held⟩

end Spared

/-- A poller that has taken in every packet before a serial, and no other. -/
structure InOrder (poller : Poller) (next : Nat) : Prop where
  live : poller.phase.live = true
  alone : poller.phase.released = []
  accepting : poller.accepting = true
  window : poller.early = ⟨next, 1, []⟩
  held : poller.held = none
  uncrowded : poller.Uncrowded

theorem of_start_in_order (terms : Terms) (now : Nat) : (ofStart terms now).InOrder 1 :=
  ⟨rfl, rfl, rfl, rfl, rfl, of_start_uncrowded terms now⟩

theorem InOrder.active {poller : Poller} {next : Nat} (inOrder : poller.InOrder next) :
    poller.hasEnded = false := by
  have live := inOrder.live
  rw [Bool.eq_false_iff]
  intro ended
  obtain ⟨failure, phase⟩ := ended_phase poller ended
  rw [phase] at live
  cases live

theorem InOrder.requeued {poller : Poller} {next : Nat} (inOrder : poller.InOrder next)
    (queue : List Packet) : ({ poller with queue := queue } : Poller).InOrder next :=
  ⟨inOrder.live, inOrder.alone, inOrder.accepting, inOrder.window, inOrder.held,
    inOrder.uncrowded.most, inOrder.uncrowded.waiting, inOrder.uncrowded.dry,
    inOrder.uncrowded.fits⟩

/-- The events that only come to a poller from outside, and end it. -/
def Event.ends : Event → Bool
  | .close | .stop | .downstreamEnd | .packetsEnd | .refused | .idleDue => true
  | _ => false

section Steps

variable {poller after : Poller} {next : Nat} {deeds : List Deed}

theorem InOrder.goes_on (inOrder : poller.InOrder next) (uncrowded : after.Uncrowded)
    (goes : poller.GoesOn after) : after.InOrder next ∧ after.queue = poller.queue := by
  obtain ⟨spared, live, alone⟩ := goes
  exact ⟨⟨live, alone, spared.accepting.trans inOrder.accepting,
    spared.early.trans inOrder.window, spared.held.trans inOrder.held, uncrowded⟩, spared.queue⟩

theorem push_next (next : Nat) (packet : Packet) :
    (⟨next, 1, []⟩ : SerialWindow Packet).push next packet = .ok ([packet], ⟨next + 1, 1, []⟩) := by
  simp [SerialWindow.push, SerialWindow.holds, SerialWindow.insert, SerialWindow.releaseRun]

theorem receive_next (moment : Moment) (packet : Packet) (inOrder : poller.InOrder next)
    (positive : 0 < next) (serial : packet.serial = next) :
    poller.receive moment packet =
      takeIn moment { poller with early := ⟨next + 1, 1, []⟩, held := none } [packet] := by
  have started : ¬ (next : Int) < 1 := by omega
  simp only [receive, serial, if_neg started, inOrder.window, Int.toNat_natCast, push_next,
    SerialWindow.backlog, List.length_nil, if_true]

theorem receive_goes_on (moment : Moment) (packet : Packet) (inOrder : poller.InOrder next)
    (positive : 0 < next) (serial : packet.serial = next) :
    ({ poller with early := ⟨next + 1, 1, []⟩ } : Poller).GoesOn
      (poller.receive moment packet).1 := by
  rw [receive_next moment packet inOrder positive serial, ← inOrder.held]
  exact take_in_goes_on moment _ packet inOrder.uncrowded.most

/-- Every step takes in what comes next, or nothing. -/
theorem step_in_order (inOrder : poller.InOrder next) (positive : 0 < next)
    (lined : ∀ packet ∈ poller.queue.head?, packet.serial = next)
    (inside : event.ends = false) (stepped : poller.step moment event = some (after, deeds)) :
    ∃ taken, poller.queue = taken ++ after.queue ∧ after.InOrder (next + taken.length) := by
  have uncrowded := step_uncrowds moment poller after event deeds inOrder.uncrowded stepped
  have live := inOrder.live
  have alone := inOrder.alone
  have still : poller.GoesOn after →
      ∃ taken, poller.queue = taken ++ after.queue ∧ after.InOrder (next + taken.length) := by
    intro goes
    obtain ⟨stays, queue⟩ := inOrder.goes_on uncrowded goes
    exact ⟨[], queue.symm, stays⟩
  have takes : ∀ chunk, (poller.take moment chunk).1 = after →
      ∃ taken, poller.queue = taken ++ after.queue ∧ after.InOrder (next + taken.length) := by
    rintro chunk rfl
    have same := take_keeps_phase poller moment chunk
    exact still ⟨take_spares moment poller chunk, same ▸ live, same ▸ alone⟩
  cases phase : poller.phase with
  | serving =>
      simp only [step, phase] at stepped
      cases event <;> simp only [serve] at stepped
      case chunk chunk =>
        split_ifs at stepped
        exact takes chunk (congrArg Prod.fst (Option.some.inj stepped))
      case packet =>
        cases queue : poller.queue <;> simp only [queue] at stepped
        case cons packet rest =>
          have serial : packet.serial = next := lined packet (by simp [queue])
          have taking : ({ poller with queue := rest } : Poller).InOrder next :=
            inOrder.requeued rest
          have received := receive_goes_on moment packet taking positive serial
          rw [Option.some.inj stepped] at received
          obtain ⟨spared, live, alone⟩ := received
          exact ⟨[packet], congrArg (packet :: ·) spared.queue.symm, live, alone,
            spared.accepting.trans inOrder.accepting, spared.early,
            spared.held.trans inOrder.held, uncrowded⟩
        all_goals cases stepped
      case pollDue =>
        by_cases due : due moment poller.pollAt = true
        · rw [if_pos due] at stepped
          cases stepped
          have spared := reply_oldest_spares moment poller
          have same := (reply_oldest_replied moment poller).phase
          exact still ⟨⟨spared.accepting, spared.queue, spared.early, spared.held⟩,
            same ▸ live, same ▸ alone⟩
        · rw [if_neg due] at stepped
          cases stepped
      case heldDue =>
        rw [inOrder.held] at stepped
        cases stepped
      all_goals first | exact absurd inside (by decide) | cases stepped
  | passing packet released =>
      rw [phase] at alone
      cases alone
      simp only [step, phase] at stepped
      have resumed := resume_goes_on moment poller packet inOrder.uncrowded.most
      cases event <;> simp only [pass] at stepped
      case chunk chunk => exact takes chunk (congrArg Prod.fst (Option.some.inj stepped))
      case passed =>
        cases stepped
        exact still resumed
      all_goals first | exact absurd inside (by decide) | cases stepped
  | prompting deadline =>
      simp only [step, phase] at stepped
      cases event <;> simp only [prompt] at stepped
      case chunk chunk =>
        have settled := settle_goes_on moment (poller.absorb moment.now chunk)
        rw [Option.some.inj stepped] at settled
        obtain ⟨spared, live, alone⟩ := settled
        exact still ⟨⟨spared.accepting, spared.queue, spared.early, spared.held⟩, live, alone⟩
      case promptDue =>
        split_ifs at stepped
        have settled := settle_goes_on moment poller
        rw [Option.some.inj stepped] at settled
        exact still settled
      all_goals first | exact absurd inside (by decide) | cases stepped
  | _ =>
      rw [phase] at live
      cases live

end Steps

/-- A poller hears chunks, unless it is free and its buffer is full with nobody there to take it. -/
def Hears (poller : Poller) : Prop := poller.phase = .serving → poller.wantsChunks = true

section Hearing

variable {poller : Poller} {next : Nat} (moment : Moment)

theorem Hears.takes_chunks (hears : poller.Hears) (live : poller.phase.live = true)
    (chunk : Bytes) : (poller.step moment (.chunk chunk)).isSome = true := by
  cases phase : poller.phase with
  | serving => simp [step, phase, serve, hears phase]
  | passing packet released => simp [step, phase, pass]
  | prompting deadline => simp [step, phase, prompt]
  | _ =>
      rw [phase] at live
      cases live

variable (present : ∀ client, moment.gone client = false)

include present

theorem decide_reply_hears (packet : Packet) (lone : poller.parked = [packet]) :
    (poller.decideReply moment).1.Hears ∨
      poller.pending ≠ [] ∧ (poller.decideReply moment).1.pending = [] := by
  unfold decideReply
  split_ifs with prompts
  · refine .inl fun serving => ?_
    cases serving
  · by_cases empty : poller.pending = []
    · have settled : (poller.settle moment).1 = { poller with phase := .serving } := by
        simp [settle, empty, lone]
      rw [settled]
      exact .inl fun _ => by simp [wantsChunks, lone]
    · refine .inr ⟨empty, ?_⟩
      simp [settle, empty, replyOldest, lone, offer, present, publish]

theorem take_in_hears (packet : Packet) (bare : poller.parked = []) :
    (poller.takeIn moment [packet]).1.Hears ∨
      poller.pending ≠ [] ∧ (poller.takeIn moment [packet]).1.pending = [] := by
  by_cases empty : packet.payload = []
  · have parks : (poller.takeIn moment [packet]).1 = (decideReply moment (publish { poller with
        lastSeen := packet.serial
        parked := [packet]
        pollAt := some (moment.now + poller.terms.pollFor) })).1 := by
      simp [takeIn, empty, park, bare, mostParked]
    rw [parks]
    exact decide_reply_hears moment present packet rfl
  · rw [takeIn, if_neg empty]
    refine .inl fun serving => ?_
    cases serving

/-- The next request makes a poller that declines chunks hear them, or empties its buffer. -/
theorem InOrder.request_heard (inOrder : poller.InOrder next) (positive : 0 < next)
    (serving : poller.phase = .serving) (declines : poller.wantsChunks = false) (packet : Packet)
    (rest : List Packet) (queue : poller.queue = packet :: rest) (serial : packet.serial = next) :
    ∃ after deeds, poller.step moment .packet = some (after, deeds) ∧ after.queue = rest ∧
      (after.Hears ∨ poller.pending ≠ [] ∧ after.pending = []) := by
  have taking := inOrder.requeued rest
  have stepped : poller.step moment .packet =
      some (({ poller with queue := rest } : Poller).receive moment packet) := by
    simp [step, serving, serve, queue]
  have queued := (receive_goes_on moment packet taking positive serial).spares.queue
  rw [receive_next moment packet taking positive serial] at stepped queued
  have bare : poller.parked = [] := by
    simp only [wantsChunks, Bool.or_eq_false_iff, Bool.not_eq_false'] at declines
    exact List.isEmpty_iff.mp declines.1
  exact ⟨_, _, stepped, queued, take_in_hears moment present packet bare⟩

end Hearing

end HttpTunnel.Server.Poller
