import HttpTunnel.Proofs.ServingOrder

/-!
The timer of the parked requests. It is unset while nobody is parked, and else it runs out one
poll time after the newest request was parked. A request is parked once, so that there is no
doubt about that instant. Whenever the poller waits for anything to happen at most one request
is parked, and no bytes wait for it.
-/

namespace HttpTunnel.Server.Poller

variable {moment : Moment} {event : Event} {terms : Terms} {done : List Packet}

/-- In the middle of a step the newest parked request has the timer that it had before, or it has
been parked in this step. -/
structure Work.Timed (moment : Moment) (start : Poller) (work : Work) : Prop where
  unset : work.poller.parked = [] → work.poller.pollAt = none
  set : ∀ newest ∈ work.poller.parked.getLast?,
    (newest ∈ start.parked.getLast? ∧ work.poller.pollAt = start.pollAt) ∨
    (newest ∉ start.parked ∧ work.poller.pollAt = some (moment.now + start.terms.pollFor))

section Acts

variable {start : Poller} {first last : Work} {outcome : Outcome}

theorem Act.times (steady : first.poller.Steady start.terms) (lined : first.Lined done)
    (kept : ∀ packet ∈ start.parked, packet ∈ done ++ first.poller.parked)
    (timed : first.Timed moment start) (unexpired : event ≠ .pollDue)
    (act : Act moment event first outcome last) : last.Timed moment start := by
  cases act with
  | reply =>
      have replied := reply_oldest_replied moment first.poller
      constructor
      · intro nobody
        dsimp only at nobody ⊢
        rw [replied.pollAt, if_pos nobody]
      · intro newest member
        dsimp only at member ⊢
        have somebody : (first.poller.replyOldest moment).1.parked ≠ [] := by
          intro nobody
          rw [nobody] at member
          cases member
        have before : newest ∈ first.poller.parked.getLast? := by
          rw [replied.split, List.getLast?_append, Option.mem_def.mp member]
          rfl
        rw [replied.pollAt, if_neg somebody]
        exact timed.set newest before
  | park poller packet released passed room paid =>
      have distinct := lined.distinct
      constructor
      · intro nobody
        simp [publish] at nobody
      · intro newest member
        have same : packet = newest := by simpa [publish] using member
        -- The packet in hand stands behind everybody in the line, so it was not parked before.
        apply Or.inr
        constructor
        · intro among
          have listed := kept newest among
          rw [← same] at listed
          exact (List.nodup_append.mp distinct).2.2 packet listed packet
            (List.mem_singleton_self _) rfl
        · have terms : poller.terms = start.terms := steady.terms
          rw [← terms]
          rfl
  | repoll _ expired => exact absurd expired unexpired
  | _ => exact ⟨timed.unset, timed.set⟩

theorem Acts.times (aligned : first.Aligned) (steady : first.poller.Steady start.terms)
    (lined : first.Lined done)
    (kept : ∀ packet ∈ start.parked, packet ∈ done ++ first.poller.parked)
    (timed : first.Timed moment start) (unexpired : event ≠ .pollDue)
    (acts : Acts moment event first outcome last) : last.Timed moment start := by
  induction acts generalizing done with
  | none work => exact timed
  | more first middle last outcome further act acts induction =>
      apply induction (act.keeps aligned).aligned (act.steady steady) (act.lines aligned lined)
      · intro packet among
        rw [List.append_assoc]
        rcases List.mem_append.mp (kept packet among) with gone | parked
        · exact List.mem_append_left _ gone
        · exact List.mem_append_right _ (act.lengthens.subset parked)
      · exact act.times steady lined kept timed unexpired

end Acts

section Steps

variable (poller after : Poller) (deeds : List Deed)

theorem poll_due_clears (uncrowded : poller.Uncrowded)
    (stepped : poller.step moment .pollDue = some (after, deeds)) :
    after.parked = [] ∧ after.pollAt = none := by
  cases phase : poller.phase <;> simp only [step, phase] at stepped
  case serving =>
    have lone := uncrowded.waiting (by simp [phase, Phase.live]) (by simp [phase, Phase.current])
    have replied := reply_oldest_replied moment poller
    have shrinks := replied.shrinks
    have nobody : (poller.replyOldest moment).1.parked = [] := by
      apply List.eq_nil_of_length_eq_zero
      omega
    simp only [serve] at stepped
    by_cases due : due moment poller.pollAt = true
    · rw [if_pos due] at stepped
      cases stepped
      refine ⟨nobody, ?_⟩
      dsimp only
      rw [if_pos nobody, replied.pollAt, if_pos nobody]
    · rw [if_neg due] at stepped
      cases stepped
  all_goals cases stepped

theorem step_times (sound : poller.Sound terms) (lined : poller.work.Lined done)
    (unset : poller.parked = [] → poller.pollAt = none)
    (stepped : poller.step moment event = some (after, deeds))
    (live : after.phase.live = true) : after.work.Timed moment poller := by
  -- Only a poll that runs out sets the timer without parking anybody.
  by_cases expired : event = .pollDue
  · rw [expired] at stepped
    obtain ⟨nobody, none⟩ := poll_due_clears poller after deeds sound.uncrowded stepped
    constructor
    · exact fun _ => none
    · intro newest member
      rw [show after.work.poller.parked = [] from nobody] at member
      cases member
  · obtain ⟨outcome, acts, _, _⟩ := step_acts poller after deeds live stepped
    have aligned := sound.aligned (step_live poller after deeds stepped live)
    apply acts.times aligned ⟨rfl, sound.steady.published⟩ lined ?_ ?_ expired
    · exact fun packet among => List.mem_append_right _ among
    · exact ⟨unset, fun newest member => .inl ⟨member, rfl⟩⟩

theorem step_lengthens (stepped : poller.step moment event = some (after, deeds))
    (live : after.phase.live = true) : poller.parked <+: completed deeds ++ after.parked := by
  obtain ⟨outcome, acts, rfl, _⟩ := step_acts poller after deeds live stepped
  rw [completed_append, completed_opening, List.nil_append]
  exact acts.lengthens

end Steps

/-- The timer of a poller that takes packets in, and the requests that it parked so far. -/
structure Punctual (terms : Terms) (poller : Poller) (trace : List Entry) : Prop where
  unset : poller.parked = [] → poller.pollAt = none
  set : ∀ newest ∈ poller.parked.getLast?, ∃ since, (since, newest) ∈ parkings trace ∧
    poller.pollAt = some (since + terms.pollFor)
  line : ∀ parking ∈ parkings trace, parking.2 ∈ completed (served trace) ++ poller.parked
  once : ((parkings trace).map Prod.snd).Nodup

theorem of_start_punctual (start : Nat) : (ofStart terms start).Punctual terms [] := by
  constructor
  · exact fun _ => rfl
  · intro newest member
    cases member
  · intro parking member
    cases member
  · exact List.Pairwise.nil

theorem Punctual.delivers {poller : Poller} {past : List Entry}
    (punctual : poller.Punctual terms past) (packet : Packet) (delivery : Delivery) :
    poller.Punctual terms (past ++ [.delivered packet delivery]) := by
  constructor
  · exact punctual.unset
  · rw [parkings_delivered]
    exact punctual.set
  · rw [parkings_delivered, served_delivered]
    exact punctual.line
  · rw [parkings_delivered]
    exact punctual.once

theorem Punctual.step {poller after : Poller} {deeds : List Deed} {past : List Entry}
    (sound : poller.Sound terms) (lined : poller.work.Lined (completed (served past)))
    (punctual : poller.Punctual terms past)
    (stepped : poller.step moment event = some (after, deeds))
    (live : after.phase.live = true) :
    after.Punctual terms (past ++ [.stepped moment event poller after deeds]) := by
  have timed := step_times poller after deeds sound lined punctual.unset stepped live
  have aligned := sound.aligned (step_live poller after deeds stepped live)
  have distinct := (step_lines poller after deeds _ aligned lined stepped live).distinct
  have apart := List.nodup_append.mp (List.nodup_append.mp distinct).1
  constructor
  · exact timed.unset
  · intro newest member
    rw [parkings_append]
    rcases timed.set newest member with ⟨before, same⟩ | ⟨fresh, same⟩
    · obtain ⟨since, parked, timer⟩ := punctual.set newest before
      exact ⟨since, List.mem_append_left _ parked, same.trans timer⟩
    · refine ⟨moment.now, List.mem_append_right _ ?_, ?_⟩
      · apply (mem_parkings_stepped ..).mpr
        exact ⟨rfl, List.mem_of_getLast? member, fresh⟩
      · rw [← sound.steady.terms]
        exact same
  · intro parking member
    rw [served_live _ _ _ _ _ _ live, completed_append, List.append_assoc]
    rw [parkings_append] at member
    rcases List.mem_append.mp member with early | late
    · rcases List.mem_append.mp (punctual.line parking early) with gone | parked
      · exact List.mem_append_left _ gone
      · have lengthens := step_lengthens poller after deeds stepped live
        exact List.mem_append_right _ (lengthens.subset parked)
    · have parked := ((mem_parkings_stepped ..).mp late).2.1
      exact List.mem_append_right _ (List.mem_append_right _ parked)
  · rw [parkings_append, List.map_append]
    apply List.nodup_append.mpr
    refine ⟨punctual.once, ?_, ?_⟩
    · exact apart.2.1.sublist (newcomers_among moment event poller after deeds Poller.parked)
    -- Whoever was parked before is still parked or completed, and stands in the line once.
    · rintro packet early other late rfl
      obtain ⟨parking, among, same⟩ := List.mem_map.mp early
      obtain ⟨⟨since, again⟩, new, rfl⟩ := List.mem_map.mp late
      obtain ⟨_, parked, fresh⟩ := (mem_parkings_stepped ..).mp new
      have listed := punctual.line parking among
      rw [same] at listed
      rcases List.mem_append.mp listed with gone | before
      · exact apart.2.2 _ (List.mem_append_left _ gone) _ parked rfl
      · exact fresh before

theorem run_punctual (start : Nat) (script : List Happening) (poller : Poller)
    (trace : List Entry) (ran : (ofStart terms start).run script = some (poller, trace)) :
    poller.Sound terms ∧ (poller.phase.live = true → poller.Punctual terms trace) := by
  have both := run_sound terms start
    (fun poller past => poller.Orderly past ∧
      (poller.phase.live = true → poller.Punctual terms past)) ?_ ?_ script poller trace ran
  · exact ⟨both.1, both.2.2⟩
  · exact ⟨of_start_orderly terms start, fun _ => of_start_punctual start⟩
  · rintro before after past entry sound ⟨orderly, punctual⟩ turn
    refine ⟨orderly.turn sound turn, ?_⟩
    intro live
    cases turn with
    | queues packet accepts =>
        have known := (punctual live).delivers packet .queued
        exact ⟨known.unset, known.set, known.line, known.once⟩
    | turnsAway packet delivery other => exact (punctual live).delivers packet delivery
    | steps moment event _ deeds stepped =>
        have alive := step_live before after deeds stepped live
        exact (punctual alive).step sound (orderly.lined alive) stepped live

/-- At every point of every run at most two requests are parked, others see how many, and their
number never ends the tunnel. Whenever the poller waits for anything to happen, either nobody is
parked and no timer is set, or one request is, no bytes are pending, and the timer runs out one
poll time after the one instant at which that request was parked. -/
theorem parked_requests_timed (terms : Terms) (start : Nat) (script : List Happening)
    (poller : Poller) (trace : List Entry)
    (ran : (ofStart terms start).run script = some (poller, trace)) :
    poller.parked.length ≤ 2 ∧
      (∀ count, poller.phase ≠ .ended (some (.tooManyParked count))) ∧
      poller.published = poller.parked.length ∧
      (poller.phase = .serving →
        poller.parked = [] ∧ poller.pollAt = none ∨
        ∃ packet since, poller.parked = [packet] ∧ poller.pending = [] ∧
          poller.pollAt = some (since + terms.pollFor) ∧
          ∀ instant, (instant, packet) ∈ parkings trace ↔ instant = since) := by
  obtain ⟨sound, punctual⟩ := run_punctual start script poller trace ran
  have uncrowded := sound.uncrowded
  refine ⟨uncrowded.most, uncrowded.fits, sound.steady.published, ?_⟩
  intro serving
  have live : poller.phase.live = true := by simp [serving, Phase.live]
  have free : poller.phase.current = none := by simp [serving, Phase.current]
  have known := punctual live
  cases parked : poller.parked with
  | nil => exact .inl ⟨rfl, known.unset parked⟩
  | cons packet rest =>
      have lone := uncrowded.waiting live free
      have alone : rest = [] := by
        rw [parked, List.length_cons] at lone
        apply List.eq_nil_of_length_eq_zero
        omega
      subst alone
      obtain ⟨since, told, timer⟩ := known.set packet (by simp [parked])
      have dry := uncrowded.dry live free (by simp [parked])
      exact .inr ⟨packet, since, rfl, dry, timer, recorded_once known.once told⟩

def takingTurns : List Happening :=
  [.deliver ⟨0, 1, []⟩, .event ⟨5, fun _ => false⟩ .packet,
    .event ⟨15, fun _ => false⟩ .promptDue, .deliver ⟨1, 2, [9]⟩,
    .event ⟨20, fun _ => false⟩ .packet, .event ⟨21, fun _ => false⟩ .passed]

theorem taking_turns_timed : ∃ poller trace,
    (ofStart { pollFor := 50 } 0).run takingTurns = some (poller, trace) ∧
      poller.phase = .serving ∧ poller.parked = [⟨1, 2, [9]⟩] ∧
      ∀ instant, (instant, ⟨1, 2, [9]⟩) ∈ parkings trace ↔ instant = 21 := by
  have came : ∃ poller trace,
      (ofStart { pollFor := 50 } 0).run takingTurns = some (poller, trace) ∧
        poller.phase = .serving ∧ poller.parked = [⟨1, 2, [9]⟩] ∧ poller.pollAt = some 71 :=
    ⟨_, _, rfl, rfl, rfl, rfl⟩
  obtain ⟨poller, trace, ran, serving, lone, due⟩ := came
  refine ⟨poller, trace, ran, serving, lone, ?_⟩
  rcases (parked_requests_timed { pollFor := 50 } 0 takingTurns poller trace ran).2.2.2 serving with
    ⟨nobody, _⟩ | ⟨packet, since, parked, _, timer, once⟩
  · rw [lone] at nobody
    cases nobody
  · rw [lone] at parked
    cases parked
    rw [due] at timer
    have same : since = 21 := by
      have sum : 71 = since + 50 := Option.some.inj timer
      omega
    rw [same] at once
    exact once

end HttpTunnel.Server.Poller
