import HttpTunnel.Proofs.PollerRuns

/-!
The packets that wait for their predecessor. There is at most one, it waits only while the poller
is free to take packets or flushes its last bytes, and its deadline was set when it was taken in.
-/

namespace HttpTunnel.Server.Poller

variable {moment : Moment} {event : Event} {terms : Terms}

def earlyPackets (poller : Poller) : List Packet := poller.early.early.map Prod.snd

/-- The packets that came before their predecessor and still waited for it at the end of the step,
each with the instant of that step. -/
def holdings (trace : List Entry) : List (Nat × Packet) := newcomers earlyPackets trace

theorem holdings_append (trace further : List Entry) :
    holdings (trace ++ further) = holdings trace ++ holdings further :=
  newcomers_append trace further earlyPackets

theorem holdings_still (trace : List Entry) (before after : Poller) (deeds : List Deed)
    (same : after.early = before.early) :
    holdings (trace ++ [.stepped moment event before after deeds]) = holdings trace := by
  have none : holdings [.stepped moment event before after deeds] = [] := by
    apply List.eq_nil_iff_forall_not_mem.mpr
    rintro ⟨arrival, packet⟩ member
    obtain ⟨_, among, fresh⟩ := (mem_newcomers_stepped ..).mp member
    rw [earlyPackets, same] at among
    exact fresh among
  rw [holdings_append, none, List.append_nil]

section Window

variable {work : Work}

/-- An early packet is the one after the missing one. -/
theorem Work.Aligned.skips (aligned : work.Aligned) (packet : Packet)
    (among : packet ∈ work.poller.earlyPackets) :
    packet.serial = work.poller.early.next + 1 := by
  obtain ⟨entry, member, rfl⟩ := List.mem_map.mp among
  have later := aligned.tidy.later entry member
  have within := aligned.tidy.within entry member
  have reach := aligned.ahead
  rw [aligned.keyed entry member]
  omega

theorem Work.Aligned.lone_early (aligned : work.Aligned) :
    work.poller.earlyPackets.length ≤ 1 := by
  have ascending := aligned.tidy.ascending
  have later := aligned.tidy.later
  have within := aligned.tidy.within
  have reach := aligned.ahead
  unfold earlyPackets
  rw [List.length_map]
  generalize work.poller.early.early = early at ascending later within
  rcases early with _ | ⟨first, _ | ⟨second, rest⟩⟩
  · exact Nat.zero_le _
  · exact Nat.le_refl _
  · have order := (List.pairwise_cons.mp ascending).1 second (List.mem_cons_self ..)
    have low := later first (List.mem_cons_self ..)
    have high := within second (by simp)
    omega

end Window

/-- In the middle of a step an early packet has the deadline that it had before, or it has been
taken in in this step. Those that were early before still are, or their predecessor has come. -/
structure Work.Holds (moment : Moment) (start : Poller) (work : Work) : Prop where
  unset : work.poller.earlyPackets = [] → work.poller.held = none
  set : ∀ packet ∈ work.poller.earlyPackets,
    (packet ∈ start.earlyPackets ∧ work.poller.held = start.held) ∨
    (packet ∉ start.earlyPackets ∧
      work.poller.held = some (moment.now + start.terms.pollFor, packet.serial))
  kept : ∀ packet ∈ start.earlyPackets,
    packet ∈ work.poller.earlyPackets ∨ packet.serial < work.poller.early.next

section Acts

variable {start : Poller} {first last : Work} {outcome : Outcome}

theorem Work.Holds.still (holds : first.Holds moment start)
    (early : last.poller.early = first.poller.early)
    (held : last.poller.held = first.poller.held) : last.Holds moment start := by
  have same : last.poller.earlyPackets = first.poller.earlyPackets := by
    rw [earlyPackets, early, earlyPackets]
  constructor
  · rw [same, held]
    exact holds.unset
  · rw [same, held]
    exact holds.set
  · rw [same, early]
    exact holds.kept

/-- A packet that has to wait finds the window empty, and gets a deadline of its own. -/
theorem Work.Holds.enters (poller : Poller) (packet : Packet) (rest : List Packet)
    (early : SerialWindow Packet) (holds : Work.Holds moment start ⟨poller, none, []⟩)
    (terms : poller.terms = start.terms) (vacant : poller.early.early = [])
    (entered : early.early = [(packet.serial.toNat, packet)])
    (follows : packet.serial.toNat = poller.early.next + 1)
    (advanced : early.next = poller.early.next) :
    Work.Holds moment start
      ⟨{ poller with
          queue := rest
          early := early
          held := poller.heldAfter moment packet [] early }, none, []⟩ := by
  have nobody : poller.earlyPackets = [] := by rw [earlyPackets, vacant, List.map_nil]
  have unset : poller.held = none := holds.unset nobody
  have alone : ({ poller with queue := rest, early := early } : Poller).earlyPackets =
      [packet] := by
    simp only [earlyPackets, entered, List.map_cons, List.map_nil]
  have passed : ∀ other ∈ start.earlyPackets, other.serial < poller.early.next := by
    intro other before
    apply (holds.kept other before).resolve_left
    exact fun among => List.not_mem_nil (nobody ▸ among)
  constructor
  · intro none
    cases alone.symm.trans none
  · intro other among
    obtain rfl : other = packet := List.mem_singleton.mp (alone ▸ among)
    apply Or.inr
    constructor
    · intro before
      have behind := passed other before
      omega
    · simp only [heldAfter, unset, ← terms]
      rfl
  · intro other before
    exact .inr (advanced ▸ passed other before)

theorem Work.Holds.clears (poller : Poller) (packet : Packet) (rest released : List Packet)
    (early : SerialWindow Packet) (aligned : Work.Aligned ⟨poller, none, []⟩)
    (holds : Work.Holds moment start ⟨poller, none, []⟩) (some : released ≠ [])
    (emptied : early.early = [])
    (push : SerialWindow.Pushed poller.early packet.serial.toNat packet released early) :
    Work.Holds moment start
      ⟨{ poller with
          queue := rest
          early := early
          held := poller.heldAfter moment packet released early }, none, released⟩ := by
  have nobody : ({ poller with queue := rest, early := early } : Poller).earlyPackets = [] := by
    simp only [earlyPackets, emptied, List.map_nil]
  have advanced : early.next = poller.early.next + released.length := push.next
  constructor
  · intro _
    simp only [heldAfter, if_neg some, SerialWindow.backlog, emptied, List.length_nil, if_true]
  · intro other among
    cases nobody ▸ among
  · intro other before
    apply Or.inr
    show other.serial < early.next
    rcases holds.kept other before with still | passed
    · obtain ⟨entry, member, rfl⟩ := List.mem_map.mp still
      have keyed : entry.2.serial = entry.1 := aligned.keyed entry member
      -- The window is empty now, so that what it kept has been released.
      have out : entry ∈ SerialWindow.numbered poller.early.next released := by
        have either := push.split.mem_iff.mpr (List.mem_cons_of_mem _ member)
        rwa [emptied, List.append_nil] at either
      have listed : entry.1 ∈ (SerialWindow.numbered poller.early.next released).map Prod.fst :=
        List.mem_map_of_mem out
      rw [SerialWindow.numbered_serials, List.mem_range'_1] at listed
      omega
    · simp only at passed
      omega

theorem Act.holds (aligned : first.Aligned) (steady : first.poller.Steady start.terms)
    (holds : first.Holds moment start) (act : Act moment event first outcome last) :
    last.Holds moment start := by
  cases act with
  | reply =>
      have replied := reply_oldest_replied moment first.poller
      exact holds.still replied.early replied.held
  | order poller packet rest released early waiting positive pushed came =>
      have push := SerialWindow.push_spec _ _ _ _ _ aligned.tidy pushed
      rcases push.narrow aligned.tidy aligned.ahead with
        ⟨rfl, vacant, entered, follows⟩ | ⟨some, emptied⟩
      · exact holds.enters poller packet rest early steady.terms vacant entered follows push.next
      · exact holds.clears poller packet rest released early aligned some emptied push
  | _ => exact holds.still rfl rfl

theorem Acts.holds (aligned : first.Aligned) (steady : first.poller.Steady start.terms)
    (holds : first.Holds moment start) (acts : Acts moment event first outcome last) :
    last.Holds moment start := by
  induction acts with
  | none work => exact holds
  | more first middle last outcome further act acts induction =>
      exact induction (act.keeps aligned).aligned (act.steady steady)
        (act.holds aligned steady holds)

theorem Acts.still (other : event ≠ .packet) (acts : Acts moment event first outcome last) :
    last.poller.early = first.poller.early := by
  induction acts with
  | none work => rfl
  | more first middle last outcome further act acts induction =>
      apply induction.trans
      cases act with
      | reply => exact (reply_oldest_replied moment first.poller).early
      | order poller packet rest released early waiting positive pushed came =>
          exact absurd came other
      | _ => rfl

end Acts

section Steps

variable (poller after : Poller) (deeds : List Deed)

theorem step_holds (sound : poller.Sound terms)
    (unset : poller.earlyPackets = [] → poller.held = none)
    (stepped : poller.step moment event = some (after, deeds))
    (live : after.phase.live = true) : after.work.Holds moment poller := by
  obtain ⟨outcome, acts, _, _⟩ := step_acts poller after deeds live stepped
  have aligned := sound.aligned (step_live poller after deeds stepped live)
  apply acts.holds aligned ⟨rfl, sound.steady.published⟩
  exact ⟨unset, fun packet among => .inl ⟨among, rfl⟩, fun packet among => .inl among⟩

theorem step_flushes (sound : poller.Sound terms) (deadline : Nat)
    (stepped : poller.step moment event = some (after, deeds))
    (flushing : after.phase = .flushing deadline) :
    after.early = poller.early ∧ after.held = poller.held ∧ after.parked = [] ∧
      deadline = moment.now + terms.pollFor := by
  rcases step_cases poller after deeds sound.uncrowded.most stepped with
    ⟨live, _⟩ | ⟨_, own, _, leaves⟩
  · rw [flushing] at live
    cases live
  · cases leaves with
    | parts start _ _ _ _ same _ _ _ _ parting whole early held =>
        cases parting with
        | waits nobody left =>
            cases flushing
            refine ⟨early, held, nobody, ?_⟩
            rw [same, sound.steady.terms]
        | concludes failure => cases flushing

theorem flush_ends (deadline : Nat)
    (stepped : poller.flush moment deadline event = some (after, deeds)) :
    after.hasEnded = true := by
  cases event <;> simp only [flush] at stepped
  case packet =>
    cases waiting : poller.queue <;> simp only [waiting] at stepped
    all_goals cases stepped
    rfl
  case packetsEnd =>
    split_ifs at stepped
    cases stepped
    rfl
  case flushDue =>
    split_ifs at stepped
    cases stepped
    rfl
  all_goals cases stepped
  rfl

theorem flushes_from_live (deadline : Nat)
    (stepped : poller.step moment event = some (after, deeds))
    (flushing : after.phase = .flushing deadline) : poller.phase.live = true := by
  cases phase : poller.phase <;> simp only [step, phase] at stepped
  case flushing before =>
    have ended := flush_ends poller after deeds before stepped
    rw [hasEnded, flushing] at ended
    cases ended
  case ended failure => cases stepped
  all_goals rfl

theorem take_keeps_phase (moment : Moment) (chunk : Bytes) :
    (poller.take moment chunk).1.phase = poller.phase := by
  unfold take
  dsimp only
  split_ifs
  · rfl
  · exact (reply_oldest_replied moment (poller.absorb moment.now chunk)).phase

theorem take_in_still (released : List Packet) (live : poller.phase.live = true)
    (alive : (poller.takeIn moment released).1.phase.live = true) :
    (poller.takeIn moment released).1.early = poller.early := by
  -- Taking released packets in does not depend on the event, so any other one shows it.
  obtain ⟨outcome, _, _, ends⟩ := take_in_comes moment .stop released poller live
  generalize poller.takeIn moment released = taken at alive ends ⊢
  rcases taken with ⟨after, deeds⟩
  cases ends with
  | lives _ _ acts => exact acts.still (by simp)
  | overflows last _ _ _ _ acts crowd parting whole =>
      rw [parting.dead] at alive
      cases alive

/-- Packets wait for their predecessor only while the poller is free to take it in. -/
def Open (poller : Poller) : Prop :=
  poller.phase.live = true → poller.phase ≠ .serving → poller.early.early = []

theorem Open.serving {poller : Poller} (opened : poller.Open) (live : poller.phase.live = true)
    (some : poller.earlyPackets ≠ []) : poller.phase = .serving := by
  by_contra busy
  apply some
  rw [earlyPackets, opened live busy, List.map_nil]

theorem receive_open (moment : Moment) (packet : Packet) (serving : poller.phase = .serving)
    (aligned : poller.work.Aligned) : (poller.receive moment packet).1.Open := by
  have refuses : ∀ failure, ((poller.fail moment failure).1).Open := by
    intro failure live
    rw [(fail_parts moment poller failure).dead] at live
    cases live
  unfold receive
  dsimp only
  split_ifs
  · exact refuses _
  · cases pushed : poller.early.push packet.serial.toNat packet with
    | error refusal => exact refuses _
    | ok result =>
        rcases result with ⟨released, early⟩
        have push := SerialWindow.push_spec _ _ _ _ _ aligned.tidy pushed
        cases released with
        | nil => exact fun _ busy => absurd serving busy
        | cons first released =>
            intro live _
            dsimp only at live ⊢
            rw [take_in_still _ (first :: released) (by rw [serving]; rfl) live]
            rcases push.narrow aligned.tidy aligned.ahead with ⟨none, _⟩ | ⟨_, emptied⟩
            · cases none
            · exact emptied

theorem serve_stays (serving : poller.phase = .serving) (other : event ≠ .packet)
    (served : poller.serve moment event = some (after, deeds))
    (live : after.phase.live = true) : after.phase = .serving := by
  have fails : ∀ failure, poller.fail moment failure = (after, deeds) → after.phase = .serving := by
    intro failure failed
    have dead := (fail_parts moment poller failure).dead
    rw [failed, live] at dead
    cases dead
  cases event <;> simp only [serve] at served
  case packet => exact absurd rfl other
  case chunk chunk =>
    split_ifs at served
    have same := take_keeps_phase poller moment chunk
    rw [Option.some.inj served] at same
    exact same.trans serving
  case pollDue =>
    by_cases due : due moment poller.pollAt = true
    · rw [if_pos due] at served
      cases served
      exact (reply_oldest_replied moment poller).phase.trans serving
    · rw [if_neg due] at served
      cases served
  case heldDue =>
    cases held : poller.held <;> simp only [held] at served
    case some due =>
      split_ifs at served
      exact fails _ (Option.some.inj served)
    all_goals cases served
  case stop =>
    split_ifs at served
    exact fails _ (Option.some.inj served)
  case downstreamEnd =>
    split_ifs at served
    exact fails _ (Option.some.inj served)
  case close =>
    cases served
    cases live
  case packetsEnd =>
    split_ifs at served
    cases served
    cases live
  case idleDue =>
    split_ifs at served
    cases served
    cases live
  all_goals cases served

theorem step_open (aligned : poller.phase.live = true → poller.work.Aligned) (opened : poller.Open)
    (stepped : poller.step moment event = some (after, deeds)) : after.Open := by
  intro live busy
  have alive := step_live poller after deeds stepped live
  by_cases came : event = .packet
  · rw [came] at stepped
    cases phase : poller.phase <;> simp only [step, phase] at stepped
    case serving =>
      cases waiting : poller.queue <;> simp only [serve, waiting] at stepped
      case cons packet rest =>
        have before := aligned alive
        have received := receive_open { poller with queue := rest } moment packet phase
          ⟨before.tidy, before.ahead, before.started, before.next, before.keyed, before.run,
            before.current, before.parked⟩
        rw [Option.some.inj stepped] at received
        exact received live busy
      all_goals cases stepped
    case flushing deadline =>
      rw [phase] at alive
      cases alive
    all_goals cases stepped
  · obtain ⟨outcome, acts, _, _⟩ := step_acts poller after deeds live stepped
    have same : after.early = poller.early := acts.still came
    rw [same]
    apply opened alive
    intro serving
    rw [step, serving] at stepped
    exact busy (serve_stays poller after deeds serving came stepped live)

end Steps

/-- The deadline of a poller that may have early packets, and what it took in so far. -/
structure Waits (terms : Terms) (poller : Poller) (trace : List Entry) : Prop where
  unset : poller.earlyPackets = [] → poller.held = none
  set : ∀ packet ∈ poller.earlyPackets, ∃ arrival, (arrival, packet) ∈ holdings trace ∧
    poller.held = some (arrival + terms.pollFor, packet.serial)
  line : ∀ holding ∈ holdings trace, holding.2 ∈ poller.earlyPackets ∨
    holding.2.serial < poller.early.next
  once : ((holdings trace).map Prod.snd).Nodup

theorem of_start_waits (start : Nat) : (ofStart terms start).Waits terms [] := by
  constructor
  · exact fun _ => rfl
  · intro packet among
    cases among
  · intro holding member
    cases member
  · exact List.Pairwise.nil

theorem Waits.still {poller after : Poller} {past trace : List Entry}
    (waits : poller.Waits terms past) (early : after.early = poller.early)
    (held : after.held = poller.held) (same : holdings trace = holdings past) :
    after.Waits terms trace := by
  have packets : after.earlyPackets = poller.earlyPackets := by
    rw [earlyPackets, early, earlyPackets]
  constructor
  · rw [packets, held]
    exact waits.unset
  · rw [packets, held, same]
    exact waits.set
  · rw [packets, early, same]
    exact waits.line
  · rw [same]
    exact waits.once

theorem Waits.taken_once {poller after : Poller} {deeds : List Deed} {past : List Entry}
    (waits : poller.Waits terms past) (aligned : after.work.Aligned)
    (advances : poller.early.next ≤ after.early.next) :
    ((holdings (past ++ [.stepped moment event poller after deeds])).map Prod.snd).Nodup := by
  rw [holdings_append, List.map_append]
  apply List.nodup_append.mpr
  refine ⟨waits.once, ?_, ?_⟩
  · have among : ((holdings [.stepped moment event poller after deeds]).map Prod.snd).Sublist
        after.earlyPackets := newcomers_among ..
    have few := Nat.le_trans among.length_le aligned.lone_early
    generalize (holdings [.stepped moment event poller after deeds]).map Prod.snd = latest at few
    rcases latest with _ | ⟨first, _ | ⟨second, rest⟩⟩
    · exact List.nodup_nil
    · exact List.nodup_singleton first
    · simp at few
  · rintro packet earlier other latest rfl
    obtain ⟨holding, among, same⟩ := List.mem_map.mp earlier
    obtain ⟨⟨arrival, again⟩, new, rfl⟩ := List.mem_map.mp latest
    obtain ⟨_, early, fresh⟩ := (mem_newcomers_stepped ..).mp new
    have ahead : again.serial = after.early.next + 1 := aligned.skips _ early
    rcases waits.line holding among with still | passed
    · rw [same] at still
      exact fresh still
    · rw [same] at passed
      simp only at passed
      omega

theorem Waits.step {poller after : Poller} {deeds : List Deed} {past : List Entry}
    (sound : poller.Sound terms) (waits : poller.Waits terms past)
    (stepped : poller.step moment event = some (after, deeds))
    (live : after.phase.live = true) :
    after.Waits terms (past ++ [.stepped moment event poller after deeds]) := by
  have holds := step_holds poller after deeds sound waits.unset stepped live
  have before := sound.aligned (step_live poller after deeds stepped live)
  obtain ⟨outcome, keeps, _⟩ := step_keeps poller after deeds stepped live before
  have advances : poller.early.next ≤ after.early.next := keeps.next
  constructor
  · exact holds.unset
  · intro packet among
    rw [holdings_append]
    rcases holds.set packet among with ⟨old, same⟩ | ⟨fresh, same⟩
    · obtain ⟨arrival, taken, deadline⟩ := waits.set packet old
      exact ⟨arrival, List.mem_append_left _ taken, same.trans deadline⟩
    · refine ⟨moment.now, List.mem_append_right _ ?_, ?_⟩
      · exact (mem_newcomers_stepped ..).mpr ⟨rfl, among, fresh⟩
      · rw [← sound.steady.terms]
        exact same
  · intro holding member
    rw [holdings_append] at member
    rcases List.mem_append.mp member with earlier | latest
    · rcases waits.line holding earlier with still | passed
      · exact holds.kept holding.2 still
      · exact .inr (by omega)
    · exact .inl ((mem_newcomers_stepped ..).mp latest).2.1
  · exact waits.taken_once keeps.aligned advances

/-- What is known of the early packets at every point of a run. -/
structure Early (terms : Terms) (poller : Poller) (trace : List Entry) : Prop where
  opened : poller.Open
  waits : poller.hasEnded = false → poller.Waits terms trace

theorem of_start_early (start : Nat) : (ofStart terms start).Early terms [] :=
  ⟨fun _ _ => rfl, fun _ => of_start_waits start⟩

theorem Early.turn {before after : Poller} {past : List Entry} {entry : Entry}
    (sound : before.Sound terms) (early : before.Early terms past)
    (turn : Turn before after entry) : after.Early terms (past ++ [entry]) := by
  cases turn with
  | queues packet accepts =>
      refine ⟨early.opened, fun active => ?_⟩
      exact (early.waits active).still rfl rfl (newcomers_delivered ..)
  | turnsAway packet delivery other =>
      refine ⟨early.opened, fun active => ?_⟩
      exact (early.waits active).still rfl rfl (newcomers_delivered ..)
  | steps moment event _ deeds stepped =>
      refine ⟨step_open before after deeds sound.aligned early.opened stepped, ?_⟩
      intro active
      have waits := early.waits (step_active before after deeds stepped)
      cases phase : after.phase with
      | flushing deadline =>
          obtain ⟨same, held, _⟩ := step_flushes before after deeds sound deadline stepped phase
          exact waits.still same held (holdings_still past before after deeds same)
      | ended failure =>
          rw [hasEnded, phase] at active
          cases active
      | _ => exact waits.step sound stepped (by rw [phase]; rfl)

end HttpTunnel.Server.Poller
