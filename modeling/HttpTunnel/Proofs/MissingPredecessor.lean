import HttpTunnel.Proofs.HeldPackets
import HttpTunnel.Proofs.RequestCompletion
import HttpTunnel.Proofs.ServingOrder

/-!
The gap in front of a held packet. Whenever the poller is free, its window stands right behind the
packets that it has looked at. Either nobody waits in it and no deadline runs, or the packet after
the missing one does, with the deadline that was set as it was taken in. So when the deadline fires
the missing packet has not been looked at, and it has not come at all unless it is still queued.
-/

namespace HttpTunnel.Server.Poller

variable {moment : Moment} {event : Event} {terms : Terms}

section Newcomer

variable (poller after : Poller) (deeds : List Deed)

theorem receive_newcomer (packet other : Packet) (serving : poller.phase = .serving)
    (aligned : poller.work.Aligned) (live : (poller.receive moment packet).1.phase.live = true)
    (among : other ∈ (poller.receive moment packet).1.earlyPackets) : other = packet := by
  have refuses : ∀ failure, (poller.fail moment failure).1.phase.live = true → other = packet := by
    intro failure alive
    rw [(fail_parts moment poller failure).dead] at alive
    cases alive
  unfold receive at live among
  dsimp only at live among
  split_ifs at live among with negative
  · exact refuses _ live
  · cases pushed : poller.early.push packet.serial.toNat packet with
    | error refusal =>
        rw [pushed] at live
        exact refuses _ live
    | ok result =>
        rcases result with ⟨released, early⟩
        simp only [pushed] at live among
        have push := SerialWindow.push_spec _ _ _ _ _ aligned.tidy pushed
        rcases push.narrow aligned.tidy aligned.ahead with
          ⟨rfl, _, entered, _⟩ | ⟨some, emptied⟩
        · simp only [earlyPackets, entered, List.map_cons, List.map_nil] at among
          exact List.mem_singleton.mp among
        · obtain ⟨first, further, rfl⟩ := List.exists_cons_of_ne_nil some
          simp only at live among
          rw [earlyPackets, take_in_still _ (first :: further) (by rw [serving]; rfl) live] at among
          rw [emptied] at among
          cases among

theorem step_newcomer (sound : poller.Sound terms)
    (stepped : poller.step moment event = some (after, deeds)) (packet : Packet)
    (among : packet ∈ after.earlyPackets) (fresh : packet ∉ poller.earlyPackets) :
    event = .packet ∧ ∃ rest, poller.queue = packet :: rest := by
  have changed : after.early ≠ poller.early := by
    intro same
    rw [earlyPackets, same] at among
    exact fresh among
  -- A poller that flushes keeps its window, and one that has ended has none.
  have live : after.phase.live = true := by
    cases phase : after.phase with
    | flushing deadline =>
        have same := (step_flushes poller after deeds sound deadline stepped phase).1
        exact absurd same changed
    | ended failure =>
        have rests := step_rests poller after deeds sound.uncrowded.most stepped
          (by rw [hasEnded, phase])
        rw [earlyPackets, rests.early] at among
        cases among
    | _ => rfl
  have came : event = .packet := by
    by_contra other
    obtain ⟨outcome, acts, _, _⟩ := step_acts poller after deeds live stepped
    exact changed (acts.still other)
  subst came
  refine ⟨rfl, ?_⟩
  have aligned := sound.aligned (step_live poller after deeds stepped live)
  cases phase : poller.phase <;> simp only [step, phase] at stepped
  case serving =>
    cases waiting : poller.queue <;> simp only [serve, waiting] at stepped
    case cons head rest =>
      have received : (({ poller with queue := rest } : Poller).receive moment head).1 = after :=
        congrArg Prod.fst (Option.some.inj stepped)
      rw [← received] at live among
      have newcomer : packet = head :=
        receive_newcomer { poller with queue := rest } head packet phase
          ⟨aligned.tidy, aligned.ahead, aligned.started, aligned.next, aligned.keyed, aligned.run,
            aligned.current, aligned.parked⟩ live among
      exact ⟨rest, by rw [newcomer]⟩
    all_goals cases stepped
  case flushing deadline =>
    have ended := flush_ends poller after deeds deadline stepped
    obtain ⟨failure, phase⟩ := ended_phase after ended
    rw [phase] at live
    cases live
  all_goals cases stepped

end Newcomer

section Runs

/-- The step of a run in which a packet was taken from the head of the queue. -/
def TakenAt (trace : List Entry) (packet : Packet) (instant : Nat) : Prop :=
  ∃ moment before after deeds rest, .stepped moment .packet before after deeds ∈ trace ∧
    moment.now = instant ∧ before.queue = packet :: rest

theorem TakenAt.grows {past : List Entry} {packet : Packet} {instant : Nat}
    (taken : TakenAt past packet instant) (further : List Entry) :
    TakenAt (past ++ further) packet instant := by
  obtain ⟨moment, before, after, deeds, rest, member, now, queue⟩ := taken
  exact ⟨moment, before, after, deeds, rest, List.mem_append_left _ member, now, queue⟩

/-- What the rest of a run says of a poller's gap. -/
structure Traced (poller : Poller) (trace : List Entry) : Prop where
  taken : ∀ holding ∈ holdings trace, TakenAt trace holding.2 holding.1
  whole : poller.phase.live = true → deedsOf trace = served trace

theorem of_start_traced (start : Nat) : (ofStart terms start).Traced [] :=
  ⟨nofun, fun _ => rfl⟩

theorem Traced.delivers {poller after : Poller} {past : List Entry} (traced : poller.Traced past)
    (packet : Packet) (delivery : Delivery) (same : after.phase = poller.phase) :
    after.Traced (past ++ [.delivered packet delivery]) := by
  constructor
  · intro holding member
    rw [holdings, newcomers_delivered] at member
    exact (traced.taken holding member).grows _
  · rw [deeds_of_delivered, served_delivered, same]
    exact traced.whole

theorem Traced.turn {before after : Poller} {past : List Entry} {entry : Entry}
    (sound : before.Sound terms) (traced : before.Traced past)
    (turn : Turn before after entry) : after.Traced (past ++ [entry]) := by
  cases turn with
  | queues packet accepts => exact traced.delivers packet .queued rfl
  | turnsAway packet delivery other => exact traced.delivers packet delivery rfl
  | steps moment event _ deeds stepped =>
      constructor
      · rintro ⟨instant, packet⟩ member
        rw [holdings_append] at member
        rcases List.mem_append.mp member with earlier | latest
        · exact (traced.taken _ earlier).grows _
        · obtain ⟨now, among, fresh⟩ := (mem_newcomers_stepped ..).mp latest
          obtain ⟨rfl, rest, queue⟩ := step_newcomer before after deeds sound stepped packet among
            fresh
          exact ⟨moment, before, after, deeds, rest,
            List.mem_append_right _ (List.mem_singleton_self _), now.symm, queue⟩
      · intro live
        rw [deeds_of_stepped, served_live _ _ _ _ _ _ live,
          traced.whole (step_live before after deeds stepped live)]

/-- How a free poller stands towards a packet that has overtaken another one. -/
inductive Standing (terms : Terms) (poller : Poller) (trace : List Entry) : Prop where
  | closed (nobody : poller.early.early = []) (unset : poller.held = none)
  | gap (packet : Packet) (arrival : Nat)
      (alone : poller.early.early = [(packet.serial.toNat, packet)])
      (skips : packet.serial = poller.lastSeen + 2) (taken : TakenAt trace packet arrival)
      (once : ∀ instant, (instant, packet) ∈ holdings trace ↔ instant = arrival)
      (due : poller.held = some (arrival + terms.pollFor, packet.serial))

theorem serving_next {poller : Poller} (sound : poller.Sound terms)
    (serving : poller.phase = .serving) : (poller.early.next : Int) = poller.lastSeen + 1 := by
  have aligned := sound.aligned (by rw [serving]; rfl)
  have started : 0 ≤ poller.lastSeen := aligned.started
  have next := aligned.next
  simp only [work, serving, Phase.released, List.length_nil, Nat.add_zero] at next
  omega

theorem Early.standing {poller : Poller} {trace : List Entry} (sound : poller.Sound terms)
    (early : poller.Early terms trace) (traced : poller.Traced trace)
    (serving : poller.phase = .serving) : poller.Standing terms trace := by
  have aligned := sound.aligned (by rw [serving]; rfl)
  have next := serving_next sound serving
  have waits := early.waits (by rw [hasEnded, serving])
  have few := aligned.lone_early
  cases window : poller.early.early with
  | nil => exact .closed window (waits.unset (by rw [earlyPackets, window]; rfl))
  | cons entry further =>
      rcases entry with ⟨serial, packet⟩
      have among : packet ∈ poller.earlyPackets := by
        rw [earlyPackets, window]
        exact List.mem_cons_self ..
      obtain rfl : further = [] := by
        simp only [earlyPackets, work, window, List.length_map, List.length_cons] at few
        exact List.length_eq_zero_iff.mp (by omega)
      have keyed : packet.serial = serial :=
        aligned.keyed (serial, packet) (by rw [work, window]; exact List.mem_cons_self ..)
      have skips : packet.serial = poller.early.next + 1 := aligned.skips packet among
      obtain ⟨arrival, member, due⟩ := waits.set packet among
      refine .gap packet arrival ?_ (by omega) (traced.taken _ member)
        (recorded_once waits.once member) due
      rw [window, keyed, Int.toNat_natCast]

theorem run_standing (start : Nat) (script : List Happening) (poller : Poller)
    (trace : List Entry) (ran : (ofStart terms start).run script = some (poller, trace))
    (serving : poller.phase = .serving) :
    poller.Sound terms ∧ poller.Standing terms trace ∧ deedsOf trace = served trace := by
  obtain ⟨sound, early, traced⟩ := run_sound terms start
    (fun poller past => poller.Early terms past ∧ poller.Traced past)
    ⟨of_start_early start, of_start_traced start⟩
    (fun _ _ _ _ sound known turn => ⟨known.1.turn sound turn, known.2.turn sound turn⟩)
    script poller trace ran
  exact ⟨sound, early.standing sound traced serving, traced.whole (by rw [serving]; rfl)⟩

end Runs

section Lapse

variable {poller : Poller}

theorem held_due_steps (serving : poller.phase = .serving) (after : Poller) (deeds : List Deed) :
    poller.step moment .heldDue = some (after, deeds) ↔
      ∃ deadline serial, poller.held = some (deadline, serial) ∧ deadline ≤ moment.now ∧
        poller.conclude moment (some (.serialMismatch poller.lastSeen serial)) =
          (after, deeds) := by
  have parts : ∀ serial, poller.fail moment (.serialMismatch poller.lastSeen serial) =
      poller.conclude moment (some (.serialMismatch poller.lastSeen serial)) := by
    intro serial
    rw [fail, if_neg (by simp)]
  simp only [step, serving, serve]
  cases held : poller.held with
  | none => simp
  | some due =>
      rcases due with ⟨deadline, serial⟩
      by_cases late : deadline ≤ moment.now
      · simp [late, parts]
      · simp [late]

theorem Standing.skips {trace : List Entry} (standing : poller.Standing terms trace)
    (packet : Packet) (among : packet ∈ poller.earlyPackets) :
    packet.serial = poller.lastSeen + 2 := by
  cases standing with
  | closed nobody unset =>
      rw [earlyPackets, nobody] at among
      cases among
  | gap held arrival alone skips taken once due =>
      rw [earlyPackets, alone] at among
      rw [List.mem_singleton.mp among]
      exact skips

/-- The deadline fires for the packet behind the gap, once it has waited for the time of a poll. -/
theorem Standing.fires {trace : List Entry} (standing : poller.Standing terms trace)
    (serving : poller.phase = .serving) (moment : Moment) (after : Poller) (deeds : List Deed) :
    poller.step moment .heldDue = some (after, deeds) ↔
      ∃ packet arrival, poller.early.early = [(packet.serial.toNat, packet)] ∧
        (arrival, packet) ∈ holdings trace ∧ arrival + terms.pollFor ≤ moment.now ∧
        poller.conclude moment (some (.serialMismatch poller.lastSeen packet.serial)) =
          (after, deeds) := by
  rw [held_due_steps serving]
  cases standing with
  | closed nobody unset => simp [nobody, unset]
  | gap held arrival alone skips taken once due =>
      rw [due, alone]
      constructor
      · rintro ⟨_, _, same, late, ended⟩
        cases same
        exact ⟨held, arrival, rfl, (once arrival).mpr rfl, late, ended⟩
      · rintro ⟨packet, instant, same, member, late, ended⟩
        obtain rfl : held = packet := congrArg Prod.snd (List.singleton_inj.mp same)
        rw [(once instant).mp member] at late
        exact ⟨_, _, rfl, late, ended⟩

theorem held_due_queue (tunnel : Tunnel) (now : Nat) (serving : tunnel.poller.phase = .serving)
    (next : tunnel.nextEvent now = some .heldDue) : tunnel.poller.queue = [] := by
  have downstream : tunnel.fromLink ≠ some .heldDue := by
    unfold Tunnel.fromLink
    split <;> simp
  by_contra queued
  -- A queued packet would be the next event, unless one that comes even before it is.
  have came : tunnel.fromQueue = some .packet := if_pos queued
  simp only [Tunnel.nextEvent, serving, came, Option.orElse_eq_orElse, Option.orElse_eq_or,
    Option.or_eq_some_iff] at next
  rcases next with close | ⟨_, down | ⟨_, packet | ⟨none, _⟩⟩⟩
  · split_ifs at close
    cases close
  · split_ifs at down
    · exact downstream down
    · cases down
  · cases packet
  · cases none

/-- All packets that were accepted: one for each serial up to the last one seen, those that wait
for their predecessor, and those that the poller has not taken from its queue. -/
theorem serving_accepted (trace : List Entry) (serving : poller.phase = .serving)
    (whole : deedsOf trace = served trace) (orderly : poller.Orderly trace)
    (accounted : poller.Accounted trace) :
    (accepted trace).Perm (completed (deedsOf trace) ++ poller.parked ++
        poller.earlyPackets ++ poller.queue) ∧
      (completed (deedsOf trace) ++ poller.parked).map Packet.serial =
        (List.range' 1 poller.lastSeen.toNat).map Int.ofNat := by
  constructor
  · apply accounted.balance.trans
    apply List.perm_iff_count.mpr
    intro other
    simp only [Work.packets, work, serving, Phase.current, Phase.released, earlyPackets,
      Option.toList_none, List.count_append, List.count_nil]
    omega
  · have lined := orderly.lined (by rw [serving]; rfl)
    rw [Work.Lined, ← whole] at lined
    simpa only [work, serving, Phase.current, Option.toList_none, List.append_nil] using lined

theorem missing_queued {accepted looked early queue : List Packet} {lastSeen : Int}
    (balance : accepted.Perm (looked ++ early ++ queue))
    (lined : looked.map Packet.serial = (List.range' 1 lastSeen.toNat).map Int.ofNat)
    (skips : ∀ packet ∈ early, packet.serial = lastSeen + 2) (started : 0 ≤ lastSeen)
    (packet : Packet) (came : packet ∈ accepted) (missing : packet.serial = lastSeen + 1) :
    packet ∈ queue := by
  rcases List.mem_append.mp (balance.mem_iff.mp came) with before | still
  · exfalso
    -- Serials up to the last one seen are below that of the missing packet, the early one above.
    rcases List.mem_append.mp before with seen | waits
    · have listed : packet.serial ∈ (List.range' 1 lastSeen.toNat).map Int.ofNat :=
        lined ▸ List.mem_map_of_mem seen
      obtain ⟨serial, within, same⟩ := List.mem_map.mp listed
      rw [List.mem_range'_1] at within
      have upto : (serial : Int) = packet.serial := same
      omega
    · have beyond := skips packet waits
      omega
  · exact still

/-- Whenever the poller is free, the window stands behind the last packet seen, and it holds
nobody or just the packet after the missing one, with the deadline that began as it was taken in.
When the deadline fires it names that packet, and no packet that was looked at has the serial of
the missing one; by then no such packet has been accepted at all, as the timer comes after the
queue. Once the gap is closed no deadline fires. -/
theorem deadline_names_packet_behind_gap (terms : Terms) (start : Nat) (script : List Happening)
    (poller : Poller) (trace : List Entry)
    (ran : (ofStart terms start).run script = some (poller, trace))
    (serving : poller.phase = .serving) :
    (poller.early.next : Int) = poller.lastSeen + 1 ∧ poller.Standing terms trace ∧
      (accepted trace).Perm (completed (deedsOf trace) ++ poller.parked ++
        poller.earlyPackets ++ poller.queue) ∧
      (completed (deedsOf trace) ++ poller.parked).map Packet.serial =
        (List.range' 1 poller.lastSeen.toNat).map Int.ofNat ∧
      (∀ moment after deeds, poller.step moment .heldDue = some (after, deeds) ↔
        ∃ packet arrival, poller.early.early = [(packet.serial.toNat, packet)] ∧
          (arrival, packet) ∈ holdings trace ∧ arrival + terms.pollFor ≤ moment.now ∧
          poller.conclude moment (some (.serialMismatch poller.lastSeen packet.serial)) =
            (after, deeds)) ∧
      (∀ moment after deeds, poller.step moment .heldDue = some (after, deeds) →
        after.phase = .ended (some (.serialMismatch poller.lastSeen (poller.lastSeen + 2))) ∧
          ∀ packet ∈ accepted trace, packet.serial = poller.lastSeen + 1 →
            packet ∈ poller.queue) ∧
      (∀ (tunnel : Tunnel) now, tunnel.poller = poller → tunnel.nextEvent now = some .heldDue →
        ∀ packet ∈ accepted trace, packet.serial ≠ poller.lastSeen + 1) ∧
      (poller.early.early = [] → ∀ moment, poller.step moment .heldDue = none) := by
  obtain ⟨sound, standing, whole⟩ := run_standing start script poller trace ran serving
  obtain ⟨_, orderly⟩ := run_orderly terms start script poller trace ran
  obtain ⟨_, accounted⟩ := run_accounted start script poller trace ran
  obtain ⟨balance, lined⟩ := serving_accepted trace serving whole orderly accounted
  have started : 0 ≤ poller.lastSeen := (sound.aligned (by rw [serving]; rfl)).started
  have missing := missing_queued balance lined standing.skips started
  have fires := standing.fires serving
  refine ⟨serving_next sound serving, standing, balance, lined, fires, ?_, ?_, ?_⟩
  · intro moment after deeds stepped
    obtain ⟨packet, arrival, alone, _, _, ended⟩ := (fires moment after deeds).mp stepped
    have named := standing.skips packet
      (by rw [earlyPackets, alone]; exact List.mem_singleton_self _)
    have last : (poller.conclude moment
        (some (.serialMismatch poller.lastSeen packet.serial))).1 = after := congrArg Prod.fst ended
    refine ⟨?_, missing⟩
    rw [← named, ← last]
    rfl
  · rintro tunnel now rfl next packet came same
    have queued := missing packet came same
    rw [held_due_queue tunnel now serving next] at queued
    cases queued
  · intro nobody moment
    apply Option.eq_none_iff_forall_ne_some.mpr
    rintro ⟨after, deeds⟩ stepped
    obtain ⟨packet, _, alone, _⟩ := (fires moment after deeds).mp stepped
    rw [nobody] at alone
    cases alone

/-- The second packet is taken in at instant 5, and the first one never comes. -/
def overtakenStart : List Happening := [.deliver ⟨0, 2, [2]⟩, .event ⟨5, fun _ => false⟩ .packet]

theorem overtaken_start_lapses : ∃ poller trace,
    (ofStart {} 0).run overtakenStart = some (poller, trace) ∧ poller.phase = .serving ∧
      poller.held = some (30005, 2) ∧ poller.Standing {} trace ∧
      (poller.step ⟨30004, fun _ => false⟩ .heldDue).isSome = false ∧
      ∃ after deeds, poller.step ⟨30005, fun _ => false⟩ .heldDue = some (after, deeds) ∧
        after.phase = .ended (some (.serialMismatch 0 2)) := by
  have came : ∃ poller trace, (ofStart {} 0).run overtakenStart = some (poller, trace) ∧
      poller.phase = .serving ∧ poller.held = some (30005, 2) ∧
      (poller.step ⟨30004, fun _ => false⟩ .heldDue).isSome = false ∧
      ∃ after deeds, poller.step ⟨30005, fun _ => false⟩ .heldDue = some (after, deeds) ∧
        after.phase = .ended (some (.serialMismatch 0 2)) :=
    ⟨_, _, rfl, rfl, rfl, rfl, _, _, rfl, rfl⟩
  obtain ⟨poller, trace, ran, serving, held, early, lapses⟩ := came
  have known := deadline_names_packet_behind_gap {} 0 overtakenStart poller trace ran serving
  exact ⟨poller, trace, ran, serving, held, known.2.1, early, lapses⟩

end Lapse

end HttpTunnel.Server.Poller
