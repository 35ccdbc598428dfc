import HttpTunnel.Proofs.CourierRoster
import HttpTunnel.Proofs.RequestWindow

/-!
A relay that has come to rest. As long as nothing is lost and the local side is open, the
request of every courier that is out is under way, or its answer is. When nothing is under
way any more and nobody has anything to do, one courier is out with the one request that
the poller has parked, and the other one waits at home.
-/

namespace HttpTunnel.Relay

open Client (Connection Courier Parcel Trip)
open Client.Connection (Coordinated Errand Open Phase Station)
open Server (Packet Poller Response Tunnel)
open Server.Poller (Keeps Work)

def Action.loses : Action → Bool
  | .hangUp _ | .loseRequest _ | .loseResponse _ _ => true
  | _ => false

/-- A request is on its way or with the poller, or its answer is on its way. -/
def UnderWay (relay : Relay) (serial : Nat) : Prop :=
  (∃ packet ∈ relay.packets, packet.serial = serial) ∨ ∃ trip, (serial, trip) ∈ relay.inbound

/-- What is true of a relay that has lost nothing. -/
structure Faithful (relay : Relay) : Prop where
  present : relay.tunnel.gone = []
  coordinated : relay.connection.Open → relay.connection.Coordinated
  awaited : relay.Live → relay.Fits → relay.connection.Open → ∀ courier serial,
    relay.connection.station courier = .out serial → relay.UnderWay serial

/-- Nobody has anything to do before a deadline or something from outside. -/
structure Quiescent (relay : Relay) : Prop where
  couriers : ∀ courier, (∃ serial since, relay.connection.phase courier = .away serial since ∨
      relay.connection.phase courier = .polling serial since) ∨
    (relay.connection.phase courier = .waiting ∧
      relay.connection.desk.dispatcher.signals.get courier = false)
  outbound : relay.outbound = []
  waiting : relay.tunnel.waiting = []
  queue : relay.tunnel.poller.queue = []
  inbound : relay.inbound = []
  notices : relay.connection.desk.notices = []
  leaver : relay.connection.desk.dispatcher.leaver = none
  chunks : relay.connection.queue.chunks = []
  fromDown : relay.tunnel.link.fromDown = []
  serving : relay.tunnel.poller.phase = .serving

theorem completed_respond (deeds : List Poller.Deed) (packet : Packet)
    (done : packet ∈ Poller.completed deeds) (present : Poller.Deed.missed packet ∉ deeds) :
    ∃ trip, (packet.client, trip) ∈ responses deeds := by
  obtain ⟨deed, among, completes⟩ := List.mem_filterMap.mp done
  have answers : ∀ response, (Tunnel.Deed.poller deed).response? = some (packet.client, response) →
      ∃ trip, (packet.client, trip) ∈ responses deeds := by
    intro response sent
    refine ⟨tripOf response, List.mem_map.mpr ⟨(packet.client, response), ?_, rfl⟩⟩
    exact List.mem_filterMap.mpr ⟨.poller deed, List.mem_map_of_mem among, sent⟩
  cases deed with
  | answered own answer =>
      cases completes
      exact answers _ rfl
  | missed own =>
      cases completes
      exact absurd among present
  | dropped own =>
      cases completes
      exact answers _ rfl
  | passedDown payload => cases completes

theorem answer_brings {now : Nat} {before after : Connection} {courier : Courier} {trip : Trip}
    {deeds : List Connection.Deed} (coordinated : before.Coordinated)
    (move : before.Move now (.answer courier trip) after deeds) (opened : after.Open)
    (other : Courier) : after.station other =
      if other = courier then .home else before.station other := by
  cases move with
  | pack _ own parcel queue internal ready takes => exact absurd rfl (internal courier trip)
  | drain _ own queue internal ready closed drained same =>
      exact absurd rfl (internal courier trip)
  | bring own serial since trip reply away read => exact Connection.station_set_phase _ _ _ _
  | bringLate own serial since trip reply polling read =>
      exact Connection.station_set_phase _ _ _ _
  | leave _ own queue exit deeds same abandons unladen lingered =>
      exact (coordinated.never_leaves own queue exit lingered opened).elim

section Passages

variable {now : Nat} {relay after : Relay} {action : Action} {past trace : List Deed}

theorem Passage.opened (passage : Passage now relay action after trace)
    (opened : after.connection.Open) : relay.connection.Open := by
  cases passage with
  | client own connection application deeds mine move => exact Connection.move_open move opened
  | comeBack serial trip courier connection deeds came waits move =>
      exact Connection.move_open move opened
  | breakTrip courier connection deeds move => exact Connection.move_open move opened
  | _ => exact opened

theorem Passage.coordinated (passage : Passage now relay action after trace)
    (coordinated : relay.connection.Open → relay.connection.Coordinated)
    (opened : after.connection.Open) : after.connection.Coordinated := by
  have before := coordinated (passage.opened opened)
  cases passage with
  | client own connection application deeds mine move => exact before.moves move opened
  | comeBack serial trip courier connection deeds came waits move => exact before.moves move opened
  | breakTrip courier connection deeds move => exact before.moves move opened
  | _ => exact before

theorem Passage.present (passage : Passage now relay action after trace)
    (lossless : action.loses = false) (present : relay.tunnel.gone = []) :
    after.tunnel.gone = [] := by
  cases passage with
  | poll event poller deeds tunnel allowed stepped samePoller sameWaiting sameGone sameAsked =>
      exact sameGone.trans present
  | hangUp serial => cases lossless
  | still _ application tunnel samePoller sameWaiting sameGone asked =>
      exact sameGone.trans present
  | _ => exact present

/-- A packet goes on to be under way until its client is sent an answer. -/
theorem Passage.packets_stay (passage : Passage now relay action after trace)
    (aligned : relay.Live → relay.tunnel.poller.work.Aligned)
    (present : relay.tunnel.gone = []) (lossless : action.loses = false) (live : after.Live)
    (packet : Packet) (member : packet ∈ relay.packets) :
    packet ∈ after.packets ∨ ∃ trip, (packet.client, trip) ∈ after.inbound := by
  have before := aligned (passage.live live)
  have posting : ∀ connection application inbound parcels,
      packet ∈ (relay.afterErrand connection application inbound parcels).packets := by
    intro connection application inbound parcels
    simp only [packets, afterErrand, List.map_append, List.mem_append] at member ⊢
    tauto
  have unerased : ∀ parcel, packet ∈ relay.outbound.map packetOf → packetOf parcel = packet ∨
      packet ∈ (relay.outbound.erase parcel).map packetOf := by
    intro parcel listed
    obtain ⟨other, among, rfl⟩ := List.mem_map.mp listed
    by_cases same : other = parcel
    · exact .inl (by rw [same])
    · exact .inr (List.mem_map_of_mem ((List.mem_erase_of_ne same).mpr among))
  cases passage with
  | client own connection application deeds mine move =>
      exact .inl (posting connection application relay.inbound _)
  | comeBack serial trip courier connection deeds came waits move =>
      exact .inl (posting connection relay.application _ _)
  | breakTrip courier connection deeds move =>
      exact .inl (posting connection relay.application relay.inbound _)
  | poll event poller deeds tunnel allowed stepped samePoller sameWaiting sameGone sameAsked =>
      have lives : poller.phase.live = true := samePoller ▸ live
      obtain ⟨outcome, keeps, same⟩ := Poller.step_keeps _ _ _ stepped lives before
      simp only [packets, samePoller, sameWaiting]
      rcases List.mem_append.mp member with network | served
      · exact .inl (List.mem_append_left _ network)
      · rcases List.mem_append.mp (keeps.packets.mem_iff.mp served) with done | kept
        · rw [same] at done
          have reached : Poller.Deed.missed packet ∉ deeds := by
            intro missed
            have away := Poller.step_misses _ _ _ stepped packet missed
            simp [Tunnel.moment, present] at away
          have answered := completed_respond deeds packet done reached
          rcases answered with ⟨trip, sent⟩
          exact .inr ⟨trip, List.mem_append_right _ sent⟩
        · exact .inl (List.mem_append_right _ kept)
  | enqueue other rest waiting =>
      apply Or.inl
      simp only [packets, Poller.work, Work.packets, waiting, List.mem_append, List.mem_cons,
        List.not_mem_nil] at member ⊢
      tauto
  | refuse other rest waiting =>
      simp only [packets, waiting, List.mem_append, List.mem_cons] at member ⊢
      rcases member with (posted | rfl | waits) | served
      · exact .inl (.inl (.inl posted))
      · exact .inr ⟨tripOf unknown, .inr (.inl rfl)⟩
      · exact .inl (.inl (.inr waits))
      · exact .inl (.inr served)
  | reach parcel posted =>
      simp only [packets, Tunnel.deliver, List.mem_append, List.mem_singleton] at member ⊢
      rcases member with (listed | waits) | served
      · rcases unerased parcel listed with rfl | kept
        · exact .inl (.inl (.inr (.inr rfl)))
        · exact .inl (.inl (.inl kept))
      · exact .inl (.inl (.inr (.inl waits)))
      · exact .inl (.inr served)
  | turnAway parcel posted =>
      simp only [packets, List.mem_append] at member ⊢
      rcases member with (listed | waits) | served
      · rcases unerased parcel listed with rfl | kept
        · exact .inr ⟨tripOf unknown, .inr (List.mem_singleton_self _)⟩
        · exact .inl (.inl (.inl kept))
      · exact .inl (.inl (.inr waits))
      · exact .inl (.inr served)
  | hangUp serial => cases lossless
  | loseRequest parcel posted => cases lossless
  | loseResponse serial trip came => cases lossless
  | still _ application tunnel samePoller sameWaiting sameGone asked =>
      simp only [packets, samePoller, sameWaiting]
      exact .inl member

theorem Passage.inbound_stays (passage : Passage now relay action after trace)
    (lossless : action.loses = false) (serial : Nat) (trip : Trip)
    (unread : ∀ other, action ≠ .comeBack serial other)
    (member : (serial, trip) ∈ relay.inbound) : (serial, trip) ∈ after.inbound := by
  cases passage with
  | comeBack own other courier connection deeds came waits move =>
      have different : (serial, trip) ≠ (own, other) := by
        intro same
        cases same
        exact unread trip rfl
      exact (List.mem_erase_of_ne different).mpr member
  | poll event poller deeds tunnel allowed stepped samePoller sameWaiting sameGone sameAsked =>
      exact List.mem_append_left _ member
  | refuse packet rest waiting => exact List.mem_append_left _ member
  | turnAway parcel posted => exact List.mem_append_left _ member
  | loseResponse own other came => cases lossless
  | _ => exact member

/-- What is under way stays so until a courier takes its answer. -/
theorem Genuine.stays_under_way (genuine : relay.Genuine past)
    (passage : Passage now relay action after trace) (present : relay.tunnel.gone = [])
    (fits : relay.Fits) (lossless : action.loses = false) (live : after.Live) (serial : Nat)
    (unread : ∀ trip, action ≠ .comeBack serial trip)
    (under : relay.UnderWay serial) : after.UnderWay serial := by
  rcases under with ⟨packet, member, numbered⟩ | ⟨trip, came⟩
  · rcases passage.packets_stay genuine.aligned present lossless live packet member with
      stays | ⟨trip, answered⟩
    · exact .inl ⟨packet, stays, numbered⟩
    · obtain ⟨parcel, posted, rfl⟩ := genuine.sent (passage.live live) packet member
      rw [genuine.packet_serial fits parcel posted] at numbered
      rw [← Int.ofNat.inj numbered]
      exact .inr ⟨trip, answered⟩
  · exact .inr ⟨trip, passage.inbound_stays lossless serial trip unread came⟩

theorem Roomy.out_from {last : Courier → Nat} (roomy : relay.Roomy last)
    (closed : relay.connection.Sealed) (coordinated : relay.connection.Coordinated)
    (passage : Passage now relay action after trace) (opened : after.connection.Open)
    (courier : Courier) (serial : Nat) (out : after.connection.station courier = .out serial) :
    (relay.connection.station courier = .out serial ∧
      ∀ trip, action ≠ .comeBack serial trip) ∨
    ∃ parcel ∈ after.outbound, parcel.serial = serial := by
  have stayed : ∀ (action : Action), (∀ serial trip, action ≠ .comeBack serial trip) →
      relay.connection.station courier = .out serial →
      relay.connection.station courier = .out serial ∧
        ∀ trip, action ≠ .comeBack serial trip :=
    fun action other out => ⟨out, fun trip => other serial trip⟩
  cases passage with
  | client own connection application deeds mine move =>
      have errand := Connection.move_errand now _ _ own deeds closed move
      rcases errand.out_from courier serial out with before | ⟨parcel, posts, same⟩
      · exact .inl (stayed _ (by simp) before)
      · rw [posted_of_client] at posts
        exact .inr ⟨parcel, List.mem_append_right _ posts, same⟩
  | comeBack own trip answered connection deeds came waits move =>
      rw [answer_brings coordinated move opened] at out
      split_ifs at out with same
      refine .inl ⟨out, fun other reads => ?_⟩
      -- The courier that gets the answer is the only one whose serial it bears.
      cases reads
      have mine := roomy.out courier serial out
      have its := roomy.out answered serial (waiting_for_station _ _ _ waits)
      have distinct := roomy.distinct
      cases courier <;> cases answered <;> simp_all
  | breakTrip answered connection deeds move =>
      rw [answer_brings coordinated move opened] at out
      split_ifs at out
      exact .inl (stayed _ (by simp) out)
  | poll event poller deeds tunnel allowed stepped samePoller sameWaiting sameGone sameAsked =>
      exact .inl (stayed _ (by simp) out)
  | still _ application tunnel samePoller sameWaiting sameGone asked unanswered =>
      exact .inl (stayed _ unanswered out)
  | _ => exact .inl (stayed _ (by simp) out)

theorem Faithful.passage (genuine : relay.Genuine past)
    (roomy : relay.Live → relay.Fits → ∃ last, relay.Roomy last) (faithful : relay.Faithful)
    (passage : Passage now relay action after trace) (lossless : action.loses = false) :
    after.Faithful := by
  constructor
  · exact passage.present lossless faithful.present
  · exact passage.coordinated faithful.coordinated
  · intro live fits opened courier serial out
    have alive := passage.live live
    have fitted := passage.fits genuine.closed fits
    have unended := passage.opened opened
    obtain ⟨last, room⟩ := roomy alive fitted
    rcases room.out_from genuine.closed (faithful.coordinated unended) passage opened
      courier serial out with ⟨before, unread⟩ | ⟨parcel, listed, rfl⟩
    · exact genuine.stays_under_way passage faithful.present fitted lossless live serial unread
        (faithful.awaited alive fitted unended courier serial before)
    · have among : packetOf parcel ∈ after.packets :=
        List.mem_append_left _ (List.mem_append_left _ (List.mem_map_of_mem listed))
      have serial := (genuine.passage passage).listed_serial live fits parcel listed
      exact .inl ⟨packetOf parcel, among, serial⟩

end Passages

theorem of_start_faithful (clientTerms : Client.Terms) (serverTerms : Server.Terms) (now : Nat) :
    (ofStart clientTerms serverTerms now).Faithful := by
  constructor
  · rfl
  · exact fun _ => Connection.of_start_coordinated clientTerms now
  · intro _ _ _ courier serial out
    cases courier <;> cases out

theorem run_faithful (clientTerms : Client.Terms) (serverTerms : Server.Terms) (start : Nat)
    (script : List (Nat × Action)) (relay : Relay) (trace : List Deed)
    (ran : (ofStart clientTerms serverTerms start).run script = some (relay, trace))
    (lossless : ∀ entry ∈ script, entry.2.loses = false) :
    relay.Genuine trace ∧ (relay.Live → relay.Fits → ∃ last, relay.Roomy last) ∧
      relay.Faithful := by
  refine run_genuine clientTerms serverTerms start (fun action => action.loses = false)
    (fun relay _ => (relay.Live → relay.Fits → ∃ last, relay.Roomy last) ∧ relay.Faithful)
    ⟨fun _ _ => ⟨_, of_start_roomy clientTerms serverTerms start⟩,
      of_start_faithful clientTerms serverTerms start⟩ ?_ script relay trace ran lossless
  rintro now before past action after deeds kept genuine ⟨roomy, faithful⟩ passage
  refine ⟨fun live fits => ?_, faithful.passage genuine roomy passage kept⟩
  have fitted := passage.fits genuine.closed fits
  obtain ⟨last, room⟩ := roomy (passage.live live) fitted
  exact room.passage genuine fitted passage live

section Quiet

variable {relay : Relay} {past : List Deed} {last : Courier → Nat}

theorem Quiescent.away_or_waiting (quiescent : relay.Quiescent)
    (coordinated : relay.connection.Coordinated) (courier : Courier) :
    (∃ serial since, relay.connection.phase courier = .away serial since) ∨
      (relay.connection.phase courier = .waiting ∧
        relay.connection.desk.dispatcher.signals.get courier = false) := by
  rcases quiescent.couriers courier with ⟨serial, since, away | polling⟩ | waiting
  · exact .inl ⟨serial, since, away⟩
  · exact absurd polling (coordinated.never_polls courier serial since)
  · exact .inr waiting

/-- A packet that is under way at rest is held for a predecessor, or it is parked. -/
theorem Quiescent.ahead_or_parked (quiescent : relay.Quiescent)
    (aligned : relay.tunnel.poller.work.Aligned) (packet : Packet) (serial : Nat)
    (member : packet ∈ relay.packets) (numbered : packet.serial = serial) :
    relay.tunnel.poller.early.next < serial ∨
      packet ∈ relay.tunnel.poller.parked ∧ serial < relay.tunnel.poller.early.next := by
  have serving := quiescent.serving
  simp only [packets, Poller.work, Work.packets, quiescent.outbound, quiescent.waiting,
    quiescent.queue, serving, Server.Poller.Phase.current, Server.Poller.Phase.released,
    List.map_nil, List.nil_append, Option.toList_none, List.append_nil, List.mem_append,
    List.mem_map] at member
  rcases member with ⟨entry, held, rfl⟩ | parked
  · have keyed : entry.2.serial = entry.1 := aligned.keyed entry held
    have later : relay.tunnel.poller.early.next < entry.1 := aligned.tidy.later entry held
    exact .inl (by omega)
  · have seen : packet.serial ≤ relay.tunnel.poller.lastSeen := aligned.parked packet parked
    have next : relay.tunnel.poller.early.next = relay.tunnel.poller.lastSeen.toNat + 1 + _ :=
      aligned.next
    exact .inr ⟨parked, by omega⟩

/-- The request of a courier that is away at rest is parked: the only other serial that is
not looked at yet would have to be the other courier's, and that one has none missing. -/
theorem Quiescent.parks (quiescent : relay.Quiescent) (genuine : relay.Genuine past)
    (fits : relay.Fits) (roomy : relay.Roomy last) (faithful : relay.Faithful)
    (opened : relay.connection.Open)
    (courier : Courier) (serial since : Nat)
    (away : relay.connection.phase courier = .away serial since) :
    ∃ payload, ⟨serial, serial, payload⟩ ∈ relay.tunnel.poller.parked := by
  have live := live_of_serving relay quiescent.serving
  have aligned := genuine.aligned live
  have coordinated := faithful.coordinated opened
  have placed : ∀ other own began, relay.connection.phase other = .away own began →
      last other = own ∧ ∃ packet ∈ relay.packets, packet.serial = own := by
    intro other own began gone
    have out : relay.connection.station other = .out own := by
      simp [Connection.station, gone, Phase.station]
    refine ⟨(roomy.out other own out).1, ?_⟩
    rcases faithful.awaited live fits opened other own out with under | ⟨trip, came⟩
    · exact under
    · rw [quiescent.inbound] at came
      cases came
  obtain ⟨mine, packet, member, numbered⟩ := placed courier serial since away
  rcases quiescent.ahead_or_parked aligned packet serial member numbered with ahead | ⟨parked, _⟩
  · exfalso
    have given := roomy.bound courier
    obtain ⟨owner, owns⟩ := roomy.spanned relay.tunnel.poller.early.next (Nat.le_refl _) (by omega)
    rcases quiescent.away_or_waiting coordinated owner with ⟨own, began, gone⟩ | ⟨waiting, _⟩
    · obtain ⟨its, other, among, same⟩ := placed owner own began gone
      rcases quiescent.ahead_or_parked aligned other own among same with beyond | ⟨_, behind⟩
      · omega
      · omega
    · have home : relay.connection.station owner = .home := by
        simp [Connection.station, waiting, Phase.station]
      have behind := roomy.home owner home
      omega
  · obtain ⟨parcel, posted, rfl⟩ := genuine.sent live packet member
    rw [genuine.packet_of_posted fits parcel posted] at numbered parked
    have same : parcel.serial = serial := Int.ofNat.inj numbered
    subst same
    exact ⟨parcel.payload, parked⟩

theorem Quiescent.parks_alone (quiescent : relay.Quiescent) (genuine : relay.Genuine past)
    (fits : relay.Fits) (roomy : relay.Roomy last) (faithful : relay.Faithful)
    (opened : relay.connection.Open)
    (courier : Courier) (serial since : Nat)
    (away : relay.connection.phase courier = .away serial since) :
    ∃ payload, relay.tunnel.poller.parked = [⟨serial, serial, payload⟩] := by
  have live := live_of_serving relay quiescent.serving
  have few : relay.tunnel.poller.parked.length ≤ 1 :=
    genuine.uncrowded.waiting live (by rw [quiescent.serving]; rfl)
  obtain ⟨payload, member⟩ :=
    quiescent.parks genuine fits roomy faithful opened courier serial since away
  have one : relay.tunnel.poller.parked.length = 1 :=
    Nat.le_antisymm few (List.length_pos_of_mem member)
  obtain ⟨only, same⟩ := List.length_eq_one_iff.mp one
  rw [same, List.mem_singleton] at member
  rw [same, ← member]
  exact ⟨payload, rfl⟩

/-- Two couriers cannot both be away at rest: their serials differ, and only one request is
parked. -/
theorem Quiescent.not_both_away (quiescent : relay.Quiescent) (genuine : relay.Genuine past)
    (fits : relay.Fits) (roomy : relay.Roomy last) (faithful : relay.Faithful)
    (opened : relay.connection.Open)
    (serial since other began : Nat)
    (alpha : relay.connection.phase .alpha = .away serial since)
    (beta : relay.connection.phase .beta = .away other began) : False := by
  have one := roomy.out .alpha serial (by simp [Connection.station, alpha, Phase.station])
  have two := roomy.out .beta other (by simp [Connection.station, beta, Phase.station])
  have distinct := roomy.distinct
  obtain ⟨_, parked⟩ :=
    quiescent.parks_alone genuine fits roomy faithful opened .alpha serial since alpha
  obtain ⟨_, same⟩ :=
    quiescent.parks_alone genuine fits roomy faithful opened .beta other began beta
  rw [parked] at same
  have equal : serial = other := by simp_all
  omega

end Quiet

/-- A relay that has lost nothing and has come to rest while its local side is open has one
courier away, with the one request that is parked, and the other one waiting at home. Request
serials travel as signed words of eight bytes, which they have to fit. -/
theorem quiet_relay_parks_one_request (clientTerms : Client.Terms) (serverTerms : Server.Terms)
    (start : Nat) (script : List (Nat × Action)) (relay : Relay) (trace : List Deed)
    (ran : (ofStart clientTerms serverTerms start).run script = some (relay, trace))
    (lossless : ∀ entry ∈ script, entry.2.loses = false)
    (fits : relay.connection.queue.nextSerial ≤ 2 ^ 63) (opened : relay.connection.Open)
    (quiescent : relay.Quiescent) :
    ∃ courier serial since payload, relay.connection.phase courier = .away serial since ∧
      relay.tunnel.poller.parked = [⟨serial, serial, payload⟩] ∧
      relay.connection.phase courier.other = .waiting := by
  obtain ⟨genuine, roomy, faithful⟩ :=
    run_faithful clientTerms serverTerms start script relay trace ran lossless
  obtain ⟨last, room⟩ := roomy (live_of_serving relay quiescent.serving) fits
  have coordinated := faithful.coordinated opened
  have alone := quiescent.parks_alone genuine fits room faithful opened
  rcases quiescent.away_or_waiting coordinated .alpha with ⟨serial, since, alpha⟩ | ⟨alpha, silent⟩
  · rcases quiescent.away_or_waiting coordinated .beta with ⟨other, began, beta⟩ | ⟨beta, _⟩
    · exact (quiescent.not_both_away genuine fits room faithful opened serial since other began
        alpha beta).elim
    · obtain ⟨payload, parked⟩ := alone .alpha serial since alpha
      exact ⟨.alpha, serial, since, payload, alpha, parked, beta⟩
  · rcases quiescent.away_or_waiting coordinated .beta with ⟨serial, since, beta⟩ | ⟨beta, quiet⟩
    · obtain ⟨payload, parked⟩ := alone .beta serial since beta
      exact ⟨.beta, serial, since, payload, beta, parked, alpha⟩
    · refine absurd quiescent.notices (coordinated.stirs ?_ ?_ quiescent.leaver)
      · intro courier
        cases courier with
        | alpha => exact alpha
        | beta => exact beta
      · intro courier
        cases courier with
        | alpha => exact silent
        | beta => exact quiet

def settling : List (Nat × Action) :=
  [(0, .client (.decide .alpha)), (0, .client (.take .alpha)), (0, .client (.clear .alpha)),
    (0, .client (.depart .alpha)), (0, .client (.decide .beta)), (0, .client (.join .beta)),
    (0, .client (.desk .notice)), (1, .reach ⟨1, []⟩), (1, .server .enqueue),
    (1, .server (.poller .packet)), (11, .server (.poller .promptDue))]

theorem settling_comes_to_rest : ∃ relay trace,
    (ofStart {} {} 0).run settling = some (relay, trace) ∧
      relay.connection.queue.nextSerial ≤ 2 ^ 63 ∧ relay.connection.Open ∧ relay.Quiescent := by
  refine ⟨_, _, rfl, by decide, ⟨rfl, rfl⟩, ⟨?_, rfl, rfl, rfl, rfl, rfl, rfl, rfl, rfl, rfl⟩⟩
  intro courier
  cases courier with
  | alpha => exact .inl ⟨1, 0, .inl rfl⟩
  | beta => exact .inr ⟨rfl, rfl⟩

theorem settling_parks_one_request : ∃ relay trace,
    (ofStart {} {} 0).run settling = some (relay, trace) ∧
      (∀ entry ∈ settling, entry.2.loses = false) ∧
      relay.connection.queue.nextSerial ≤ 2 ^ 63 ∧ relay.connection.Open ∧ relay.Quiescent ∧
      ∃ courier serial since payload, relay.connection.phase courier = .away serial since ∧
        relay.tunnel.poller.parked = [⟨serial, serial, payload⟩] ∧
        relay.connection.phase courier.other = .waiting := by
  rcases settling_comes_to_rest with ⟨relay, trace, ran, fits, opened, quiescent⟩
  have lossless : ∀ entry ∈ settling, entry.2.loses = false := by decide
  refine ⟨relay, trace, ran, lossless, fits, opened, quiescent, ?_⟩
  exact quiet_relay_parks_one_request {} {} 0 settling relay trace ran lossless fits opened
    quiescent

end HttpTunnel.Relay
