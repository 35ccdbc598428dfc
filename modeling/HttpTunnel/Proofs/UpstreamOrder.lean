import HttpTunnel.Proofs.RequestsUnderWay

/-!
Bytes go upstream in order. The queue numbers payloads in the order in which the local reader
queued their bytes, and the poller hands payloads down in the order of their numbers, so
whatever the couriers and the network do, the bytes handed down are a prefix of the bytes
queued.
-/

namespace HttpTunnel.Relay

open Client (Connection Courier Parcel Trip)
open Client.Connection (Errand Station Stock)
open Server (Packet Poller Response Tunnel)
open Server.Poller (Work)

def payloadOf (parcels : List Parcel) (serial : Nat) : Bytes :=
  match parcels.find? fun parcel => parcel.serial == serial with
  | some parcel => parcel.payload
  | none => []

/-- The payloads that the queue has numbered so far say which bytes are where. -/
structure Upstream (relay : Relay) (trace : List Deed) (sent : List Bytes) : Prop where
  counted : relay.connection.queue.nextSerial = sent.length + 1
  bytes : queued trace = sent.flatten ++ relay.connection.queue.chunks.flatten
  parcels : ∀ parcel ∈ posted trace, Carries sent parcel.serial parcel.payload
  holding : ∀ courier parcel, relay.connection.station courier = .holding parcel →
    Carries sent parcel.serial parcel.payload
  passed : passedDown trace <+: sent.flatten
  done : relay.Live → relay.tunnel.closeAsked = false →
    passedDown trace = (sent.take relay.tunnel.poller.work.done).flatten

section Errands

variable {relay : Relay} {past trace : List Deed} {sent : List Bytes}

theorem Genuine.done_bound (genuine : relay.Genuine past) (upstream : relay.Upstream past sent)
    (live : relay.Live) (fits : relay.Fits) : relay.tunnel.poller.work.done ≤ sent.length := by
  have least : relay.tunnel.poller.work.done ≤ relay.tunnel.poller.lastSeen.toNat :=
    Nat.sub_le _ _
  by_cases none : relay.tunnel.poller.lastSeen.toNat = 0
  · omega
  · obtain ⟨parcel, posted, same⟩ := genuine.seen live fits _ (by omega) (Nat.le_refl _)
    have bound := (upstream.parcels parcel posted).bound
    omega

theorem Upstream.carries_on (genuine : relay.Genuine past) (upstream : relay.Upstream past sent)
    (fits : relay.Fits) (after : Relay) (tunnel : after.tunnel = relay.tunnel)
    (silent : passedDown trace = [])
    (further : List Bytes)
    (counted : after.connection.queue.nextSerial = (sent ++ further).length + 1)
    (bytes : relay.connection.queue.chunks.flatten ++ queued trace =
      further.flatten ++ after.connection.queue.chunks.flatten)
    (own : Connection.Action)
    (errand : Errand relay.connection own after.connection trace)
    (fresh : ∀ parcel, relay.connection.queue.Takes parcel after.connection.queue →
      Carries (sent ++ further) parcel.serial parcel.payload) :
    after.Upstream (past ++ trace) (sent ++ further) := by
  constructor
  · exact counted
  · rw [queued_append, upstream.bytes, List.flatten_append, List.append_assoc, List.append_assoc,
      bytes]
  · intro parcel member
    rw [posted_append] at member
    rcases List.mem_append.mp member with before | new
    · exact (upstream.parcels parcel before).more further
    · rcases errand.posts_numbered parcel new with ⟨courier, holds⟩ | takes
      · exact (upstream.holding courier parcel holds).more further
      · exact fresh parcel takes
  · intro courier parcel holds
    rcases errand.holds_numbered courier parcel holds with before | takes
    · exact (upstream.holding courier parcel before).more further
    · exact fresh parcel takes
  · rw [passed_down_append, silent, List.append_nil, List.flatten_append]
    exact upstream.passed.trans (List.prefix_append _ _)
  · intro live unasked
    unfold Live at live
    rw [tunnel] at live unasked
    have bound := genuine.done_bound upstream live fits
    rw [passed_down_append, silent, List.append_nil, tunnel, upstream.done live unasked,
      List.take_append_of_le_length bound]

theorem Upstream.errand (genuine : relay.Genuine past) (upstream : relay.Upstream past sent)
    (fits : relay.Fits) (after : Relay) (tunnel : after.tunnel = relay.tunnel)
    (silent : passedDown trace = [])
    (own : Connection.Action)
    (errand : Errand relay.connection own after.connection trace) :
    ∃ latest, after.Upstream (past ++ trace) latest := by
  have counted := upstream.counted
  rcases errand.takes_or_queues with ⟨parcel, takes, quiet⟩ | ⟨same, bytes⟩
  · have serial := takes.serial
    have next := takes.counted
    refine ⟨sent ++ [parcel.payload],
      upstream.carries_on genuine fits after tunnel silent _ ?_ ?_ own errand ?_⟩
    · rw [next, counted]
      simp
    · rw [quiet, takes.bytes]
      simp
    · intro other again
      have payload : other.payload = parcel.payload :=
        List.append_cancel_right (again.bytes.symm.trans takes.bytes)
      rw [again.serial, payload, counted]
      exact carries_last sent parcel.payload
  · refine ⟨sent ++ [], upstream.carries_on genuine fits after tunnel silent [] ?_ ?_ own errand ?_⟩
    · rw [same, counted]
      simp
    · exact bytes
    · intro parcel takes
      have next := takes.counted
      omega

end Errands

section Passages

variable {now : Nat} {relay after : Relay} {action : Action} {past trace : List Deed}
  {sent : List Bytes}

theorem Upstream.carried (genuine : relay.Genuine past) (upstream : relay.Upstream past sent)
    (live : relay.Live) (fits : relay.Fits) (packet : Packet)
    (member : packet ∈ relay.tunnel.poller.work.packets) :
    Carries sent packet.serial.toNat packet.payload := by
  obtain ⟨parcel, posted, rfl⟩ := genuine.sent live packet (List.mem_append_right _ member)
  rw [genuine.packet_serial fits parcel posted]
  exact upstream.parcels parcel posted

/-- A payload is handed down only before anybody asks for the tunnel to close, and it is the
one of the packet that was looked at last. -/
theorem Upstream.opens (genuine : relay.Genuine past) (upstream : relay.Upstream past sent)
    (fits : relay.Fits) (event : Poller.Event) (allowed : relay.tunnel.allows event = true) :
    passedDown past ++ Poller.passedDown (relay.tunnel.poller.opening event) <+: sent.flatten := by
  rcases Poller.opening_cases relay.tunnel.poller event with
    nothing | ⟨rfl, packet, released, phase, payload⟩
  · rw [nothing, List.append_nil]
    exact upstream.passed
  · have live : relay.Live := by
      unfold Live
      rw [phase]
      rfl
    have unasked : relay.tunnel.closeAsked = false := by
      simp only [Tunnel.allows, Bool.and_eq_true, Bool.not_eq_true'] at allowed
      exact allowed.1
    have here : relay.tunnel.poller.work = ⟨relay.tunnel.poller, some packet, released⟩ :=
      Server.Poller.work_of_phase _ (.passing packet released) phase
    have seen := (genuine.aligned live).current packet (by rw [here]; rfl)
    have carries := upstream.carried genuine live fits packet (by rw [here]; simp [Work.packets])
    have done : relay.tunnel.poller.work.done = packet.serial.toNat - 1 := by
      rw [seen, here]
      rfl
    rw [payload, upstream.done live unasked, done, ← take_carried sent _ _ carries]
    exact take_begins sent _

theorem Upstream.poll (genuine : relay.Genuine past) (upstream : relay.Upstream past sent)
    (fits : relay.Fits) (event : Poller.Event) (poller : Poller) (deeds : List Poller.Deed)
    (after : Relay)
    (allowed : relay.tunnel.allows event = true)
    (stepped : relay.tunnel.poller.step (relay.tunnel.moment now) event = some (poller, deeds))
    (samePoller : after.tunnel.poller = poller)
    (sameAsked : after.tunnel.closeAsked = relay.tunnel.closeAsked)
    (same : after.connection = relay.connection) :
    after.Upstream (past ++ served event deeds) sent := by
  have passes := Poller.step_passed_down _ _ _ stepped
  constructor
  · rw [same]
    exact upstream.counted
  · rw [queued_append, queued_of_server, List.append_nil, same]
    exact upstream.bytes
  · rw [posted_append, posted_of_server, List.append_nil]
    exact upstream.parcels
  · rw [same]
    exact upstream.holding
  · rw [passed_down_append, passed_down_of_server, passes]
    exact upstream.opens genuine fits event allowed
  · intro live unasked
    have lives : poller.phase.live = true := samePoller ▸ live
    have alive : relay.Live := Poller.step_live _ _ _ stepped lives
    rw [sameAsked] at unasked
    have unclosed : event ≠ .close := by
      rintro rfl
      rw [Tunnel.allows, unasked] at allowed
      cases allowed
    rw [passed_down_append, passed_down_of_server, upstream.done alive unasked, samePoller]
    exact Poller.step_passes _ _ _ sent stepped lives unclosed (genuine.aligned alive)
      (upstream.carried genuine alive fits)

theorem Upstream.rests (upstream : relay.Upstream past sent)
    (same : after.connection = relay.connection)
    (phase : after.tunnel.poller.phase = relay.tunnel.poller.phase)
    (seen : after.tunnel.poller.lastSeen = relay.tunnel.poller.lastSeen)
    (asked : relay.tunnel.closeAsked = true → after.tunnel.closeAsked = true) :
    after.Upstream (past ++ []) sent := by
  rw [List.append_nil]
  constructor
  · rw [same]
    exact upstream.counted
  · rw [same]
    exact upstream.bytes
  · exact upstream.parcels
  · rw [same]
    exact upstream.holding
  · exact upstream.passed
  · intro live unasked
    have before : relay.tunnel.closeAsked = false := by
      by_contra closing
      rw [asked (by simpa using closing)] at unasked
      cases unasked
    have done : after.tunnel.poller.work.done = relay.tunnel.poller.work.done := by
      simp only [Work.done, Poller.work, phase, seen]
    rw [done]
    unfold Live at live
    rw [phase] at live
    exact upstream.done live before

theorem Upstream.passage (genuine : relay.Genuine past) (upstream : relay.Upstream past sent)
    (fits : relay.Fits) (passage : Passage now relay action after trace) :
    ∃ latest, after.Upstream (past ++ trace) latest := by
  have moves := fun own connection deeds move =>
    Connection.move_errand now relay.connection connection own deeds genuine.closed move
  cases passage with
  | client own connection application deeds mine move =>
      exact upstream.errand genuine fits _ rfl (passed_down_of_client deeds) own
        (moves own connection deeds move)
  | comeBack serial trip courier connection deeds came waits move =>
      exact upstream.errand genuine fits _ rfl (passed_down_of_client deeds) _
        (moves _ connection deeds move)
  | breakTrip courier connection deeds move =>
      exact upstream.errand genuine fits _ rfl (passed_down_of_client deeds) _
        (moves _ connection deeds move)
  | poll event poller deeds tunnel allowed stepped samePoller sameWaiting sameGone sameAsked =>
      exact ⟨sent,
        upstream.poll genuine fits event poller deeds _ allowed stepped samePoller sameAsked rfl⟩
  | still _ application tunnel samePoller sameWaiting sameGone asked =>
      exact ⟨sent, upstream.rests rfl (by rw [samePoller]) (by rw [samePoller]) asked⟩
  | _ => exact ⟨sent, upstream.rests rfl rfl rfl id⟩

end Passages

theorem of_start_upstream (clientTerms : Client.Terms) (serverTerms : Server.Terms)
    (now : Nat) : (ofStart clientTerms serverTerms now).Upstream [] [] := by
  refine ⟨rfl, rfl, ?_, ?_, List.prefix_refl _, fun _ _ => rfl⟩
  · intro parcel member
    cases member
  · intro courier parcel holds
    cases courier <;> cases holds

theorem run_upstream (clientTerms : Client.Terms) (serverTerms : Server.Terms) (start : Nat)
    (script : List (Nat × Action)) (relay : Relay) (trace : List Deed)
    (ran : (ofStart clientTerms serverTerms start).run script = some (relay, trace)) :
    relay.Genuine trace ∧ (relay.Fits → ∃ sent, relay.Upstream trace sent) := by
  refine run_genuine clientTerms serverTerms start (fun _ => True)
    (fun relay past => relay.Fits → ∃ sent, relay.Upstream past sent)
    (fun _ => ⟨[], of_start_upstream clientTerms serverTerms start⟩) ?_ script relay trace ran
    (fun _ _ => trivial)
  intro now before past action after deeds _ genuine known passage fits
  have fitted := passage.fits genuine.closed fits
  obtain ⟨sent, upstream⟩ := known fitted
  exact upstream.passage genuine fitted passage

theorem Upstream.payload_of {relay : Relay} {trace : List Deed} {sent : List Bytes}
    (upstream : relay.Upstream trace sent) (parcel : Parcel) (member : parcel ∈ posted trace) :
    payloadOf (posted trace) parcel.serial = parcel.payload := by
  unfold payloadOf
  cases found : (posted trace).find? fun other => other.serial == parcel.serial with
  | none =>
      have absent := List.find?_eq_none.mp found parcel member
      simp at absent
  | some other =>
      have among := List.mem_of_find?_eq_some found
      have same : other.serial = parcel.serial := by simpa using List.find?_some found
      have first := upstream.parcels other among
      rw [same] at first
      exact first.unique (upstream.parcels parcel member)

/-- The bytes handed down are at every moment a prefix of the bytes queued. Each serial was
posted with one payload only, and whenever the poller waits for what comes next, with nobody
asking for the tunnel to close, the bytes handed down are the payloads of the serials that it
has looked at. Request serials travel as signed words of eight bytes, which they have to fit. -/
theorem upstream_in_order (clientTerms : Client.Terms) (serverTerms : Server.Terms)
    (start : Nat) (script : List (Nat × Action)) (relay : Relay) (trace : List Deed)
    (ran : (ofStart clientTerms serverTerms start).run script = some (relay, trace))
    (fits : relay.connection.queue.nextSerial ≤ 2 ^ 63) :
    passedDown trace <+: queued trace ∧
      (∀ parcel ∈ posted trace, payloadOf (posted trace) parcel.serial = parcel.payload) ∧
      (relay.tunnel.poller.phase = .serving → relay.tunnel.closeAsked = false →
        (∀ serial, 1 ≤ serial → serial ≤ relay.tunnel.poller.lastSeen.toNat →
          ∃ parcel ∈ posted trace, parcel.serial = serial) ∧
        passedDown trace = (List.range' 1 relay.tunnel.poller.lastSeen.toNat).flatMap
          (payloadOf (posted trace))) := by
  obtain ⟨genuine, known⟩ := run_upstream clientTerms serverTerms start script relay trace ran
  obtain ⟨sent, upstream⟩ := known fits
  refine ⟨?_, upstream.payload_of, ?_⟩
  · rw [upstream.bytes]
    exact upstream.passed.trans (List.prefix_append _ _)
  · intro serving unasked
    have live := live_of_serving relay serving
    have done : relay.tunnel.poller.work.done = relay.tunnel.poller.lastSeen.toNat := by
      rw [Server.Poller.work_of_phase _ _ serving]
      rfl
    refine ⟨genuine.seen live fits, ?_⟩
    rw [upstream.done live unasked, done]
    apply take_eq_carried
    intro serial positive bound
    obtain ⟨parcel, posted, rfl⟩ := genuine.seen live fits serial positive bound
    rw [upstream.payload_of parcel posted]
    exact upstream.parcels parcel posted

def catchingUp : List (Nat × Action) :=
  [(0, .client (.decide .alpha)), (0, .client (.take .alpha)), (0, .client (.clear .alpha)),
    (0, .client (.depart .alpha)), (0, .client (.decide .beta)), (0, .client (.join .beta)),
    (1, .application (.send [7, 8])), (1, .client (.intake (.received [7, 8]))),
    (1, .client (.intake .queued)), (1, .client (.draw .beta)), (1, .client (.clear .beta)),
    (1, .client (.depart .beta)), (2, .reach ⟨2, [7, 8]⟩), (2, .server .enqueue),
    (2, .server (.poller .packet)), (3, .reach ⟨1, []⟩), (3, .server .enqueue),
    (3, .server (.poller .packet)), (3, .server (.poller .passed))]

theorem catching_up_in_order : ∃ relay trace,
    (ofStart {} {} 0).run catchingUp = some (relay, trace) ∧
      relay.connection.queue.nextSerial ≤ 2 ^ 63 ∧ relay.tunnel.poller.phase = .serving ∧
      relay.tunnel.closeAsked = false ∧ passedDown trace = [7, 8] ∧
      passedDown trace <+: queued trace ∧
      passedDown trace = (List.range' 1 relay.tunnel.poller.lastSeen.toNat).flatMap
        (payloadOf (posted trace)) := by
  refine ⟨_, _, rfl, by decide, rfl, rfl, rfl, ?_⟩
  have ordered := upstream_in_order {} {} 0 catchingUp _ _ rfl (by decide)
  exact ⟨ordered.1, (ordered.2.2 rfl rfl).2⟩

end HttpTunnel.Relay
