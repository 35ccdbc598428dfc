import HttpTunnel.Proofs.CourierErrands
import HttpTunnel.Proofs.ParkedRequests
import HttpTunnel.Proofs.ReplyFraming

/-!
The requests between a connection and the poller that serves it. As long as the poller
lives, every packet on its way or in its hands was posted by a courier, and posted serials
are those that the queue has given out.
-/

namespace HttpTunnel.Relay

open Client (Connection Courier Parcel Trip)
open Client.Connection (Errand Station)
open Server (Packet Poller Response Tunnel)
open Server.Poller (Keeps Work)

def packets (relay : Relay) : List Packet :=
  relay.outbound.map packetOf ++ relay.tunnel.waiting ++ relay.tunnel.poller.work.packets

/-- The poller still takes packets in. -/
def Live (relay : Relay) : Prop := relay.tunnel.poller.phase.live = true

/-- Every serial that the queue has given out goes through the frame of a request. -/
def Fits (relay : Relay) : Prop := relay.connection.queue.nextSerial ≤ 2 ^ 63

theorem live_of_serving (relay : Relay) (serving : relay.tunnel.poller.phase = .serving) :
    relay.Live := by
  unfold Live
  rw [serving]
  rfl

theorem awaits_station (connection : Connection) (serial : Nat) (courier : Courier)
    (waits : connection.awaits serial courier = true) :
    connection.station courier = .out serial := by
  unfold Connection.awaits at waits
  unfold Connection.station
  cases phase : connection.phase courier <;> simp_all [Connection.Phase.station]

theorem waiting_for_station (connection : Connection) (serial : Nat) (courier : Courier)
    (waits : connection.waitingFor? serial = some courier) :
    connection.station courier = .out serial := by
  unfold Connection.waitingFor? at waits
  split_ifs at waits with first second
  · cases waits
    exact awaits_station connection serial .alpha first
  · cases waits
    exact awaits_station connection serial .beta second

section Passages

variable {now : Nat} {relay after : Relay} {action : Action} {trace : List Deed}

theorem Passage.live (passage : Passage now relay action after trace) (live : after.Live) :
    relay.Live := by
  cases passage with
  | poll event poller deeds tunnel allowed stepped samePoller sameWaiting sameGone sameAsked =>
      exact Poller.step_live _ _ _ stepped (samePoller ▸ live)
  | still _ application tunnel samePoller sameWaiting sameGone asked =>
      unfold Live at live ⊢
      rwa [← samePoller]
  | _ => exact live

theorem Passage.aligned (passage : Passage now relay action after trace)
    (aligned : relay.Live → relay.tunnel.poller.work.Aligned) (live : after.Live) :
    after.tunnel.poller.work.Aligned := by
  have before := aligned (passage.live live)
  cases passage with
  | poll event poller deeds tunnel allowed stepped samePoller sameWaiting sameGone sameAsked =>
      unfold Live at live
      simp only [samePoller] at live ⊢
      obtain ⟨outcome, keeps, _⟩ := Poller.step_keeps _ _ _ stepped live before
      exact keeps.aligned
  | enqueue packet rest waiting =>
      exact ⟨before.tidy, before.ahead, before.started, before.next, before.keyed, before.run,
        before.current, before.parked⟩
  | still _ application tunnel samePoller sameWaiting sameGone asked =>
      simp only [samePoller]
      exact before
  | _ => exact before

theorem Passage.uncrowded (passage : Passage now relay action after trace)
    (uncrowded : relay.tunnel.poller.Uncrowded) : after.tunnel.poller.Uncrowded := by
  cases passage with
  | poll event poller deeds tunnel allowed stepped samePoller sameWaiting sameGone sameAsked =>
      simp only [samePoller]
      exact Poller.step_uncrowds _ _ _ _ _ uncrowded stepped
  | enqueue packet rest waiting =>
      exact ⟨uncrowded.most, uncrowded.waiting, uncrowded.dry, uncrowded.fits⟩
  | still _ application tunnel samePoller sameWaiting sameGone asked =>
      simp only [samePoller]
      exact uncrowded
  | _ => exact uncrowded

theorem Passage.packets_from (passage : Passage now relay action after trace)
    (aligned : relay.Live → relay.tunnel.poller.work.Aligned) (live : after.Live)
    (packet : Packet) (member : packet ∈ after.packets) :
    packet ∈ relay.packets ∨ ∃ parcel ∈ posted trace, packetOf parcel = packet := by
  have before := aligned (passage.live live)
  have posting : ∀ deeds : List Connection.Deed,
      packet ∈ (relay.outbound ++ posts deeds).map packetOf ++ relay.tunnel.waiting ++
        relay.tunnel.poller.work.packets →
      packet ∈ relay.packets ∨
        ∃ parcel ∈ posted (deeds.filterMap Deed.ofClient?), packetOf parcel = packet := by
    intro deeds among
    rw [posted_of_client]
    simp only [packets, List.map_append, List.mem_append, List.mem_map] at among ⊢
    rcases among with ((kept | fresh) | waits) | served
    · exact .inl (.inl (.inl kept))
    · exact .inr fresh
    · exact .inl (.inl (.inr waits))
    · exact .inl (.inr served)
  cases passage with
  | client action connection application deeds own move => exact posting deeds member
  | comeBack serial trip courier connection deeds came waits move => exact posting deeds member
  | breakTrip courier connection deeds move => exact posting deeds member
  | poll event poller deeds tunnel allowed stepped samePoller sameWaiting sameGone sameAsked =>
      unfold Live at live
      simp only [packets, samePoller, sameWaiting] at live member
      obtain ⟨outcome, keeps, _⟩ := Poller.step_keeps _ _ _ stepped live before
      apply Or.inl
      rcases List.mem_append.mp member with network | served
      · exact List.mem_append_left _ network
      · exact List.mem_append_right _
          (keeps.packets.mem_iff.mpr (List.mem_append_right _ served))
  | enqueue other rest waiting =>
      apply Or.inl
      simp only [packets, Poller.work, Work.packets, waiting, List.mem_append, List.mem_cons,
        List.not_mem_nil] at member ⊢
      tauto
  | refuse other rest waiting =>
      apply Or.inl
      simp only [packets, waiting, List.mem_append, List.mem_cons] at member ⊢
      tauto
  | reach parcel posted =>
      apply Or.inl
      have listed : packetOf parcel ∈ relay.outbound.map packetOf :=
        List.mem_map_of_mem posted
      have fewer : packet ∈ (relay.outbound.erase parcel).map packetOf →
          packet ∈ relay.outbound.map packetOf := fun kept =>
        (List.erase_sublist.map packetOf).subset kept
      simp only [packets, Tunnel.deliver, List.mem_append, List.mem_singleton] at member ⊢
      rcases member with (kept | waits | rfl) | served
      · exact .inl (.inl (fewer kept))
      · exact .inl (.inr waits)
      · exact .inl (.inl listed)
      · exact .inr served
  | turnAway parcel posted =>
      apply Or.inl
      simp only [packets, List.mem_append] at member ⊢
      rcases member with (kept | waits) | served
      · exact .inl (.inl ((List.erase_sublist.map packetOf).subset kept))
      · exact .inl (.inr waits)
      · exact .inr served
  | hangUp serial =>
      apply Or.inl
      simp only [packets, Tunnel.hangUp, List.mem_append, List.mem_filter] at member ⊢
      tauto
  | loseRequest parcel posted =>
      apply Or.inl
      simp only [packets, List.mem_append] at member ⊢
      rcases member with (kept | waits) | served
      · exact .inl (.inl ((List.erase_sublist.map packetOf).subset kept))
      · exact .inl (.inr waits)
      · exact .inr served
  | loseResponse serial trip came => exact .inl member
  | still _ application tunnel samePoller sameWaiting sameGone asked =>
      simp only [packets, samePoller, sameWaiting] at member
      exact .inl member

/-- Serials that have been looked at were looked at before, or belong to packets that were
under way. -/
theorem Passage.looked_from (passage : Passage now relay action after trace)
    (aligned : relay.Live → relay.tunnel.poller.work.Aligned) (live : after.Live) (serial : Nat)
    (positive : 1 ≤ serial) (upto : serial ≤ after.tunnel.poller.lastSeen.toNat) :
    serial ≤ relay.tunnel.poller.lastSeen.toNat ∨
      ∃ packet ∈ relay.packets, packet.serial = serial := by
  have before := aligned (passage.live live)
  cases passage with
  | poll event poller deeds tunnel allowed stepped samePoller sameWaiting sameGone sameAsked =>
      unfold Live at live
      simp only [samePoller] at live upto
      obtain ⟨outcome, keeps, _⟩ := Poller.step_keeps _ _ _ stepped live before
      by_cases early : serial ≤ relay.tunnel.poller.lastSeen.toNat
      · exact .inl early
      · have within : (serial : Int) ≤ poller.lastSeen := by omega
        obtain ⟨packet, member, same⟩ :=
          keeps.looked serial (by show relay.tunnel.poller.lastSeen < _; omega) within
        exact .inr ⟨packet, List.mem_append_right _ member, same⟩
  | still _ application tunnel samePoller sameWaiting sameGone asked =>
      simp only [samePoller] at upto
      exact .inl upto
  | _ => exact .inl upto

/-- What a passage means for the connection. Only an answer that came through the network
reaches a courier that is out. -/
theorem Passage.errand (closed : relay.connection.Sealed)
    (passage : Passage now relay action after trace) :
    (after.connection = relay.connection ∧ posted trace = [] ∧ queued trace = []) ∨
      ∃ own, Errand relay.connection own after.connection trace := by
  have errand := fun own connection deeds move =>
    Connection.move_errand now relay.connection connection own deeds closed move
  cases passage with
  | client own connection application deeds _ move =>
      exact .inr ⟨_, errand _ connection deeds move⟩
  | comeBack serial trip courier connection deeds came waits move =>
      exact .inr ⟨_, errand _ connection deeds move⟩
  | breakTrip courier connection deeds move => exact .inr ⟨_, errand _ connection deeds move⟩
  | poll event poller deeds tunnel allowed stepped samePoller sameWaiting sameGone sameAsked =>
      exact .inl ⟨rfl, posted_of_server event deeds, queued_of_server event deeds⟩
  | _ => exact .inl ⟨rfl, rfl, rfl⟩

theorem Passage.sealed (closed : relay.connection.Sealed)
    (passage : Passage now relay action after trace) : after.connection.Sealed := by
  cases passage with
  | client own connection application deeds _ move =>
      exact Connection.move_sealed now _ connection own deeds closed move
  | comeBack serial trip courier connection deeds came waits move =>
      exact Connection.move_sealed now _ connection _ deeds closed move
  | breakTrip courier connection deeds move =>
      exact Connection.move_sealed now _ connection _ deeds closed move
  | _ => exact closed

theorem Passage.fits (closed : relay.connection.Sealed)
    (passage : Passage now relay action after trace) (fits : after.Fits) : relay.Fits := by
  unfold Fits at fits ⊢
  rcases passage.errand closed with ⟨same, _⟩ | ⟨_, errand⟩
  · rwa [← same]
  · exact Nat.le_trans errand.counted fits

end Passages

/-- What is true of the requests of every relay: all of them were posted, under serials that
the queue gave out. -/
structure Genuine (relay : Relay) (trace : List Deed) : Prop where
  closed : relay.connection.Sealed
  aligned : relay.Live → relay.tunnel.poller.work.Aligned
  uncrowded : relay.tunnel.poller.Uncrowded
  sent : relay.Live → ∀ packet ∈ relay.packets, ∃ parcel ∈ posted trace, packetOf parcel = packet
  seen : relay.Live → relay.Fits → ∀ serial, 1 ≤ serial →
    serial ≤ relay.tunnel.poller.lastSeen.toNat → ∃ parcel ∈ posted trace, parcel.serial = serial
  positive : 1 ≤ relay.connection.queue.nextSerial
  numbered : ∀ parcel ∈ posted trace,
    1 ≤ parcel.serial ∧ parcel.serial < relay.connection.queue.nextSerial
  holding : ∀ courier parcel, relay.connection.station courier = .holding parcel →
    1 ≤ parcel.serial ∧ parcel.serial < relay.connection.queue.nextSerial

theorem of_start_genuine (clientTerms : Client.Terms) (serverTerms : Server.Terms) (now : Nat) :
    (ofStart clientTerms serverTerms now).Genuine [] := by
  have empty : (ofStart clientTerms serverTerms now).packets = [] := rfl
  constructor
  · intro shut
    cases shut
  · exact fun _ => Server.Poller.of_start_aligned serverTerms now
  · exact Server.Poller.of_start_uncrowded serverTerms now
  · intro _ packet member
    rw [empty] at member
    cases member
  · intro _ _ serial positive bound
    have none : serial ≤ 0 := bound
    omega
  · exact Nat.le_refl _
  · intro parcel member
    cases member
  · intro courier parcel holds
    cases courier <;> cases holds

theorem Genuine.packet_of_posted {relay : Relay} {trace : List Deed}
    (genuine : relay.Genuine trace) (fits : relay.Fits) (parcel : Parcel)
    (member : parcel ∈ posted trace) :
    packetOf parcel = ⟨parcel.serial, parcel.serial, parcel.payload⟩ := by
  have given := (genuine.numbered parcel member).2
  unfold Fits at fits
  have small : parcel.serial < 2 ^ 63 := by omega
  simp only [packetOf, carried_serial parcel.serial small]

theorem Genuine.packet_serial {relay : Relay} {trace : List Deed} (genuine : relay.Genuine trace)
    (fits : relay.Fits) (parcel : Parcel) (member : parcel ∈ posted trace) :
    (packetOf parcel).serial = parcel.serial := by
  rw [genuine.packet_of_posted fits parcel member]

theorem Genuine.listed_serial {relay : Relay} {trace : List Deed} (genuine : relay.Genuine trace)
    (live : relay.Live) (fits : relay.Fits) (parcel : Parcel) (listed : parcel ∈ relay.outbound) :
    (packetOf parcel).serial = parcel.serial := by
  have among : packetOf parcel ∈ relay.packets :=
    List.mem_append_left _ (List.mem_append_left _ (List.mem_map_of_mem listed))
  obtain ⟨own, posted, same⟩ := genuine.sent live _ among
  rw [← same, genuine.packet_serial fits own posted]
  exact congrArg Int.ofNat (congrArg Packet.client same)

theorem Genuine.passage {now : Nat} {relay after : Relay} {action : Action}
    {past trace : List Deed} (genuine : relay.Genuine past)
    (passage : Passage now relay action after trace) : after.Genuine (past ++ trace) := by
  have positive := genuine.positive
  have counted : relay.connection.queue.nextSerial ≤ after.connection.queue.nextSerial := by
    rcases passage.errand genuine.closed with ⟨same, _⟩ | ⟨own, errand⟩
    · exact Nat.le_of_eq (by rw [same])
    · exact errand.counted
  have fresh : ∀ parcel, relay.connection.queue.Takes parcel after.connection.queue →
      1 ≤ parcel.serial ∧ parcel.serial < after.connection.queue.nextSerial := by
    intro parcel takes
    have serial := takes.serial
    have next := takes.counted
    omega
  have held : ∀ courier parcel, relay.connection.station courier = .holding parcel →
      1 ≤ parcel.serial ∧ parcel.serial < after.connection.queue.nextSerial := by
    intro courier parcel holds
    have before := genuine.holding courier parcel holds
    omega
  constructor
  · exact passage.sealed genuine.closed
  · exact passage.aligned genuine.aligned
  · exact passage.uncrowded genuine.uncrowded
  · intro live packet member
    rw [posted_append]
    rcases passage.packets_from genuine.aligned live packet member with before | ⟨parcel, own, same⟩
    · obtain ⟨parcel, own, same⟩ := genuine.sent (passage.live live) packet before
      exact ⟨parcel, List.mem_append_left _ own, same⟩
    · exact ⟨parcel, List.mem_append_right _ own, same⟩
  · intro live fits serial first upto
    rw [posted_append]
    have fitted := passage.fits genuine.closed fits
    rcases passage.looked_from genuine.aligned live serial first upto with
      before | ⟨packet, among, same⟩
    · obtain ⟨parcel, own, same⟩ := genuine.seen (passage.live live) fitted serial first before
      exact ⟨parcel, List.mem_append_left _ own, same⟩
    · obtain ⟨parcel, own, rfl⟩ := genuine.sent (passage.live live) packet among
      rw [genuine.packet_serial fitted parcel own] at same
      exact ⟨parcel, List.mem_append_left _ own, Int.ofNat.inj same⟩
  · omega
  · intro parcel member
    rw [posted_append] at member
    rcases List.mem_append.mp member with before | own
    · have numbered := genuine.numbered parcel before
      omega
    · rcases passage.errand genuine.closed with ⟨_, silent, _⟩ | ⟨_, errand⟩
      · rw [silent] at own
        cases own
      · rcases errand.posts_numbered parcel own with ⟨courier, holds⟩ | taken
        · exact held courier parcel holds
        · exact fresh parcel taken
  · intro courier parcel holds
    rcases passage.errand genuine.closed with ⟨same, _⟩ | ⟨_, errand⟩
    · rw [same] at holds
      exact held courier parcel holds
    · rcases errand.holds_numbered courier parcel holds with before | taken
      · exact held courier parcel before
      · exact fresh parcel taken

theorem run_genuine (clientTerms : Client.Terms) (serverTerms : Server.Terms) (start : Nat)
    (allowed : Action → Prop) (invariant : Relay → List Deed → Prop)
    (begins : invariant (ofStart clientTerms serverTerms start) [])
    (keeps : ∀ now relay past action after deeds, allowed action → relay.Genuine past →
      invariant relay past → Passage now relay action after deeds → invariant after (past ++ deeds))
    (script : List (Nat × Action)) (relay : Relay) (trace : List Deed)
    (ran : (ofStart clientTerms serverTerms start).run script = some (relay, trace))
    (orderly : ∀ entry ∈ script, allowed entry.2) :
    relay.Genuine trace ∧ invariant relay trace := by
  refine run_keeps allowed (fun relay past => relay.Genuine past ∧ invariant relay past) ?_
    script _ relay [] trace orderly
    ⟨of_start_genuine clientTerms serverTerms start, begins⟩ ran
  rintro now before past action after deeds permitted ⟨genuine, holds⟩ stepped
  have passage := step_passes now before after deeds action stepped
  exact ⟨genuine.passage passage,
    keeps now before past action after deeds permitted genuine holds passage⟩

end HttpTunnel.Relay
