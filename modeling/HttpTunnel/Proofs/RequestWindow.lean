import HttpTunnel.Proofs.RequestsUnderWay
import Mathlib.Data.List.Count

/-!
The window of a poller is wide enough for the two couriers of one connection. A courier that
is home has seen its last request looked at, so at most two serials are given out and not
looked at yet: the poller can take both, in either order, and no serial comes twice.
-/

namespace HttpTunnel.Relay

open Client (Connection Courier Parcel Trip)
open Client.Connection (Errand Station)
open Server (Packet Poller Response Tunnel)
open Server.Poller (Keeps Work)

def holds (serial : Nat) : Station → Nat
  | .holding parcel => if parcel.serial = serial then 1 else 0
  | _ => 0

def held (connection : Connection) (serial : Nat) : Nat :=
  holds serial (connection.station .alpha) + holds serial (connection.station .beta)

/-- How often a serial is held, on its way, queued, or already taken by the window. -/
def tally (relay : Relay) (serial : Nat) : Nat :=
  relay.tunnel.poller.work.tally serial +
    relay.tunnel.waiting.countP (fun packet => packet.serial.toNat == serial) +
    relay.outbound.countP (fun parcel => parcel.serial == serial) + held relay.connection serial

/-- The last serial of each courier bounds what the poller can still expect. -/
structure Roomy (relay : Relay) (last : Courier → Nat) : Prop where
  tally : ∀ serial, relay.tally serial ≤ 1 ∧
    (relay.connection.queue.nextSerial ≤ serial → relay.tally serial = 0)
  spanned : ∀ serial, relay.tunnel.poller.early.next ≤ serial →
    serial < relay.connection.queue.nextSerial → ∃ courier, last courier = serial
  home : ∀ courier, relay.connection.station courier = .home →
    last courier < relay.tunnel.poller.early.next
  holding : ∀ courier parcel, relay.connection.station courier = .holding parcel →
    last courier = parcel.serial ∧ 1 ≤ parcel.serial
  out : ∀ courier serial, relay.connection.station courier = .out serial →
    last courier = serial ∧ 1 ≤ serial
  bound : ∀ courier, last courier < relay.connection.queue.nextSerial
  distinct : last .alpha = last .beta → last .alpha = 0
  answered : ∀ serial trip reply, (serial, trip) ∈ relay.inbound → trip.reply = .ok reply →
    serial < relay.tunnel.poller.early.next

theorem held_moved (before after : Connection) (courier : Courier) (station : Station)
    (stations : ∀ other, after.station other =
      if other = courier then station else before.station other) (serial : Nat) :
    held after serial + holds serial (before.station courier) =
      held before serial + holds serial station := by
  cases courier <;> simp [held, stations] <;> omega

/-- The last serials after a courier got a new one. -/
def withLast (last : Courier → Nat) (courier : Courier) (serial : Nat) : Courier → Nat :=
  fun other => if other = courier then serial else last other

section Errands

variable (relay : Relay) (last : Courier → Nat) (connection : Connection)
  (application : Socket) (inbound : List (Nat × Trip))

def afterErrand (relay : Relay) (connection : Connection) (application : Socket)
    (inbound : List (Nat × Trip)) (parcels : List Parcel) : Relay :=
  { relay with
    connection := connection
    application := application
    inbound := inbound
    outbound := relay.outbound ++ parcels }

theorem Roomy.begins (roomy : relay.Roomy last) (fewer : ∀ answer ∈ inbound, answer ∈ relay.inbound)
    (courier : Courier) (parcel : Parcel) (parcels : List Parcel) (station : Station)
    (home : relay.connection.station courier = .home)
    (takes : relay.connection.queue.Takes parcel connection.queue)
    (stations : ∀ other, connection.station other =
      if other = courier then station else relay.connection.station other)
    (moves : ∀ serial, parcels.countP (fun parcel => parcel.serial == serial) +
      holds serial station = if parcel.serial = serial then 1 else 0)
    (begun : (station = .holding parcel) ∨ station = .out parcel.serial) :
    (relay.afterErrand connection application inbound parcels).Roomy
      (withLast last courier parcel.serial) := by
  have counted := takes.counted
  have serial := takes.serial
  constructor
  · intro other
    have before := roomy.tally other
    have moved := held_moved _ _ courier station stations other
    have added := moves other
    have nothing : holds other .home = 0 := rfl
    rw [home, nothing] at moved
    simp only [Relay.tally, afterErrand, List.countP_append] at before ⊢
    split_ifs at added <;> omega
  · intro other lower upper
    simp only [afterErrand] at lower upper
    by_cases latest : other = parcel.serial
    · exact ⟨courier, by simp [withLast, latest]⟩
    · obtain ⟨owner, same⟩ := roomy.spanned other lower (by omega)
      have different : owner ≠ courier := by
        rintro rfl
        have behind := roomy.home owner home
        omega
      exact ⟨owner, by simp [withLast, different, same]⟩
  · intro other here
    simp only [afterErrand, stations] at here
    split_ifs at here with same
    · rcases begun with rfl | rfl <;> cases here
    · simp only [withLast, if_neg same]
      exact roomy.home other here
  · intro other own here
    simp only [afterErrand, stations] at here
    split_ifs at here with same
    · subst here
      have last := roomy.bound courier
      rcases begun with begun | begun <;> cases begun
      exact ⟨if_pos same, by omega⟩
    · simp only [withLast, if_neg same]
      exact roomy.holding other own here
  · intro other own here
    simp only [afterErrand, stations] at here
    split_ifs at here with same
    · subst here
      have last := roomy.bound courier
      rcases begun with begun | begun <;> cases begun
      exact ⟨if_pos same, by omega⟩
    · simp only [withLast, if_neg same]
      exact roomy.out other own here
  · intro other
    have bound := roomy.bound other
    simp only [afterErrand, withLast]
    split_ifs <;> omega
  · have alpha := roomy.bound .alpha
    have beta := roomy.bound .beta
    cases courier <;> simp [withLast] <;> omega
  · intro serial trip reply member
    exact roomy.answered serial trip reply (fewer _ member)

theorem Roomy.goes_on (roomy : relay.Roomy last)
    (fewer : ∀ answer ∈ inbound, answer ∈ relay.inbound)
    (courier : Courier) (parcels : List Parcel) (station : Station)
    (counted : connection.queue.nextSerial = relay.connection.queue.nextSerial)
    (stations : ∀ other, connection.station other =
      if other = courier then station else relay.connection.station other)
    (moves : ∀ serial, parcels.countP (fun parcel => parcel.serial == serial) +
      holds serial station ≤ holds serial (relay.connection.station courier))
    (home : station = .home → last courier < relay.tunnel.poller.early.next)
    (holding : ∀ parcel, station = .holding parcel →
      last courier = parcel.serial ∧ 1 ≤ parcel.serial)
    (out : ∀ serial, station = .out serial → last courier = serial ∧ 1 ≤ serial) :
    (relay.afterErrand connection application inbound parcels).Roomy last := by
  constructor
  · intro other
    have before := roomy.tally other
    have moved := held_moved _ _ courier station stations other
    have less := moves other
    simp only [Relay.tally, afterErrand, List.countP_append] at before ⊢
    omega
  · intro other lower upper
    simp only [afterErrand, counted] at lower upper
    exact roomy.spanned other lower upper
  · intro other here
    simp only [afterErrand, stations] at here
    split_ifs at here with same
    · exact same ▸ home here
    · exact roomy.home other here
  · intro other own here
    simp only [afterErrand, stations] at here
    split_ifs at here with same
    · exact same ▸ holding own here
    · exact roomy.holding other own here
  · intro other own here
    simp only [afterErrand, stations] at here
    split_ifs at here with same
    · exact same ▸ out own here
    · exact roomy.out other own here
  · intro other
    simp only [afterErrand, counted]
    exact roomy.bound other
  · exact roomy.distinct
  · intro serial trip reply member
    exact roomy.answered serial trip reply (fewer _ member)

theorem Roomy.errand (roomy : relay.Roomy last)
    (fewer : ∀ answer ∈ inbound, answer ∈ relay.inbound) (own : Connection.Action)
    (trace : List Deed) (errand : Errand relay.connection own connection trace)
    (answers : ∀ courier trip reply, own = .answer courier trip → trip.reply = .ok reply →
      ∃ serial, (serial, trip) ∈ relay.inbound ∧ relay.connection.station courier = .out serial) :
    ∃ latest, (relay.afterErrand connection application inbound (posted trace)).Roomy latest := by
  cases errand with
  | keep _ _ _ stations stock silent =>
      have same : ∀ other, connection.station other = if other = .alpha then
          relay.connection.station .alpha else relay.connection.station other := by
        intro other
        split_ifs with alpha
        · rw [stations, alpha]
        · exact stations other
      refine ⟨last, roomy.goes_on _ _ _ _ _ fewer .alpha _ _ stock.counted same ?_
        (roomy.home .alpha) (roomy.holding .alpha) (roomy.out .alpha)⟩
      intro serial
      simp [silent]
  | take _ _ courier parcel home takes stations =>
      refine ⟨_, roomy.begins _ _ _ _ _ fewer courier parcel _ _ home takes stations ?_ (.inl rfl)⟩
      intro serial
      simp [posted, holds]
  | poll _ _ courier parcel home takes stations =>
      refine ⟨_, roomy.begins _ _ _ _ _ fewer courier parcel _ _ home takes stations ?_ (.inr rfl)⟩
      intro serial
      simp [posted, holds, List.countP_cons]
  | post _ _ courier parcel holding goods stations =>
      refine ⟨last, roomy.goes_on _ _ _ _ _ fewer courier _ _ goods.counted stations ?_
        (fun away => by cases away) (fun _ away => by cases away) ?_⟩
      · intro serial
        simp [posted, holding, holds, List.countP_cons]
      · intro serial away
        cases away
        exact roomy.holding courier parcel holding
  | back _ courier serial trip reply out read goods stations =>
      refine ⟨last, roomy.goes_on _ _ _ _ _ fewer courier _ _ goods.counted stations ?_ ?_
        (fun _ away => by cases away) (fun _ away => by cases away)⟩
      · intro serial
        simp [posted, holds]
      · intro _
        obtain ⟨serial, came, waits⟩ := answers courier trip reply rfl read
        rw [(roomy.out courier serial waits).1]
        exact roomy.answered serial trip reply came read
  | quit _ _ courier goods stations =>
      refine ⟨last, roomy.goes_on _ _ _ _ _ fewer courier _ _ goods.counted stations ?_
        (fun away => by cases away) (fun _ away => by cases away) (fun _ away => by cases away)⟩
      intro serial
      simp [posted, holds]

end Errands

theorem responses_complete (deeds : List Poller.Deed) (client : Nat) (trip : Trip)
    (member : (client, trip) ∈ responses deeds) :
    ∃ packet ∈ Poller.completed deeds, packet.client = client := by
  simp only [responses, List.mem_map, List.mem_filterMap] at member
  rcases member with ⟨⟨other, response⟩, ⟨_, ⟨deed, among, rfl⟩, answers⟩, same⟩
  cases same
  cases deed with
  | answered packet answer =>
      cases answers
      exact ⟨packet, List.mem_filterMap.mpr ⟨_, among, rfl⟩, rfl⟩
  | dropped packet =>
      cases answers
      exact ⟨packet, List.mem_filterMap.mpr ⟨_, among, rfl⟩, rfl⟩
  | missed packet => cases answers
  | passedDown payload => cases answers

theorem Roomy.stays {relay after : Relay} {last : Courier → Nat} (roomy : relay.Roomy last)
    (same : after.connection = relay.connection)
    (fewer : ∀ serial, after.tally serial ≤ relay.tally serial)
    (next : relay.tunnel.poller.early.next ≤ after.tunnel.poller.early.next)
    (answered : ∀ serial trip reply, (serial, trip) ∈ after.inbound → trip.reply = .ok reply →
      (serial, trip) ∈ relay.inbound ∨ serial < after.tunnel.poller.early.next) :
    after.Roomy last := by
  constructor
  · intro serial
    have before := roomy.tally serial
    have less := fewer serial
    rw [same]
    omega
  · intro serial lower upper
    rw [same] at upper
    exact roomy.spanned serial (by omega) upper
  · intro courier here
    rw [same] at here
    have before := roomy.home courier here
    omega
  · rw [same]
    exact roomy.holding
  · rw [same]
    exact roomy.out
  · rw [same]
    exact roomy.bound
  · exact roomy.distinct
  · intro serial trip reply member read
    rcases answered serial trip reply member read with before | behind
    · have below := roomy.answered serial trip reply before read
      omega
    · exact behind

section Passages

variable {now : Nat} {relay after : Relay} {action : Action} {past trace : List Deed}

theorem Genuine.answers_seen (genuine : relay.Genuine past) (live : relay.Live)
    (fits : relay.Fits) (poller : Poller) (deeds : List Poller.Deed)
    (outcome : Server.Poller.Outcome)
    (keeps : Keeps relay.tunnel.poller.work outcome poller.work)
    (same : Poller.completed outcome.deeds = Poller.completed deeds) (client : Nat) (trip : Trip)
    (member : (client, trip) ∈ responses deeds) : client < poller.early.next := by
  obtain ⟨packet, done, rfl⟩ := responses_complete deeds client trip member
  rw [← same] at done
  have among : packet ∈ relay.packets := List.mem_append_right _
    (keeps.packets.mem_iff.mpr (List.mem_append_left _ done))
  obtain ⟨parcel, posted, rfl⟩ := genuine.sent live packet among
  have seen : (packetOf parcel).serial ≤ poller.lastSeen := keeps.answered _ done
  rw [genuine.packet_serial fits parcel posted] at seen
  have next : poller.early.next = poller.lastSeen.toNat + 1 + _ := keeps.aligned.next
  show parcel.serial < poller.early.next
  omega

theorem Roomy.passage {last : Courier → Nat} (genuine : relay.Genuine past)
    (roomy : relay.Roomy last) (fits : relay.Fits) (passage : Passage now relay action after trace)
    (live : after.Live) : ∃ latest, after.Roomy latest := by
  have alive := passage.live live
  have nothing : ∀ answer ∈ relay.inbound, answer ∈ relay.inbound := fun _ => id
  have erased : ∀ serial trip, ∀ answer ∈ relay.inbound.erase (serial, trip),
      answer ∈ relay.inbound := fun _ _ _ => List.mem_of_mem_erase
  have fewer : ∀ parcel serial,
      (relay.outbound.erase parcel).countP (fun parcel => parcel.serial == serial) ≤
        relay.outbound.countP (fun parcel => parcel.serial == serial) :=
    fun _ _ => List.Sublist.countP_le List.erase_sublist
  have unanswered : ∀ client serial trip reply,
      (serial, trip) ∈ relay.inbound ++ [(client, tripOf unknown)] → trip.reply = .ok reply →
        (serial, trip) ∈ relay.inbound ∨ serial < relay.tunnel.poller.early.next := by
    intro client serial trip reply member read
    rcases List.mem_append.mp member with before | refused
    · exact .inl before
    · cases List.mem_singleton.mp refused
      cases read
  cases passage with
  | client own connection application deeds mine move =>
      have errand := Connection.move_errand now _ _ own deeds genuine.closed move
      have keeps := roomy.errand relay last connection application relay.inbound nothing own _
        errand (fun _ _ _ same => by rw [same] at mine; cases mine)
      rw [posted_of_client] at keeps
      exact keeps
  | comeBack serial trip courier connection deeds came waits move =>
      have errand := Connection.move_errand now _ _ _ deeds genuine.closed move
      have keeps := roomy.errand relay last connection relay.application
        (relay.inbound.erase (serial, trip)) (erased serial trip) _ _ errand
        (fun _ _ _ same _ => by
          cases same
          exact ⟨serial, came, waiting_for_station _ _ _ waits⟩)
      rw [posted_of_client] at keeps
      exact keeps
  | breakTrip courier connection deeds move =>
      have errand := Connection.move_errand now _ _ _ deeds genuine.closed move
      have keeps := roomy.errand relay last connection relay.application relay.inbound nothing _ _
        errand (fun _ _ _ same read => by
          cases same
          cases read)
      rw [posted_of_client] at keeps
      exact keeps
  | poll event poller deeds tunnel allowed stepped samePoller sameWaiting sameGone sameAsked =>
      have lives : poller.phase.live = true := samePoller ▸ live
      obtain ⟨outcome, keeps, same⟩ := Poller.step_keeps _ _ _ stepped lives (genuine.aligned alive)
      refine ⟨last, roomy.stays rfl ?_ ?_ ?_⟩
      · intro serial
        simp only [Relay.tally, samePoller, sameWaiting, keeps.tally]
        exact Nat.le_refl _
      · simp only [samePoller]
        exact keeps.next
      · intro serial trip reply member _
        rcases List.mem_append.mp member with before | answered
        · exact .inl before
        · simp only [samePoller]
          apply Or.inr
          exact genuine.answers_seen alive fits poller deeds outcome keeps same serial trip answered
  | enqueue packet rest waiting =>
      refine ⟨last, roomy.stays rfl ?_ (Nat.le_refl _) fun _ _ _ before _ => .inl before⟩
      intro serial
      simp only [Relay.tally, Poller.work, Work.tally, waiting, List.countP_append,
        List.countP_cons, List.countP_nil]
      omega
  | refuse packet rest waiting =>
      refine ⟨last, roomy.stays rfl ?_ (Nat.le_refl _) (unanswered _)⟩
      intro serial
      simp only [Relay.tally, waiting, List.countP_cons]
      omega
  | reach parcel listed =>
      refine ⟨last, roomy.stays rfl ?_ (Nat.le_refl _) fun _ _ _ before _ => .inl before⟩
      intro serial
      have positive : parcel.serial = serial →
          0 < relay.outbound.countP (fun parcel => parcel.serial == serial) := fun same =>
        List.countP_pos_iff.mpr ⟨parcel, listed, by simp [same]⟩
      have carried := genuine.listed_serial alive fits parcel listed
      simp only [Relay.tally, Tunnel.deliver, carried, List.countP_append, List.countP_erase,
        List.countP_cons, List.countP_nil, listed, true_and, beq_iff_eq, Int.toNat_natCast]
      split_ifs <;> omega
  | turnAway parcel posted =>
      refine ⟨last, roomy.stays rfl ?_ (Nat.le_refl _) (unanswered _)⟩
      intro serial
      have less := fewer parcel serial
      simp only [Relay.tally]
      omega
  | hangUp serial =>
      refine ⟨last, roomy.stays rfl ?_ (Nat.le_refl _) fun _ _ _ before _ => .inl before⟩
      intro other
      have less : (relay.tunnel.waiting.filter fun packet => packet.client != serial).countP
          (fun packet => packet.serial.toNat == other) ≤
            relay.tunnel.waiting.countP (fun packet => packet.serial.toNat == other) :=
        List.Sublist.countP_le List.filter_sublist
      simp only [Relay.tally, Tunnel.hangUp]
      omega
  | loseRequest parcel posted =>
      refine ⟨last, roomy.stays rfl ?_ (Nat.le_refl _) fun _ _ _ before _ => .inl before⟩
      intro serial
      have less := fewer parcel serial
      simp only [Relay.tally]
      omega
  | loseResponse serial trip came =>
      exact ⟨last, roomy.stays rfl (fun _ => Nat.le_refl _) (Nat.le_refl _)
        fun _ _ _ before _ => .inl (List.mem_of_mem_erase before)⟩
  | still _ application tunnel samePoller sameWaiting sameGone asked =>
      refine ⟨last, roomy.stays rfl ?_ ?_ fun _ _ _ before _ => .inl before⟩
      · intro serial
        simp only [Relay.tally, samePoller, sameWaiting]
        exact Nat.le_refl _
      · simp only [samePoller]
        exact Nat.le_refl _

end Passages

theorem of_start_roomy (clientTerms : Client.Terms) (serverTerms : Server.Terms) (now : Nat) :
    (ofStart clientTerms serverTerms now).Roomy fun _ => 0 := by
  constructor
  · intro serial
    have count : (ofStart clientTerms serverTerms now).tally serial =
        if serial < 1 then 1 else 0 := rfl
    have first : (ofStart clientTerms serverTerms now).connection.queue.nextSerial = 1 := rfl
    rw [count, first]
    split_ifs <;> omega
  · intro serial lower upper
    have first : 1 ≤ serial := lower
    have none : serial < 1 := upper
    omega
  · intro courier _
    exact Nat.zero_lt_one
  · intro courier parcel here
    cases courier <;> cases here
  · intro courier serial here
    cases courier <;> cases here
  · intro courier
    exact Nat.zero_lt_one
  · intro _
    rfl
  · intro serial trip reply member
    cases member

/-- A serial that waits for a roomy window can be taken in. -/
theorem Roomy.fits {relay : Relay} {last : Courier → Nat} (roomy : relay.Roomy last)
    (packet : Packet) (rest : List Packet) (ahead : relay.tunnel.poller.early.ahead = 1)
    (waiting : relay.tunnel.poller.queue = packet :: rest)
    (given : packet.serial.toNat < relay.connection.queue.nextSerial) :
    ∃ released early,
      relay.tunnel.poller.early.push packet.serial.toNat packet = .ok (released, early) := by
  have once := (roomy.tally packet.serial.toNat).1
  simp only [Relay.tally, Poller.work, Work.tally, waiting, List.countP_cons, beq_self_eq_true,
    if_true] at once
  obtain ⟨lower, fresh⟩ :=
    SerialWindow.untaken relay.tunnel.poller.early packet.serial.toNat (by omega)
  apply SerialWindow.push_succeeds _ _ _ lower _ fresh
  rw [ahead]
  by_contra far
  -- Three different serials would each be the last one of one of two couriers.
  obtain ⟨first, one⟩ := roomy.spanned relay.tunnel.poller.early.next (Nat.le_refl _) (by omega)
  obtain ⟨second, two⟩ := roomy.spanned (relay.tunnel.poller.early.next + 1) (by omega) (by omega)
  obtain ⟨third, three⟩ := roomy.spanned packet.serial.toNat lower given
  cases first <;> cases second <;> cases third <;> omega

theorem run_roomy (clientTerms : Client.Terms) (serverTerms : Server.Terms) (start : Nat)
    (script : List (Nat × Action)) (relay : Relay) (trace : List Deed)
    (ran : (ofStart clientTerms serverTerms start).run script = some (relay, trace)) :
    relay.Genuine trace ∧ (relay.Live → relay.Fits → ∃ last, relay.Roomy last) := by
  refine run_genuine clientTerms serverTerms start (fun _ => True)
    (fun relay _ => relay.Live → relay.Fits → ∃ last, relay.Roomy last)
    (fun _ _ => ⟨_, of_start_roomy clientTerms serverTerms start⟩) ?_ script relay trace ran
    (fun _ _ => trivial)
  intro now before past action after deeds _ genuine roomy passage live fits
  have fitted := passage.fits genuine.closed fits
  obtain ⟨last, room⟩ := roomy (passage.live live) fitted
  exact room.passage genuine fitted passage live

/-- Every packet that two couriers send fits the window when the poller comes to it. Request
serials travel as signed words of eight bytes, which they have to fit. -/
theorem queued_packet_fits_window (clientTerms : Client.Terms) (serverTerms : Server.Terms)
    (start : Nat) (script : List (Nat × Action)) (relay : Relay) (trace : List Deed)
    (packet : Packet) (rest : List Packet)
    (ran : (ofStart clientTerms serverTerms start).run script = some (relay, trace))
    (fits : relay.connection.queue.nextSerial ≤ 2 ^ 63)
    (serving : relay.tunnel.poller.phase = .serving)
    (waiting : relay.tunnel.poller.queue = packet :: rest) :
    1 ≤ packet.serial ∧ ∃ released early,
      relay.tunnel.poller.early.push packet.serial.toNat packet = .ok (released, early) := by
  have live := live_of_serving relay serving
  obtain ⟨genuine, roomy⟩ := run_roomy clientTerms serverTerms start script relay trace ran
  obtain ⟨last, room⟩ := roomy live fits
  have among : packet ∈ relay.packets := by
    simp [packets, Poller.work, Work.packets, waiting]
  obtain ⟨parcel, posted, rfl⟩ := genuine.sent live packet among
  obtain ⟨positive, given⟩ := genuine.numbered parcel posted
  have serial := genuine.packet_serial fits parcel posted
  refine ⟨by omega, room.fits _ rest (genuine.aligned live).ahead waiting ?_⟩
  rw [serial]
  omega

/-- Alpha leaves with nothing, beta with what the application says, and beta is faster. -/
def overtaking : List (Nat × Action) :=
  [(0, .client (.decide .alpha)), (0, .client (.take .alpha)), (0, .client (.clear .alpha)),
    (0, .client (.depart .alpha)), (0, .client (.decide .beta)), (0, .client (.join .beta)),
    (1, .application (.send [7, 8])), (1, .client (.intake (.received [7, 8]))),
    (1, .client (.intake .queued)), (1, .client (.draw .beta)), (1, .client (.clear .beta)),
    (1, .client (.depart .beta)), (2, .reach ⟨2, [7, 8]⟩), (2, .server .enqueue)]

theorem overtaking_packet_fits : ∃ relay trace,
    (ofStart {} {} 0).run overtaking = some (relay, trace) ∧
      relay.connection.queue.nextSerial ≤ 2 ^ 63 ∧ relay.tunnel.poller.phase = .serving ∧
      relay.tunnel.poller.queue = [⟨2, 2, [7, 8]⟩] ∧
      ∃ released early,
        relay.tunnel.poller.early.push 2 ⟨2, 2, [7, 8]⟩ = .ok (released, early) := by
  refine ⟨_, _, rfl, by decide, rfl, rfl, ?_⟩
  exact (queued_packet_fits_window {} {} 0 overtaking _ _ ⟨2, 2, [7, 8]⟩ [] rfl (by decide) rfl
    rfl).2

end HttpTunnel.Relay
