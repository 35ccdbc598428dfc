import HttpTunnel.Proofs.ReplyFraming
import HttpTunnel.Proofs.ReplyHauls

/-!
Bytes come downstream in order. The poller numbers what it sends back and keeps the bytes of
an answer that nobody took, the local writer puts replies in the order of their numbers, and
each number reaches it at most once, so the bytes written to the application are a prefix of
the bytes that came from downstream.
-/

namespace HttpTunnel.Relay

open Client (Connection Courier Delivery Parcel Trip)
open Client.Connection (Haul)
open SerialWindow (numbered)
open Server (Packet Poller Response Tunnel)

/-- The reply with data that a round trip brings. -/
def dataOf (trip : Trip) : Option (Nat × Bytes) :=
  match trip.reply with
  | .ok reply => reply
  | .error _ => none

def repliesIn (inbound : List (Nat × Trip)) : List (Nat × Bytes) :=
  inbound.filterMap fun answer => dataOf answer.2

/-- The replies that have not been put in order yet. -/
def carriers (relay : Relay) : List (Nat × Bytes) :=
  repliesIn relay.inbound ++ relay.connection.carried

/-- How the bytes written so far relate to the payloads that the writer has put in order. -/
def Written (delivery : Delivery) (issued : List Bytes) (wrote : Bytes) : Prop :=
  match delivery.phase with
  | .receiving => wrote = (issued.take (delivery.window.next - 1)).flatten
  | .writing rest released =>
      wrote ++ rest ++ released.flatten = (issued.take (delivery.window.next - 1)).flatten
  | .ended _ => wrote <+: issued.flatten

/-- The payloads that the poller has numbered so far say which bytes are where. -/
structure Downstream (relay : Relay) (trace : List Deed) (issued : List Bytes) : Prop where
  counted : relay.tunnel.poller.nextReply = issued.length + 1
  bytes : received trace = issued.flatten ++ relay.tunnel.poller.pending
  tidy : relay.connection.delivery.window.Tidy
  started : 1 ≤ relay.connection.delivery.window.next
  carried : ∀ entry ∈ relay.carriers, Carries issued entry.1 entry.2
  early : ∀ entry ∈ relay.connection.delivery.window.early, Carries issued entry.1 entry.2
  once : ∀ serial, relay.connection.delivery.window.taken serial +
    relay.carriers.countP (fun entry => entry.1 == serial) ≤ 1
  unissued : ∀ serial, issued.length < serial → relay.connection.delivery.window.taken serial +
    relay.carriers.countP (fun entry => entry.1 == serial) = 0
  written : Written relay.connection.delivery issued (wrote trace)

theorem next_window (delivery : Delivery) (released : List Bytes) :
    (delivery.next released).window = delivery.window := by
  induction released with
  | nil => rfl
  | cons payload released induction =>
      rw [Delivery.next]
      split_ifs
      · exact induction
      · rfl

theorem next_written (delivery : Delivery) (released issued : List Bytes) (wrote : Bytes)
    (same : wrote ++ released.flatten = (issued.take (delivery.window.next - 1)).flatten) :
    Written (delivery.next released) issued wrote := by
  induction released with
  | nil =>
      rw [List.flatten_nil, List.append_nil] at same
      exact same
  | cons payload released induction =>
      rw [Delivery.next]
      split_ifs with empty
      · apply induction
        rw [← same, empty]
        rfl
      · show wrote ++ payload ++ released.flatten = _
        rw [← same, List.flatten_cons, List.append_assoc]

theorem take_run (issued : List Bytes) (count : Nat) (run : List Bytes)
    (each : ∀ entry ∈ numbered (count + 1) run, Carries issued entry.1 entry.2) :
    (issued.take (count + run.length)).flatten = (issued.take count).flatten ++ run.flatten := by
  induction run generalizing count with
  | nil => simp
  | cons payload run induction =>
      have first := each (count + 1, payload) (List.mem_cons_self ..)
      have rest := induction (count + 1) fun entry member =>
        each entry (List.mem_cons_of_mem _ member)
      have split := take_carried issued (count + 1) payload first
      rw [Nat.add_sub_cancel] at split
      rw [List.length_cons, show count + (run.length + 1) = count + 1 + run.length by omega, rest,
        split, List.flatten_cons, List.append_assoc]

section Hauls

variable {relay after : Relay} {past trace : List Deed} {issued : List Bytes}

theorem Downstream.next_bound (downstream : relay.Downstream past issued) :
    relay.connection.delivery.window.next - 1 ≤ issued.length := by
  have started := downstream.started
  by_contra beyond
  have none := downstream.unissued (relay.connection.delivery.window.next - 1) (by omega)
  unfold SerialWindow.taken at none
  rw [if_pos (by omega)] at none
  omega

theorem Downstream.travels (downstream : relay.Downstream past issued)
    (fewer : after.carriers.Subperm relay.carriers)
    (window : after.connection.delivery.window = relay.connection.delivery.window)
    (nextReply : after.tunnel.poller.nextReply = relay.tunnel.poller.nextReply)
    (pending : after.tunnel.poller.pending = relay.tunnel.poller.pending)
    (nothing : received trace = [])
    (written : Written after.connection.delivery issued (wrote past ++ wrote trace)) :
    after.Downstream (past ++ trace) issued := by
  constructor
  · rw [nextReply]
    exact downstream.counted
  · rw [received_append, nothing, List.append_nil, pending]
    exact downstream.bytes
  · rw [window]
    exact downstream.tidy
  · rw [window]
    exact downstream.started
  · intro entry member
    exact downstream.carried entry (fewer.subset member)
  · rw [window]
    exact downstream.early
  · intro serial
    have less := fewer.countP_le fun entry => entry.1 == serial
    have before := downstream.once serial
    rw [window]
    omega
  · intro serial beyond
    have less := fewer.countP_le fun entry => entry.1 == serial
    have before := downstream.unissued serial beyond
    rw [window]
    omega
  · rw [wrote_append]
    exact written

theorem Downstream.quiet (downstream : relay.Downstream past issued)
    (fewer : after.carriers.Subperm relay.carriers)
    (delivery : after.connection.delivery = relay.connection.delivery)
    (nextReply : after.tunnel.poller.nextReply = relay.tunnel.poller.nextReply)
    (pending : after.tunnel.poller.pending = relay.tunnel.poller.pending)
    (nothing : received trace = []) (silent : wrote trace = []) :
    after.Downstream (past ++ trace) issued := by
  apply downstream.travels fewer (by rw [delivery]) nextReply pending nothing
  rw [silent, List.append_nil, delivery]
  exact downstream.written

theorem Downstream.write (downstream : relay.Downstream past issued) (count : Nat)
    (rest : Bytes) (released : List Bytes)
    (writing : relay.connection.delivery.phase = .writing rest released)
    (fewer : after.carriers.Subperm relay.carriers)
    (next : after.connection.delivery =
      if rest.drop count = [] then
        { relay.connection.delivery with
          total := relay.connection.delivery.total + count }.next released
      else
        { relay.connection.delivery with
          total := relay.connection.delivery.total + count
          phase := .writing (rest.drop count) released })
    (poller : after.tunnel.poller = relay.tunnel.poller)
    (nothing : received trace = []) (wrote : wrote trace = rest.take count) :
    after.Downstream (past ++ trace) issued := by
  have before := downstream.written
  rw [Written, writing] at before
  simp only at before
  have split := List.take_append_drop count rest
  split_ifs at next with through
  · have window : after.connection.delivery.window = relay.connection.delivery.window := by
      rw [next]
      exact next_window _ _
    apply downstream.travels fewer window (by rw [poller]) (by rw [poller]) nothing
    rw [next, wrote]
    apply next_written
    rw [through, List.append_nil] at split
    rw [split]
    exact before
  · apply downstream.travels fewer (by rw [next]) (by rw [poller]) (by rw [poller]) nothing
    rw [next, wrote]
    show _ ++ rest.take count ++ rest.drop count ++ released.flatten = _
    rw [List.append_assoc (Relay.wrote past), split]
    exact before

theorem Written.begins {delivery : Delivery} {issued : List Bytes} {wrote : Bytes}
    (written : Written delivery issued wrote) : wrote <+: issued.flatten := by
  unfold Written at written
  cases phase : delivery.phase with
  | receiving =>
      rw [phase] at written
      simp only at written
      rw [written]
      exact take_begins issued _
  | writing rest released =>
      rw [phase] at written
      simp only at written
      have whole := take_begins issued (delivery.window.next - 1)
      rw [← written, List.append_assoc] at whole
      exact (List.prefix_append _ _).trans whole
  | ended failure =>
      rw [phase] at written
      exact written

theorem Downstream.order (downstream : relay.Downstream past issued) (serial : Nat)
    (payload : Bytes) (released : List Bytes) (window : SerialWindow Bytes)
    (receiving : relay.connection.delivery.phase = .receiving)
    (fewer : ((serial, payload) :: after.carriers).Subperm relay.carriers)
    (pushed : relay.connection.delivery.window.push serial payload = .ok (released, window))
    (next : after.connection.delivery =
      { relay.connection.delivery with window := window }.next released)
    (poller : after.tunnel.poller = relay.tunnel.poller)
    (nothing : received trace = []) (silent : wrote trace = []) :
    after.Downstream (past ++ trace) issued := by
  have push := SerialWindow.push_spec _ _ _ _ _ downstream.tidy pushed
  have same : after.connection.delivery.window = window := by
    rw [next]
    exact next_window _ _
  have here := downstream.carried (serial, payload) (fewer.subset (List.mem_cons_self ..))
  have each : ∀ entry, entry ∈ numbered relay.connection.delivery.window.next released ∨
      entry ∈ window.early → Carries issued entry.1 entry.2 := by
    intro entry member
    rcases push.origin entry member with rfl | before
    · exact here
    · exact downstream.early entry before
  have counts : ∀ other, window.taken other +
      after.carriers.countP (fun entry => entry.1 == other) ≤
        relay.connection.delivery.window.taken other +
          relay.carriers.countP (fun entry => entry.1 == other) := by
    intro other
    have less := fewer.countP_le fun entry => entry.1 == other
    rw [List.countP_cons] at less
    rw [push.taken_eq]
    simp only [beq_iff_eq] at less
    omega
  constructor
  · rw [poller]
    exact downstream.counted
  · rw [received_append, nothing, List.append_nil, poller]
    exact downstream.bytes
  · rw [same]
    exact push.tidy
  · rw [same, push.next]
    exact Nat.le_trans downstream.started (Nat.le_add_right _ _)
  · intro entry member
    exact downstream.carried entry (fewer.subset (List.mem_cons_of_mem _ member))
  · rw [same]
    intro entry member
    exact each entry (.inr member)
  · intro other
    have before := downstream.once other
    have less := counts other
    rw [same]
    omega
  · intro other beyond
    have before := downstream.unissued other beyond
    have less := counts other
    rw [same]
    omega
  · have started := downstream.started
    have before := downstream.written
    rw [Written, receiving] at before
    simp only at before
    rw [wrote_append, silent, List.append_nil, next]
    apply next_written
    have run := take_run issued (relay.connection.delivery.window.next - 1) released (by
      intro entry member
      rw [Nat.sub_add_cancel started] at member
      exact each entry (.inl member))
    simp only [push.next]
    rw [before, ← run]
    congr 2
    omega

/-- A courier's haul keeps the order, if what it fetches comes from the network. -/
theorem Downstream.haul (downstream : relay.Downstream past issued) (own : Connection.Action)
    (haul : Haul relay.connection own after.connection trace)
    (poller : after.tunnel.poller = relay.tunnel.poller) (nothing : received trace = [])
    (fewer : (repliesIn after.inbound).Subperm (repliesIn relay.inbound))
    (fetched : ∀ courier trip reply, own = .answer courier trip → trip.reply = .ok reply →
      (repliesIn after.inbound ++ reply.toList).Subperm (repliesIn relay.inbound)) :
    after.Downstream (past ++ trace) issued := by
  cases haul with
  | quiet _ _ _ keeps unread same silent =>
      exact downstream.quiet (fewer.append keeps.subperm) same (by rw [poller]) (by rw [poller])
        nothing silent
  | fetch _ courier trip reply _ present read brings same silent =>
      have moved : after.carriers.Subperm relay.carriers := by
        have all := (List.Subperm.refl (repliesIn after.inbound)).append brings.subperm
        rw [← List.append_assoc] at all
        exact all.trans ((fetched courier trip reply rfl read).append (List.Subperm.refl _))
      exact downstream.quiet moved same (by rw [poller]) (by rw [poller]) nothing silent
  | lose _ _ _ ended less unread same silent =>
      exact downstream.quiet (fewer.append less) same (by rw [poller]) (by rw [poller]) nothing
        silent
  | order _ _ serial payload released window _ receiving takes pushed next silent =>
      have moved : ((serial, payload) :: after.carriers).Subperm relay.carriers :=
        List.perm_middle.symm.subperm.trans (fewer.append takes.subperm)
      exact downstream.order serial payload released window receiving moved pushed next poller
        nothing silent
  | write _ _ count rest released _ writing same next wrote =>
      have moved : after.carriers.Subperm relay.carriers := by
        unfold carriers
        rw [same]
        exact fewer.append (List.Subperm.refl _)
      exact downstream.write count rest released writing moved next poller nothing wrote
  | finish _ _ failure _ less running through ended silent =>
      apply downstream.travels (fewer.append less) (by rw [ended]) (by rw [poller])
        (by rw [poller]) nothing
      rw [silent, List.append_nil, ended]
      exact downstream.written.begins

end Hauls

section Polls

theorem carries_numbered (issued payloads : List Bytes) (entry : Nat × Bytes)
    (member : entry ∈ numbered (issued.length + 1) payloads) :
    Carries (issued ++ payloads) entry.1 entry.2 := by
  induction payloads generalizing issued with
  | nil => cases member
  | cons payload payloads induction =>
      have split : issued ++ payload :: payloads = (issued ++ [payload]) ++ payloads := by simp
      rw [split]
      rcases List.mem_cons.mp member with rfl | later
      · exact (carries_last issued payload).more payloads
      · apply induction (issued ++ [payload])
        rwa [List.length_append, List.length_singleton]

theorem data_of_response (serial : Nat) (payload : Bytes) (fits : serial < 2 ^ 64) :
    dataOf (tripOf (Server.Answer.data serial payload).response) = some (serial, payload) := by
  unfold dataOf
  rw [data_trip_reply serial payload fits]

/-- The data among the responses of a poller are the replies that it numbered. -/
theorem replies_in_responses (deeds : List Poller.Deed)
    (fits : ∀ entry ∈ Poller.dataOf deeds, entry.1 < 2 ^ 64) :
    repliesIn (responses deeds) = Poller.dataOf deeds := by
  induction deeds with
  | nil => rfl
  | cons deed rest induction =>
      cases deed with
      | answered packet answer =>
          cases answer with
          | heartbeat => exact induction fits
          | data serial payload =>
              have data := data_of_response serial payload (fits _ (List.mem_cons_self ..))
              have others := induction fun entry member =>
                fits entry (List.mem_cons_of_mem _ member)
              have split : repliesIn (responses (.answered packet (.data serial payload) :: rest)) =
                  (dataOf (tripOf (Server.Answer.data serial payload).response)).toList ++
                    repliesIn (responses rest) := by
                rw [data]
                simp [repliesIn, responses, Tunnel.Deed.response?, data]
              rw [split, data, others]
              rfl
      | missed packet => exact induction fits
      | dropped packet => exact induction fits
      | passedDown payload => exact induction fits

theorem numbered_bounds (first : Nat) (run : List Bytes) (entry : Nat × Bytes)
    (member : entry ∈ numbered first run) : first ≤ entry.1 ∧ entry.1 < first + run.length := by
  induction run generalizing first with
  | nil => cases member
  | cons payload run induction =>
      rcases List.mem_cons.mp member with rfl | later
      · simp
      · have bounds := induction (first + 1) later
        rw [List.length_cons]
        omega

theorem Written.more {delivery : Delivery} {issued : List Bytes} {wrote : Bytes}
    (written : Written delivery issued wrote) (payloads : List Bytes)
    (bound : delivery.window.next - 1 ≤ issued.length) :
    Written delivery (issued ++ payloads) wrote := by
  unfold Written at *
  rw [List.take_append_of_le_length bound]
  cases phase : delivery.phase with
  | receiving =>
      rw [phase] at written
      exact written
  | writing rest released =>
      rw [phase] at written
      exact written
  | ended failure =>
      rw [phase] at written
      simp only at written ⊢
      rw [List.flatten_append]
      exact written.trans (List.prefix_append _ _)

variable {relay after : Relay} {past : List Deed} {issued : List Bytes} {moment : Server.Moment}

theorem Downstream.poll (downstream : relay.Downstream past issued) (event : Poller.Event)
    (deeds : List Poller.Deed)
    (stepped : relay.tunnel.poller.step moment event = some (after.tunnel.poller, deeds))
    (same : after.connection = relay.connection)
    (inbound : after.inbound = relay.inbound ++ responses deeds)
    (fits : after.tunnel.poller.nextReply ≤ 2 ^ 64) :
    ∃ latest, after.Downstream (past ++ served event deeds) latest := by
  obtain ⟨payloads, data, counted, bytes, _⟩ := Poller.step_pays _ _ _ stepped
  have start := downstream.counted
  rw [start] at data counted
  have replies : repliesIn (responses deeds) = numbered (issued.length + 1) payloads := by
    rw [replies_in_responses deeds, data]
    intro entry member
    rw [data] at member
    have bounds := numbered_bounds _ _ entry member
    omega
  have carriers : after.carriers.Perm
      (numbered (issued.length + 1) payloads ++ relay.carriers) := by
    have split : repliesIn after.inbound =
        repliesIn relay.inbound ++ numbered (issued.length + 1) payloads := by
      rw [inbound, repliesIn, List.filterMap_append]
      exact congrArg _ replies
    unfold Relay.carriers
    rw [split, same, ← List.append_assoc]
    exact List.perm_append_comm.append_right _
  refine ⟨issued ++ payloads, ?_⟩
  constructor
  · rw [counted, List.length_append]
    omega
  · rw [received_append, received_of_server, downstream.bytes, List.append_assoc, bytes,
      List.flatten_append, List.append_assoc]
  · rw [same]
    exact downstream.tidy
  · rw [same]
    exact downstream.started
  · intro entry member
    rcases List.mem_append.mp (carriers.mem_iff.mp member) with new | before
    · exact carries_numbered issued payloads entry new
    · exact (downstream.carried entry before).more payloads
  · rw [same]
    intro entry member
    exact (downstream.early entry member).more payloads
  · intro serial
    have before := downstream.once serial
    have none := downstream.unissued serial
    rw [carriers.countP_eq, List.countP_append, SerialWindow.numbered_count, same]
    split_ifs with new
    · have nothing := none (by omega)
      omega
    · omega
  · intro serial beyond
    rw [List.length_append] at beyond
    have none := downstream.unissued serial (by omega)
    rw [carriers.countP_eq, List.countP_append, SerialWindow.numbered_count, same,
      if_neg (by omega)]
    omega
  · rw [wrote_append, wrote_of_server, List.append_nil, same]
    exact downstream.written.more payloads downstream.next_bound

end Polls

section Passages

variable {now : Nat} {relay after : Relay} {action : Action} {past trace : List Deed}
  {issued : List Bytes}

theorem Passage.next_reply_le (passage : Passage now relay action after trace) :
    relay.tunnel.poller.nextReply ≤ after.tunnel.poller.nextReply := by
  cases passage with
  | poll event poller deeds tunnel allowed stepped samePoller sameWaiting sameGone sameAsked =>
      obtain ⟨payloads, _, counted, _⟩ := Poller.step_pays _ _ _ stepped
      simp only [samePoller]
      omega
  | still _ application tunnel samePoller sameWaiting sameGone asked =>
      simp only [samePoller]
      exact Nat.le_refl _
  | _ => exact Nat.le_refl _

theorem replies_come_back (inbound : List (Nat × Trip)) (serial : Nat) (trip : Trip)
    (reply : Option (Nat × Bytes)) (came : (serial, trip) ∈ inbound)
    (read : trip.reply = .ok reply) :
    (repliesIn (inbound.erase (serial, trip)) ++ reply.toList).Subperm (repliesIn inbound) := by
  have data : dataOf trip = reply := by
    unfold dataOf
    rw [read]
  have whole := (List.perm_cons_erase came).filterMap fun answer => dataOf answer.2
  have first : ((serial, trip) :: inbound.erase (serial, trip)).filterMap
      (fun answer => dataOf answer.2) =
        reply.toList ++ repliesIn (inbound.erase (serial, trip)) := by
    cases reply <;> simp [repliesIn, data]
  rw [first] at whole
  exact (List.perm_append_comm.trans whole.symm).subperm

theorem Downstream.passage (downstream : relay.Downstream past issued)
    (passage : Passage now relay action after trace)
    (fits : after.tunnel.poller.nextReply ≤ 2 ^ 64) :
    ∃ latest, after.Downstream (past ++ trace) latest := by
  have refuses : ∀ client, repliesIn (relay.inbound ++ [(client, tripOf unknown)]) =
      repliesIn relay.inbound := by
    intro client
    rw [repliesIn, List.filterMap_append]
    exact List.append_nil _
  cases passage with
  | client own connection application deeds mine move =>
      refine ⟨issued, downstream.haul own (Connection.move_haul now _ _ own deeds move) rfl
        (received_of_client deeds) (List.Subperm.refl _) ?_⟩
      rintro courier trip reply rfl _
      cases mine
  | comeBack serial trip courier connection deeds came waits move =>
      refine ⟨issued, downstream.haul _ (Connection.move_haul now _ _ _ deeds move) rfl
        (received_of_client deeds) (List.erase_sublist.filterMap _).subperm ?_⟩
      intro other brought reply same read
      cases same
      exact replies_come_back relay.inbound serial trip reply came read
  | breakTrip courier connection deeds move =>
      refine ⟨issued, downstream.haul _ (Connection.move_haul now _ _ _ deeds move) rfl
        (received_of_client deeds) (List.Subperm.refl _) ?_⟩
      intro other trip reply same read
      cases same
      cases read
  | poll event poller deeds tunnel allowed stepped samePoller sameWaiting sameGone sameAsked =>
      subst samePoller
      exact downstream.poll event deeds stepped rfl rfl fits
  | refuse packet rest waiting =>
      refine ⟨issued, downstream.quiet ?_ rfl rfl rfl rfl rfl⟩
      unfold carriers
      rw [refuses]
  | turnAway parcel posted =>
      refine ⟨issued, downstream.quiet ?_ rfl rfl rfl rfl rfl⟩
      unfold carriers
      rw [refuses]
  | loseResponse serial trip came =>
      refine ⟨issued, downstream.quiet ?_ rfl rfl rfl rfl rfl⟩
      exact (List.erase_sublist.filterMap _).subperm.append (List.Subperm.refl _)
  | still _ application tunnel samePoller sameWaiting sameGone asked =>
      exact ⟨issued, downstream.quiet (List.Subperm.refl _) rfl (by rw [samePoller])
        (by rw [samePoller]) rfl rfl⟩
  | _ => exact ⟨issued, downstream.quiet (List.Subperm.refl _) rfl rfl rfl rfl rfl⟩

end Passages

theorem of_start_downstream (clientTerms : Client.Terms) (serverTerms : Server.Terms)
    (now : Nat) : (ofStart clientTerms serverTerms now).Downstream [] [] := by
  constructor
  · rfl
  · rfl
  · exact SerialWindow.of_width_tidy 1 _
  · exact Nat.le_refl _
  · intro entry member
    cases member
  · intro entry member
    cases member
  · intro serial
    show (if serial < 1 then 1 else 0) ≤ 1
    split_ifs <;> omega
  · intro serial beyond
    have positive : 0 < serial := beyond
    show (if serial < 1 then 1 else 0) = 0
    rw [if_neg (by omega)]
  · rfl

theorem run_downstream (clientTerms : Client.Terms) (serverTerms : Server.Terms) (start : Nat)
    (script : List (Nat × Action)) (relay : Relay) (trace : List Deed)
    (ran : (ofStart clientTerms serverTerms start).run script = some (relay, trace))
    (fits : relay.tunnel.poller.nextReply ≤ 2 ^ 64) : ∃ issued, relay.Downstream trace issued := by
  refine run_keeps (fun _ => True)
    (fun relay past => relay.tunnel.poller.nextReply ≤ 2 ^ 64 →
      ∃ issued, relay.Downstream past issued) ?_
    script _ relay [] trace (fun _ _ => trivial)
    (fun _ => ⟨[], of_start_downstream clientTerms serverTerms start⟩) ran fits
  intro now before past action after deeds _ known stepped room
  have passage := step_passes now before after deeds action stepped
  obtain ⟨issued, downstream⟩ := known (Nat.le_trans passage.next_reply_le room)
  exact downstream.passage passage room

/-- The bytes written to the application are at every moment a prefix of the bytes that the
poller took from downstream, and no reply that waits for the local writer has been put in
order before. Reply serials travel in eight bytes, which they have to fit. -/
theorem downstream_in_order (clientTerms : Client.Terms) (serverTerms : Server.Terms)
    (start : Nat) (script : List (Nat × Action)) (relay : Relay) (trace : List Deed)
    (ran : (ofStart clientTerms serverTerms start).run script = some (relay, trace))
    (fits : relay.tunnel.poller.nextReply ≤ 2 ^ 64) :
    wrote trace <+: received trace ∧
      ∀ serial payload, (serial, payload) ∈ relay.connection.replies → ∀ repeated expected,
        relay.connection.delivery.window.push serial payload ≠
          .error (.duplicate repeated expected) := by
  obtain ⟨issued, downstream⟩ :=
    run_downstream clientTerms serverTerms start script relay trace ran fits
  constructor
  · rw [downstream.bytes]
    exact downstream.written.begins.trans (List.prefix_append _ _)
  · intro serial payload waits repeated expected
    apply SerialWindow.push_not_duplicate
    have among : (serial, payload) ∈ relay.carriers :=
      List.mem_append_right _ (List.mem_append_right _ waits)
    have positive : 0 < relay.carriers.countP fun entry => entry.1 == serial :=
      List.countP_pos_iff.mpr ⟨_, among, by simp⟩
    have once := downstream.once serial
    omega

/-- A reply comes home with two bytes, and the application takes one of them. -/
def bringingHome : List (Nat × Action) :=
  [(0, .client (.decide .alpha)), (0, .client (.take .alpha)), (0, .client (.clear .alpha)),
    (0, .client (.depart .alpha)), (1, .reach ⟨1, []⟩), (1, .server .enqueue),
    (1, .server (.poller .packet)), (2, .downstream (.send [5, 6])),
    (2, .server (.link (.inflow (.received [5, 6])))), (2, .server (.link (.inflow .handed))),
    (2, .server (.poller (.chunk [5, 6]))),
    (3, .comeBack 1 (tripOf (Server.Answer.response (.data 1 [5, 6])))),
    (3, .client (.arrive .alpha)), (3, .client (.hand .alpha)),
    (3, .client (.delivery (.reply 1 [5, 6]))), (3, .client (.delivery (.wrote 1)))]

theorem bringing_home_in_order : ∃ relay trace,
    (ofStart {} {} 0).run bringingHome = some (relay, trace) ∧
      relay.tunnel.poller.nextReply ≤ 2 ^ 64 ∧ wrote trace = [5] ∧ received trace = [5, 6] ∧
      wrote trace <+: received trace := by
  refine ⟨_, _, rfl, by decide, rfl, rfl, ?_⟩
  exact (downstream_in_order {} {} 0 bringingHome _ _ rfl (by decide)).1

end HttpTunnel.Relay
