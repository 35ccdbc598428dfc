import HttpTunnel.Proofs.ConnectionRuns
import Mathlib.Data.List.Chain

/-!
When a connection is given up as idle. In virtual time the clock moves on only when nothing is
left to do, so a courier that moved payload on a round trip has told the dispatcher before the
clock moves, and the dispatcher has heard it. Polls after the end of the local input tell it
nothing: a reply that comes to one of them does not put the end of its patience off.
-/

namespace HttpTunnel.Client

namespace Connection

def noticed : Notice → Nat
  | .departs _ sent => sent
  | .arrives _ received _ => received

/-- Payload was moved that the dispatcher has not heard of. -/
def Unheard (connection : Connection) : Prop :=
  (∃ notice ∈ connection.desk.notices, 0 < noticed notice) ∨
    ∃ courier reply trip, connection.phase courier = .arriving reply trip ∧
      0 < payloadLength reply

def lastUse (connection : Connection) : Nat := connection.desk.dispatcher.lastUse

theorem announce_last_use (now : Nat) (dispatcher : Dispatcher) (notice : Notice) :
    (dispatcher.announce now notice).lastUse =
      if 0 < noticed notice then now else dispatcher.lastUse := by
  cases notice <;> rfl

theorem settled_couriers (now : Nat) (socket : Socket) (connection : Connection)
    (settled : connection.next? now socket = none) (courier : Courier) :
    nextForCourier now connection courier = none := by
  simp only [next?, Option.orElse_eq_orElse, Option.orElse_eq_or, Option.or_eq_none_iff] at settled
  cases courier with
  | alpha => exact settled.1
  | beta => exact settled.2.1

theorem settled_desk (now : Nat) (socket : Socket) (connection : Connection)
    (settled : connection.next? now socket = none) : nextForDesk now connection = none := by
  simp only [next?, Option.orElse_eq_orElse, Option.orElse_eq_or, Option.or_eq_none_iff] at settled
  exact settled.2.2.2.1

/-- Where nothing is left to do, a dispatcher that still works has heard everything. -/
theorem settled_hears (now : Nat) (socket : Socket) (connection : Connection)
    (settled : connection.next? now socket = none) (running : connection.desk.running = true) :
    ¬connection.Unheard := by
  have none : connection.desk.notices = [] := by
    have quiet := settled_desk now socket connection settled
    simp only [nextForDesk, Option.map_eq_none_iff, Desk.nextEvent] at quiet
    by_contra some
    split_ifs at quiet with stopped
    simp [running] at stopped
  rintro (⟨notice, member, _⟩ | ⟨courier, reply, trip, arriving, _⟩)
  · rw [none] at member
    cases member
  · have quiet := settled_couriers now socket connection settled courier
    have room : connection.canNotify = true := by
      simp [canNotify, Desk.hasRoom, none, Terms.noticeCapacity]
    simp [nextForCourier, arriving, room] at quiet

section Moves

variable {now : Nat} {before after : Connection} {action : Action} {deeds : List Deed}

theorem Unheard.set_phase (unheard : before.Unheard) (mover : Courier) (phase : Phase)
    (mute : ∀ reply trip, before.phase mover ≠ .arriving reply trip) :
    (before.setPhase mover phase).Unheard := by
  rcases unheard with waits | ⟨courier, reply, trip, arriving, loaded⟩
  · exact .inl waits
  · have apart : courier ≠ mover := by
      rintro rfl
      exact mute reply trip arriving
    exact .inr ⟨courier, reply, trip, set_phase_apart apart arriving, loaded⟩

theorem notify_notices (connection : Connection) (notice : Notice)
    (running : connection.desk.running = true) :
    (connection.notify notice).desk.notices = connection.desk.notices ++ [notice] := by
  simp [notify, Desk.send, running]

theorem notify_keeps (connection : Connection) (notice : Notice) :
    (connection.notify notice).desk.running = connection.desk.running ∧
      (connection.notify notice).desk.patience = connection.desk.patience ∧
      (connection.notify notice).lastUse = connection.lastUse := by
  unfold lastUse notify Desk.send
  split_ifs <;> exact ⟨rfl, rfl, rfl⟩

/-- What a move means for the dispatcher: it hears of payload, or the payload stays unheard. -/
structure Hearing (now : Nat) (before after : Connection) : Prop where
  running : after.desk.running = true → before.desk.running = true
  patience : after.desk.patience = before.desk.patience
  used : after.lastUse = before.lastUse ∨ after.lastUse = now
  unheard : after.desk.running = true → before.Unheard → after.Unheard ∨ after.lastUse = now

theorem stopped_hearing (stopped : after.desk.running = false)
    (patience : after.desk.patience = before.desk.patience)
    (used : after.lastUse = before.lastUse) : Hearing now before after := by
  constructor
  · simp [stopped]
  · exact patience
  · exact .inl used
  · simp [stopped]

theorem desk_hearing (event : Desk.Event) (desk : Desk) (cancels : Bool)
    (stepped : before.desk.step now event = some (desk, cancels)) :
    Hearing now before { before with desk := desk, cancelled := before.cancelled || cancels } := by
  cases event with
  | halted =>
      simp only [Desk.step, reduceCtorEq] at stepped
      split_ifs at stepped
      cases stepped
      exact stopped_hearing rfl rfl rfl
  | deserted =>
      simp only [Desk.step, reduceCtorEq] at stepped
      split_ifs at stepped
      cases stepped
      exact stopped_hearing rfl rfl rfl
  | idle =>
      simp only [Desk.step, reduceCtorEq] at stepped
      split_ifs at stepped
      cases stepped
      exact stopped_hearing rfl rfl rfl
  | signal =>
      simp only [Desk.step] at stepped
      split_ifs at stepped
      cases stepped
      have same : before.desk.dispatcher.signal.lastUse = before.desk.dispatcher.lastUse := by
        unfold Dispatcher.signal
        split <;> rfl
      exact ⟨fun still => still, rfl, .inl same, fun _ unheard => .inl unheard⟩
  | notice =>
      simp only [Desk.step, reduceCtorEq] at stepped
      split_ifs at stepped
      cases notices : before.desk.notices with
      | nil => simp [notices] at stepped
      | cons notice rest =>
          simp only [notices, Option.some.injEq, Prod.mk.injEq] at stepped
          obtain ⟨rfl, _⟩ := stepped
          have use := announce_last_use now before.desk.dispatcher notice
          refine ⟨fun still => still, rfl, ?_, fun _ unheard => ?_⟩
          · unfold lastUse
            rw [use]
            split_ifs
            · exact .inr rfl
            · exact .inl rfl
          · by_cases loaded : 0 < noticed notice
            · refine .inr (use.trans (if_pos loaded))
            · refine .inl (unheard.imp_left ?_)
              rintro ⟨other, member, heavy⟩
              rw [notices] at member
              rcases List.mem_cons.mp member with rfl | waits
              · exact absurd heavy loaded
              · exact ⟨other, waits, heavy⟩

theorem moved_hearing (mover : Courier) (phase : Phase)
    (mute : ∀ reply trip, before.phase mover ≠ .arriving reply trip)
    (same : after.desk.running = before.desk.running ∧
      after.desk.patience = before.desk.patience ∧ after.lastUse = before.lastUse)
    (unheard : (before.setPhase mover phase).Unheard → after.Unheard) :
    Hearing now before after := by
  obtain ⟨running, patience, used⟩ := same
  constructor
  · exact fun still => running.symm.trans still
  · exact patience
  · exact .inl used
  · exact fun _ earlier => .inl (unheard (earlier.set_phase mover phase mute))

theorem notified_hearing (mover : Courier) (notice : Notice) (phase : Phase)
    (tells : ∀ reply trip, before.phase mover = .arriving reply trip →
      0 < payloadLength reply → 0 < noticed notice) :
    Hearing now before ((before.notify notice).setPhase mover phase) := by
  obtain ⟨running, patience, used⟩ := notify_keeps before notice
  constructor
  · exact fun still => running.symm.trans still
  · exact patience
  · exact .inl used
  · intro still unheard
    have notices := notify_notices before notice (running.symm.trans still)
    have among : ∀ other ∈ before.desk.notices ++ [notice],
        other ∈ ((before.notify notice).setPhase mover phase).desk.notices :=
      fun other member => notices ▸ member
    rcases unheard with ⟨other, member, loaded⟩ | ⟨courier, reply, trip, arriving, loaded⟩
    · exact .inl (.inl ⟨other, among _ (List.mem_append_left _ member), loaded⟩)
    · by_cases mine : courier = mover
      · subst mine
        have last := among notice (List.mem_append_right _ (List.mem_singleton_self _))
        exact .inl (.inl ⟨notice, last, tells reply trip arriving loaded⟩)
      · have stays : (before.notify notice).phase courier = .arriving reply trip := arriving
        exact .inl (.inr ⟨courier, reply, trip, set_phase_apart mine stays, loaded⟩)

theorem move_hearing (move : Move now before action after deeds) : Hearing now before after := by
  cases move with
  | decide mover deciding =>
      exact moved_hearing mover _ (by simp [deciding]) ⟨rfl, rfl, rfl⟩ id
  | join mover staying =>
      exact moved_hearing mover .waiting (by simp [staying]) ⟨rfl, rfl, rfl⟩ id
  | heed mover waiting =>
      exact moved_hearing mover .told (by simp [waiting]) ⟨rfl, rfl, rfl⟩ id
  | weigh mover told => exact moved_hearing mover _ (by simp [told]) ⟨rfl, rfl, rfl⟩ id
  | pack _ mover parcel queue internal ready takes =>
      refine moved_hearing mover (.packed parcel) ?_ ⟨rfl, rfl, rfl⟩ id
      rcases ready with leaving | waiting
      · simp [leaving]
      · simp [waiting]
  | drain _ mover queue internal ready shut drained same =>
      refine moved_hearing mover .lingering ?_ ⟨rfl, rfl, rfl⟩ id
      rcases ready with leaving | waiting
      · simp [leaving]
      · simp [waiting]
  | clear mover parcel packed =>
      exact moved_hearing mover (.departing parcel) (by simp [packed]) ⟨rfl, rfl, rfl⟩ id
  | depart mover parcel departing => exact notified_hearing mover _ _ (by simp [departing])
  | bring mover serial since trip reply away read =>
      exact moved_hearing mover _ (by simp [away]) ⟨rfl, rfl, rfl⟩ id
  | bringLate mover serial since trip reply polling read =>
      exact moved_hearing mover _ (by simp [polling]) ⟨rfl, rfl, rfl⟩ id
  | leave _ mover queue exit deeds same abandons unladen lingered parts =>
      have mute : ∀ reply trip, before.phase mover ≠ .arriving reply trip := by
        cases parts <;> simp [*]
      refine moved_hearing mover (.left exit) mute ?_ ?_
      · unfold Connection.leave lastUse
        split_ifs <;> exact ⟨rfl, rfl, rfl⟩
      · unfold Connection.leave
        split_ifs <;> exact id
  | arrive mover reply trip arriving =>
      refine notified_hearing mover _ _ fun own _ same loaded => ?_
      rw [arriving] at same
      cases same
      exact loaded
  | hand mover reply late handing =>
      exact moved_hearing mover _ (by simp [handing]) ⟨rfl, rfl, rfl⟩ id
  | linger mover parcel queue lingering takes light =>
      exact moved_hearing mover (.polling parcel.serial now) (by simp [lingering])
        ⟨rfl, rfl, rfl⟩ id
  | desk event desk cancels allowed stepped => exact desk_hearing event desk cancels stepped
  | _ => exact ⟨id, rfl, .inl rfl, fun _ unheard => .inl unheard⟩

theorem reports_sent (move : Move now before action after deeds)
    (running : after.desk.running = true) (parcel : Parcel) (posts : parcel ∈ Relay.posts deeds)
    (loaded : parcel.payload ≠ []) : after.Unheard := by
  cases move with
  | depart mover own departing =>
      rw [List.mem_singleton.mp posts] at loaded
      have still := (notify_keeps before (.departs mover own.payload.length)).1
      have notices := notify_notices before (.departs mover own.payload.length)
        (still.symm.trans running)
      refine .inl ⟨.departs mover own.payload.length, ?_, List.length_pos_of_ne_nil loaded⟩
      exact notices ▸ List.mem_append_right _ (List.mem_singleton_self _)
  | linger mover own queue lingering takes light =>
      rw [List.mem_singleton.mp posts] at loaded
      exact absurd light loaded
  | leave _ mover queue exit deeds same abandons unladen lingered =>
      rcases abandons with rfl | ⟨serial, rfl⟩ <;> cases posts
  | _ => cases posts

theorem reports_received (courier : Courier) (trip : Trip) (reply : Nat × Bytes)
    (move : Move now before (.answer courier trip) after deeds)
    (decoded : (Action.answer courier trip).decoded? = some reply) (loaded : reply.2 ≠ [])
    (trips : ∀ serial since, before.phase courier ≠ .polling serial since) : after.Unheard := by
  cases move with
  | bring _ serial since _ own away read =>
      simp only [Action.decoded?, read] at decoded
      refine .inr ⟨courier, own, _, by rw [phase_set_phase, if_pos rfl], ?_⟩
      rw [decoded]
      exact List.length_pos_of_ne_nil loaded
  | bringLate _ serial since _ own polling read => exact absurd polling (trips serial since)
  | pack _ mover parcel queue internal ready takes => exact absurd rfl (internal courier trip)
  | drain _ mover queue internal ready shut drained same => exact absurd rfl (internal courier trip)
  | leave _ mover queue exit deeds same abandons unladen lingered parts unread =>
      cases read : trip.reply with
      | error failure => simp [Action.decoded?, read] at decoded
      | ok own =>
          simp only [Action.decoded?, read] at decoded
          rw [decoded] at read
          exact absurd read (unread courier trip reply rfl)

end Moves

end Connection

namespace Site

open Connection (lastUse)

def Stride.sends (stride : Stride) : Bool :=
  (Relay.posts stride.deeds).any fun parcel => parcel.payload ≠ []

def Stride.receives (stride : Stride) : Bool :=
  match stride.decoded? with
  | some (_, payload) => payload ≠ []
  | none => false

def Stride.late (stride : Stride) : Bool :=
  match stride.happening with
  | .act (.answer courier _) =>
      match stride.before.connection.phase courier with
      | .polling _ _ => true
      | _ => false
  | _ => false

/-- In virtual time the clock never goes back, and it moves on only when nothing is left to do. -/
def Follows (earlier later : Stride) : Prop :=
  earlier.now ≤ later.now ∧ (earlier.now < later.now →
    earlier.after.connection.next? earlier.now earlier.after.socket = none)

instance (earlier later : Stride) : Decidable (Follows earlier later) :=
  inferInstanceAs (Decidable (_ ∧ _))

def Timely (trace : List Stride) : Prop := trace.IsChain Follows

instance (trace : List Stride) : Decidable (Timely trace) :=
  inferInstanceAs (Decidable (trace.IsChain Follows))

theorem Timely.ordered {trace : List Stride} (timely : Timely trace) :
    trace.Pairwise fun earlier later => earlier.now ≤ later.now :=
  List.isChain_iff_pairwise.mp (List.IsChain.imp (fun _ _ follows => follows.1) timely)

/-- Payload that a round trip moved has been heard of, or it was moved at the present instant. -/
structure Reported (terms : Terms) (site : Site) (past : List Stride) : Prop where
  patience : site.connection.desk.patience = terms.patience
  latest : ∀ last, past.getLast? = some last → last.after = site
  heard : site.connection.desk.running = true → ∀ stride ∈ past,
    stride.sends = true ∨ (stride.receives = true ∧ stride.late = false) →
      stride.now ≤ lastUse site.connection ∨
        ((∃ last, past.getLast? = some last ∧ stride.now = last.now) ∧ site.connection.Unheard)

theorem Reported.before {terms : Terms} {site : Site} {past : List Stride}
    (reported : site.Reported terms past) (running : site.connection.desk.running = true)
    (next : Stride) (timely : Timely (past ++ [next])) (stride : Stride) (member : stride ∈ past)
    (moves : stride.sends = true ∨ (stride.receives = true ∧ stride.late = false)) :
    stride.now ≤ lastUse site.connection ∨
      (stride.now = next.now ∧ site.connection.Unheard) := by
  rcases reported.heard running stride member moves with heard | ⟨⟨last, final, same⟩, unheard⟩
  · exact .inl heard
  · obtain ⟨_, _, follows⟩ := List.isChain_append.mp timely
    obtain ⟨ordered, settled⟩ := follows last final next (by simp)
    refine .inr ⟨?_, unheard⟩
    by_contra earlier
    have quiet := settled (by omega)
    rw [reported.latest last final] at quiet
    exact Connection.settled_hears _ _ _ quiet running unheard

theorem turn_moves {now : Nat} {before after : Site} {happening : Happening}
    {deeds : List Connection.Deed} (turn : Turn now before happening after deeds) :
    Connection.Hearing now before.connection after.connection := by
  cases turn with
  | acts action connection socket _ allowed stepped moved =>
      exact Connection.move_hearing
        (Connection.step_moves now before.connection connection action deeds stepped)
  | follows move => exact ⟨id, rfl, .inl rfl, fun _ unheard => .inl unheard⟩
  | reads => exact ⟨id, rfl, .inl rfl, fun _ unheard => .inl unheard⟩

theorem turn_reports {now : Nat} {before after : Site} {happening : Happening}
    {deeds : List Connection.Deed} (turn : Turn now before happening after deeds)
    (running : after.connection.desk.running = true)
    (moves : Stride.sends ⟨now, happening, before, after, deeds⟩ = true ∨
      (Stride.receives ⟨now, happening, before, after, deeds⟩ = true ∧
        Stride.late ⟨now, happening, before, after, deeds⟩ = false)) :
    after.connection.Unheard := by
  cases turn with
  | acts action connection socket _ allowed stepped moved =>
      have move := Connection.step_moves now before.connection connection action deeds stepped
      rcases moves with sends | ⟨receives, timely⟩
      · obtain ⟨parcel, posts, loaded⟩ := List.any_eq_true.mp sends
        exact Connection.reports_sent move running parcel posts (by simpa using loaded)
      · cases action with
        | answer courier trip =>
            simp only [Stride.receives, Stride.decoded?] at receives
            cases decoded : (Connection.Action.answer courier trip).decoded? with
            | none => simp [decoded] at receives
            | some reply =>
                refine Connection.reports_received courier trip reply move decoded ?_ ?_
                · simpa [decoded] using receives
                · intro serial since polling
                  simp [Stride.late, polling] at timely
        | _ => simp [Stride.receives, Stride.decoded?, Connection.Action.decoded?] at receives
  | follows move => simp [Stride.sends, Stride.receives, Stride.decoded?, Relay.posts] at moves
  | reads => simp [Stride.sends, Stride.receives, Stride.decoded?, Relay.posts] at moves

theorem run_reported (terms : Terms) (start : Nat) (script : List (Nat × Happening)) (site : Site)
    (trace : List Stride) (ran : (ofStart terms start).run script = some (site, trace))
    (timely : Timely trace) : site.Reported terms trace := by
  refine run_keeps (fun site past => Timely past → site.Reported terms past) ?_ script _ site []
    trace ?_ ran timely
  · intro now before past happening after deeds known turn timely
    have reported := known (List.isChain_append.mp timely).1
    have hearing := turn_moves turn
    constructor
    · exact hearing.patience.trans reported.patience
    · intro last final
      rw [List.getLast?_concat] at final
      cases final
      rfl
    · intro running stride member moves
      have here : ∃ last, (past ++ [(⟨now, happening, before, after, deeds⟩ : Stride)]).getLast? =
          some last ∧ now = last.now := ⟨_, List.getLast?_concat, rfl⟩
      rcases List.mem_append.mp member with earlier | latest
      · have ordered := (List.pairwise_append.mp timely.ordered).2.2 stride earlier _
          (List.mem_singleton_self _)
        rcases reported.before (hearing.running running) _ timely stride earlier moves with
          heard | ⟨same, unheard⟩
        · rcases hearing.used with used | used
          · exact .inl (used ▸ heard)
          · exact .inl (used ▸ ordered)
        · rcases hearing.unheard running unheard with still | used
          · exact .inr ⟨same ▸ here, still⟩
          · exact .inl (used ▸ ordered)
      · rw [List.mem_singleton.mp latest] at moves ⊢
        exact .inr ⟨here, turn_reports turn running moves⟩
  · intro _
    exact ⟨rfl, by simp, by simp⟩

/-- A connection that is given up as idle at an instant has moved no payload on its round trips
for all of its patience before that instant. Replies that come to polls after the end of the local
input are not among them. -/
theorem idle_connection_was_quiet (terms : Terms) (start : Nat)
    (script : List (Nat × Happening)) (site : Site) (trace : List Stride)
    (ran : (ofStart terms start).run script = some (site, trace)) (timely : Timely trace)
    (stride idle : Stride) (member : stride ∈ trace) (given : idle ∈ trace)
    (idles : idle.happening = .act (.desk .idle))
    (moves : stride.sends = true ∨ (stride.receives = true ∧ stride.late = false))
    (earlier : stride.now < idle.now) : stride.now + terms.patience ≤ idle.now := by
  obtain ⟨past, future, rfl⟩ := List.append_of_mem given
  have before : stride ∈ past := by
    obtain ⟨_, rest, _⟩ := List.pairwise_append.mp timely.ordered
    rcases List.mem_append.mp member with before | after
    · exact before
    · rcases List.mem_cons.mp after with rfl | after
      · omega
      · have ordered := (List.pairwise_cons.mp rest).1 stride after
        omega
  obtain ⟨script, _, _, upto, _, turn, _⟩ := run_splits script _ site past future idle ran
  rw [List.append_cons] at timely
  have until_idle := (List.isChain_append.mp timely).1
  have reported := run_reported terms start script idle.before past upto
    (List.isChain_append.mp until_idle).1
  rcases idle with ⟨now, happening, site, after, deeds⟩
  dsimp only at idles turn reported earlier ⊢
  subst idles
  cases turn with
  | acts _ connection socket _ allowed stepped moved =>
      simp only [Connection.step, Connection.stepDesk, Connection.allowsDesk, if_true,
        Option.map_eq_some_iff, Desk.step, reduceCtorEq] at stepped
      obtain ⟨_, ⟨_, idled, _⟩, _⟩ := stepped
      split_ifs at idled with runs due
      have waited : lastUse site.connection + terms.patience ≤ now := by
        rw [← reported.patience]
        exact due
      rcases reported.before runs.1 _ until_idle stride before moves with heard | ⟨same, _⟩
      · omega
      · simp only at same
        omega

def fallingSilent : List (Nat × Happening) :=
  [(0, .act (.decide .alpha)), (0, .act (.take .alpha)), (0, .act (.clear .alpha)),
    (0, .act (.depart .alpha)), (0, .act (.decide .beta)), (0, .act (.join .beta)),
    (0, .act (.desk .notice)),
    (5, .act (.answer .alpha (Relay.tripOf (Server.Answer.response (.data 1 [5]))))),
    (5, .act (.arrive .alpha)), (5, .act (.hand .alpha)), (5, .act (.decide .alpha)),
    (5, .act (.join .alpha)), (5, .act (.desk .notice)), (5, .act (.desk .signal)),
    (5, .act (.heed .beta)), (5, .act (.weigh .beta)), (5, .act (.take .beta)),
    (5, .act (.clear .beta)), (5, .act (.depart .beta)), (5, .act (.desk .notice)),
    (5, .act (.delivery (.reply 1 [5]))), (5, .act (.delivery (.wrote 1))),
    (25, .act (.desk .idle))]

theorem falling_silent_was_quiet : ∃ site trace stride idle,
    (ofStart { patience := 20 } 0).run fallingSilent = some (site, trace) ∧ Timely trace ∧
      stride ∈ trace ∧ idle ∈ trace ∧ idle.happening = .act (.desk .idle) ∧
      stride.receives = true ∧ stride.late = false ∧ stride.now = 5 ∧ idle.now = 25 ∧
      stride.now + 20 ≤ idle.now := by
  refine ⟨_, _, _, _, rfl, by decide +kernel, List.mem_of_getElem? (i := 7) rfl,
    List.mem_of_getElem? (i := 22) rfl, rfl, rfl, rfl, rfl, rfl, ?_⟩
  exact idle_connection_was_quiet { patience := 20 } 0 fallingSilent _ _ rfl (by decide +kernel) _ _
    (List.mem_of_getElem? (i := 7) rfl) (List.mem_of_getElem? (i := 22) rfl) rfl
    (.inr ⟨rfl, rfl⟩) (by decide)

def downloading : List (Nat × Happening) :=
  [(0, .act (.decide .alpha)), (0, .act (.take .alpha)), (0, .act (.clear .alpha)),
    (0, .act (.depart .alpha)), (0, .act (.decide .beta)), (0, .act (.join .beta)),
    (0, .act (.desk .notice)), (0, .application .finish), (0, .act (.intake .endOfInput)),
    (0, .act (.draw .beta)), (0, .act (.linger .beta)),
    (10, .act (.answer .beta (Relay.tripOf (Server.Answer.response (.data 1 [5]))))),
    (10, .act (.hand .beta)), (10, .act (.linger .beta)), (10, .act (.delivery (.reply 1 [5]))),
    (10, .act (.delivery (.wrote 1))), (20, .act (.desk .idle))]

/-- The connection is given up with a patience of twenty milliseconds, though it moved payload ten
milliseconds before. -/
theorem downloading_is_cut : ∃ site trace stride idle,
    (ofStart { patience := 20 } 0).run downloading = some (site, trace) ∧ Timely trace ∧
      stride ∈ trace ∧ idle ∈ trace ∧ idle.happening = .act (.desk .idle) ∧
      stride.receives = true ∧ stride.now < idle.now ∧ ¬stride.now + 20 ≤ idle.now :=
  ⟨_, _, _, _, rfl, by decide +kernel, List.mem_of_getElem? (i := 11) rfl,
    List.mem_of_getElem? (i := 16) rfl, rfl, rfl, by decide, by decide⟩

end Site

end HttpTunnel.Client
