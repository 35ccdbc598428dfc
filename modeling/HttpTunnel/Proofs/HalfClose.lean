import HttpTunnel.Proofs.LocalInput
import HttpTunnel.Proofs.ParcelLedger

/-!
The end of the local input. The application closes its side, and the connection goes on until
what it wrote is through: a courier begins to linger only when the queue is closed and empty, and
one that lingers to the end has not given up a request with payload. When both have drained, all
bytes of the application have been carried by requests that were answered with success.
-/

namespace HttpTunnel.Client

namespace Connection

open Relay (posted queued)

/-- A courier that has seen the end of the local input. -/
def Phase.lingers : Phase → Bool
  | .lingering | .polling _ _ => true
  | .handing _ late => late
  | .left exit => exit == .drained
  | _ => false

structure Spent (connection : Connection) : Prop where
  closed : connection.queue.closed = true
  empty : connection.queue.chunks.flatten = []
  unread : connection.intake.phase = .ended

section Moves

variable (now : Nat) (before after : Connection) (action : Action) (deeds : List Deed)

theorem move_spent (move : Move now before action after deeds) (spent : before.Spent) :
    after.Spent ∧ queued (deeds.filterMap Relay.Deed.ofClient?) = [] := by
  have closed := spent.closed
  have empty := spent.empty
  have unread := spent.unread
  have leftover : ∀ parcel queue, before.queue.Takes parcel queue → queue.chunks.flatten = [] := by
    intro parcel queue takes
    have bytes := takes.bytes
    rw [empty] at bytes
    exact (List.append_eq_nil_iff.mp bytes.symm).2
  cases move with
  | pack _ courier parcel queue internal ready takes =>
      exact ⟨⟨takes.closed.trans closed, leftover parcel queue takes, unread⟩, rfl⟩
  | drain _ courier queue internal ready shut drained same =>
      exact ⟨⟨same.closed.trans closed, same.chunks ▸ empty, unread⟩, rfl⟩
  | leave _ courier queue exit deeds same abandons unladen lingered =>
      have silent : queued (deeds.filterMap Relay.Deed.ofClient?) = [] := by
        rcases abandons with rfl | ⟨serial, rfl⟩ <;> rfl
      unfold Connection.leave
      split_ifs
      · exact ⟨⟨same.closed.trans closed, same.chunks ▸ empty, unread⟩, silent⟩
      · exact ⟨⟨same.closed.trans closed, same.chunks ▸ empty, unread⟩, silent⟩
  | linger courier parcel queue lingering takes light =>
      exact ⟨⟨takes.closed.trans closed, leftover parcel queue takes, unread⟩, rfl⟩
  | read event intake running goes => exact absurd unread goes
  | enqueue chunk queuing room =>
      rw [unread] at queuing
      cases queuing
  | endInput event cancelled kept => exact ⟨⟨rfl, empty, rfl⟩, rfl⟩
  | _ => exact ⟨⟨closed, empty, unread⟩, rfl⟩

theorem move_lingers (closed : before.Sealed) (move : Move now before action after deeds)
    (courier : Courier) (lingers : (after.phase courier).lingers = true) :
    (before.phase courier).lingers = true ∨ before.Spent := by
  have changes : ∀ {connection : Connection} {mover : Courier} {phase : Phase},
      connection.phase courier = before.phase courier →
      (phase.lingers = true → (before.phase mover).lingers = true ∨ before.Spent) →
      ((connection.setPhase mover phase).phase courier).lingers = true →
      (before.phase courier).lingers = true ∨ before.Spent := by
    intro connection mover phase same own still
    rw [phase_set_phase] at still
    split_ifs at still with mine
    · rw [mine]
      exact own still
    · rw [← same]
      exact .inl still
  cases move with
  | decide mover deciding =>
      refine changes rfl (fun late => ?_) lingers
      split_ifs at late <;> cases late
  | join mover staying => exact changes rfl (by simp [Phase.lingers]) lingers
  | heed mover waiting => exact changes rfl (by simp [Phase.lingers]) lingers
  | weigh mover told =>
      refine changes rfl (fun late => ?_) lingers
      split_ifs at late <;> cases late
  | pack _ mover parcel queue internal ready takes =>
      exact changes rfl (by simp [Phase.lingers]) lingers
  | drain _ mover queue internal ready shut drained same =>
      refine changes rfl (fun _ => .inr ⟨shut, ?_, closed shut⟩) lingers
      rw [drained]
      rfl
  | clear mover parcel packed => exact changes rfl (by simp [Phase.lingers]) lingers
  | depart mover parcel departing => exact changes rfl (by simp [Phase.lingers]) lingers
  | bring mover serial since trip reply away read =>
      exact changes rfl (by simp [Phase.lingers]) lingers
  | bringLate mover serial since trip reply polling read =>
      refine changes rfl (fun _ => .inl ?_) lingers
      rw [polling]
      rfl
  | leave _ mover queue exit deeds same abandons unladen lingered =>
      have stays : (({ before with queue := queue }.setPhase mover (.left exit)).phase
          courier).lingers = true := by
        revert lingers
        unfold Connection.leave
        split_ifs <;> exact id
      refine changes rfl (fun drained => .inl ?_) stays
      obtain ⟨serial, since, polling⟩ := lingered (beq_iff_eq.mp drained)
      rw [polling]
      rfl
  | arrive mover reply trip arriving =>
      refine changes rfl (fun late => ?_) lingers
      cases reply <;> cases late
  | hand mover reply late handing =>
      refine changes rfl (fun still => .inl ?_) lingers
      rw [handing]
      cases late with
      | true => rfl
      | false => cases still
  | linger mover parcel queue lingering takes light =>
      refine changes rfl (fun _ => .inl ?_) lingers
      rw [lingering]
      rfl
  | _ => exact .inl lingers

theorem move_posts (move : Move now before action after deeds) (parcel : Parcel)
    (posts : parcel ∈ posted (deeds.filterMap Relay.Deed.ofClient?))
    (loaded : parcel.payload ≠ []) : ∃ courier, after.phase courier = .away parcel.serial now := by
  cases move with
  | depart courier own departing =>
      rw [List.mem_singleton.mp posts]
      exact ⟨courier, by rw [phase_set_phase, if_pos rfl]⟩
  | linger courier own queue lingering takes light =>
      rw [List.mem_singleton.mp posts] at loaded
      exact absurd light loaded
  | leave _ courier queue exit deeds same abandons unladen lingered =>
      rcases abandons with rfl | ⟨serial, rfl⟩ <;> cases posts
  | _ => cases posts

/-- A courier that is away stays so until its request succeeds or it leaves without being
drained. -/
theorem move_away (move : Move now before action after deeds) (courier : Courier)
    (serial since : Nat) (away : before.phase courier = .away serial since) :
    after.phase courier = .away serial since ∨
      (∃ trip reply, action = .answer courier trip ∧ trip.reply = .ok reply) ∨
      ∃ exit, exit ≠ .drained ∧ after.phase courier = .left exit := by
  have station : before.station courier = .out serial := by simp [station, away, Phase.station]
  cases move_course now before after action deeds move courier with
  | stays same => exact .inl (same.trans away)
  | homely home =>
      rw [station] at home
      cases home
  | laden parcel holds =>
      rw [station] at holds
      cases holds
  | back _ trip reply out answered read => exact .inr (.inl ⟨trip, reply, answered, read⟩)
  | quits exit present left lingered =>
      refine .inr (.inr ⟨exit, ?_, left⟩)
      rintro rfl
      obtain ⟨_, _, polling⟩ := lingered rfl
      rw [away] at polling
      cases polling

theorem linger_takes (courier : Courier)
    (stepped : before.step now (.linger courier) = some (after, deeds)) (poll : Parcel)
    (posts : poll ∈ Relay.posts deeds) : poll ∈ takenUntil before after := by
  cases phase : before.phase courier <;> simp only [step, phase] at stepped
  case lingering =>
    simp only [linger, Option.some.injEq, Prod.mk.injEq] at stepped
    obtain ⟨moved, same⟩ := stepped
    have home : before.station courier = .home := by simp [station, phase, Phase.station]
    have stations : ∀ other, after.station other =
        if other = courier then .out before.queue.nextSerial else before.station other := by
      intro other
      rw [← moved]
      exact station_set_phase _ _ _ _
    rw [← same] at posts
    rw [taken_moved stations, home]
    exact posts
  all_goals cases stepped

end Moves

theorem reply_succeeds (trip : Trip) (reply : Option (Nat × Bytes))
    (read : trip.reply = .ok reply) :
    ∃ status body, trip = .response status body ∧ status.isSuccess = true := by
  cases trip with
  | broken => cases read
  | response status body =>
      simp only [Trip.reply] at read
      split_ifs at read with success
      exact ⟨status, body, rfl, success⟩

end Connection

namespace Site

open Connection (Exit Phase Spent)
open Relay (posted queued)

def Stride.succeeded? (stride : Stride) : Option Nat :=
  match stride.happening with
  | .act (.answer courier (.response status _)) =>
      match stride.before.connection.station courier with
      | .out serial => if status.isSuccess then some serial else none
      | _ => none
  | _ => none

def succeeded (trace : List Stride) : List Nat := trace.filterMap Stride.succeeded?

/-- The polls that a lingering courier posted. -/
def polls (trace : List Stride) (courier : Courier) : List Parcel :=
  trace.flatMap fun stride =>
    if stride.happening = .act (.linger courier) then Relay.posts stride.deeds else []

theorem succeeded_append (trace further : List Stride) :
    succeeded (trace ++ further) = succeeded trace ++ succeeded further :=
  List.filterMap_append

theorem polls_taken (script : List (Nat × Happening)) (site after : Site) (trace : List Stride)
    (ran : site.run script = some (after, trace)) (courier : Courier) (poll : Parcel)
    (posts : poll ∈ polls trace courier) : poll ∈ taken trace := by
  obtain ⟨stride, among, here⟩ := List.mem_flatMap.mp posts
  obtain ⟨past, future, rfl⟩ := List.append_of_mem among
  obtain ⟨_, _, _, _, _, turn, _⟩ := run_splits script site after past future stride ran
  refine List.mem_flatMap.mpr ⟨stride, among, ?_⟩
  rcases stride with ⟨now, happening, before, later, deeds⟩
  dsimp only at here turn ⊢
  split_ifs at here with lingers
  · subst lingers
    cases turn with
    | acts _ connection socket _ allowed stepped moved =>
        exact Connection.linger_takes now _ _ deeds courier stepped poll here
  · cases here

/-- Every request with payload has succeeded, or is still out, or its courier has failed. -/
def Answered (site : Site) (sent : List Parcel) (succeeded : List Nat) : Prop :=
  ∀ parcel ∈ sent, parcel.payload ≠ [] → parcel.serial ∈ succeeded ∨
    (∃ courier since, site.connection.phase courier = .away parcel.serial since) ∨
    ∃ courier exit, exit ≠ .drained ∧ site.connection.phase courier = .left exit

theorem run_answered (terms : Terms) (start : Nat) (script : List (Nat × Happening)) (site : Site)
    (trace : List Stride) (ran : (ofStart terms start).run script = some (site, trace)) :
    site.Answered (posted (passed trace)) (succeeded trace) := by
  refine run_keeps (fun site past => site.Answered (posted (passed past)) (succeeded past)) ?_
    script _ site [] trace (fun parcel sent => nomatch sent) ran
  intro now before past happening after deeds answered turn parcel sent loaded
  rw [passed_last, Relay.posted_append] at sent
  rw [succeeded_append]
  cases turn with
  | acts action connection socket _ allowed stepped moved =>
      have move := Connection.step_moves now before.connection connection action deeds stepped
      rcases List.mem_append.mp sent with earlier | latest
      · rcases answered parcel earlier loaded with done | ⟨courier, since, away⟩ |
          ⟨courier, exit, failed, left⟩
        · exact .inl (List.mem_append_left _ done)
        · rcases Connection.move_away now _ _ action deeds move courier _ since away with
            still | ⟨trip, reply, rfl, read⟩ | ⟨exit, failed, left⟩
          · exact .inr (.inl ⟨courier, since, still⟩)
          · refine .inl (List.mem_append_right _ ?_)
            obtain ⟨status, body, rfl, success⟩ := Connection.reply_succeeds trip reply read
            simp [succeeded, Stride.succeeded?, Connection.station, away, Phase.station, success]
          · exact .inr (.inr ⟨courier, exit, failed, left⟩)
        · exact .inr (.inr ⟨courier, exit, failed,
            Connection.left_stays now _ _ action deeds move courier exit left⟩)
      · obtain ⟨courier, away⟩ :=
          Connection.move_posts now _ _ action deeds move parcel latest loaded
        exact .inr (.inl ⟨courier, now, away⟩)
  | follows move =>
      have known := answered parcel (by simpa [posted] using sent) loaded
      exact known.imp_left (List.mem_append_left _)
  | reads =>
      have known := answered parcel (by simpa [posted] using sent) loaded
      exact known.imp_left (List.mem_append_left _)

theorem run_lingers (terms : Terms) (start : Nat) (script : List (Nat × Happening)) (site : Site)
    (trace : List Stride) (ran : (ofStart terms start).run script = some (site, trace))
    (courier : Courier) (lingers : (site.connection.phase courier).lingers = true) :
    site.connection.Spent := by
  have begins : ∀ courier, (((ofStart terms start).connection.phase courier).lingers = true) →
      (ofStart terms start).connection.Spent := by
    intro courier late
    cases courier <;> cases late
  have known := run_connection_keeps (fun connection => connection.Sealed ∧
    ∀ courier, (connection.phase courier).lingers = true → connection.Spent) ?_ script
    (ofStart terms start) site trace ⟨fun shut => Bool.noConfusion shut, begins⟩ ran
  · exact known.2 courier lingers
  · rintro now before action after deeds ⟨closed, spent⟩ move
    refine ⟨Connection.move_sealed now _ _ action deeds closed move, fun courier late => ?_⟩
    rcases Connection.move_lingers now _ _ action deeds closed move courier late with earlier | here
    · exact (Connection.move_spent now _ _ action deeds move (spent courier earlier)).1
    · exact (Connection.move_spent now _ _ action deeds move here).1

theorem run_spent (script : List (Nat × Happening)) (site after : Site) (trace : List Stride)
    (spent : site.connection.Spent) (ran : site.run script = some (after, trace)) :
    queued (passed trace) = [] := by
  have known := run_keeps (fun site past => site.connection.Spent ∧ queued (passed past) = []) ?_
    script site after [] trace ⟨spent, rfl⟩ ran
  · exact known.2
  · rintro now before past happening next deeds ⟨spent, silent⟩ turn
    rw [passed_last, Relay.queued_append, silent]
    cases turn with
    | acts action connection socket _ allowed stepped moved =>
        exact Connection.move_spent now _ _ action deeds
          (Connection.step_moves now before.connection connection action deeds stepped) spent
    | follows move => exact ⟨spent, rfl⟩
    | reads => exact ⟨spent, rfl⟩

/-- Both couriers had drained before anything cancelled the connection. -/
def DrainedQuietly (trace : List Stride) : Prop :=
  ∃ stride ∈ trace, stride.after.connection.cancelled = false ∧
    ∀ courier, stride.after.connection.phase courier = .left .drained

theorem run_drained (script : List (Nat × Happening)) (site after : Site) (trace : List Stride)
    (ran : site.run script = some (after, trace))
    (drained : ∀ courier, site.connection.phase courier = .left .drained) (courier : Courier) :
    after.connection.phase courier = .left .drained := by
  refine run_connection_keeps (fun connection => ∀ courier, connection.phase courier =
    .left .drained) ?_ script site after trace drained ran courier
  intro now before action after deeds left move other
  exact Connection.left_stays now _ _ action deeds move other .drained (left other)

/-- A courier drains only once the local reader has ended, and uncancelled the reader has ended
with the end of the input. -/
theorem drained_saw_end (terms : Terms) (start : Nat) (script : List (Nat × Happening))
    (site : Site) (trace : List Stride)
    (ran : (ofStart terms start).run script = some (site, trace)) (quiet : DrainedQuietly trace) :
    SawEnd trace ∧ ∀ courier, site.connection.phase courier = .left .drained := by
  obtain ⟨stride, among, uncancelled, drained⟩ := quiet
  obtain ⟨past, future, rfl⟩ := List.append_of_mem among
  obtain ⟨_, upto, later, _, through, _, further⟩ :=
    run_splits script _ site past future stride ran
  refine ⟨?_, run_drained later _ site future further drained⟩
  have spent := run_lingers terms start upto stride.after _ through .alpha (by
    rw [drained]
    rfl)
  rcases run_ends_seen terms start upto stride.after _ through spent.unread with saw | cancelled
  · have split : past ++ stride :: future = (past ++ [stride]) ++ future := by simp
    rw [split]
    exact saw_end_append _ _ saw
  · rw [uncancelled] at cancelled
    cases cancelled

/-- Whenever a courier begins to linger, all bytes that the local reader queues in the whole run
have been taken already, and each of its polls has a higher serial than all parcels taken so far.
And if both couriers have drained and nothing had cancelled the connection by then, or the end of
what the application wrote has been seen, then the parcels carry what it wrote in the order of their
serials, each was posted once, and each request with payload was answered with success. -/
theorem half_close_sends_everything (terms : Terms) (start : Nat)
    (script : List (Nat × Happening)) (site : Site) (trace : List Stride)
    (ran : (ofStart terms start).run script = some (site, trace)) :
    (∀ past stride future courier, trace = past ++ stride :: future →
      stride.after.connection.phase courier = .lingering →
        queued (passed trace) = (taken (past ++ [stride])).flatMap Parcel.payload ∧
          ∀ parcel ∈ taken (past ++ [stride]), ∀ poll ∈ polls future courier,
            parcel.serial < poll.serial) ∧
    (DrainedQuietly trace ∨
        (SawEnd trace ∧ ∀ courier, site.connection.phase courier = .left .drained) →
      said trace = (taken trace).flatMap Parcel.payload ∧
        (taken trace).map Parcel.serial = List.range' 1 (taken trace).length ∧
        (posted (passed trace)).Perm (taken trace) ∧
        ∀ parcel ∈ posted (passed trace), parcel.payload ≠ [] →
          parcel.serial ∈ succeeded trace) := by
  have ledger := run_ledger terms start script site trace ran
  constructor
  · rintro past stride future courier rfl lingering
    obtain ⟨_, upto, later, _, through, _, further⟩ :=
      run_splits script _ site past future stride ran
    have spent := run_lingers terms start upto stride.after (past ++ [stride]) through courier (by
      rw [lingering]
      rfl)
    have split : past ++ stride :: future = (past ++ [stride]) ++ future := by simp
    constructor
    · have until_now := (run_ledger terms start upto stride.after _ through).bytes
      rw [spent.empty, List.append_nil] at until_now
      rw [split, passed_append, Relay.queued_append, until_now,
        run_spent later _ site future spent further, List.append_nil]
    · intro parcel before poll posts
      have after := polls_taken later stride.after site future further courier poll posts
      have ascending : ((taken (past ++ stride :: future)).map Parcel.serial).Pairwise (· < ·) := by
        rw [ledger.serials]
        exact List.pairwise_lt_range' 1
      rw [split, taken_append, List.map_append, List.pairwise_append] at ascending
      exact ascending.2.2 _ (List.mem_map_of_mem before) _ (List.mem_map_of_mem after)
  · intro ending
    obtain ⟨saw, drained⟩ : SawEnd trace ∧
        ∀ courier, site.connection.phase courier = .left .drained :=
      ending.elim (drained_saw_end terms start script site trace ran) id
    have spent := run_lingers terms start script site trace ran .alpha (by
      rw [drained]
      rfl)
    have none : site.connection.held = [] := by
      simp [Connection.held, Connection.station, drained, Phase.station, Connection.Station.held?]
    have bytes := ledger.bytes
    have shares := ledger.shares
    rw [spent.empty, List.append_nil] at bytes
    rw [none, List.append_nil] at shares
    refine ⟨?_, ledger.serials, shares, ?_⟩
    · rw [((run_listened terms start script site trace ran).seen saw).2.1, bytes]
    · intro parcel sent loaded
      rcases run_answered terms start script site trace ran parcel sent loaded with
        done | ⟨courier, since, away⟩ | ⟨courier, exit, failed, left⟩
      · exact done
      · rw [drained] at away
        cases away
      · rw [drained] at left
        cases left
        exact absurd rfl failed

/-- The application writes three bytes and ends its side. The couriers carry them in two requests
and linger until their last polls have stayed empty. -/
def saying : List (Nat × Happening) :=
  let heartbeat : Trip := Relay.tripOf (Server.Answer.response .heartbeat)
  [(0, .application (.send [1, 2, 3])), (0, .act (.intake (.received [1, 2]))),
    (0, .act (.intake .queued)), (0, .act (.decide .alpha)), (0, .act (.take .alpha)),
    (0, .act (.clear .alpha)), (0, .act (.depart .alpha)), (0, .application .finish),
    (0, .act (.intake (.received [3]))), (0, .act (.intake .queued)),
    (0, .act (.intake .endOfInput)), (0, .act (.decide .beta)), (0, .act (.join .beta)),
    (0, .act (.draw .beta)), (0, .act (.clear .beta)), (0, .act (.depart .beta)),
    (1, .act (.answer .alpha heartbeat)), (1, .act (.arrive .alpha)), (1, .act (.decide .alpha)),
    (1, .act (.take .alpha)), (1, .act (.linger .alpha)),
    (2, .act (.answer .beta (Relay.tripOf (Server.Answer.response (.data 1 [9]))))),
    (2, .act (.arrive .beta)), (2, .act (.hand .beta)), (2, .act (.decide .beta)),
    (2, .act (.join .beta)), (2, .act (.draw .beta)), (2, .act (.linger .beta)),
    (501, .act (.expire .alpha)), (502, .act (.expire .beta))]

theorem saying_sends_everything : ∃ site trace,
    (ofStart {} 0).run saying = some (site, trace) ∧ DrainedQuietly trace ∧
      said trace = [1, 2, 3] ∧ taken trace = [⟨1, [1, 2]⟩, ⟨2, [3]⟩, ⟨3, []⟩, ⟨4, []⟩] ∧
      said trace = (taken trace).flatMap Parcel.payload ∧
      ∀ parcel ∈ posted (passed trace), parcel.payload ≠ [] → parcel.serial ∈ succeeded trace := by
  have told : ∃ site trace, (ofStart {} 0).run saying = some (site, trace) ∧
      DrainedQuietly trace ∧ said trace = [1, 2, 3] ∧
      taken trace = [⟨1, [1, 2]⟩, ⟨2, [3]⟩, ⟨3, []⟩, ⟨4, []⟩] := by
    refine ⟨_, _, rfl, ⟨_, List.mem_of_getElem? (i := 29) rfl, rfl, ?_⟩, rfl, rfl⟩
    rintro (_ | _) <;> rfl
  obtain ⟨site, trace, ran, quiet, all, parcels⟩ := told
  have settled := (half_close_sends_everything {} 0 saying site trace ran).2 (.inl quiet)
  exact ⟨site, trace, ran, quiet, all, parcels, settled.1, settled.2.2.2⟩

end Site

end HttpTunnel.Client
