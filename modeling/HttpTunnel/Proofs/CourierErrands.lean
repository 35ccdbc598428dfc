import HttpTunnel.Proofs.RelayRuns

/-!
What a move of a connection means for the requests. A courier is at home, holds a parcel
that it has not posted, is out with a request, or has left; a move sends one courier from
one of these stations to another, and takes a parcel from the queue if it begins a request.
-/

namespace HttpTunnel.Client.Connection

open Relay (ownAction posted queued)

inductive Station where
  | home
  /-- Holding a parcel that has a serial but has not been posted. -/
  | holding (parcel : Parcel)
  | out (serial : Nat)
  | left
  deriving DecidableEq

def Phase.station : Phase → Station
  | .deciding | .staying | .waiting | .told | .leaving => .home
  | .arriving _ _ | .handing _ _ | .lingering => .home
  | .packed parcel | .departing parcel => .holding parcel
  | .away serial _ | .polling serial _ => .out serial
  | .left _ => .left

def station (connection : Connection) (courier : Courier) : Station :=
  (connection.phase courier).station

/-- What happens to a queue from which nobody takes: nothing, a chunk comes in, or it is
closed. -/
inductive Stock (before : SendQueue Courier) : SendQueue Courier → Bytes → Prop where
  | same (after : SendQueue Courier) (goods : before.SameGoods after) : Stock before after []
  | adds (chunk : Bytes) : Stock before { before with chunks := before.chunks ++ [chunk] } chunk
  | closes : Stock before before.close []

inductive Errand (before : Connection) :
    Action → Connection → List Relay.Deed → Prop where
  | keep (action : Action) (after : Connection) (trace : List Relay.Deed)
      (stations : ∀ courier, after.station courier = before.station courier)
      (stock : Stock before.queue after.queue (queued trace)) (silent : posted trace = []) :
      Errand before action after trace
  | take (action : Action) (after : Connection) (courier : Courier) (parcel : Parcel)
      (home : before.station courier = .home) (takes : before.queue.Takes parcel after.queue)
      (stations : ∀ other, after.station other =
        if other = courier then .holding parcel else before.station other) :
      Errand before action after []
  | poll (action : Action) (after : Connection) (courier : Courier) (parcel : Parcel)
      (home : before.station courier = .home) (takes : before.queue.Takes parcel after.queue)
      (stations : ∀ other, after.station other =
        if other = courier then .out parcel.serial else before.station other)
      (empty : parcel.payload = []) : Errand before action after [.posted parcel]
  | post (action : Action) (after : Connection) (courier : Courier) (parcel : Parcel)
      (holds : before.station courier = .holding parcel)
      (goods : before.queue.SameGoods after.queue)
      (stations : ∀ other, after.station other =
        if other = courier then .out parcel.serial else before.station other) :
      Errand before action after [.posted parcel]
  | back (after : Connection) (courier : Courier) (serial : Nat) (trip : Trip)
      (reply : Option (Nat × Bytes)) (out : before.station courier = .out serial)
      (read : trip.reply = .ok reply) (goods : before.queue.SameGoods after.queue)
      (stations : ∀ other, after.station other =
        if other = courier then .home else before.station other) :
      Errand before (.answer courier trip) after []
  | quit (action : Action) (after : Connection) (courier : Courier)
      (goods : before.queue.SameGoods after.queue)
      (stations : ∀ other, after.station other =
        if other = courier then .left else before.station other)
      (unladen : ∀ parcel, before.station courier ≠ .holding parcel) :
      Errand before action after []

theorem Stock.counted {before after : SendQueue Courier} {bytes : Bytes}
    (stock : Stock before after bytes) : after.nextSerial = before.nextSerial := by
  cases stock with
  | same _ goods => exact goods.counted
  | adds => rfl
  | closes => rfl

section Errands

variable {before after : Connection} {action : Action} {trace : List Relay.Deed}

theorem Errand.counted (errand : Errand before action after trace) :
    before.queue.nextSerial ≤ after.queue.nextSerial := by
  cases errand with
  | keep _ _ _ stations stock silent => exact Nat.le_of_eq stock.counted.symm
  | take _ _ courier parcel home takes stations =>
      rw [takes.counted]
      exact Nat.le_succ _
  | poll _ _ courier parcel home takes stations =>
      rw [takes.counted]
      exact Nat.le_succ _
  | post _ _ courier parcel holds goods stations => exact Nat.le_of_eq goods.counted.symm
  | back _ courier serial trip reply out read goods stations =>
      exact Nat.le_of_eq goods.counted.symm
  | quit _ _ courier goods stations => exact Nat.le_of_eq goods.counted.symm

theorem Errand.posts_numbered (errand : Errand before action after trace) (parcel : Parcel)
    (posts : parcel ∈ posted trace) :
    (∃ courier, before.station courier = .holding parcel) ∨
      before.queue.Takes parcel after.queue := by
  cases errand with
  | keep _ _ _ stations stock silent =>
      rw [silent] at posts
      cases posts
  | poll _ _ courier taken home takes stations =>
      rw [List.mem_singleton.mp posts]
      exact .inr takes
  | post _ _ courier taken holds goods stations =>
      rw [List.mem_singleton.mp posts]
      exact .inl ⟨courier, holds⟩
  | _ => cases posts

theorem Errand.station_cases (errand : Errand before action after trace) (courier : Courier) :
    after.station courier = before.station courier ∨
      (∃ parcel, before.queue.Takes parcel after.queue ∧
        after.station courier = .holding parcel) ∨
      (∃ parcel ∈ posted trace, after.station courier = .out parcel.serial) ∨
      after.station courier = .home ∨ after.station courier = .left := by
  cases errand with
  | keep _ _ _ stations stock silent => exact .inl (stations courier)
  | take _ _ other parcel home takes stations =>
      rw [stations]
      split_ifs
      · exact .inr (.inl ⟨parcel, takes, rfl⟩)
      · exact .inl rfl
  | poll _ _ other parcel home takes stations =>
      rw [stations]
      split_ifs
      · exact .inr (.inr (.inl ⟨parcel, List.mem_singleton_self _, rfl⟩))
      · exact .inl rfl
  | post _ _ other parcel holds goods stations =>
      rw [stations]
      split_ifs
      · exact .inr (.inr (.inl ⟨parcel, List.mem_singleton_self _, rfl⟩))
      · exact .inl rfl
  | back _ other serial trip reply out read goods stations =>
      rw [stations]
      split_ifs
      · exact .inr (.inr (.inr (.inl rfl)))
      · exact .inl rfl
  | quit _ _ other goods stations =>
      rw [stations]
      split_ifs
      · exact .inr (.inr (.inr (.inr rfl)))
      · exact .inl rfl

theorem Errand.holds_numbered (errand : Errand before action after trace) (courier : Courier)
    (parcel : Parcel) (holds : after.station courier = .holding parcel) :
    before.station courier = .holding parcel ∨ before.queue.Takes parcel after.queue := by
  rcases errand.station_cases courier with
    same | ⟨taken, takes, holding⟩ | ⟨posted, _, out⟩ | home | left
  · exact .inl (same.symm.trans holds)
  · rw [holds] at holding
    cases holding
    exact .inr takes
  · rw [holds] at out
    cases out
  · rw [holds] at home
    cases home
  · rw [holds] at left
    cases left

theorem Errand.out_from (errand : Errand before action after trace) (courier : Courier)
    (serial : Nat) (out : after.station courier = .out serial) :
    before.station courier = .out serial ∨ ∃ parcel ∈ posted trace, parcel.serial = serial := by
  rcases errand.station_cases courier with
    same | ⟨taken, takes, holding⟩ | ⟨parcel, posts, gone⟩ | home | left
  · exact .inl (same.symm.trans out)
  · rw [out] at holding
    cases holding
  · rw [out] at gone
    cases gone
    exact .inr ⟨parcel, posts, rfl⟩
  · rw [out] at home
    cases home
  · rw [out] at left
    cases left

/-- An errand takes a parcel from the queue, or it leaves there what is queued. -/
theorem Errand.takes_or_queues (errand : Errand before action after trace) :
    (∃ parcel, before.queue.Takes parcel after.queue ∧ queued trace = []) ∨
      (after.queue.nextSerial = before.queue.nextSerial ∧
        before.queue.chunks.flatten ++ queued trace = after.queue.chunks.flatten) := by
  cases errand with
  | keep _ _ _ stations stock silent =>
      refine .inr ⟨stock.counted, ?_⟩
      generalize queued trace = bytes at stock
      generalize after.queue = queue at stock
      cases stock with
      | same _ goods => rw [goods.chunks, List.append_nil]
      | adds => simp
      | closes => exact List.append_nil _
  | take _ _ courier parcel home takes stations => exact .inl ⟨parcel, takes, rfl⟩
  | poll _ _ courier parcel home takes stations => exact .inl ⟨parcel, takes, rfl⟩
  | post _ _ courier parcel holds goods stations =>
      exact .inr ⟨goods.counted, by rw [goods.chunks]; exact List.append_nil _⟩
  | back _ courier serial trip reply out read goods stations =>
      exact .inr ⟨goods.counted, by rw [goods.chunks]; exact List.append_nil _⟩
  | quit _ _ courier goods stations =>
      exact .inr ⟨goods.counted, by rw [goods.chunks]; exact List.append_nil _⟩

end Errands

def Sealed (connection : Connection) : Prop :=
  connection.queue.closed = true → connection.intake.phase = .ended

@[simp] theorem station_set_phase (connection : Connection) (courier other : Courier)
    (phase : Phase) : (connection.setPhase courier phase).station other =
      if other = courier then phase.station else connection.station other := by
  unfold station
  rw [phase_set_phase]
  split_ifs <;> rfl

theorem same_station (connection after : Connection) (courier : Courier) (phase : Phase)
    (moved : ∀ other, after.phase other =
      if other = courier then phase else connection.phase other)
    (same : phase.station = connection.station courier) (other : Courier) :
    after.station other = connection.station other := by
  unfold station
  rw [moved]
  split_ifs with here
  · rw [same, here]
    rfl
  · rfl

section Moves

variable (now : Nat) (before after : Connection) (action : Action) (deeds : List Deed)

theorem move_sealed (closed : before.Sealed) (move : Move now before action after deeds) :
    after.Sealed := by
  cases move with
  | pack _ courier parcel queue internal ready takes =>
      exact fun shut => closed (takes.closed ▸ shut)
  | drain _ courier queue internal ready shut drained same => exact fun _ => closed shut
  | leave _ courier queue exit deeds same abandons unladen lingered =>
      unfold Sealed Connection.leave
      split_ifs
      · exact fun shut => closed (same.closed ▸ shut)
      · exact fun shut => closed (same.closed ▸ shut)
  | linger courier parcel queue lingering takes empty =>
      exact fun shut => closed (takes.closed ▸ shut)
  | read event intake running unended => exact fun shut => absurd (closed shut) unended
  | enqueue chunk queuing room =>
      intro shut
      have still : before.queue.closed = true := by
        revert shut
        unfold SendQueue.offer
        split_ifs with was <;> simp_all
      rw [closed still] at queuing
      cases queuing
  | endInput event cancelled kept => exact fun _ => rfl
  | _ => exact closed

theorem move_errand (closed : before.Sealed) (move : Move now before action after deeds) :
    Errand before action after (deeds.filterMap Relay.Deed.ofClient?) := by
  cases move with
  | decide courier deciding =>
      refine .keep _ _ _ (same_station _ _ courier _ (phase_set_phase _ courier · _) ?_)
        (.same _ ⟨rfl, rfl, rfl⟩) rfl
      split_ifs <;> simp [station, deciding, Phase.station]
  | join courier staying =>
      refine .keep _ _ _ (same_station _ _ courier .waiting (phase_set_phase _ courier · _) ?_)
        (.same _ ⟨rfl, rfl, rfl⟩) rfl
      simp [station, staying, Phase.station]
  | heed courier waiting =>
      refine .keep _ _ _ (same_station _ _ courier .told (phase_set_phase _ courier · _) ?_)
        (.same _ ⟨rfl, rfl, rfl⟩) rfl
      simp [station, waiting, Phase.station]
  | weigh courier told =>
      refine .keep _ _ _ (same_station _ _ courier _ (phase_set_phase _ courier · _) ?_)
        (.same _ ⟨rfl, rfl, rfl⟩) rfl
      split_ifs <;> simp [station, told, Phase.station]
  | pack _ courier parcel queue internal ready takes =>
      have stands : before.station courier = .home := by
        rcases ready with here | here <;> simp [station, here, Phase.station]
      exact .take _ _ courier parcel stands takes fun other => station_set_phase _ _ _ _
  | drain _ courier queue internal ready shut drained same =>
      have stands : before.station courier = .home := by
        rcases ready with here | here <;> simp [station, here, Phase.station]
      exact .keep _ _ _ (same_station _ _ courier .lingering (phase_set_phase _ courier · _)
        stands.symm) (.same _ same) rfl
  | clear courier parcel packed =>
      refine .keep _ _ _ (same_station _ _ courier _ (phase_set_phase _ courier · _) ?_)
        (.same _ ⟨rfl, rfl, rfl⟩) rfl
      simp [station, packed, Phase.station]
  | depart courier parcel departing =>
      have holds : before.station courier = .holding parcel := by
        simp [station, departing, Phase.station]
      exact .post _ _ courier parcel holds ⟨rfl, rfl, rfl⟩ fun other => station_set_phase _ _ _ _
  | bring courier serial since trip reply away read =>
      have out : before.station courier = .out serial := by simp [station, away, Phase.station]
      exact .back _ courier serial trip reply out read ⟨rfl, rfl, rfl⟩
        fun other => station_set_phase _ _ _ _
  | bringLate courier serial since trip reply polling read =>
      have out : before.station courier = .out serial := by simp [station, polling, Phase.station]
      exact .back _ courier serial trip (some reply) out read ⟨rfl, rfl, rfl⟩
        fun other => station_set_phase _ _ _ _
  | leave _ courier queue exit deeds same abandons unladen lingered parts =>
      have silent : deeds.filterMap Relay.Deed.ofClient? = [] := by
        rcases abandons with rfl | ⟨serial, rfl⟩ <;> rfl
      have unladen : ∀ parcel, before.station courier ≠ .holding parcel := by
        cases parts <;> simp [station, Phase.station, *]
      rw [silent]
      unfold Connection.leave
      dsimp only
      split_ifs
      · exact .quit _ _ courier same (fun other => station_set_phase _ _ _ _) unladen
      · exact .quit _ _ courier same (fun other => station_set_phase _ _ _ _) unladen
  | arrive courier reply trip arriving =>
      refine .keep _ _ _ (same_station _ _ courier _ (phase_set_phase _ courier · _) ?_)
        (.same _ ⟨rfl, rfl, rfl⟩) rfl
      cases reply <;> simp [station, arriving, Phase.station, Phase.ofReply]
  | hand courier reply late handing =>
      refine .keep _ _ _ (same_station _ _ courier _ (phase_set_phase _ courier · _) ?_)
        (.same _ ⟨rfl, rfl, rfl⟩) rfl
      split_ifs <;> simp [station, handing, Phase.station]
  | linger courier parcel queue lingering takes empty =>
      have stands : before.station courier = .home := by simp [station, lingering, Phase.station]
      exact .poll _ _ courier parcel stands takes (fun other => station_set_phase _ _ _ _) empty
  | close => exact .keep _ _ _ (fun _ => rfl) (.same _ ⟨rfl, rfl, rfl⟩) rfl
  | desk event desk cancels allowed stepped =>
      exact .keep _ _ _ (fun _ => rfl) (.same _ ⟨rfl, rfl, rfl⟩) rfl
  | read event intake running before =>
      exact .keep _ _ _ (fun _ => rfl) (.same _ ⟨rfl, rfl, rfl⟩) rfl
  | enqueue chunk queuing room =>
      have unclosed : ¬before.queue.closed = true := by
        intro shut
        rw [closed shut] at queuing
        cases queuing
      have offered : (before.queue.offer chunk).2 =
          { before.queue with chunks := before.queue.chunks ++ [chunk] } := by
        unfold SendQueue.offer
        rw [if_neg unclosed, if_pos room]
      have bytes : queued ([Deed.queued chunk].filterMap Relay.Deed.ofClient?) = chunk := by
        simp [queued, Relay.Deed.ofClient?]
      refine .keep _ _ _ (fun _ => rfl) ?_ rfl
      rw [bytes, offered]
      exact .adds chunk
  | endInput event cancelled kept => exact .keep _ _ _ (fun _ => rfl) .closes rfl
  | order serial payload rest released window receiving waiting pushed =>
      exact .keep _ _ _ (fun _ => rfl) (.same _ ⟨rfl, rfl, rfl⟩) rfl
  | write count rest released writing =>
      exact .keep _ _ _ (fun _ => rfl) (.same _ ⟨rfl, rfl, rfl⟩) rfl
  | finish event failure replies fewer =>
      exact .keep _ _ _ (fun _ => rfl) (.same _ ⟨rfl, rfl, rfl⟩) rfl

/-- What becomes of one courier in a move. -/
inductive Course (before : Connection) (action : Action) (after : Connection)
    (courier : Courier) : Prop where
  | stays (same : after.phase courier = before.phase courier)
  | homely (home : before.station courier = .home)
  | laden (parcel : Parcel) (holds : before.station courier = .holding parcel)
  | back (serial : Nat) (trip : Trip) (reply : Option (Nat × Bytes))
      (out : before.station courier = .out serial) (answered : action = .answer courier trip)
      (read : trip.reply = .ok reply)
  | quits (exit : Exit) (present : before.station courier ≠ .left)
      (left : after.phase courier = .left exit)
      (lingered : exit = .drained → ∃ serial since,
        before.phase courier = .polling serial since)

theorem move_course (move : Move now before action after deeds) (courier : Courier) :
    Course before action after courier := by
  cases move with
  | decide mover deciding =>
      by_cases mine : courier = mover
      · exact .homely (by simp [station, mine, deciding, Phase.station])
      · exact .stays (set_phase_apart mine rfl)
  | join mover staying =>
      by_cases mine : courier = mover
      · exact .homely (by simp [station, mine, staying, Phase.station])
      · exact .stays (set_phase_apart mine rfl)
  | heed mover waiting =>
      by_cases mine : courier = mover
      · exact .homely (by simp [station, mine, waiting, Phase.station])
      · exact .stays (set_phase_apart mine rfl)
  | weigh mover told =>
      by_cases mine : courier = mover
      · exact .homely (by simp [station, mine, told, Phase.station])
      · exact .stays (set_phase_apart mine rfl)
  | pack _ mover parcel queue internal ready takes =>
      by_cases mine : courier = mover
      · refine .homely ?_
        rcases ready with here | here <;> simp [station, mine, here, Phase.station]
      · exact .stays (set_phase_apart mine rfl)
  | drain _ mover queue internal ready shut drained same =>
      by_cases mine : courier = mover
      · refine .homely ?_
        rcases ready with here | here <;> simp [station, mine, here, Phase.station]
      · exact .stays (set_phase_apart mine rfl)
  | clear mover parcel packed =>
      by_cases mine : courier = mover
      · exact .laden parcel (by simp [station, mine, packed, Phase.station])
      · exact .stays (set_phase_apart mine rfl)
  | depart mover parcel departing =>
      by_cases mine : courier = mover
      · exact .laden parcel (by simp [station, mine, departing, Phase.station])
      · exact .stays (set_phase_apart mine rfl)
  | bring mover serial since trip reply away read =>
      by_cases mine : courier = mover
      · subst mine
        exact .back serial trip reply (by simp [station, away, Phase.station]) rfl read
      · exact .stays (set_phase_apart mine rfl)
  | bringLate mover serial since trip reply polling read =>
      by_cases mine : courier = mover
      · subst mine
        exact .back serial trip (some reply) (by simp [station, polling, Phase.station]) rfl read
      · exact .stays (set_phase_apart mine rfl)
  | leave _ mover queue exit deeds same abandons unladen lingered parts =>
      have phases : ({ before with queue := queue }.leave mover exit).phase courier =
          ({ before with queue := queue }.setPhase mover (.left exit)).phase courier := by
        unfold Connection.leave
        split_ifs <;> rfl
      by_cases mine : courier = mover
      · subst mine
        refine .quits exit ?_ ?_ lingered
        · cases parts <;> simp [station, Phase.station, *]
        · rw [phases, phase_set_phase, if_pos rfl]
      · exact .stays (phases.trans (set_phase_apart mine rfl))
  | arrive mover reply trip arriving =>
      by_cases mine : courier = mover
      · exact .homely (by simp [station, mine, arriving, Phase.station])
      · exact .stays (set_phase_apart mine rfl)
  | hand mover reply late handing =>
      by_cases mine : courier = mover
      · exact .homely (by simp [station, mine, handing, Phase.station])
      · exact .stays (set_phase_apart mine rfl)
  | linger mover parcel queue lingering takes empty =>
      by_cases mine : courier = mover
      · exact .homely (by simp [station, mine, lingering, Phase.station])
      · exact .stays (set_phase_apart mine rfl)
  | _ => exact .stays rfl

theorem left_stays (move : Move now before action after deeds) (courier : Courier) (exit : Exit)
    (left : before.phase courier = .left exit) : after.phase courier = .left exit := by
  have station : before.station courier = .left := by simp [station, left, Phase.station]
  cases move_course now before after action deeds move courier with
  | stays same => exact same.trans left
  | homely home =>
      rw [station] at home
      cases home
  | laden parcel holds =>
      rw [station] at holds
      cases holds
  | back serial trip reply out answered read =>
      rw [station] at out
      cases out
  | quits exit present gone lingered => exact absurd station present

end Moves

end HttpTunnel.Client.Connection
