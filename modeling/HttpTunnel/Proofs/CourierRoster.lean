import HttpTunnel.Proofs.CourierMoves

/-!
What the dispatcher knows of the couriers while the local side of a connection is open. Its
roster lags behind the couriers by the notices that it has not heard, and when it has heard
all of them and both couriers are home, then one of them is about to leave: it is on its way
out, or a signal for it is not stale, or it is alpha and leaves untold.
-/

namespace HttpTunnel.Client

def Notice.places (courier : Courier) (home : Bool) : Notice → Bool
  | .departs other _ => if other = courier then false else home
  | .arrives other _ _ => if other = courier then true else home

def homeAfter (courier : Courier) (home : Bool) (notices : List Notice) : Bool :=
  notices.foldl (Notice.places courier) home

theorem home_after_append (courier : Courier) (home : Bool) (notices : List Notice)
    (notice : Notice) : homeAfter courier home (notices ++ [notice]) =
      notice.places courier (homeAfter courier home notices) := by
  simp [homeAfter]

theorem PerCourier.get_set {Value : Type} (values : PerCourier Value) (courier other : Courier)
    (value : Value) : (values.set courier value).get other =
      if other = courier then value else values.get other := by
  cases courier <;> cases other <;> rfl

namespace Dispatcher

variable (now : Nat) (dispatcher : Dispatcher) (notice : Notice) (courier : Courier)

theorem announce_places : (dispatcher.announce now notice).roster.home.get courier =
    notice.places courier (dispatcher.roster.home.get courier) := by
  cases notice with
  | departs other sent =>
      have placed := PerCourier.get_set dispatcher.roster.home other courier false
      simp only [announce, Roster.depart, placed, Notice.places, eq_comm]
  | arrives other received trip =>
      have placed := PerCourier.get_set dispatcher.roster.home other courier true
      simp only [announce, Roster.arrive, placed, Notice.places, eq_comm]

/-- After a notice both are home only if one of them has come back, and then the other one
has to leave. -/
theorem announce_calls
    (both : ∀ courier, (dispatcher.announce now notice).roster.isHome courier = true) :
    ∃ courier, (dispatcher.announce now notice).published.mayLeave courier = true ∧
      (dispatcher.announce now notice).leaver = some courier := by
  cases notice with
  | departs other sent =>
      have departed := both other
      rw [Roster.isHome, announce_places] at departed
      simp [Notice.places] at departed
  | arrives other received trip =>
      have stays := both other.other
      have alpha := both .alpha
      have beta := both .beta
      refine ⟨other.other, ?_, ?_⟩
      · cases other <;> simp_all [announce, Roster.arrive, Roster.mayLeave, Roster.isHome,
          PerCourier.get, PerCourier.set, Courier.other]
      · cases other <;> simp_all [announce, Roster.arrive, Roster.isHome, PerCourier.get,
          PerCourier.set, Courier.other]

theorem signal_keeps : dispatcher.signal.roster = dispatcher.roster ∧
    dispatcher.signal.published = dispatcher.published := by
  unfold signal
  cases dispatcher.leaver with
  | none => exact ⟨rfl, rfl⟩
  | some leaver => exact ⟨rfl, rfl⟩

theorem signal_signals
    (called : dispatcher.signals.get courier = true ∨ dispatcher.leaver = some courier) :
    dispatcher.signal.signals.get courier = true := by
  unfold signal
  cases due : dispatcher.leaver with
  | none =>
      rw [due] at called
      rcases called with signalled | leaver
      · exact signalled
      · cases leaver
  | some leaver =>
      rw [due] at called
      show (dispatcher.signals.set leaver true).get courier = true
      rw [PerCourier.get_set]
      split_ifs with same
      · rfl
      · rcases called with signalled | leaves
        · exact signalled
        · exact absurd (Option.some.inj leaves).symm same

end Dispatcher

theorem Desk.step_turns (now : Nat) (desk after : Desk) (event : Desk.Event) (cancels : Bool)
    (stepped : desk.step now event = some (after, cancels)) :
    event = .halted ∨ event = .deserted ∨ cancels = true ∨
      (∃ notice rest, desk.notices = notice :: rest ∧ after = { desk with
        dispatcher := desk.dispatcher.announce now notice
        notices := rest }) ∨
      after = { desk with dispatcher := desk.dispatcher.signal } := by
  unfold Desk.step at stepped
  by_cases free : desk.running ∧ (desk.dispatcher.leaver.isSome ↔ event = .signal)
  · rw [if_pos free] at stepped
    cases event with
    | halted => exact .inl rfl
    | deserted => exact .inr (.inl rfl)
    | notice =>
        cases waiting : desk.notices <;> simp only [waiting] at stepped
        case cons notice rest =>
          cases stepped
          exact .inr (.inr (.inr (.inl ⟨notice, rest, rfl, rfl⟩)))
        all_goals cases stepped
    | signal =>
        cases stepped
        exact .inr (.inr (.inr (.inr rfl)))
    | idle =>
        by_cases due : desk.idleAt ≤ now
        · rw [if_pos due] at stepped
          cases stepped
          exact .inr (.inr (.inl rfl))
        · rw [if_neg due] at stepped
          cases stepped
  · rw [if_neg free] at stepped
    cases stepped

namespace Connection

/-- The dispatcher counts a courier as home until it hears of its departure. -/
def Phase.inside : Phase → Bool
  | .away _ _ | .arriving _ _ => false
  | _ => true

def Phase.regular : Phase → Bool
  | .lingering | .polling _ _ | .handing _ true | .left _ => false
  | _ => true

/-- A courier on its way out, unless what it was told turns out to be stale. -/
def Phase.outbound : Phase → Bool
  | .told | .leaving | .packed _ | .departing _ => true
  | _ => false

/-- Nobody has cancelled the connection, and the local reader has not ended. -/
structure Open (connection : Connection) : Prop where
  uncancelled : connection.cancelled = false
  unclosed : connection.queue.closed = false

/-- Something makes a courier leave, if it may. -/
def Summoned (connection : Connection) (courier : Courier) : Prop :=
  (connection.desk.dispatcher.signals.get courier = true ∨
      connection.desk.dispatcher.leaver = some courier) ∨
    (connection.phase courier).outbound = true ∨
    (courier = .alpha ∧ connection.phase courier = .deciding)

structure Coordinated (connection : Connection) : Prop where
  running : connection.desk.running = true
  regular : ∀ courier, (connection.phase courier).regular = true
  foreseen : ∀ courier,
    homeAfter courier (connection.desk.dispatcher.roster.isHome courier) connection.desk.notices =
      (connection.phase courier).inside
  woken : connection.desk.notices = [] →
    (∀ courier, connection.desk.dispatcher.roster.isHome courier = true) →
      ∃ courier, connection.desk.dispatcher.published.mayLeave courier = true ∧
        connection.Summoned courier

theorem Summoned.called {connection : Connection} {courier : Courier}
    (summoned : connection.Summoned courier)
    (stays : (connection.phase courier).outbound = false)
    (decided : connection.phase courier ≠ .deciding) :
    connection.desk.dispatcher.signals.get courier = true ∨
      connection.desk.dispatcher.leaver = some courier := by
  rcases summoned with called | outbound | ⟨_, deciding⟩
  · exact called
  · rw [stays] at outbound
    cases outbound
  · exact absurd deciding decided

theorem Coordinated.never_polls {connection : Connection} (coordinated : connection.Coordinated)
    (courier : Courier) (serial since : Nat) :
    connection.phase courier ≠ .polling serial since := by
  intro polling
  have regular := coordinated.regular courier
  rw [polling] at regular
  cases regular

/-- Nobody leaves for good without an end of the input or a cancellation. -/
theorem Coordinated.never_leaves {connection : Connection}
    (coordinated : connection.Coordinated) (courier : Courier) (queue : SendQueue Courier)
    (exit : Exit) (lingered : exit = .drained → ∃ serial since,
      connection.phase courier = .polling serial since)
    (opened : ({ connection with queue := queue }.leave courier exit).Open) : False := by
  have uncancelled := opened.uncancelled
  unfold Connection.leave at uncancelled
  dsimp only at uncancelled
  split_ifs at uncancelled with drained
  obtain ⟨serial, since, polling⟩ := lingered drained
  exact coordinated.never_polls courier serial since polling

section Moves

variable {now : Nat} {before after : Connection} {action : Action} {deeds : List Deed}

theorem move_open (move : Move now before action after deeds) (opened : after.Open) :
    before.Open := by
  rcases opened with ⟨uncancelled, unclosed⟩
  cases move with
  | pack _ courier parcel queue internal ready takes =>
      exact ⟨uncancelled, takes.closed ▸ unclosed⟩
  | drain _ courier queue internal ready closed drained same =>
      exact ⟨uncancelled, same.closed ▸ unclosed⟩
  | leave _ courier queue exit deeds same abandons unladen lingered =>
      unfold Connection.leave at uncancelled unclosed
      dsimp only at uncancelled unclosed
      split_ifs at uncancelled unclosed
      exact ⟨uncancelled, same.closed ▸ unclosed⟩
  | linger courier parcel queue lingering takes empty =>
      exact ⟨uncancelled, takes.closed ▸ unclosed⟩
  | close => cases uncancelled
  | desk event desk cancels allowed stepped =>
      exact ⟨(Bool.or_eq_false_iff.mp uncancelled).1, unclosed⟩
  | enqueue chunk queuing room =>
      refine ⟨uncancelled, ?_⟩
      by_contra closed
      simp [SendQueue.offer, Bool.not_eq_false _ ▸ closed] at unclosed
  | endInput event cancelled kept => cases unclosed
  | finish event failure replies fewer => cases uncancelled
  | _ => exact ⟨uncancelled, unclosed⟩

theorem Coordinated.changes (coordinated : before.Coordinated) (courier : Courier) (phase : Phase)
    (phases : ∀ other, after.phase other =
      if other = courier then phase else before.phase other)
    (regular : phase.regular = true) (inside : phase.inside = (before.phase courier).inside)
    (desk : after.desk = before.desk ∨ after.desk = (before.hush courier).desk)
    (summoned : before.desk.dispatcher.published.mayLeave courier = true →
      before.Summoned courier → after.Summoned courier) : after.Coordinated := by
  have places : ∀ other, (after.phase other).inside = (before.phase other).inside := by
    intro other
    rw [phases]
    split_ifs with same
    · rw [inside, same]
    · rfl
  have notices : after.desk.notices = before.desk.notices := by
    rcases desk with same | same
    · rw [same]
    · rw [same]
      rfl
  have roster : after.desk.dispatcher.roster = before.desk.dispatcher.roster := by
    rcases desk with same | same
    · rw [same]
    · rw [same]
      rfl
  have published : after.desk.dispatcher.published = before.desk.dispatcher.published := by
    rcases desk with same | same
    · rw [same]
    · rw [same]
      rfl
  constructor
  · rcases desk with same | same
    · rw [same]
      exact coordinated.running
    · rw [same]
      exact coordinated.running
  · intro other
    rw [phases]
    split_ifs
    · exact regular
    · exact coordinated.regular other
  · intro other
    rw [roster, notices, places]
    exact coordinated.foreseen other
  · intro heard both
    rw [notices] at heard
    rw [roster] at both
    obtain ⟨leaver, may, called⟩ := coordinated.woken heard both
    refine ⟨leaver, by rw [published]; exact may, ?_⟩
    by_cases same : leaver = courier
    · subst same
      exact summoned may called
    · rcases called with (signalled | due) | outbound | ⟨alpha, deciding⟩
      · apply Or.inl
        apply Or.inl
        rcases desk with unchanged | hushed
        · rw [unchanged]
          exact signalled
        · rw [hushed]
          exact (PerCourier.get_set _ _ _ _).trans ((if_neg same).trans signalled)
      · apply Or.inl
        apply Or.inr
        rcases desk with unchanged | hushed
        · rw [unchanged]
          exact due
        · rw [hushed]
          exact due
      · exact .inr (.inl (by rw [phases, if_neg same]; exact outbound))
      · exact .inr (.inr ⟨alpha, by rw [phases, if_neg same]; exact deciding⟩)

theorem Coordinated.tells (coordinated : before.Coordinated) (courier : Courier) (phase : Phase)
    (notice : Notice) (regular : phase.regular = true)
    (places : ∀ other, notice.places other (before.phase other).inside =
      if other = courier then phase.inside else (before.phase other).inside) :
    ((before.notify notice).setPhase courier phase).Coordinated := by
  have sent : ((before.notify notice).setPhase courier phase).desk =
      { before.desk with notices := before.desk.notices ++ [notice] } := by
    show before.desk.send notice = _
    rw [Desk.send, if_pos coordinated.running]
  constructor
  · rw [sent]
    exact coordinated.running
  · intro other
    rw [phase_set_phase]
    split_ifs
    · exact regular
    · exact coordinated.regular other
  · intro other
    rw [sent, home_after_append, coordinated.foreseen, places, phase_set_phase]
    split_ifs <;> rfl
  · intro heard
    rw [sent] at heard
    exact absurd heard (by simp)

theorem Coordinated.hears (now : Nat) (coordinated : before.Coordinated) (notice : Notice)
    (rest : List Notice) (waiting : before.desk.notices = notice :: rest) :
    Coordinated { before with desk := { before.desk with
      dispatcher := before.desk.dispatcher.announce now notice
      notices := rest } } := by
  constructor
  · exact coordinated.running
  · exact coordinated.regular
  · intro courier
    have foreseen := coordinated.foreseen courier
    rw [waiting] at foreseen
    rw [Roster.isHome, Dispatcher.announce_places]
    exact foreseen
  · intro _ both
    obtain ⟨courier, may, due⟩ := Dispatcher.announce_calls now _ notice both
    exact ⟨courier, may, .inl (.inr due)⟩

theorem Coordinated.signals (coordinated : before.Coordinated) :
    Coordinated { before with desk := { before.desk with
      dispatcher := before.desk.dispatcher.signal } } := by
  rcases before.desk.dispatcher.signal_keeps with ⟨roster, published⟩
  constructor
  · exact coordinated.running
  · exact coordinated.regular
  · intro courier
    have foreseen := coordinated.foreseen courier
    rw [← roster] at foreseen
    exact foreseen
  · intro heard both
    simp only [roster] at both
    obtain ⟨courier, may, called⟩ := coordinated.woken heard both
    rw [← published] at may
    refine ⟨courier, may, ?_⟩
    rcases called with signalled | leaving
    · exact .inl (.inl (Dispatcher.signal_signals _ courier signalled))
    · exact .inr leaving

/-- The roster stays right as long as the local side is open. -/
theorem Coordinated.moves (coordinated : before.Coordinated)
    (move : Move now before action after deeds) (opened : after.Open) : after.Coordinated := by
  have early := move_open move opened
  cases move with
  | decide courier deciding =>
      refine coordinated.changes courier _ (phase_set_phase _ courier · _) ?_ ?_ (.inl rfl) ?_
      · split_ifs <;> rfl
      · rw [deciding]
        split_ifs <;> rfl
      · intro may summoned
        rcases summoned with called | outbound | ⟨rfl, _⟩
        · exact .inl called
        · rw [deciding] at outbound
          cases outbound
        · apply Or.inr
          apply Or.inl
          rw [phase_set_phase, if_pos rfl, Roster.leavesUntold, may]
          rfl
  | join courier staying =>
      refine coordinated.changes courier .waiting (phase_set_phase _ courier · _) rfl
        (by rw [staying]; rfl) (.inl rfl) fun _ summoned => ?_
      exact .inl (summoned.called (by rw [staying]; rfl) (by simp [staying]))
  | heed courier waiting =>
      refine coordinated.changes courier .told (phase_set_phase _ courier · _) rfl
        (by rw [waiting]; rfl) (.inr rfl) fun _ _ => ?_
      apply Or.inr
      apply Or.inl
      rw [phase_set_phase, if_pos rfl]
      rfl
  | weigh courier told =>
      refine coordinated.changes courier _ (phase_set_phase _ courier · _) ?_ ?_ (.inl rfl) ?_
      · split_ifs <;> rfl
      · rw [told]
        split_ifs <;> rfl
      · intro may _
        apply Or.inr
        apply Or.inl
        rw [phase_set_phase, if_pos rfl, may]
        rfl
  | pack _ courier parcel queue internal ready takes =>
      have inside : (before.phase courier).inside = true := by
        rcases ready with here | here <;> rw [here] <;> rfl
      refine coordinated.changes courier (.packed parcel) (phase_set_phase _ courier · _) rfl
        inside.symm (.inl rfl) fun _ _ => ?_
      apply Or.inr
      apply Or.inl
      rw [phase_set_phase, if_pos rfl]
      rfl
  | drain _ courier queue internal ready closed drained same =>
      rw [early.unclosed] at closed
      cases closed
  | clear courier parcel packed =>
      refine coordinated.changes courier (.departing parcel) (phase_set_phase _ courier · _) rfl
        (by rw [packed]; rfl) (.inr rfl) fun _ _ => ?_
      apply Or.inr
      apply Or.inl
      rw [phase_set_phase, if_pos rfl]
      rfl
  | depart courier parcel departing =>
      refine coordinated.tells courier _ _ rfl fun other => ?_
      by_cases same : other = courier
      · simp [Notice.places, same, Phase.inside]
      · simp [Notice.places, same, Ne.symm same]
  | bring courier serial since trip reply away read =>
      refine coordinated.changes courier (.arriving reply _) (phase_set_phase _ courier · _) rfl
        (by rw [away]; rfl) (.inl rfl) fun _ summoned => ?_
      exact .inl (summoned.called (by rw [away]; rfl) (by simp [away]))
  | bringLate courier serial since trip reply polling read =>
      exact absurd polling (coordinated.never_polls courier serial since)
  | leave _ courier queue exit deeds same abandons unladen lingered =>
      exact (coordinated.never_leaves courier queue exit lingered opened).elim
  | arrive courier reply trip arriving =>
      refine coordinated.tells courier _ _ (by cases reply <;> rfl) fun other => ?_
      by_cases same : other = courier
      · cases reply <;> simp [Notice.places, same, Phase.inside, Phase.ofReply]
      · simp [Notice.places, same, Ne.symm same]
  | hand courier reply late handing =>
      cases late with
      | false =>
          refine coordinated.changes courier .deciding (phase_set_phase _ courier · _) rfl
            (by rw [handing]; rfl) (.inl rfl) fun _ summoned => ?_
          exact .inl (summoned.called (by rw [handing]; rfl) (by simp [handing]))
      | true =>
          have regular := coordinated.regular courier
          rw [handing] at regular
          cases regular
  | linger courier parcel queue lingering takes empty =>
      have regular := coordinated.regular courier
      rw [lingering] at regular
      cases regular
  | close => cases opened.uncancelled
  | desk event desk cancels allowed stepped =>
      have uncancelled := Bool.or_eq_false_iff.mp opened.uncancelled
      rcases Desk.step_turns now _ _ _ _ stepped with
        rfl | rfl | cancelled | ⟨notice, rest, waiting, rfl⟩ | rfl
      · rw [allowsDesk, early.uncancelled] at allowed
        cases allowed
      · have deserted := (Bool.and_eq_true_iff.mp allowed).1
        have left := (Bool.and_eq_true_iff.mp deserted).1
        have regular := coordinated.regular .alpha
        unfold hasLeft at left
        cases phase : before.phase .alpha <;> simp_all [Phase.regular]
      · rw [uncancelled.2] at cancelled
        cases cancelled
      · have hears := Coordinated.hears now coordinated notice rest waiting
        exact ⟨hears.running, hears.regular, hears.foreseen, hears.woken⟩
      · have signals := coordinated.signals
        exact ⟨signals.running, signals.regular, signals.foreseen, signals.woken⟩
  | endInput event cancelled kept => cases opened.unclosed
  | finish event failure replies fewer => cases opened.uncancelled
  | _ =>
      exact ⟨coordinated.running, coordinated.regular, coordinated.foreseen,
        coordinated.woken⟩

end Moves

theorem of_start_coordinated (terms : Terms) (now : Nat) :
    (ofStart terms now).Coordinated := by
  constructor
  · rfl
  · intro courier
    cases courier <;> rfl
  · intro courier
    cases courier <;> rfl
  · intro _ _
    exact ⟨.alpha, rfl, .inr (.inr ⟨rfl, rfl⟩)⟩

/-- Two couriers that both wait have something to hear or to heed. -/
theorem Coordinated.stirs {connection : Connection} (coordinated : connection.Coordinated)
    (waiting : ∀ courier, connection.phase courier = .waiting)
    (silent : ∀ courier, connection.desk.dispatcher.signals.get courier = false)
    (settled : connection.desk.dispatcher.leaver = none) : connection.desk.notices ≠ [] := by
  intro heard
  have both : ∀ courier, connection.desk.dispatcher.roster.isHome courier = true := by
    intro courier
    have foreseen := coordinated.foreseen courier
    rw [heard, waiting] at foreseen
    exact foreseen
  rcases coordinated.woken heard both with
    ⟨courier, _, (signalled | due) | outbound | ⟨_, deciding⟩⟩
  · rw [silent] at signalled
    cases signalled
  · rw [settled] at due
    cases due
  · rw [waiting] at outbound
    cases outbound
  · rw [waiting] at deciding
    cases deciding

end Connection

end HttpTunnel.Client
