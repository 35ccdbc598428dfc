import HttpTunnel.Proofs.PollerActs

/-!
How many requests a poller keeps parked. There are never more than two, so that their number
never ends a tunnel, and whenever the poller waits for something to happen with no payload in
hand there is at most one: of two requests the older one is answered before the poller waits
again. Bytes and requests do not wait for each other then, since whatever is pending goes out to
whoever is parked.
-/

namespace HttpTunnel.Server.Poller

variable (moment : Moment)

/-- There is a place for another request, unless a payload has to be passed on first. -/
structure Uncrowded (poller : Poller) : Prop where
  most : poller.parked.length ≤ mostParked
  waiting : poller.phase.live = true → poller.phase.current = none → poller.parked.length ≤ 1
  dry : poller.phase.live = true → poller.phase.current = none → poller.parked ≠ [] →
    poller.pending = []
  fits : ∀ count, poller.phase ≠ .ended (some (.tooManyParked count))

theorem of_start_uncrowded (terms : Terms) (now : Nat) : (ofStart terms now).Uncrowded :=
  ⟨Nat.zero_le _, fun _ _ => Nat.zero_le _, fun _ _ some => absurd rfl some, by simp [ofStart]⟩

theorem conclude_parks_none (poller : Poller) (failure : Option Failure)
    (other : ∀ count, failure ≠ some (.tooManyParked count)) :
    (poller.conclude moment failure).1.Uncrowded := by
  refine ⟨Nat.zero_le _, fun _ _ => Nat.zero_le _, fun _ _ some => absurd rfl some, ?_⟩
  intro count same
  exact other count (Phase.ended.inj same)

theorem fail_parks_none (poller : Poller) (failure : Failure)
    (other : ∀ count, failure ≠ .tooManyParked count) :
    (poller.fail moment failure).1.Uncrowded := by
  unfold fail
  split_ifs with late
  · rcases late with ⟨_, _, none⟩
    exact ⟨by simp [none], fun live _ => absurd live (by simp [Phase.live]),
      fun live _ => absurd live (by simp [Phase.live]), by simp⟩
  · apply conclude_parks_none moment poller
    intro count same
    exact other count (Option.some.inj same)

theorem park_crowds (poller : Poller) (packet : Packet)
    (most : poller.parked.length ≤ mostParked) :
    (poller.park moment packet).1.parked.length ≤ mostParked := by
  have shrinks := (reply_oldest_replied moment poller).shrinks
  unfold park
  by_cases full : poller.parked.length = mostParked
  · simp only [if_pos full, publish_parked, List.length_append, List.length_singleton]
    unfold mostParked at *
    omega
  · simp only [if_neg full, publish_parked, List.length_append, List.length_singleton]
    unfold mostParked at *
    omega

/-- Two requests with one of them answered are not too many. -/
theorem reply_oldest_uncrowds (poller : Poller) (most : poller.parked.length ≤ mostParked)
    (fits : ∀ count, poller.phase ≠ .ended (some (.tooManyParked count))) :
    (poller.replyOldest moment).1.Uncrowded := by
  have replied := reply_oldest_replied moment poller
  have shrinks := replied.shrinks
  unfold mostParked at most
  refine ⟨by unfold mostParked; omega, fun _ _ => by omega, fun _ _ some => ?_, ?_⟩
  · exact replied.emptied.resolve_left some
  · rw [replied.phase]
    exact fits

theorem settle_uncrowds (poller : Poller) (most : poller.parked.length ≤ mostParked) :
    (poller.settle moment).1.Uncrowded := by
  unfold settle
  dsimp only
  split_ifs with crowd
  · exact reply_oldest_uncrowds moment { poller with phase := .serving } most (by simp)
  · simp only [not_or, not_not, Nat.not_lt] at crowd
    exact ⟨most, fun _ _ => crowd.2, fun _ _ _ => crowd.1, by simp⟩

theorem decide_reply_uncrowds (poller : Poller) (most : poller.parked.length ≤ mostParked) :
    (poller.decideReply moment).1.Uncrowded := by
  unfold decideReply
  split_ifs with lone
  · exact ⟨most, fun _ _ => Nat.le_of_eq lone.2.1, fun _ _ _ => lone.1, by simp⟩
  · exact settle_uncrowds moment poller most

theorem resume_uncrowds (poller : Poller) (packet : Packet) (released : List Packet)
    (most : poller.parked.length ≤ mostParked)
    (further : ∀ other : Poller, other.parked.length ≤ mostParked →
      (other.takeIn moment released).1.Uncrowded) :
    (poller.resume moment packet released).1.Uncrowded := by
  have parks := park_crowds moment poller packet most
  unfold resume
  generalize poller.park moment packet = parked at parks
  dsimp only
  rw [if_neg (by omega)]
  exact further parked.1 parks

theorem take_in_uncrowds (released : List Packet) (poller : Poller)
    (most : poller.parked.length ≤ mostParked) :
    (poller.takeIn moment released).1.Uncrowded := by
  induction released generalizing poller with
  | nil => exact decide_reply_uncrowds moment poller most
  | cons packet released induction =>
      by_cases empty : packet.payload = []
      · rw [takeIn, if_pos empty]
        exact resume_uncrowds moment { poller with lastSeen := packet.serial } packet released most
          induction
      · rw [takeIn, if_neg empty]
        exact ⟨most, fun _ none => absurd none (by simp [Phase.current]),
          fun _ none => absurd none (by simp [Phase.current]), by simp⟩

theorem receive_uncrowds (poller : Poller) (packet : Packet) (uncrowded : poller.Uncrowded) :
    (poller.receive moment packet).1.Uncrowded := by
  unfold receive
  dsimp only
  split_ifs
  · exact fail_parks_none moment _ _ (by simp)
  · cases poller.early.push packet.serial.toNat packet with
    | error refusal => exact fail_parks_none moment _ _ (by simp)
    | ok result =>
        rcases result with ⟨released, early⟩
        cases released with
        | nil => exact ⟨uncrowded.most, uncrowded.waiting, uncrowded.dry, uncrowded.fits⟩
        | cons first released => exact take_in_uncrowds moment (first :: released) _ uncrowded.most

theorem take_uncrowds (poller : Poller) (chunk : Bytes) (uncrowded : poller.Uncrowded) :
    (poller.take moment chunk).1.Uncrowded := by
  unfold take
  dsimp only
  split_ifs with nobody
  · exact ⟨uncrowded.most, uncrowded.waiting, fun _ _ some => absurd nobody some, uncrowded.fits⟩
  · exact reply_oldest_uncrowds moment _ uncrowded.most uncrowded.fits

theorem serve_uncrowds (poller after : Poller) (event : Event) (deeds : List Deed)
    (uncrowded : poller.Uncrowded) (served : poller.serve moment event = some (after, deeds)) :
    after.Uncrowded := by
  cases event <;> simp only [serve] at served
  case close =>
    cases served
    exact conclude_parks_none moment poller none (by simp)
  case stop =>
    split_ifs at served
    have failed := fail_parks_none moment poller .downstreamClosed (by simp)
    rwa [Option.some.inj served] at failed
  case chunk chunk =>
    split_ifs at served
    have took := take_uncrowds moment poller chunk uncrowded
    rwa [Option.some.inj served] at took
  case downstreamEnd =>
    split_ifs at served
    have failed := fail_parks_none moment poller .downstreamClosed (by simp)
    rwa [Option.some.inj served] at failed
  case packet =>
    cases waiting : poller.queue <;> simp only [waiting] at served
    case cons packet rest =>
      have received := receive_uncrowds moment { poller with queue := rest } packet
        ⟨uncrowded.most, uncrowded.waiting, uncrowded.dry, uncrowded.fits⟩
      rwa [Option.some.inj served] at received
    all_goals cases served
  case packetsEnd =>
    split_ifs at served
    cases served
    exact conclude_parks_none moment poller none (by simp)
  case pollDue =>
    have replied := reply_oldest_uncrowds moment poller uncrowded.most uncrowded.fits
    by_cases due : due moment poller.pollAt = true
    · rw [if_pos due] at served
      cases served
      exact ⟨replied.most, replied.waiting, replied.dry, replied.fits⟩
    · rw [if_neg due] at served
      cases served
  case heldDue =>
    cases held : poller.held <;> simp only [held] at served
    case some due =>
      split_ifs at served
      have failed := fail_parks_none moment poller (.serialMismatch poller.lastSeen due.2) (by simp)
      rwa [Option.some.inj served] at failed
    all_goals cases served
  case idleDue =>
    split_ifs at served
    cases served
    exact conclude_parks_none moment poller none (by simp)
  all_goals cases served

theorem step_uncrowds (poller after : Poller) (event : Event) (deeds : List Deed)
    (uncrowded : poller.Uncrowded)
    (stepped : poller.step moment event = some (after, deeds)) : after.Uncrowded := by
  cases phase : poller.phase <;> simp only [step, phase] at stepped
  case serving => exact serve_uncrowds moment poller after event deeds uncrowded stepped
  case passing packet released =>
    have resumed := resume_uncrowds moment poller packet released uncrowded.most
      (take_in_uncrowds moment released)
    cases event <;> simp only [pass] at stepped
    case close => rwa [Option.some.inj stepped] at resumed
    case passed =>
      cases stepped
      exact resumed
    case refused =>
      cases stepped
      exact fail_parks_none moment poller .downstreamClosed (by simp)
    case downstreamEnd =>
      cases stepped
      exact fail_parks_none moment poller .downstreamClosed (by simp)
    case chunk chunk =>
      have took := take_uncrowds moment poller chunk uncrowded
      rwa [Option.some.inj stepped] at took
    all_goals cases stepped
  case prompting deadline =>
    have settled := settle_uncrowds moment poller uncrowded.most
    cases event <;> simp only [prompt] at stepped
    case chunk chunk =>
      have fuller := settle_uncrowds moment (poller.absorb moment.now chunk) uncrowded.most
      rwa [Option.some.inj stepped] at fuller
    case downstreamEnd => rwa [Option.some.inj stepped] at settled
    case promptDue =>
      split_ifs at stepped
      rwa [Option.some.inj stepped] at settled
    all_goals cases stepped
  case flushing deadline =>
    cases event <;> simp only [flush] at stepped
    case close =>
      cases stepped
      exact conclude_parks_none moment poller _ (by simp)
    case packet =>
      cases waiting : poller.queue <;> simp only [waiting] at stepped
      case cons packet rest =>
        cases stepped
        exact conclude_parks_none moment _ _ (by simp)
      all_goals cases stepped
    case packetsEnd =>
      split_ifs at stepped
      cases stepped
      exact conclude_parks_none moment poller _ (by simp)
    case flushDue =>
      split_ifs at stepped
      cases stepped
      exact conclude_parks_none moment poller _ (by simp)
    all_goals cases stepped
  all_goals cases stepped

end HttpTunnel.Server.Poller
