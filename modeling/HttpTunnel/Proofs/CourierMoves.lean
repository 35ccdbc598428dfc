import HttpTunnel.Client.Connection
import HttpTunnel.Proofs.SendQueueTaking

/-!
Every action of a connection is one of a few moves. A move names the phase that a courier
leaves and the one that it enters, what it takes from the queue, and what it tells the
dispatcher. What a connection preserves is shown move by move.
-/

namespace HttpTunnel.Client.Connection

def hush (connection : Connection) (courier : Courier) : Connection :=
  { connection with
    desk := { connection.desk with
      dispatcher := (connection.desk.dispatcher.takeSignal courier).2 } }

/-- A courier that takes from the queue as soon as it can. -/
def Phase.Takes (phase : Phase) : Prop := phase = .leaving ∨ phase = .waiting

def Phase.ofReply : Option (Nat × Bytes) → Phase
  | none => .deciding
  | some reply => .handing reply false

/-- From where a courier may leave for good. It gives up a reply that it has decoded only if the
local writer has ended. -/
inductive Parts (connection : Connection) (courier : Courier) : Prop where
  | waiting (phase : connection.phase courier = .waiting)
  | away (serial since : Nat) (phase : connection.phase courier = .away serial since)
  | polling (serial since : Nat) (phase : connection.phase courier = .polling serial since)
  | handing (reply : Nat × Bytes) (late : Bool)
      (phase : connection.phase courier = .handing reply late)
      (ended : connection.delivery.hasEnded = true)

inductive Move (now : Nat) (connection : Connection) :
    Action → Connection → List Deed → Prop where
  | decide (courier : Courier) (deciding : connection.phase courier = .deciding) :
      Move now connection (.decide courier)
        (connection.setPhase courier
          (if connection.desk.dispatcher.published.leavesUntold courier then .leaving
          else .staying)) []
  | join (courier : Courier) (staying : connection.phase courier = .staying) :
      Move now connection (.join courier)
        ({ connection with queue := connection.queue.join courier }.setPhase courier .waiting) []
  | heed (courier : Courier) (waiting : connection.phase courier = .waiting) :
      Move now connection (.heed courier)
        (({ connection with queue := connection.queue.leave courier }.hush courier).setPhase
          courier .told) []
  | weigh (courier : Courier) (told : connection.phase courier = .told) :
      Move now connection (.weigh courier)
        (connection.setPhase courier
          (if connection.desk.dispatcher.published.mayLeave courier then .leaving
          else .deciding)) []
  | pack (action : Action) (courier : Courier) (parcel : Parcel) (queue : SendQueue Courier)
      (internal : ∀ other trip, action ≠ .answer other trip)
      (ready : (connection.phase courier).Takes) (takes : connection.queue.Takes parcel queue) :
      Move now connection action
        ({ connection with queue := queue }.setPhase courier (.packed parcel)) []
  | drain (action : Action) (courier : Courier) (queue : SendQueue Courier)
      (internal : ∀ other trip, action ≠ .answer other trip)
      (ready : (connection.phase courier).Takes) (closed : connection.queue.closed = true)
      (drained : connection.queue.chunks = []) (same : connection.queue.SameGoods queue) :
      Move now connection action
        ({ connection with queue := queue }.setPhase courier .lingering) []
  | clear (courier : Courier) (parcel : Parcel)
      (packed : connection.phase courier = .packed parcel) :
      Move now connection (.clear courier)
        ((connection.hush courier).setPhase courier (.departing parcel)) []
  | depart (courier : Courier) (parcel : Parcel)
      (departing : connection.phase courier = .departing parcel) :
      Move now connection (.depart courier)
        ((connection.notify (.departs courier parcel.payload.length)).setPhase courier
          (.away parcel.serial now)) [.posted courier parcel]
  | bring (courier : Courier) (serial since : Nat) (trip : Trip) (reply : Option (Nat × Bytes))
      (away : connection.phase courier = .away serial since) (read : trip.reply = .ok reply) :
      Move now connection (.answer courier trip)
        (connection.setPhase courier (.arriving reply ((now - since) * nanosPerMilli))) []
  | bringLate (courier : Courier) (serial since : Nat) (trip : Trip) (reply : Nat × Bytes)
      (polling : connection.phase courier = .polling serial since)
      (read : trip.reply = .ok (some reply)) :
      Move now connection (.answer courier trip)
        (connection.setPhase courier (.handing reply true)) []
  | leave (action : Action) (courier : Courier) (queue : SendQueue Courier) (exit : Exit)
      (deeds : List Deed) (same : connection.queue.SameGoods queue)
      (abandons : deeds = [] ∨ ∃ serial, deeds = [.abandoned courier serial])
      (unladen : ∀ parcel, connection.phase courier ≠ .departing parcel)
      (lingered : exit = .drained → ∃ serial since,
        connection.phase courier = .polling serial since)
      (parts : connection.Parts courier)
      (unread : ∀ other trip reply, action = .answer other trip →
        trip.reply ≠ .ok (some reply)) :
      Move now connection action ({ connection with queue := queue }.leave courier exit) deeds
  | arrive (courier : Courier) (reply : Option (Nat × Bytes)) (trip : Nat)
      (arriving : connection.phase courier = .arriving reply trip) :
      Move now connection (.arrive courier)
        ((connection.notify (.arrives courier (payloadLength reply) trip)).setPhase courier
          (.ofReply reply)) []
  | hand (courier : Courier) (reply : Nat × Bytes) (late : Bool)
      (handing : connection.phase courier = .handing reply late) :
      Move now connection (.hand courier)
        ({ connection with replies := connection.replies ++ [reply] }.setPhase courier
          (if late then .lingering else .deciding)) []
  | linger (courier : Courier) (parcel : Parcel) (queue : SendQueue Courier)
      (lingering : connection.phase courier = .lingering)
      (takes : connection.queue.Takes parcel queue) (empty : parcel.payload = []) :
      Move now connection (.linger courier)
        ({ connection with queue := queue }.setPhase courier (.polling parcel.serial now))
        [.posted courier parcel]
  | close : Move now connection .close { connection with cancelled := true } []
  | desk (event : Desk.Event) (desk : Desk) (cancels : Bool)
      (allowed : connection.allowsDesk event = true)
      (stepped : connection.desk.step now event = some (desk, cancels)) :
      Move now connection (.desk event)
        { connection with desk := desk, cancelled := connection.cancelled || cancels } []
  | read (event : Intake.Event) (intake : Intake) (running : intake.phase ≠ .ended)
      (before : connection.intake.phase ≠ .ended) :
      Move now connection (.intake event) { connection with intake := intake } []
  | enqueue (chunk : Bytes) (queuing : connection.intake.phase = .queuing chunk)
      (room : connection.queue.hasRoom = true) :
      Move now connection (.intake .queued)
        { connection with
          intake := { connection.intake with phase := .reading }
          queue := (connection.queue.offer chunk).2 } [.queued chunk]
  | endInput (event : Intake.Event) (cancelled : Bool)
      (kept : connection.cancelled = true → cancelled = true) :
      Move now connection (.intake event)
        { connection with
          intake := { connection.intake with phase := .ended }
          queue := connection.queue.close
          cancelled := cancelled } []
  | order (serial : Nat) (payload : Bytes) (rest : List (Nat × Bytes)) (released : List Bytes)
      (window : SerialWindow Bytes) (receiving : connection.delivery.phase = .receiving)
      (waiting : connection.replies = (serial, payload) :: rest)
      (pushed : connection.delivery.window.push serial payload = .ok (released, window)) :
      Move now connection (.delivery (.reply serial payload))
        { connection with
          delivery := { connection.delivery with window := window }.next released
          replies := rest } []
  | write (count : Nat) (rest : Bytes) (released : List Bytes)
      (writing : connection.delivery.phase = .writing rest released) :
      Move now connection (.delivery (.wrote count))
        { connection with
          delivery :=
            if rest.drop count = [] then
              { connection.delivery with total := connection.delivery.total + count }.next released
            else
              { connection.delivery with
                total := connection.delivery.total + count
                phase := .writing (rest.drop count) released } }
        [.write (rest.take count)]
  | finish (event : Delivery.Event) (failure : Option Failure) (replies : List (Nat × Bytes))
      (fewer : replies.Sublist connection.replies)
      (running : connection.delivery.hasEnded = false)
      (through : failure = none → connection.delivery.phase = .receiving ∧
        connection.replies = [] ∧ connection.deserted = true) :
      Move now connection (.delivery event)
        { connection with
          delivery := { connection.delivery with phase := .ended failure }
          replies := replies
          cancelled := true } [.endStream]

@[simp] theorem phase_set_phase (connection : Connection) (courier other : Courier)
    (phase : Phase) : (connection.setPhase courier phase).phase other =
      if other = courier then phase else connection.phase other := by
  cases courier <;> cases other <;> rfl

theorem set_phase_apart {connection : Connection} {mover courier : Courier} {phase value : Phase}
    (apart : courier ≠ mover) (same : connection.phase courier = value) :
    (connection.setPhase mover phase).phase courier = value := by
  rw [phase_set_phase, if_neg apart]
  exact same

theorem has_left_iff (connection : Connection) (courier : Courier) :
    connection.hasLeft courier = true ↔ ∃ exit, connection.phase courier = .left exit := by
  unfold hasLeft
  cases connection.phase courier <;> simp

theorem deserted_iff (connection : Connection) :
    connection.deserted = true ↔ ∀ courier, ∃ exit, connection.phase courier = .left exit := by
  rw [deserted, Bool.and_eq_true, has_left_iff, has_left_iff]
  constructor
  · rintro ⟨alpha, beta⟩ courier
    cases courier with
    | alpha => exact alpha
    | beta => exact beta
  · exact fun all => ⟨all .alpha, all .beta⟩

theorem with_draw_moves (now : Nat) (connection : Connection) (action : Action)
    (courier : Courier) (queue : SendQueue Courier) (draw : SendQueue.Draw)
    (internal : ∀ other trip, action ≠ .answer other trip)
    (ready : (connection.phase courier).Takes) (drew : connection.queue.Drew queue draw)
    (got : draw ≠ .waiting) :
    Move now connection action ({ connection with queue := queue }.withDraw courier draw) [] := by
  cases draw with
  | parcel parcel => exact .pack action courier parcel queue internal ready drew
  | drained =>
      rcases drew with ⟨closed, empty, goods⟩
      exact .drain action courier queue internal ready closed empty goods
  | waiting => exact absurd rfl got

theorem take_moves (now : Nat) (connection : Connection) (courier : Courier)
    (leaving : connection.phase courier = .leaving) :
    Move now connection (.take courier) (connection.take courier) [] := by
  rcases connection.queue.ready_drew with ⟨drew, got⟩
  exact with_draw_moves now connection _ courier _ _ (by simp) (.inl leaving) drew got

theorem draw_moves (now : Nat) (connection after : Connection) (courier : Courier)
    (waiting : connection.phase courier = .waiting)
    (drawn : connection.draw courier = some after) :
    Move now connection (.draw courier) after [] := by
  have drew := connection.queue.draw_drew courier
  unfold draw at drawn
  generalize connection.queue.draw courier = taken at drew drawn
  rcases taken with ⟨draw, queue⟩
  have got : draw ≠ .waiting := by
    rintro rfl
    simp at drawn
  have moved := with_draw_moves now connection (.draw courier) courier queue draw (by simp)
    (.inr waiting) drew got
  cases draw with
  | parcel parcel =>
      rw [Option.some.inj drawn] at moved
      exact moved
  | drained =>
      rw [Option.some.inj drawn] at moved
      exact moved
  | waiting => exact absurd rfl got

theorem reply_moves (now : Nat) (connection : Connection) (courier : Courier)
    (serial since : Nat) (trip : Trip) (away : connection.phase courier = .away serial since) :
    Move now connection (.answer courier trip)
      (connection.withReply now courier since false trip.reply) [] := by
  cases read : trip.reply with
  | error failure =>
      exact .leave _ courier connection.queue (.failed failure) [] ⟨rfl, rfl, rfl⟩ (.inl rfl)
        (by simp [away]) (by simp) (.away serial since away) (by grind)
  | ok reply => exact .bring courier serial since trip reply away read

theorem late_reply_moves (now : Nat) (connection : Connection) (courier : Courier)
    (serial since : Nat) (trip : Trip)
    (polling : connection.phase courier = .polling serial since) :
    Move now connection (.answer courier trip)
      (connection.withReply now courier since true trip.reply) [] := by
  cases read : trip.reply with
  | error failure =>
      exact .leave _ courier connection.queue (.failed failure) [] ⟨rfl, rfl, rfl⟩ (.inl rfl)
        (by simp [polling]) (by simp) (.polling serial since polling) (by grind)
  | ok reply =>
      cases reply with
      | none =>
          exact .leave _ courier connection.queue .drained [] ⟨rfl, rfl, rfl⟩ (.inl rfl)
            (by simp [polling]) (fun _ => ⟨serial, since, polling⟩)
            (.polling serial since polling) (by grind)
      | some reply => exact .bringLate courier serial since trip reply polling read

theorem hand_moves (now : Nat) (connection after : Connection) (courier : Courier)
    (reply : Nat × Bytes) (late : Bool)
    (handing : connection.phase courier = .handing reply late)
    (handed : connection.hand courier reply late = some after) :
    Move now connection (.hand courier) after [] := by
  unfold hand at handed
  by_cases ended : connection.delivery.hasEnded = true
  · rw [if_pos ended] at handed
    cases handed
    exact .leave _ courier connection.queue .stopped [] ⟨rfl, rfl, rfl⟩ (.inl rfl)
      (by simp [handing]) (by simp) (.handing reply late handing ended) (by simp)
  · rw [if_neg ended] at handed
    by_cases room : connection.replies.length < Terms.replyCapacity
    · rw [if_pos room] at handed
      cases handed
      exact .hand courier reply late handing
    · rw [if_neg room] at handed
      cases handed

theorem intake_moves (now : Nat) (connection after : Connection) (event : Intake.Event)
    (deeds : List Deed) (stepped : connection.stepIntake event = some (after, deeds)) :
    Move now connection (.intake event) after deeds := by
  unfold stepIntake at stepped
  split_ifs at stepped with allowed
  obtain ⟨⟨intake, own⟩, ran, same⟩ := Option.map_eq_some_iff.mp stepped
  cases same
  cases Intake.step_goes _ _ _ _ ran with
  | receives chunk reading some => exact .read _ _ (by simp) (by simp [reading])
  | sees reading => exact .endInput _ connection.cancelled id
  | queues chunk queuing =>
      simp only [allowsIntake, Bool.and_eq_true] at allowed
      exact .enqueue chunk queuing allowed.2
  | stops event reading cause => exact .endInput event true fun _ => rfl
  | breaksOff event chunk queuing cause => exact .endInput event true fun _ => rfl

theorem delivery_moves (now : Nat) (connection after : Connection) (event : Delivery.Event)
    (deeds : List Deed) (stepped : connection.stepDelivery event = some (after, deeds)) :
    Move now connection (.delivery event) after deeds := by
  unfold stepDelivery at stepped
  split_ifs at stepped with allowed
  obtain ⟨⟨delivery, own⟩, ran, same⟩ := Option.map_eq_some_iff.mp stepped
  cases same
  cases event with
  | reply serial payload =>
      cases phase : connection.delivery.phase <;> simp only [Delivery.step, phase] at ran
      case receiving =>
        simp only [allowsDelivery, beq_iff_eq] at allowed
        obtain ⟨rest, waiting⟩ := List.head?_eq_some_iff.mp allowed
        cases pushed : connection.delivery.window.push serial payload with
        | ok result =>
            rcases result with ⟨released, window⟩
            rw [pushed] at ran
            cases ran
            have moved : Move now connection (.delivery (.reply serial payload)) _ _ :=
              .order serial payload rest released window phase waiting pushed
            simpa [waiting, deliveryDeeds, phase] using moved
        | error refusal =>
            have fewer : connection.replies.tail.Sublist connection.replies :=
              List.tail_sublist _
            have running : connection.delivery.hasEnded = false := by
              simp [Delivery.hasEnded, phase]
            rw [pushed] at ran
            cases refusal <;>
              · cases ran
                simpa [deliveryDeeds] using
                  Move.finish (.reply serial payload) (some _) _ fewer running (by simp)
      all_goals cases ran
  | exhausted =>
      cases phase : connection.delivery.phase <;> simp only [Delivery.step, phase] at ran
      case receiving =>
        cases ran
        have fewer : connection.replies.Sublist connection.replies := List.Sublist.refl _
        have running : connection.delivery.hasEnded = false := by simp [Delivery.hasEnded, phase]
        have through : connection.replies = [] ∧ connection.deserted = true := by
          simpa [allowsDelivery] using allowed
        simpa [deliveryDeeds] using
          Move.finish .exhausted none _ fewer running fun _ => ⟨phase, through⟩
      all_goals cases ran
  | wrote count =>
      cases phase : connection.delivery.phase <;> simp only [Delivery.step, phase] at ran
      case writing rest released =>
        have moved : Move now connection (.delivery (.wrote count)) _ _ :=
          .write count rest released phase
        split_ifs at ran with fits written
        · cases ran
          simp only [if_pos written] at moved
          simpa [deliveryDeeds, phase] using moved
        · cases ran
          simp only [if_neg written] at moved
          simpa [deliveryDeeds, phase] using moved
      all_goals cases ran
  | failed cause =>
      cases phase : connection.delivery.phase <;> simp only [Delivery.step, phase] at ran
      case writing rest released =>
        cases ran
        have fewer : connection.replies.Sublist connection.replies := List.Sublist.refl _
        have running : connection.delivery.hasEnded = false := by simp [Delivery.hasEnded, phase]
        simpa [deliveryDeeds] using
          Move.finish (.failed cause) (some _) _ fewer running (by simp)
      all_goals cases ran

/-- What an action does is a move of the connection. -/
theorem step_moves (now : Nat) (connection after : Connection) (action : Action)
    (deeds : List Deed) (stepped : connection.step now action = some (after, deeds)) :
    Move now connection action after deeds := by
  cases action with
  | decide courier =>
      cases phase : connection.phase courier <;> simp only [step, phase] at stepped
      case deciding =>
        cases stepped
        exact .decide courier phase
      all_goals cases stepped
  | join courier =>
      cases phase : connection.phase courier <;> simp only [step, phase] at stepped
      case staying =>
        cases stepped
        exact .join courier phase
      all_goals cases stepped
  | heed courier =>
      cases phase : connection.phase courier <;> simp only [step, phase] at stepped
      case waiting =>
        split_ifs at stepped
        cases stepped
        exact .heed courier phase
      all_goals cases stepped
  | weigh courier =>
      cases phase : connection.phase courier <;> simp only [step, phase] at stepped
      case told =>
        cases stepped
        exact .weigh courier phase
      all_goals cases stepped
  | take courier =>
      cases phase : connection.phase courier <;> simp only [step, phase] at stepped
      case leaving =>
        cases stepped
        exact take_moves now connection courier phase
      all_goals cases stepped
  | draw courier =>
      cases phase : connection.phase courier <;> simp only [step, phase] at stepped
      case waiting =>
        obtain ⟨_, drawn, same⟩ := Option.map_eq_some_iff.mp stepped
        cases same
        exact draw_moves now connection after courier phase drawn
      all_goals cases stepped
  | clear courier =>
      cases phase : connection.phase courier <;> simp only [step, phase] at stepped
      case packed parcel =>
        cases stepped
        exact .clear courier parcel phase
      all_goals cases stepped
  | depart courier =>
      cases phase : connection.phase courier <;> simp only [step, phase] at stepped
      case departing parcel =>
        split_ifs at stepped
        cases stepped
        exact .depart courier parcel phase
      all_goals cases stepped
  | answer courier trip =>
      cases phase : connection.phase courier <;> simp only [step, phase] at stepped
      case away serial since =>
        cases stepped
        exact reply_moves now connection courier serial since trip phase
      case polling serial since =>
        cases stepped
        exact late_reply_moves now connection courier serial since trip phase
      all_goals cases stepped
  | overdue courier =>
      cases phase : connection.phase courier <;> simp only [step, phase] at stepped
      case away serial since =>
        split_ifs at stepped
        cases stepped
        exact .leave _ courier connection.queue _ _ ⟨rfl, rfl, rfl⟩ (.inr ⟨serial, rfl⟩)
          (by simp [phase]) (by simp) (.away serial since phase) (by simp)
      case polling serial since =>
        split_ifs at stepped
        cases stepped
        exact .leave _ courier connection.queue _ _ ⟨rfl, rfl, rfl⟩ (.inr ⟨serial, rfl⟩)
          (by simp [phase]) (by simp) (.polling serial since phase) (by simp)
      all_goals cases stepped
  | expire courier =>
      cases phase : connection.phase courier <;> simp only [step, phase] at stepped
      case polling serial since =>
        split_ifs at stepped
        cases stepped
        exact .leave _ courier connection.queue _ _ ⟨rfl, rfl, rfl⟩ (.inr ⟨serial, rfl⟩)
          (by simp [phase]) (fun _ => ⟨serial, since, phase⟩) (.polling serial since phase)
          (by simp)
      all_goals cases stepped
  | arrive courier =>
      cases phase : connection.phase courier <;> simp only [step, phase] at stepped
      case arriving reply trip =>
        split_ifs at stepped
        have moved : Move now connection (.arrive courier) _ _ := .arrive courier reply trip phase
        cases reply with
        | none =>
            cases stepped
            exact moved
        | some reply =>
            cases stepped
            exact moved
      all_goals cases stepped
  | hand courier =>
      cases phase : connection.phase courier <;> simp only [step, phase] at stepped
      case handing reply late =>
        obtain ⟨_, handed, same⟩ := Option.map_eq_some_iff.mp stepped
        cases same
        exact hand_moves now connection after courier reply late phase handed
      all_goals cases stepped
  | linger courier =>
      cases phase : connection.phase courier <;> simp only [step, phase] at stepped
      case lingering =>
        cases stepped
        rcases connection.queue.empty_takes with ⟨takes, light⟩
        exact .linger courier connection.queue.empty.1 connection.queue.empty.2 phase takes light
      all_goals cases stepped
  | halt courier =>
      simp only [step] at stepped
      split_ifs at stepped
      cases phase : connection.phase courier <;> simp only [phase] at stepped
      case waiting =>
        cases stepped
        exact .leave _ courier (connection.queue.leave courier) _ _ ⟨rfl, rfl, rfl⟩ (.inl rfl)
          (by simp [phase]) (by simp) (.waiting phase) (by simp)
      case away serial since =>
        cases stepped
        exact .leave _ courier connection.queue _ _ ⟨rfl, rfl, rfl⟩ (.inr ⟨serial, rfl⟩)
          (by simp [phase]) (by simp) (.away serial since phase) (by simp)
      case polling serial since =>
        cases stepped
        exact .leave _ courier connection.queue _ _ ⟨rfl, rfl, rfl⟩ (.inr ⟨serial, rfl⟩)
          (by simp [phase]) (by simp) (.polling serial since phase) (by simp)
      all_goals cases stepped
  | close =>
      simp only [step] at stepped
      split_ifs at stepped
      cases stepped
      exact .close
  | desk event =>
      simp only [step, stepDesk, Option.map_eq_some_iff] at stepped
      rcases stepped with ⟨told, stepped, same⟩
      cases same
      split_ifs at stepped with allowed
      obtain ⟨⟨desk, cancels⟩, ran, same⟩ := Option.map_eq_some_iff.mp stepped
      cases same
      exact .desk event desk cancels allowed ran
  | intake event => exact intake_moves now connection after event deeds stepped
  | delivery event => exact delivery_moves now connection after event deeds stepped

end HttpTunnel.Client.Connection
