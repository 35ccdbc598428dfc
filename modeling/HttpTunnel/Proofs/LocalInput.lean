import HttpTunnel.Proofs.ConnectionRuns

/-!
What the application says and what the local reader hears of it. Bytes wait in the socket, then
with the reader, then they are queued; until the reader stops, these three places hold all that
was said. A reader that has seen the end has queued everything.
-/

namespace HttpTunnel.Client

namespace Connection

open Relay (queued)

/-- What the local reader does in an action of its own. -/
inductive Hears (before after : Connection) : Intake.Event → List Deed → Prop where
  | receives (chunk : Bytes) (reading : before.intake.phase = .reading)
      (holds : after.intake.phase = .queuing chunk) : Hears before after (.received chunk) []
  | sees (reading : before.intake.phase = .reading) (ended : after.intake.phase = .ended) :
      Hears before after .endOfInput []
  | queues (chunk : Bytes) (queuing : before.intake.phase = .queuing chunk)
      (reads : after.intake.phase = .reading) : Hears before after .queued [.queued chunk]
  | stops (event : Intake.Event) (unseen : event ≠ .endOfInput)
      (running : before.intake.phase ≠ .ended) (ended : after.intake.phase = .ended)
      (cancels : after.cancelled = true) : Hears before after event []

section Steps

variable (now : Nat) (before after : Connection) (deeds : List Deed)

theorem intake_hears (event : Intake.Event)
    (stepped : before.stepIntake event = some (after, deeds)) : Hears before after event deeds := by
  unfold stepIntake at stepped
  split_ifs at stepped with allowed
  obtain ⟨⟨intake, own⟩, ran, same⟩ := Option.map_eq_some_iff.mp stepped
  cases same
  cases Intake.step_goes _ _ _ _ ran with
  | receives chunk reading some => exact .receives chunk reading rfl
  | sees reading => exact .sees reading rfl
  | queues chunk queuing => exact .queues chunk queuing rfl
  | stops event reading cause =>
      refine .stops event ?_ (by simp [reading]) rfl rfl
      rcases cause with rfl | rfl <;> simp
  | breaksOff event chunk queuing cause =>
      refine .stops event ?_ (by simp [queuing]) rfl rfl
      rcases cause with rfl | rfl <;> simp

theorem move_reads (action : Action) (other : ∀ event, action ≠ .intake event)
    (move : Move now before action after deeds) :
    after.intake = before.intake ∧ queued (deeds.filterMap Relay.Deed.ofClient?) = [] := by
  cases move with
  | read event intake running goes => exact absurd rfl (other event)
  | enqueue chunk queuing room => exact absurd rfl (other .queued)
  | endInput event cancelled kept => exact absurd rfl (other event)
  | leave _ courier queue exit deeds same abandons unladen lingered =>
      constructor
      · unfold Connection.leave
        split_ifs <;> rfl
      · rcases abandons with rfl | ⟨serial, rfl⟩ <;> rfl
  | _ => exact ⟨rfl, rfl⟩

theorem move_cancelled (action : Action) (move : Move now before action after deeds)
    (cancelled : before.cancelled = true) : after.cancelled = true := by
  cases move with
  | leave _ courier queue exit deeds same abandons unladen lingered =>
      unfold Connection.leave
      split_ifs
      · exact cancelled
      · rfl
  | close => rfl
  | desk event desk cancels allowed stepped => simp [cancelled]
  | endInput event _ kept => exact kept cancelled
  | finish event failure replies fewer running through => rfl
  | _ => exact cancelled

end Steps

theorem deeds_keep_input (deeds : List Deed) (socket : Socket) :
    (deeds.foldl applyToSocket socket).incoming = socket.incoming ∧
      (deeds.foldl applyToSocket socket).peerEnded = socket.peerEnded := by
  induction deeds generalizing socket with
  | nil => exact ⟨rfl, rfl⟩
  | cons deed deeds induction =>
      obtain ⟨incoming, ended⟩ := induction (applyToSocket socket deed)
      have kept : (applyToSocket socket deed).incoming = socket.incoming ∧
          (applyToSocket socket deed).peerEnded = socket.peerEnded := by
        cases deed with
        | write chunk =>
            show (socket.write chunk).incoming = _ ∧ (socket.write chunk).peerEnded = _
            unfold Socket.write
            split_ifs <;> exact ⟨rfl, rfl⟩
        | _ => exact ⟨rfl, rfl⟩
      exact ⟨incoming.trans kept.1, ended.trans kept.2⟩

theorem move_keeps_input (now : Nat) (socket later : Socket) (before after : Connection)
    (action : Action) (deeds : List Deed)
    (moved : before.move now socket action = some (after, later, deeds)) :
    later.peerEnded = socket.peerEnded ∧ ((∃ chunk, action = .intake (.received chunk) ∧
      later.incoming = socket.incoming.drop chunk.length) ∨
      (∀ chunk, action ≠ .intake (.received chunk)) ∧ later.incoming = socket.incoming) := by
  unfold Connection.move at moved
  split_ifs at moved
  obtain ⟨⟨next, done⟩, stepped, same⟩ := Option.map_eq_some_iff.mp moved
  cases same
  cases action with
  | intake event =>
      cases event with
      | received chunk =>
          obtain ⟨incoming, ended⟩ := deeds_keep_input deeds (socket.consume chunk.length)
          exact ⟨ended, .inl ⟨chunk, rfl, incoming⟩⟩
      | _ =>
          obtain ⟨incoming, ended⟩ := deeds_keep_input deeds socket
          exact ⟨ended, .inr ⟨by simp, incoming⟩⟩
  | _ =>
      obtain ⟨incoming, ended⟩ := deeds_keep_input deeds socket
      exact ⟨ended, .inr ⟨by simp, incoming⟩⟩

end Connection

namespace Site

open Relay (queued)

/-- What the application wrote before it ended its side. -/
def said (trace : List Stride) : Bytes :=
  trace.flatMap fun stride =>
    match stride.happening with
    | .application (.send chunk) => if stride.before.socket.peerEnded then [] else chunk
    | _ => []

/-- The local reader has seen the end of what the application wrote. -/
def SawEnd (trace : List Stride) : Prop :=
  ∃ stride ∈ trace, stride.happening = .act (.intake .endOfInput)

theorem said_append (trace further : List Stride) :
    said (trace ++ further) = said trace ++ said further :=
  List.flatMap_append

/-- Where the bytes are that the application wrote. -/
structure Listened (site : Site) (said queued : Bytes) (sawEnd : Prop) : Prop where
  reading : site.connection.intake.phase = .reading → said = queued ++ site.socket.incoming
  queuing : ∀ chunk, site.connection.intake.phase = .queuing chunk →
    said = queued ++ chunk ++ site.socket.incoming
  seen : sawEnd → site.connection.intake.phase = .ended ∧ said = queued ∧
    site.socket.peerEnded = true

section Turns

variable {before : Site} (after : Site) {spoken input : Bytes} {ended : Prop}

theorem Listened.waits (listened : before.Listened spoken input ended) (added : Bytes)
    (intake : after.connection.intake = before.connection.intake)
    (incoming : after.socket.incoming = before.socket.incoming ++ added)
    (keeps : before.socket.peerEnded = true → after.socket.peerEnded = true ∧ added = []) :
    after.Listened (spoken ++ added) input ended := by
  constructor
  · intro reading
    rw [intake] at reading
    rw [incoming, listened.reading reading, List.append_assoc]
  · intro chunk queuing
    rw [intake] at queuing
    rw [incoming, listened.queuing chunk queuing, List.append_assoc]
  · intro seen
    obtain ⟨stopped, all, silent⟩ := listened.seen seen
    obtain ⟨still, nothing⟩ := keeps silent
    rw [intake, nothing, List.append_nil]
    exact ⟨stopped, all, still⟩

theorem follow_adds (now : Nat) (move : Socket.PeerMove) :
    let later : Site := { before with socket := before.socket.follow move }
    let added := said [⟨now, .application move, before, later, []⟩]
    (before.socket.follow move).incoming = before.socket.incoming ++ added ∧
      (before.socket.peerEnded = true →
        (before.socket.follow move).peerEnded = true ∧ added = []) := by
  cases move with
  | send chunk =>
      simp only [said, List.flatMap_singleton, Socket.follow, Socket.peerSend]
      split_ifs with silent
      · exact ⟨(List.append_nil _).symm, fun _ => ⟨silent, rfl⟩⟩
      · exact ⟨rfl, fun still => absurd still silent⟩
  | close =>
      simp only [said, List.flatMap_singleton, Socket.follow, Socket.peerClose, List.append_nil]
      split_ifs
      · exact ⟨rfl, fun still => ⟨still, trivial⟩⟩
      · exact ⟨rfl, fun _ => ⟨rfl, trivial⟩⟩
  | finish => exact ⟨(List.append_nil _).symm, fun _ => ⟨rfl, rfl⟩⟩
  | pause => exact ⟨(List.append_nil _).symm, fun still => ⟨still, rfl⟩⟩
  | resume => exact ⟨(List.append_nil _).symm, fun still => ⟨still, rfl⟩⟩

theorem take_keeps (socket : Socket) :
    socket.peerTake.2.incoming = socket.incoming ∧
      socket.peerTake.2.peerEnded = socket.peerEnded := by
  unfold Socket.peerTake
  split_ifs <;> exact ⟨rfl, rfl⟩

theorem Listened.hears (listened : before.Listened spoken input ended) (now : Nat)
    (event : Intake.Event) (deeds : List Connection.Deed)
    (allowed : before.connection.agrees before.socket (.intake event) = true)
    (moved : before.connection.move now before.socket (.intake event) =
      some (after.connection, after.socket, deeds))
    (hears : Connection.Hears before.connection after.connection event deeds) :
    after.Listened spoken (input ++ queued (deeds.filterMap Relay.Deed.ofClient?))
      (ended ∨ event = .endOfInput) := by
  obtain ⟨silence, waiting⟩ := Connection.move_keeps_input now _ _ _ _ _ _ moved
  have unseen : before.connection.intake.phase ≠ .ended → ¬ended :=
    fun running seen => running (listened.seen seen).1
  have nothing : input ++ queued (([] : List Connection.Deed).filterMap Relay.Deed.ofClient?) =
      input := List.append_nil _
  cases hears with
  | receives chunk reading holds =>
      rcases waiting with ⟨taken, same, incoming⟩ | ⟨other, _⟩
      · cases same
        obtain ⟨rest, split⟩ := List.isPrefixOf_iff_prefix.mp allowed
        rw [nothing]
        constructor
        · intro reads
          rw [holds] at reads
          cases reads
        · intro own queuing
          rw [holds] at queuing
          cases queuing
          rw [listened.reading reading, incoming, ← split, List.drop_left, List.append_assoc]
        · rintro (seen | other)
          · exact absurd seen (unseen (by simp [reading]))
          · cases other
      · exact absurd rfl (other chunk)
  | sees reading stopped =>
      -- The end is seen only when no byte waits any more.
      have dry := Socket.look_ended before.socket _ (beq_iff_eq.mp allowed)
      rw [nothing]
      constructor
      · intro reads
        rw [stopped] at reads
        cases reads
      · intro own queuing
        rw [stopped] at queuing
        cases queuing
      · intro _
        refine ⟨stopped, ?_, silence.trans dry.2⟩
        rw [listened.reading reading, dry.1, List.append_nil]
  | queues chunk queuing reads =>
      rcases waiting with ⟨taken, same, _⟩ | ⟨_, incoming⟩
      · cases same
      · have bytes : queued ([Connection.Deed.queued chunk].filterMap Relay.Deed.ofClient?) =
            chunk := by simp [queued, Relay.Deed.ofClient?]
        rw [bytes]
        constructor
        · intro _
          rw [listened.queuing chunk queuing, incoming]
        · intro own holds
          rw [reads] at holds
          cases holds
        · rintro (seen | other)
          · exact absurd seen (unseen (by simp [queuing]))
          · cases other
  | stops _ other running stopped cancels =>
      rw [nothing]
      constructor
      · intro reads
        rw [stopped] at reads
        cases reads
      · intro own queuing
        rw [stopped] at queuing
        cases queuing
      · rintro (seen | same)
        · exact absurd seen (unseen running)
        · exact absurd same other

end Turns

theorem run_listened (terms : Terms) (start : Nat) (script : List (Nat × Happening)) (site : Site)
    (trace : List Stride) (ran : (ofStart terms start).run script = some (site, trace)) :
    site.Listened (said trace) (queued (passed trace)) (SawEnd trace) := by
  refine run_keeps (fun site past => site.Listened (said past) (queued (passed past))
    (SawEnd past)) ?_ script _ site [] trace ?_ ran
  · intro now before past happening after deeds listened turn
    have seen : SawEnd (past ++ [⟨now, happening, before, after, deeds⟩]) ↔
        SawEnd past ∨ happening = .act (.intake .endOfInput) := by
      simp [SawEnd, or_and_right, exists_or]
    rw [passed_last, Relay.queued_append, said_append, seen]
    cases turn with
    | acts action connection socket _ allowed stepped moved =>
        have silent : said [⟨now, .act action, before, ⟨connection, socket⟩, deeds⟩] = [] := rfl
        rw [silent]
        have move := Connection.step_moves now before.connection connection action deeds stepped
        by_cases own : ∃ event, action = .intake event
        · obtain ⟨event, rfl⟩ := own
          have heard := listened.hears ⟨connection, socket⟩ now event deeds allowed moved
            (Connection.intake_hears before.connection connection deeds event stepped)
          simpa using heard
        · have other : ∀ event, action ≠ .intake event := fun event same => own ⟨event, same⟩
          obtain ⟨intake, none⟩ := Connection.move_reads now _ _ deeds action other move
          obtain ⟨silence, ⟨chunk, same, _⟩ | ⟨_, incoming⟩⟩ :=
            Connection.move_keeps_input now _ _ _ _ _ _ moved
          · exact absurd same (other _)
          · have waits := listened.waits ⟨connection, socket⟩ [] intake
              (incoming.trans (List.append_nil _).symm) fun still => ⟨silence.trans still, rfl⟩
            simpa [none, other] using waits
    | follows move =>
        obtain ⟨incoming, keeps⟩ := follow_adds now move
        have waits := listened.waits { before with socket := before.socket.follow move } _ rfl
          incoming keeps
        simpa [queued] using waits
    | reads =>
        obtain ⟨incoming, silence⟩ := take_keeps before.socket
        have waits := listened.waits { before with socket := before.socket.peerTake.2 } [] rfl
          (incoming.trans (List.append_nil _).symm) fun still => ⟨silence.trans still, rfl⟩
        simpa [queued, said] using waits
  · constructor
    · exact fun _ => rfl
    · intro chunk queuing
      cases queuing
    · rintro ⟨stride, member, _⟩
      cases member

theorem saw_end_append (trace further : List Stride) (saw : SawEnd trace) :
    SawEnd (trace ++ further) := by
  obtain ⟨stride, member, here⟩ := saw
  exact ⟨stride, List.mem_append_left _ member, here⟩

/-- A local reader ends with the end of the input, or the connection is cancelled then. -/
theorem run_ends_seen (terms : Terms) (start : Nat) (script : List (Nat × Happening)) (site : Site)
    (trace : List Stride) (ran : (ofStart terms start).run script = some (site, trace))
    (ended : site.connection.intake.phase = .ended) :
    SawEnd trace ∨ site.connection.cancelled = true := by
  refine run_keeps (fun site past => site.connection.intake.phase = .ended →
    SawEnd past ∨ site.connection.cancelled = true) ?_ script _ site [] trace
    (by intro shut; cases shut) ran ended
  intro now before past happening after deeds known turn stopped
  cases turn with
  | acts action connection socket _ allowed stepped moved =>
      have move := Connection.step_moves now before.connection connection action deeds stepped
      have goesOn : before.connection.intake.phase = .ended →
          SawEnd (past ++ [⟨now, .act action, before, ⟨connection, socket⟩, deeds⟩]) ∨
            connection.cancelled = true := fun before =>
        (known before).imp (saw_end_append _ _)
          (Connection.move_cancelled now _ _ deeds action move)
      by_cases own : ∃ event, action = .intake event
      · obtain ⟨event, rfl⟩ := own
        cases Connection.intake_hears before.connection connection deeds event stepped with
        | receives chunk reading holds =>
            rw [holds] at stopped
            cases stopped
        | sees reading shut =>
            exact .inl ⟨_, List.mem_append_right _ (List.mem_singleton_self _), rfl⟩
        | queues chunk queuing reads =>
            rw [reads] at stopped
            cases stopped
        | stops _ other running shut cancels => exact .inr cancels
      · have other : ∀ event, action ≠ .intake event := fun event same => own ⟨event, same⟩
        obtain ⟨intake, _⟩ := Connection.move_reads now _ _ deeds action other move
        rw [intake] at stopped
        exact goesOn stopped
  | follows move => exact (known stopped).imp_left (saw_end_append _ _)
  | reads => exact (known stopped).imp_left (saw_end_append _ _)

end Site

end HttpTunnel.Client
