import HttpTunnel.Client.Inlet
import Mathlib.Data.List.Basic
import Mathlib.Tactic.SplitIfs

/-!
Runs of a local reader alone. The application writes, ends its side and closes, somebody takes from
the queue or goes away, a read fails and the connection is cancelled, each at any instant. What is
queued is what was read, except for a chunk that the reader was left with. A reader that sees the
end of the input has queued everything when it closes the queue, and it cancels nothing; one that
stops for any other reason cancels the connection.
-/

namespace HttpTunnel.Client.Inlet

section Runs

inductive Happening where
  /-- Something that the others do. -/
  | does (deed : Deed)
  | meets (event : Intake.Event)

inductive Entry where
  | did (before : Inlet) (deed : Deed) (result : Result)
  | met (event : Intake.Event) (deeds : List Intake.Deed)

def happen (inlet : Inlet) : Happening → Option (Inlet × Entry)
  | .does deed => some ((inlet.perform deed).2, .did inlet deed (inlet.perform deed).1)
  | .meets event => (inlet.meet event).map fun (after, deeds) => (after, .met event deeds)

def run (inlet : Inlet) : List Happening → Option (Inlet × List Entry)
  | [] => some (inlet, [])
  | happening :: script => do
      let (middle, entry) ← inlet.happen happening
      let (after, trace) ← middle.run script
      return (after, entry :: trace)

def read : Intake.Event → List Bytes
  | .received chunk => [chunk]
  | _ => []

def enqueued : Intake.Deed → List Bytes
  | .enqueue chunk => [chunk]
  | _ => []

namespace Entry

/-- What the application wrote, if it had not ended its side. -/
def written : Entry → Bytes
  | .did before (.write chunk) _ => if before.socket.peerEnded then [] else chunk
  | _ => []

/-- The chunk that was read. -/
def received : Entry → List Bytes
  | .met event _ => read event
  | _ => []

def events : Entry → List Intake.Event
  | .met event _ => [event]
  | _ => []

def deeds : Entry → List Intake.Deed
  | .met _ deeds => deeds
  | _ => []

/-- The chunks that the reader queued. -/
def queued : Entry → List Bytes
  | .met _ deeds => deeds.flatMap enqueued
  | _ => []

def taken : Entry → List Bytes
  | .did _ _ (.chunk chunk) => [chunk]
  | _ => []

section Parts

variable (before : Inlet) (deed : Deed) (result : Result)
variable (event : Intake.Event) (acts : List Intake.Deed)

@[simp] theorem did_received : (did before deed result).received = [] := rfl

@[simp] theorem did_events : (did before deed result).events = [] := rfl

@[simp] theorem did_deeds : (did before deed result).deeds = [] := rfl

@[simp] theorem did_queued : (did before deed result).queued = [] := rfl

@[simp] theorem met_written : (met event acts).written = [] := rfl

@[simp] theorem met_received : (met event acts).received = read event := rfl

@[simp] theorem met_events : (met event acts).events = [event] := rfl

@[simp] theorem met_deeds : (met event acts).deeds = acts := rfl

@[simp] theorem met_queued : (met event acts).queued = acts.flatMap enqueued := rfl

@[simp] theorem met_taken : (met event acts).taken = [] := rfl

end Parts

end Entry

inductive Turn (before : Inlet) : Inlet → Entry → Prop where
  | others (after : Inlet) (deed : Deed) (result : Result) (same : after.intake = before.intake)
      (incoming : after.socket.incoming =
        before.socket.incoming ++ (Entry.did before deed result).written)
      (silent : before.socket.peerEnded = true →
        after.socket.peerEnded = true ∧ (Entry.did before deed result).written = [])
      (chunks : before.queue.chunks = (Entry.did before deed result).taken ++ after.queue.chunks)
      (closed : after.queue.closed = before.queue.closed)
      (cancelled : before.cancelled = true → after.cancelled = true) :
      Turn before after (.did before deed result)
  | receives (chunk rest : Bytes) (total : Nat) (reading : before.intake.phase = .reading)
      (incoming : before.socket.incoming = chunk ++ rest) :
      Turn before
        { before with
          intake := ⟨.queuing chunk, total⟩
          socket := { before.socket with incoming := rest } }
        (.met (.received chunk) [])
  | sees (intake : Intake) (reading : before.intake.phase = .reading)
      (dry : before.socket.incoming = []) (silent : before.socket.peerEnded = true)
      (ended : intake.phase = .ended) :
      Turn before { before with intake := intake, queue := before.queue.close }
        (.met .endOfInput [.closeQueue])
  | queues (chunk : Bytes) (intake : Intake)
      (queuing : before.intake.phase = .queuing chunk) (room : before.queue.hasRoom = true)
      (reads : intake.phase = .reading) :
      Turn before { before with intake := intake, queue := (before.queue.offer chunk).2 }
        (.met .queued [.enqueue chunk])
  | stops (event : Intake.Event) (intake : Intake)
      (reading : before.intake.phase = .reading) (cause : event = .failed ∨ event = .halted)
      (ended : intake.phase = .ended) :
      Turn before
        { before with intake := intake, queue := before.queue.close, cancelled := true }
        (.met event [.closeQueue, .cancel])
  | breaksOff (event : Intake.Event) (chunk : Bytes) (intake : Intake)
      (queuing : before.intake.phase = .queuing chunk)
      (cause : event = .refused ∨ event = .halted) (ended : intake.phase = .ended) :
      Turn before
        { before with intake := intake, queue := before.queue.close, cancelled := true }
        (.met event [.closeQueue, .cancel])

theorem perform_turns (inlet : Inlet) (deed : Deed) :
    Turn inlet (inlet.perform deed).2 (.did inlet deed (inlet.perform deed).1) := by
  cases deed with
  | write chunk =>
      refine .others _ _ _ rfl ?_ ?_ rfl rfl id
      · simp only [perform, Socket.peerSend, Entry.written]
        split_ifs
        · exact (List.append_nil _).symm
        · rfl
      · intro silent
        simp [perform, Socket.peerSend, Entry.written, silent]
  | endInput =>
      exact .others _ _ _ rfl (List.append_nil _).symm (fun _ => ⟨rfl, rfl⟩) rfl rfl id
  | close =>
      refine .others _ _ _ rfl ?_ ?_ rfl rfl id
      · simp only [perform, Socket.peerClose, Entry.written, List.append_nil]
        split_ifs <;> rfl
      · intro silent
        simp only [perform, Socket.peerClose, Entry.written]
        split_ifs
        · exact ⟨silent, trivial⟩
        · exact ⟨rfl, trivial⟩
  | cancel =>
      exact .others _ _ _ rfl (List.append_nil _).symm (fun silent => ⟨silent, rfl⟩) rfl rfl
        fun _ => rfl
  | dropQueue =>
      exact .others _ _ _ rfl (List.append_nil _).symm (fun silent => ⟨silent, rfl⟩) rfl rfl id
  | take =>
      have nothing : ∀ result, (Entry.did inlet .take result).taken = [] →
          Turn inlet inlet (.did inlet .take result) := fun result none =>
        .others _ _ _ rfl (List.append_nil _).symm (fun silent => ⟨silent, rfl⟩) (by rw [none]; rfl)
          rfl id
      cases wanted : inlet.wanted with
      | false =>
          have gone : inlet.perform .take = (.gone, inlet) := by simp [perform, wanted]
          rw [gone]
          exact nothing .gone rfl
      | true =>
          cases queued : inlet.queue.chunks with
          | nil =>
              have bare : inlet.perform .take =
                  (if inlet.queue.closed then .closed else .empty, inlet) := by
                simp [perform, wanted, queued]
              rw [bare]
              apply nothing
              dsimp only
              split_ifs <;> rfl
          | cons chunk rest =>
              have first : inlet.perform .take =
                  (.chunk chunk, { inlet with queue := { inlet.queue with chunks := rest } }) := by
                simp [perform, wanted, queued]
              rw [first]
              exact .others _ _ _ rfl (List.append_nil _).symm (fun silent => ⟨silent, rfl⟩) queued
                rfl id

theorem meet_turns (inlet after : Inlet) (event : Intake.Event)
    (deeds : List Intake.Deed) (met : inlet.meet event = some (after, deeds)) :
    Turn inlet after (.met event deeds) := by
  unfold meet at met
  split_ifs at met with allowed
  obtain ⟨⟨intake, own⟩, stepped, same⟩ := Option.map_eq_some_iff.mp met
  cases same
  cases Intake.step_goes _ _ _ _ stepped with
  | receives chunk reading some =>
      obtain ⟨rest, incoming⟩ := List.isPrefixOf_iff_prefix.mp allowed
      have left : inlet.heard (.received chunk) = { inlet.socket with incoming := rest } := by
        rw [heard, Socket.consume, ← incoming, List.drop_left]
      rw [left]
      exact .receives chunk rest _ reading incoming.symm
  | sees reading =>
      have dry := Socket.look_ended inlet.socket _ (beq_iff_eq.mp allowed)
      exact .sees _ reading dry.1 dry.2 rfl
  | queues chunk queuing =>
      exact .queues chunk _ queuing (Bool.and_eq_true_iff.mp allowed).2 rfl
  | stops event reading cause =>
      have quiet : inlet.heard event = inlet.socket := by rcases cause with rfl | rfl <;> rfl
      rw [quiet]
      exact .stops event _ reading cause rfl
  | breaksOff event chunk queuing cause =>
      have quiet : inlet.heard event = inlet.socket := by rcases cause with rfl | rfl <;> rfl
      rw [quiet]
      exact .breaksOff event chunk _ queuing cause rfl

theorem happen_turns (inlet after : Inlet) (happening : Happening) (entry : Entry)
    (happened : inlet.happen happening = some (after, entry)) : Turn inlet after entry := by
  cases happening with
  | does deed =>
      cases happened
      exact perform_turns inlet deed
  | meets event =>
      obtain ⟨⟨last, deeds⟩, met, same⟩ := Option.map_eq_some_iff.mp happened
      cases same
      exact meet_turns inlet _ event deeds met

theorem run_keeps (invariant : Inlet → List Entry → Prop)
    (keeps : ∀ before after past entry, invariant before past → Turn before after entry →
      invariant after (past ++ [entry]))
    (script : List Happening) (inlet after : Inlet) (past trace : List Entry)
    (start : invariant inlet past) (ran : inlet.run script = some (after, trace)) :
    invariant after (past ++ trace) := by
  induction script generalizing inlet past trace with
  | nil =>
      cases ran
      rw [List.append_nil]
      exact start
  | cons happening script induction =>
      simp only [run, Option.bind_eq_bind, Option.bind_eq_some_iff] at ran
      rcases ran with ⟨⟨middle, entry⟩, happened, ⟨last, later⟩, rest, same⟩
      cases same
      have turn := happen_turns inlet middle happening entry happened
      have here := keeps inlet middle past entry start turn
      have there := induction middle (past ++ [entry]) later here rest
      rwa [List.append_assoc] at there

end Runs

section Account

/-- The reader has queued its chunks, and thereafter it has done this, in any order. -/
def Closes (trace : List Entry) (closing : List Intake.Deed) : Prop :=
  ∃ last, List.Perm last closing ∧
    trace.flatMap Entry.deeds = (trace.flatMap Entry.queued).map .enqueue ++ last

inductive Ended (inlet : Inlet) (trace : List Entry) : Prop where
  /-- It saw the end of the input. -/
  | drained (last : (trace.flatMap Entry.events).getLast? = some .endOfInput)
      (chunks : trace.flatMap Entry.received = trace.flatMap Entry.queued)
      (whole : trace.flatMap Entry.written = (trace.flatMap Entry.queued).flatten)
      (silent : inlet.socket.peerEnded = true) (closes : Closes trace [.closeQueue])
  | stopped (event : Intake.Event) (cause : event = .failed ∨ event = .halted)
      (last : (trace.flatMap Entry.events).getLast? = some event)
      (chunks : trace.flatMap Entry.received = trace.flatMap Entry.queued)
      (cancelled : inlet.cancelled = true) (closes : Closes trace [.closeQueue, .cancel])
  /-- It was left with a chunk. -/
  | interrupted (event : Intake.Event) (chunk : Bytes)
      (cause : event = .refused ∨ event = .halted)
      (last : (trace.flatMap Entry.events).getLast? = some event)
      (chunks : trace.flatMap Entry.received = trace.flatMap Entry.queued ++ [chunk])
      (cancelled : inlet.cancelled = true) (closes : Closes trace [.closeQueue, .cancel])

/-- What a reader has done where it is. -/
def Standing (inlet : Inlet) (trace : List Entry) : Prop :=
  match inlet.intake.phase with
  | .reading => trace.flatMap Entry.received = trace.flatMap Entry.queued ∧ Closes trace []
  | .queuing chunk =>
      trace.flatMap Entry.received = trace.flatMap Entry.queued ++ [chunk] ∧ Closes trace []
  | .ended => Ended inlet trace

/-- Where the bytes and the chunks are. -/
structure Account (inlet : Inlet) (trace : List Entry) : Prop where
  bytes : trace.flatMap Entry.written =
    (trace.flatMap Entry.received).flatten ++ inlet.socket.incoming
  chunks : trace.flatMap Entry.queued = trace.flatMap Entry.taken ++ inlet.queue.chunks
  closed : inlet.queue.closed = inlet.intake.hasEnded
  standing : inlet.Standing trace

variable {before after : Inlet} {past : List Entry} {entry : Entry}
variable {closing : List Intake.Deed}

theorem Closes.still {deed : Deed} {result : Result} (closes : Closes past closing) :
    Closes (past ++ [.did before deed result]) closing := by
  obtain ⟨last, order, deeds⟩ := closes
  exact ⟨last, order, by simpa using deeds⟩

theorem Closes.goes_on (closes : Closes past [])
    (own : entry.deeds = entry.queued.map .enqueue ++ closing) :
    Closes (past ++ [entry]) closing := by
  obtain ⟨last, order, deeds⟩ := closes
  rw [List.perm_nil.mp order, List.append_nil] at deeds
  refine ⟨closing, .refl closing, ?_⟩
  simp [deeds, own]

theorem Standing.others {deed : Deed} {result : Result} (standing : before.Standing past)
    (same : after.intake = before.intake)
    (silent : before.socket.peerEnded = true →
      after.socket.peerEnded = true ∧ (Entry.did before deed result).written = [])
    (cancelled : before.cancelled = true → after.cancelled = true) :
    after.Standing (past ++ [.did before deed result]) := by
  unfold Standing at *
  rw [same]
  cases phase : before.intake.phase <;> simp only [phase] at standing ⊢
  case reading => exact ⟨by simpa using standing.1, standing.2.still⟩
  case queuing chunk => exact ⟨by simpa using standing.1, standing.2.still⟩
  case ended =>
    cases standing with
    | drained last chunks whole ended closes =>
        obtain ⟨still, nothing⟩ := silent ended
        refine .drained (by simpa using last) (by simpa using chunks) ?_ still closes.still
        rw [List.flatMap_append, List.flatMap_singleton, nothing]
        simpa using whole
    | stopped event cause last chunks stopped closes =>
        exact .stopped event cause (by simpa using last) (by simpa using chunks)
          (cancelled stopped) closes.still
    | interrupted event chunk cause last chunks stopped closes =>
        exact .interrupted event chunk cause (by simpa using last) (by simpa using chunks)
          (cancelled stopped) closes.still

theorem Account.turn (account : before.Account past) (turn : Turn before after entry) :
    after.Account (past ++ [entry]) := by
  obtain ⟨bytes, lined, closed, standing⟩ := account
  cases turn with
  | others _ deed result same incoming silent queue shut cancelled =>
      constructor
      · rw [incoming, List.flatMap_append, bytes, List.flatMap_singleton]
        simp
      · rw [List.flatMap_append, List.flatMap_append, lined, queue]
        simp
      · rw [shut, same, closed]
      · exact standing.others same silent cancelled
  | receives chunk rest total reading incoming =>
      simp only [Standing, reading] at standing
      constructor
      · simp [bytes, incoming, read]
      · simp [lined]
      · rw [closed]
        simp [Intake.hasEnded, reading]
      · refine ⟨?_, standing.2.goes_on rfl⟩
        simp [standing.1, read]
  | sees intake reading dry silent ended =>
      simp only [Standing, reading] at standing
      constructor
      · simp [bytes, read]
      · simp [lined, enqueued, SendQueue.close]
      · simp [Intake.hasEnded, ended, SendQueue.close]
      · simp only [Standing, ended]
        refine .drained ?_ ?_ ?_ silent (standing.2.goes_on rfl)
        · simp
        · simp [standing.1, read, enqueued]
        · simp [bytes, standing.1, dry, enqueued]
  | queues chunk intake queuing room reads =>
      simp only [Standing, queuing] at standing
      have opened : before.queue.closed = false := by
        rw [closed, Intake.hasEnded, queuing]
        rfl
      constructor
      · simp [bytes, read]
      · simp [lined, enqueued, SendQueue.offer, opened, room]
      · simp [SendQueue.offer, opened, room, Intake.hasEnded, reads]
      · simp only [Standing, reads]
        refine ⟨?_, standing.2.goes_on rfl⟩
        simp [standing.1, read, enqueued]
  | stops event intake reading cause ended =>
      simp only [Standing, reading] at standing
      have none : read event = [] := by rcases cause with rfl | rfl <;> rfl
      constructor
      · simp [bytes, none]
      · simp [lined, enqueued, SendQueue.close]
      · simp [Intake.hasEnded, ended, SendQueue.close]
      · simp only [Standing, ended]
        refine .stopped event cause ?_ ?_ rfl (standing.2.goes_on rfl)
        · simp
        · simp [standing.1, none, enqueued]
  | breaksOff event chunk intake queuing cause ended =>
      simp only [Standing, queuing] at standing
      have none : read event = [] := by rcases cause with rfl | rfl <;> rfl
      constructor
      · simp [bytes, none]
      · simp [lined, enqueued, SendQueue.close]
      · simp [Intake.hasEnded, ended, SendQueue.close]
      · simp only [Standing, ended]
        refine .interrupted event chunk cause ?_ ?_ rfl (standing.2.goes_on rfl)
        · simp
        · simp [standing.1, none, enqueued]

/-- However a reader stands, it has queued all that it read but for one chunk at most. -/
theorem Standing.misses (standing : before.Standing past) :
    ∃ missing, past.flatMap Entry.received = past.flatMap Entry.queued ++ missing ∧
      missing.length ≤ 1 := by
  unfold Standing at standing
  cases phase : before.intake.phase <;> simp only [phase] at standing
  case reading => exact ⟨[], by rw [standing.1, List.append_nil], Nat.zero_le 1⟩
  case queuing chunk => exact ⟨[chunk], standing.1, Nat.le_refl 1⟩
  case ended =>
    cases standing with
    | drained last chunks whole silent closes =>
        exact ⟨[], by rw [chunks, List.append_nil], Nat.zero_le 1⟩
    | stopped event cause last chunks cancelled closes =>
        exact ⟨[], by rw [chunks, List.append_nil], Nat.zero_le 1⟩
    | interrupted event chunk cause last chunks cancelled closes =>
        exact ⟨[chunk], chunks, Nat.le_refl 1⟩

theorem of_capacity_account (capacity readSize : Nat) :
    (ofCapacity capacity readSize).Account [] :=
  ⟨rfl, rfl, rfl, rfl, [], .refl [], rfl⟩

end Account

/-- The chunks that a reader queues are those that it read, in this order, and at most the one is
missing that it was left with; together with what still waits in the socket they are what the
application wrote. The queue is closed just when the reader ends. One that ends because it saw the
end of the input has queued all that the application wrote when it closes the queue, and cancels
nothing; any other has cancelled the connection. -/
theorem reader_queues_in_order (capacity readSize : Nat) (script : List Happening) (inlet : Inlet)
    (trace : List Entry) (ran : (ofCapacity capacity readSize).run script = some (inlet, trace)) :
    trace.flatMap Entry.written =
        (trace.flatMap Entry.received).flatten ++ inlet.socket.incoming ∧
      (trace.flatMap Entry.queued).flatten <+: (trace.flatMap Entry.received).flatten ∧
      (∃ missing, trace.flatMap Entry.received = trace.flatMap Entry.queued ++ missing ∧
        missing.length ≤ 1) ∧
      trace.flatMap Entry.queued = trace.flatMap Entry.taken ++ inlet.queue.chunks ∧
      inlet.queue.closed = inlet.intake.hasEnded ∧ inlet.Standing trace := by
  have account : inlet.Account trace :=
    run_keeps Account (fun _ _ _ _ account turn => account.turn turn) script _ inlet [] trace
      (of_capacity_account capacity readSize) ran
  obtain ⟨missing, whole, one⟩ := account.standing.misses
  refine ⟨account.bytes, ?_, ⟨missing, whole, one⟩, account.chunks, account.closed,
    account.standing⟩
  rw [whole, List.flatten_append]
  exact List.prefix_append _ _

def endingQuietly : List Happening :=
  [.does (.write [1, 2, 3]), .meets (.received [1, 2]), .meets .queued, .meets (.received [3]),
    .does (.write [4]), .does .take, .meets .queued, .does .endInput, .does (.write [5]),
    .meets (.received [4]), .does .take, .does .cancel, .meets .queued, .meets .endOfInput]

theorem ending_quietly_queues_all : ∃ inlet trace,
    (ofCapacity 1 2).run endingQuietly = some (inlet, trace) ∧
      trace.flatMap Entry.queued = [[1, 2], [3], [4]] ∧
      trace.flatMap Entry.written = (trace.flatMap Entry.queued).flatten ∧
      Closes trace [.closeQueue] := by
  refine ⟨_, _, rfl, rfl, ?_⟩
  cases (reader_queues_in_order 1 2 endingQuietly _ _ rfl).2.2.2.2.2 with
  | drained last chunks whole silent closes => exact ⟨whole, closes⟩
  | stopped event cause last => rcases cause with rfl | rfl <;> cases last
  | interrupted event chunk cause last => rcases cause with rfl | rfl <;> cases last

end HttpTunnel.Client.Inlet
