import HttpTunnel.Server.Link
import Mathlib.Data.List.Basic
import Mathlib.Tactic.SplitIfs

/-!
Runs of a downstream link alone. Its reader and its writer meet any outcomes of the connection at
any instants, the owner queues chunks, takes them and goes away as it likes, and a stop may come at
any point. What is written is what was queued, as far as the writer came; what is forwarded is what
was read, except for a chunk that the reader was left with.
-/

namespace HttpTunnel.Server

namespace Inflow

def held (inflow : Inflow) : List Bytes :=
  match inflow.phase with
  | .handing chunk => [chunk]
  | _ => []

def Event.chunks : Event → List Bytes
  | .received chunk => [chunk]
  | _ => []

def Event.answers (size : Nat) : Event → Prop
  | .elapsed | .endOfStream | .failed => True
  | .received chunk => 1 ≤ chunk.length ∧ chunk.length ≤ size
  | .handed | .refused | .halted => False

def forwards (inflow : Inflow) : Event → List Bytes
  | .handed => inflow.held
  | _ => []

/-- The chunk that the reader is left with when its hand-over is broken off. -/
def breaksOff (inflow : Inflow) : Event → List Bytes
  | .refused | .halted => inflow.held
  | _ => []

/-- What one step of the reader does with chunks. -/
structure Shifted (inflow : Inflow) (event : Event) (after : Inflow)
    (forwarded : Option Bytes) : Prop where
  active : inflow.hasEnded = false
  chunks : inflow.held ++ event.chunks =
    inflow.forwards event ++ after.held ++ inflow.breaksOff event
  forwarded : forwarded.toList = inflow.forwards event
  some : ∀ chunk ∈ event.chunks, chunk ≠ []
  spared : after.hasEnded = false → inflow.breaksOff event = []
  lone : (after.held ++ inflow.breaksOff event).length ≤ 1
  total : after.total = inflow.total + event.chunks.flatten.length

theorem attempt_held (now : Nat) (stopped : Bool) (inflow : Inflow) :
    (inflow.attempt now stopped).held = [] := by
  cases stopped <;> rfl

theorem step_shifts (now : Nat) (stopped : Bool) (inflow after : Inflow) (event : Event)
    (forwarded : Option Bytes)
    (stepped : inflow.step now stopped event = some (after, forwarded)) :
    Shifted inflow event after forwarded := by
  have rests := attempt_held now stopped inflow
  cases phase : inflow.phase with
  | reading since =>
      have active : inflow.hasEnded = false := by simp [hasEnded, phase]
      have empty : inflow.held = [] := by simp [held, phase]
      cases event <;> simp only [step, phase] at stepped
      case elapsed =>
        cases stepped
        exact ⟨active, by rw [empty, rests]; rfl, rfl, nofun, fun _ => rfl,
          by rw [rests]; exact Nat.zero_le 1, rfl⟩
      case received chunk =>
        split_ifs at stepped with none
        cases stepped
        refine ⟨active, by rw [empty]; rfl, rfl, ?_, fun _ => rfl, Nat.le_refl 1, ?_⟩
        · intro other same
          rw [List.mem_singleton.mp same]
          exact none
        · simp [Event.chunks]
      case endOfStream =>
        cases stepped
        exact ⟨active, by rw [empty]; rfl, rfl, nofun, fun _ => rfl, Nat.zero_le 1, rfl⟩
      case failed =>
        cases stepped
        exact ⟨active, by rw [empty]; rfl, rfl, nofun, fun _ => rfl, Nat.zero_le 1, rfl⟩
      all_goals cases stepped
  | handing chunk =>
      have active : inflow.hasEnded = false := by simp [hasEnded, phase]
      have holds : inflow.held = [chunk] := by simp [held, phase]
      cases event <;> simp only [step, phase] at stepped
      case handed =>
        cases stepped
        refine ⟨active, ?_, ?_, nofun, fun _ => rfl, ?_, rfl⟩
        · rw [rests, holds, forwards, holds]
          rfl
        · rw [forwards, holds]
          rfl
        · rw [rests]
          exact Nat.zero_le 1
      case refused =>
        cases stepped
        exact ⟨active, by rw [holds, breaksOff, holds]; rfl, rfl, nofun, nofun,
          by rw [breaksOff, holds]; exact Nat.le_refl 1, rfl⟩
      case halted =>
        cases stepped
        exact ⟨active, by rw [holds, breaksOff, holds]; rfl, rfl, nofun, nofun,
          by rw [breaksOff, holds]; exact Nat.le_refl 1, rfl⟩
      all_goals cases stepped
  | ended => cases event <;> simp only [step, phase] at stepped <;> cases stepped

end Inflow

namespace Outflow

def rest (outflow : Outflow) : Bytes :=
  match outflow.phase with
  | .writing rest _ => rest
  | _ => []

def Event.chunks : Event → List Bytes
  | .took chunk => [chunk]
  | _ => []

def Event.answers (left : Nat) : Event → Prop
  | .elapsed | .wroteNothing | .failed => True
  | .wrote count => 1 ≤ count ∧ count ≤ left
  | .took _ | .exhausted | .halted => False

/-- What one step of the writer does with bytes. Only a writer that ends may lose any. -/
structure Shifted (outflow : Outflow) (event : Event) (after : Outflow) (written : Bytes) :
    Prop where
  active : outflow.hasEnded = false
  bytes : ∃ lost, outflow.rest ++ event.chunks.flatten = written ++ after.rest ++ lost ∧
    (after.hasEnded = false → lost = [])
  total : after.total = outflow.total + written.length
  exhausted : event = .exhausted →
    outflow.rest = [] ∧ written = [] ∧ after.rest = [] ∧ after.hasEnded = true

theorem attempt_rest (now : Nat) (stopped : Bool) (left : Bytes) (outflow : Outflow) :
    ∃ lost, left = (outflow.attempt now stopped left).rest ++ lost ∧
      ((outflow.attempt now stopped left).hasEnded = false → lost = []) := by
  unfold attempt
  by_cases done : left = []
  · exact ⟨[], by simp [done, rest], fun _ => rfl⟩
  · cases stopped with
    | false => exact ⟨[], by simp [done, rest], fun _ => rfl⟩
    | true => exact ⟨left, by simp [done, rest], by simp [done, hasEnded]⟩

theorem step_shifts (now : Nat) (stopped : Bool) (outflow after : Outflow) (event : Event)
    (written : Bytes) (stepped : outflow.step now stopped event = some (after, written)) :
    Shifted outflow event after written := by
  cases phase : outflow.phase with
  | waiting =>
      have active : outflow.hasEnded = false := by simp [hasEnded, phase]
      have none : outflow.rest = [] := by simp [rest, phase]
      cases event <;> simp only [step, phase] at stepped
      case took chunk =>
        cases stepped
        obtain ⟨lost, whole, running⟩ := attempt_rest now stopped chunk outflow
        refine ⟨active, ⟨lost, ?_, running⟩, rfl, nofun⟩
        simpa [none, Event.chunks] using whole
      case exhausted =>
        cases stepped
        exact ⟨active, ⟨[], by rw [none]; rfl, fun _ => rfl⟩, rfl, fun _ => ⟨none, rfl, rfl, rfl⟩⟩
      case halted =>
        cases stepped
        exact ⟨active, ⟨[], by rw [none]; rfl, fun _ => rfl⟩, rfl, nofun⟩
      all_goals cases stepped
  | writing left since =>
      have active : outflow.hasEnded = false := by simp [hasEnded, phase]
      have whole : outflow.rest = left := by simp [rest, phase]
      cases event <;> simp only [step, phase] at stepped
      case elapsed =>
        cases stepped
        obtain ⟨lost, same, running⟩ := attempt_rest now stopped left outflow
        refine ⟨active, ⟨lost, ?_, running⟩, rfl, nofun⟩
        simpa [whole, Event.chunks] using same
      case wrote count =>
        split_ifs at stepped with fits
        cases stepped
        obtain ⟨lost, same, running⟩ := attempt_rest now stopped (left.drop count)
          ⟨.writing left since, outflow.total + count⟩
        refine ⟨active, ⟨lost, ?_, running⟩, ?_, nofun⟩
        · rw [whole, List.append_assoc, ← same]
          simp [Event.chunks]
        · rw [List.length_take, Nat.min_eq_left fits.2]
          rfl
      case wroteNothing =>
        cases stepped
        exact ⟨active, ⟨left, by rw [whole]; exact List.append_nil left, nofun⟩, rfl, nofun⟩
      case failed =>
        cases stepped
        exact ⟨active, ⟨left, by rw [whole]; exact List.append_nil left, nofun⟩, rfl, nofun⟩
      all_goals cases stepped
  | ended => cases event <;> simp only [step, phase] at stepped <;> cases stepped

end Outflow

namespace Link

section Runs

inductive Happening where
  | act (now : Nat) (action : Action)
  | queue (chunk : Bytes)
  | take
  /-- A stop is asked for, by whomever. -/
  | stop
  /-- The owner lets go of both of its ends without asking for a stop. -/
  | leave
  deriving Repr

inductive Entry where
  | moved (action : Action) (before : Link) (written : Bytes)
  | fed (chunk : Bytes) (feed : Feed)
  | drained (drain : Drain)
  | stopped
  | left

def halt (link : Link) : Link := { link with stopped := true }

def desert (link : Link) : Link := { link with owned := false, fromDown := [] }

def happen (link : Link) : Happening → Option (Link × Entry)
  | .act now action =>
      (link.step now action).map fun (after, written) => (after, .moved action link written)
  | .queue chunk =>
      if link.owned then some ((link.feed chunk).2, .fed chunk (link.feed chunk).1) else none
  | .take => if link.owned then some (link.drain.2, .drained link.drain.1) else none
  | .stop => some (link.halt, .stopped)
  | .leave => some (link.desert, .left)

def run (link : Link) : List Happening → Option (Link × List Entry)
  | [] => some (link, [])
  | happening :: script => do
      let (middle, entry) ← link.happen happening
      let (after, trace) ← middle.run script
      return (after, entry :: trace)

namespace Entry

/-- The chunk that was queued for the writer. -/
def queued : Entry → List Bytes
  | .fed chunk .queued => [chunk]
  | _ => []

def written : Entry → Bytes
  | .moved _ _ written => written
  | _ => []

/-- The writer ended because the queue is empty and will stay so. -/
def exhausts : Entry → Bool
  | .moved (.outflow .exhausted) _ _ => true
  | _ => false

/-- The chunk that was read from the connection. -/
def received : Entry → List Bytes
  | .moved (.inflow event) _ _ => event.chunks
  | _ => []

def forwarded : Entry → List Bytes
  | .moved (.inflow event) before _ => before.inflow.forwards event
  | _ => []

def interrupted : Entry → List Bytes
  | .moved (.inflow event) before _ => before.inflow.breaksOff event
  | _ => []

def taken : Entry → List Bytes
  | .drained (.chunk chunk) => [chunk]
  | _ => []

theorem flatMap_snoc {Part : Type} (part : Entry → List Part) (past : List Entry)
    (entry : Entry) : (past ++ [entry]).flatMap part = past.flatMap part ++ part entry := by
  rw [List.flatMap_append, List.flatMap_singleton]

theorem flatMap_silent {Part : Type} {part : Entry → List Part} {entry : Entry}
    (past : List Entry) (none : part entry = []) :
    (past ++ [entry]).flatMap part = past.flatMap part := by
  rw [flatMap_snoc, none, List.append_nil]

end Entry

/-- One turn of a run. -/
inductive Turn (link : Link) : Link → Entry → Prop where
  | reads (event : Inflow.Event) (after : Inflow) (forwarded : Option Bytes)
      (shifted : Inflow.Shifted link.inflow event after forwarded)
      (sized : ∀ chunk ∈ event.chunks, chunk.length ≤ link.readSize)
      (vacant : forwarded ≠ none → link.fromDown = [] ∧ link.owned = true) :
      Turn link
        (propagate { link with inflow := after, fromDown := link.fromDown ++ forwarded.toList })
        (.moved (.inflow event) link [])
  | writes (event : Outflow.Event) (after : Outflow) (later : List Bytes) (first : Bool)
      (written : Bytes) (shifted : Outflow.Shifted link.outflow event after written)
      (queue : link.toDown = event.chunks ++ later) (spent : event = .exhausted → later = []) :
      Turn link
        (propagate { link with outflow := after, toDown := later, writerFirst := first })
        (.moved (.outflow event) link written)
  | queues (chunk : Bytes) (first : Bool) (running : link.outflow.hasEnded = false) :
      Turn link { link with toDown := link.toDown ++ [chunk], writerFirst := first }
        (.fed chunk .queued)
  | takes (chunk : Bytes) (rest : List Bytes) (slot : link.fromDown = chunk :: rest)
      (owned : link.owned = true) :
      Turn link { link with fromDown := rest } (.drained (.chunk chunk))
  | stops : Turn link link.halt .stopped
  | leaves : Turn link link.desert .left
  | rests (entry : Entry) (queued : entry.queued = []) (written : entry.written = [])
      (exhausts : entry.exhausts = false) (received : entry.received = [])
      (forwarded : entry.forwarded = []) (interrupted : entry.interrupted = [])
      (taken : entry.taken = []) : Turn link link entry

theorem step_turns (now : Nat) (link after : Link) (action : Action) (written : Bytes)
    (stepped : link.step now action = some (after, written)) :
    Turn link after (.moved action link written) := by
  unfold step at stepped
  split_ifs at stepped with allowed
  cases action with
  | inflow event =>
      obtain ⟨⟨inflow, forwarded⟩, ran, same⟩ := Option.map_eq_some_iff.mp stepped
      cases same
      have shifted := Inflow.step_shifts now link.stopped link.inflow inflow event forwarded ran
      refine .reads event inflow forwarded shifted ?_ ?_
      · intro chunk member
        cases event with
        | received other =>
            rw [List.mem_singleton.mp member]
            simpa [allows] using allowed
        | _ => cases member
      · intro handed
        cases event with
        | handed =>
            simp only [allows, Bool.and_eq_true, List.isEmpty_iff] at allowed
            exact ⟨allowed.2, allowed.1.2⟩
        | _ =>
            apply absurd _ handed
            exact Option.toList_eq_nil_iff.mp shifted.forwarded
  | outflow event =>
      obtain ⟨⟨outflow, own⟩, ran, same⟩ := Option.map_eq_some_iff.mp stepped
      have shifted := Outflow.step_shifts now link.stopped link.outflow outflow event own ran
      cases event with
      | took chunk =>
          simp only [allows, Bool.and_eq_true, beq_iff_eq] at allowed
          obtain ⟨later, queue⟩ := List.head?_eq_some_iff.mp allowed.2
          cases same
          exact .writes _ outflow _ false _ shifted (by rw [queue]; rfl) nofun
      | exhausted =>
          simp only [allows, Bool.and_eq_true, List.isEmpty_iff] at allowed
          cases same
          exact .writes _ outflow _ _ _ shifted rfl fun _ => allowed.2
      | _ =>
          cases same
          exact .writes _ outflow _ _ _ shifted rfl nofun

theorem happen_turns (link after : Link) (happening : Happening) (entry : Entry)
    (happened : link.happen happening = some (after, entry)) : Turn link after entry := by
  cases happening with
  | act now action =>
      obtain ⟨⟨last, written⟩, stepped, same⟩ := Option.map_eq_some_iff.mp happened
      cases same
      exact step_turns now link _ action _ stepped
  | queue chunk =>
      simp only [happen] at happened
      split_ifs at happened
      cases happened
      unfold feed
      split_ifs with ended room
      · exact .rests _ rfl rfl rfl rfl rfl rfl rfl
      · exact .queues chunk _ (Bool.eq_false_iff.mpr ended)
      · exact .rests _ rfl rfl rfl rfl rfl rfl rfl
  | take =>
      simp only [happen] at happened
      split_ifs at happened with owned
      cases happened
      unfold drain
      split
      · rename_i chunk rest slot
        exact .takes chunk rest slot owned
      · split_ifs
        · exact .rests _ rfl rfl rfl rfl rfl rfl rfl
        · exact .rests _ rfl rfl rfl rfl rfl rfl rfl
  | stop =>
      cases happened
      exact .stops
  | leave =>
      cases happened
      exact .leaves

theorem run_keeps (invariant : Link → List Entry → Prop)
    (keeps : ∀ link after past entry, invariant link past → Turn link after entry →
      invariant after (past ++ [entry]))
    (script : List Happening) (link after : Link) (past trace : List Entry)
    (start : invariant link past) (ran : link.run script = some (after, trace)) :
    invariant after (past ++ trace) := by
  induction script generalizing link past trace with
  | nil =>
      cases ran
      rw [List.append_nil]
      exact start
  | cons happening script induction =>
      simp only [run, Option.bind_eq_bind, Option.bind_eq_some_iff] at ran
      rcases ran with ⟨⟨middle, entry⟩, happened, ⟨last, later⟩, rest, same⟩
      cases same
      have turn := happen_turns link middle happening entry happened
      have here := keeps link middle past entry start turn
      have there := induction middle (past ++ [entry]) later here rest
      rwa [List.append_assoc] at there

end Runs

section Balance

variable {link after : Link} {past : List Entry} {entry : Entry}

/-- Where the queued bytes are. -/
structure Wrote (link : Link) (trace : List Entry) : Prop where
  bytes : ∃ lost, (trace.flatMap Entry.queued).flatten =
    trace.flatMap Entry.written ++ link.outflow.rest ++ lost ++ link.toDown.flatten ∧
      (link.outflow.hasEnded = false → lost = [])
  total : link.outflow.total = (trace.flatMap Entry.written).length
  whole : trace.any Entry.exhausts = true → link.outflow.hasEnded = true ∧
    trace.flatMap Entry.written = (trace.flatMap Entry.queued).flatten

theorem Wrote.still (wrote : link.Wrote past) (outflow : after.outflow = link.outflow)
    (queue : after.toDown = link.toDown) (queued : entry.queued = [])
    (written : entry.written = []) (exhausts : entry.exhausts = false) :
    after.Wrote (past ++ [entry]) := by
  constructor
  · simp only [Entry.flatMap_snoc, queued, written, List.append_nil,
      outflow, queue]
    exact wrote.bytes
  · simp only [Entry.flatMap_snoc, written, List.append_nil, outflow]
    exact wrote.total
  · simp only [Entry.flatMap_snoc, queued, written, List.append_nil,
      outflow, List.any_append, List.any_cons, exhausts, List.any_nil, Bool.or_false]
    exact wrote.whole

theorem Wrote.exhausts {outflow : Outflow} {written : Bytes} (wrote : link.Wrote past)
    (shifted : Outflow.Shifted link.outflow .exhausted outflow written)
    (empty : link.toDown = []) :
    outflow.hasEnded = true ∧ written = [] ∧
      past.flatMap Entry.written = (past.flatMap Entry.queued).flatten := by
  obtain ⟨none, silent, _, ended⟩ := shifted.exhausted rfl
  obtain ⟨lost, bytes, spared⟩ := wrote.bytes
  refine ⟨ended, silent, ?_⟩
  rw [bytes, none, spared shifted.active, empty]
  simp

theorem Wrote.writes {event : Outflow.Event} {outflow : Outflow} {later : List Bytes}
    {written : Bytes} (first : Bool) (wrote : link.Wrote past)
    (shifted : Outflow.Shifted link.outflow event outflow written)
    (queue : link.toDown = event.chunks ++ later) (spent : event = .exhausted → later = []) :
    Wrote (propagate { link with outflow := outflow, toDown := later, writerFirst := first })
      (past ++ [.moved (.outflow event) link written]) := by
  have active := shifted.active
  constructor
  · obtain ⟨lost, bytes, spared⟩ := wrote.bytes
    obtain ⟨missing, moved, running⟩ := shifted.bytes
    refine ⟨missing, ?_, running⟩
    simp only [Entry.flatMap_snoc, Entry.queued, Entry.written,
      List.append_nil, bytes, spared active, queue, List.flatten_append]
    rw [List.append_assoc, ← List.append_assoc link.outflow.rest, moved]
    simp only [List.append_assoc]
    rfl
  · simp only [Entry.flatMap_snoc, Entry.written, List.length_append,
      ← wrote.total]
    exact shifted.total
  · intro exhausts
    -- A writer that has found the end has ended, so it can only be this turn that does.
    have running : past.any Entry.exhausts = false := by
      by_contra before
      rw [(wrote.whole (Bool.not_eq_false _ ▸ before)).1] at active
      cases active
    rw [List.any_append, running, Bool.false_or] at exhausts
    cases event <;> try cases exhausts
    obtain ⟨ended, silent, whole⟩ := wrote.exhausts shifted (by rw [queue, spent rfl]; rfl)
    refine ⟨ended, ?_⟩
    simpa [Entry.queued, Entry.written, silent] using whole

theorem Wrote.turn (wrote : link.Wrote past) (turn : Turn link after entry) :
    after.Wrote (past ++ [entry]) := by
  cases turn with
  | reads event inflow forwarded shifted sized vacant => exact wrote.still rfl rfl rfl rfl rfl
  | writes event outflow later first written shifted queue spent =>
      exact wrote.writes first shifted queue spent
  | queues chunk first running =>
      constructor
      · obtain ⟨lost, bytes, spared⟩ := wrote.bytes
        refine ⟨lost, ?_, spared⟩
        simp [Entry.queued, Entry.written, bytes]
      · simpa [Entry.written] using wrote.total
      · intro exhausts
        have before : past.any Entry.exhausts = true := by simpa [Entry.exhausts] using exhausts
        rw [(wrote.whole before).1] at running
        cases running
  | takes chunk rest slot owned => exact wrote.still rfl rfl rfl rfl rfl
  | stops => exact wrote.still rfl rfl rfl rfl rfl
  | leaves => exact wrote.still rfl rfl rfl rfl rfl
  | rests entry queued written exhausts received forwarded interrupted taken =>
      exact wrote.still rfl rfl queued written exhausts

/-- Where the chunks are that were read. -/
structure Forwarded (terms : Terms) (link : Link) (trace : List Entry) : Prop where
  agreed : link.terms = terms
  chunks : trace.flatMap Entry.received =
    trace.flatMap Entry.forwarded ++ link.inflow.held ++ trace.flatMap Entry.interrupted
  spared : link.inflow.hasEnded = false → trace.flatMap Entry.interrupted = []
  lone : (link.inflow.held ++ trace.flatMap Entry.interrupted).length ≤ 1
  sized : ∀ chunk ∈ trace.flatMap Entry.received, 1 ≤ chunk.length ∧
    chunk.length ≤ max terms.readSize 1
  total : link.inflow.total = (trace.flatMap Entry.received).flatten.length
  slot : link.owned = true →
    trace.flatMap Entry.forwarded = trace.flatMap Entry.taken ++ link.fromDown
  took : trace.flatMap Entry.taken <+: trace.flatMap Entry.forwarded
  narrow : link.fromDown.length ≤ 1

variable {terms : Terms}

theorem Forwarded.still (forwarded : link.Forwarded terms past) (agreed : after.terms = link.terms)
    (inflow : after.inflow = link.inflow) (slot : after.fromDown = link.fromDown)
    (owned : after.owned = link.owned) (received : entry.received = [])
    (handed : entry.forwarded = []) (interrupted : entry.interrupted = [])
    (taken : entry.taken = []) : after.Forwarded terms (past ++ [entry]) := by
  have reads := Entry.flatMap_silent past received
  have hands := Entry.flatMap_silent past handed
  have breaks := Entry.flatMap_silent past interrupted
  have takes := Entry.flatMap_silent past taken
  constructor
  · exact agreed.trans forwarded.agreed
  · rw [reads, hands, breaks, inflow]
    exact forwarded.chunks
  · rw [breaks, inflow]
    exact forwarded.spared
  · rw [breaks, inflow]
    exact forwarded.lone
  · rw [reads]
    exact forwarded.sized
  · rw [reads, inflow]
    exact forwarded.total
  · rw [hands, takes, slot, owned]
    exact forwarded.slot
  · rw [hands, takes]
    exact forwarded.took
  · rw [slot]
    exact forwarded.narrow

theorem Forwarded.reads {event : Inflow.Event} {inflow : Inflow} {handed : Option Bytes}
    (forwarded : link.Forwarded terms past)
    (shifted : Inflow.Shifted link.inflow event inflow handed)
    (sized : ∀ chunk ∈ event.chunks, chunk.length ≤ link.readSize)
    (vacant : handed ≠ none → link.fromDown = [] ∧ link.owned = true) :
    Forwarded terms
      (propagate { link with inflow := inflow, fromDown := link.fromDown ++ handed.toList })
      (past ++ [.moved (.inflow event) link []]) := by
  -- The reader still moves, so no hand-over of his has been broken off before.
  have unbroken := forwarded.spared shifted.active
  have chunks := forwarded.chunks
  rw [unbroken, List.append_nil] at chunks
  constructor
  · exact forwarded.agreed
  · rw [Entry.flatMap_snoc, Entry.flatMap_snoc, Entry.flatMap_snoc, unbroken, List.nil_append,
      chunks, List.append_assoc]
    simp only [Entry.received, Entry.forwarded, Entry.interrupted, shifted.chunks,
      List.append_assoc]
    rfl
  · intro running
    rw [Entry.flatMap_snoc, unbroken]
    exact shifted.spared running
  · rw [Entry.flatMap_snoc, unbroken]
    exact shifted.lone
  · intro chunk member
    rw [Entry.flatMap_snoc] at member
    rcases List.mem_append.mp member with early | late
    · exact forwarded.sized chunk early
    · refine ⟨List.length_pos_iff.mpr (shifted.some chunk late), ?_⟩
      rw [← forwarded.agreed]
      exact sized chunk late
  · rw [Entry.flatMap_snoc, List.flatten_append, List.length_append, ← forwarded.total]
    exact shifted.total
  · intro owned
    rw [Entry.flatMap_snoc, Entry.flatMap_snoc, forwarded.slot owned, List.append_assoc]
    simp only [Entry.forwarded, Entry.taken, ← shifted.forwarded, List.append_nil]
    rfl
  · rw [Entry.flatMap_snoc, Entry.flatMap_snoc]
    simp only [Entry.taken, List.append_nil]
    exact forwarded.took.trans (List.prefix_append _ _)
  · cases handed with
    | none => simpa [propagate] using forwarded.narrow
    | some chunk => simp [propagate, (vacant (by simp)).1]

theorem Forwarded.takes {chunk : Bytes} {rest : List Bytes} (forwarded : link.Forwarded terms past)
    (slot : link.fromDown = chunk :: rest) (owned : link.owned = true) :
    Forwarded terms { link with fromDown := rest } (past ++ [.drained (.chunk chunk)]) := by
  have whole := forwarded.slot owned
  rw [slot] at whole
  have narrow := forwarded.narrow
  rw [slot, List.length_cons] at narrow
  let entry := Entry.drained (.chunk chunk)
  have reads : (past ++ [entry]).flatMap Entry.received = _ := Entry.flatMap_silent past rfl
  have hands : (past ++ [entry]).flatMap Entry.forwarded = _ := Entry.flatMap_silent past rfl
  have breaks : (past ++ [entry]).flatMap Entry.interrupted = _ := Entry.flatMap_silent past rfl
  constructor
  · exact forwarded.agreed
  · rw [reads, hands, breaks]
    exact forwarded.chunks
  · rw [breaks]
    exact forwarded.spared
  · rw [breaks]
    exact forwarded.lone
  · rw [reads]
    exact forwarded.sized
  · rw [reads]
    exact forwarded.total
  · intro _
    rw [hands, Entry.flatMap_snoc, whole, List.append_assoc]
    rfl
  · rw [hands, Entry.flatMap_snoc, whole]
    exact ⟨rest, by rw [List.append_assoc]; rfl⟩
  · exact Nat.le_of_succ_le narrow

theorem Forwarded.turn (forwarded : link.Forwarded terms past) (turn : Turn link after entry) :
    after.Forwarded terms (past ++ [entry]) := by
  cases turn with
  | reads event inflow handed shifted sized vacant => exact forwarded.reads shifted sized vacant
  | writes event outflow later first written shifted queue spent =>
      exact forwarded.still rfl rfl rfl rfl rfl rfl rfl rfl
  | queues chunk first running => exact forwarded.still rfl rfl rfl rfl rfl rfl rfl rfl
  | takes chunk rest slot owned => exact forwarded.takes slot owned
  | stops => exact forwarded.still rfl rfl rfl rfl rfl rfl rfl rfl
  | leaves =>
      -- The slot goes with the owner, and so does what is known of it.
      have before : link.Forwarded terms (past ++ [.left]) :=
        forwarded.still rfl rfl rfl rfl rfl rfl rfl rfl
      exact { before with slot := nofun, narrow := Nat.zero_le _ }
  | rests entry queued written exhausts received handed interrupted taken =>
      exact forwarded.still rfl rfl rfl rfl received handed interrupted taken

theorem of_start_wrote (terms : Terms) (start : Nat) : (ofStart terms start).Wrote [] :=
  ⟨⟨[], rfl, fun _ => rfl⟩, rfl, nofun⟩

theorem of_start_forwarded (terms : Terms) (start : Nat) :
    (ofStart terms start).Forwarded terms [] :=
  ⟨rfl, rfl, fun _ => rfl, Nat.zero_le 1, nofun, rfl, fun _ => rfl, List.prefix_rfl,
    Nat.zero_le 1⟩

theorem run_balance {start : Nat} {script : List Happening} {trace : List Entry}
    (ran : (ofStart terms start).run script = some (link, trace)) :
    link.Wrote trace ∧ link.Forwarded terms trace :=
  run_keeps (fun link trace => link.Wrote trace ∧ link.Forwarded terms trace)
    (fun _ _ _ _ balance turn => ⟨balance.1.turn turn, balance.2.turn turn⟩)
    script _ link [] trace ⟨of_start_wrote terms start, of_start_forwarded terms start⟩ ran

end Balance

theorem reading_goes_on (now since : Nat) (link : Link) (event : Inflow.Event)
    (phase : link.inflow.phase = .reading since) (answers : event.answers link.readSize) :
    (link.step now (.inflow event)).isSome = true := by
  cases event with
  | received chunk =>
      have allowed : link.allows (.inflow (.received chunk)) = true := by
        simpa [allows] using answers.2
      have some : chunk ≠ [] := List.length_pos_iff.mp answers.1
      simp [step, allowed, Inflow.step, phase, some]
  | elapsed => simp [step, allows, Inflow.step, phase]
  | endOfStream => simp [step, allows, Inflow.step, phase]
  | failed => simp [step, allows, Inflow.step, phase]
  | _ => cases answers

theorem writing_goes_on (now since : Nat) (left : Bytes) (link : Link) (event : Outflow.Event)
    (phase : link.outflow.phase = .writing left since) (answers : event.answers left.length) :
    (link.step now (.outflow event)).isSome = true := by
  cases event with
  | wrote count =>
      have fits : 0 < count ∧ count ≤ left.length := answers
      simp [step, allows, Outflow.step, phase, fits]
  | elapsed => simp [step, allows, Outflow.step, phase]
  | wroteNothing => simp [step, allows, Outflow.step, phase]
  | failed => simp [step, allows, Outflow.step, phase]
  | _ => cases answers

/-- The pair neither loses, doubles nor reorders bytes on either way, whatever comes of its
attempts, whenever chunks are queued and taken, and whenever a stop comes. -/
theorem pair_shuttles_exactly (terms : Terms) (start : Nat) (script : List Happening) (link : Link)
    (trace : List Entry) (ran : (ofStart terms start).run script = some (link, trace)) :
    (trace.flatMap Entry.written <+: (trace.flatMap Entry.queued).flatten ∧
      link.outflow.total = (trace.flatMap Entry.written).length ∧
      (link.outflow.hasEnded = false → (trace.flatMap Entry.queued).flatten =
        trace.flatMap Entry.written ++ link.outflow.rest ++ link.toDown.flatten) ∧
      (trace.any Entry.exhausts = true →
        trace.flatMap Entry.written = (trace.flatMap Entry.queued).flatten)) ∧
    ((trace.flatMap Entry.forwarded).flatten <+: (trace.flatMap Entry.received).flatten ∧
      trace.flatMap Entry.received = trace.flatMap Entry.forwarded ++
        (link.inflow.held ++ trace.flatMap Entry.interrupted) ∧
      (link.inflow.held ++ trace.flatMap Entry.interrupted).length ≤ 1 ∧
      link.inflow.total = (trace.flatMap Entry.received).flatten.length ∧
      (∀ chunk ∈ trace.flatMap Entry.forwarded,
        1 ≤ chunk.length ∧ chunk.length ≤ max terms.readSize 1) ∧
      trace.flatMap Entry.taken <+: trace.flatMap Entry.forwarded ∧
      (link.owned = true →
        trace.flatMap Entry.forwarded = trace.flatMap Entry.taken ++ link.fromDown) ∧
      link.fromDown.length ≤ 1) ∧
    (∀ now since event, link.inflow.phase = .reading since →
      event.answers (max terms.readSize 1) → (link.step now (.inflow event)).isSome = true) ∧
    (∀ now since left event, link.outflow.phase = .writing left since →
      event.answers left.length → (link.step now (.outflow event)).isSome = true) := by
  obtain ⟨wrote, forwarded⟩ := run_balance ran
  obtain ⟨lost, bytes, spared⟩ := wrote.bytes
  have chunks : trace.flatMap Entry.received = trace.flatMap Entry.forwarded ++
      (link.inflow.held ++ trace.flatMap Entry.interrupted) := by
    rw [← List.append_assoc]
    exact forwarded.chunks
  refine ⟨⟨?_, wrote.total, ?_, fun exhausts => (wrote.whole exhausts).2⟩,
    ⟨?_, chunks, forwarded.lone, forwarded.total, ?_, forwarded.took, forwarded.slot,
      forwarded.narrow⟩, ?_, ?_⟩
  · rw [bytes]
    simp only [List.append_assoc]
    exact List.prefix_append _ _
  · intro running
    rw [bytes, spared running, List.append_nil]
  · rw [chunks, List.flatten_append]
    exact List.prefix_append _ _
  · intro chunk member
    refine forwarded.sized chunk ?_
    rw [chunks]
    exact List.mem_append_left _ member
  · intro now since event phase answers
    rw [← forwarded.agreed] at answers
    exact reading_goes_on now since link event phase answers
  · intro now since left event phase answers
    exact writing_goes_on now since left link event phase answers

/-- A chunk is written in two parts with an attempt in between that passes, another one is still
queued when the owner leaves, and the reader is left with the second chunk that it read. -/
def partedShuttle : List Happening :=
  [.queue [1, 2, 3], .act 0 (.outflow (.took [1, 2, 3])), .act 1 (.outflow (.wrote 1)),
    .act 2 (.outflow .elapsed), .act 3 (.inflow (.received [7])), .act 3 (.inflow .handed),
    .act 4 (.inflow (.received [8, 9])), .act 5 (.outflow (.wrote 2)), .queue [4], .leave,
    .act 6 (.outflow (.took [4])), .act 6 (.outflow (.wrote 1)), .act 7 (.outflow .exhausted),
    .act 7 (.inflow .halted)]

theorem parted_shuttle_exact : ∃ link trace,
    (ofStart { readSize := 2, outflowCapacity := 1 } 0).run partedShuttle = some (link, trace) ∧
    trace.any Entry.exhausts = true ∧ trace.flatMap Entry.written = [1, 2, 3, 4] ∧
    trace.flatMap Entry.forwarded = [[7]] ∧ trace.flatMap Entry.interrupted = [[8, 9]] ∧
    (trace.flatMap Entry.forwarded).flatten <+: (trace.flatMap Entry.received).flatten :=
  ⟨_, _, rfl, rfl, rfl, rfl, rfl,
    (pair_shuttles_exactly { readSize := 2, outflowCapacity := 1 } 0 partedShuttle _ _ rfl).2.1.1⟩

end Link

end HttpTunnel.Server
