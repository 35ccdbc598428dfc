import HttpTunnel.Proofs.LinkRuns
import HttpTunnel.Proofs.PollerActs
import HttpTunnel.Server.Tunnel

/-!
Runs of a tunnel on the serving side. Its parts move and things come to it from outside, in any
order and at any instants; every move of a part leaves a stride in the trace. The views of a
trace follow the bytes from downstream: into the hand of the reader, from there to the slot and
the poller, and on to the clients.
-/

namespace HttpTunnel.Server

namespace Inflow

def hand (inflow : Inflow) : Bytes :=
  match inflow.phase with
  | .handing chunk => chunk
  | _ => []

def Event.reads : Event → Bytes
  | .received chunk => chunk
  | _ => []

/-- What the reader loses in an event: it gives up with a chunk in hand. -/
def forsakes (inflow : Inflow) : Event → Bytes
  | .refused | .halted => inflow.hand
  | _ => []

/-- What one step of the reader does with bytes. -/
structure Carried (inflow : Inflow) (event : Event) (after : Inflow)
    (forwarded : Option Bytes) : Prop where
  active : inflow.hasEnded = false
  bytes : inflow.hand ++ event.reads =
    forwarded.toList.flatten ++ after.hand ++ inflow.forsakes event
  spared : after.hasEnded = false → inflow.forsakes event = []
  ended : event = .endOfStream → after.hasEnded = true ∧ inflow.forsakes event = []

theorem hand_ended (inflow : Inflow) (ended : inflow.hasEnded = true) : inflow.hand = [] := by
  unfold hasEnded at ended
  unfold hand
  rw [beq_iff_eq.mp ended]

theorem hand_held (inflow : Inflow) : inflow.hand = inflow.held.flatten := by
  unfold hand held
  cases inflow.phase with
  | handing chunk => exact (List.append_nil chunk).symm
  | _ => rfl

theorem reads_chunks (event : Event) : event.reads = event.chunks.flatten := by
  cases event with
  | received chunk => exact (List.append_nil chunk).symm
  | _ => rfl

theorem forsakes_broken (inflow : Inflow) (event : Event) :
    inflow.forsakes event = (inflow.breaksOff event).flatten := by
  cases event with
  | refused | halted => exact hand_held inflow
  | _ => rfl

theorem step_carries (now : Nat) (stopped : Bool) (inflow after : Inflow) (event : Event)
    (forwarded : Option Bytes)
    (stepped : inflow.step now stopped event = some (after, forwarded)) :
    Carried inflow event after forwarded := by
  have shifted := step_shifts now stopped inflow after event forwarded stepped
  refine ⟨shifted.active, ?_, ?_, ?_⟩
  · rw [hand_held, reads_chunks, hand_held, forsakes_broken, ← List.flatten_append,
      ← List.flatten_append, ← List.flatten_append, shifted.forwarded, shifted.chunks]
  · intro running
    rw [forsakes_broken, shifted.spared running]
    rfl
  · rintro rfl
    cases phase : inflow.phase <;> simp only [step, phase] at stepped <;> cases stepped
    exact ⟨rfl, rfl⟩

end Inflow

namespace Link

def Action.reads : Action → Bytes
  | .inflow event => event.reads
  | .outflow _ => []

def writes (link : Link) : Action → Bytes
  | .outflow (.wrote count) =>
      match link.outflow.phase with
      | .writing rest _ => rest.take count
      | _ => []
  | _ => []

theorem step_writes (now : Nat) (link after : Link) (action : Action) (written : Bytes)
    (stepped : link.step now action = some (after, written)) : written = link.writes action := by
  unfold step at stepped
  split_ifs at stepped
  cases action with
  | inflow event =>
      obtain ⟨_, _, same⟩ := Option.map_eq_some_iff.mp stepped
      cases same
      rfl
  | outflow event =>
      obtain ⟨⟨outflow, own⟩, ran, same⟩ := Option.map_eq_some_iff.mp stepped
      cases same
      cases event <;> cases phase : link.outflow.phase <;>
        simp only [Outflow.step, phase] at ran
      case wrote.writing count rest since =>
        split_ifs at ran
        cases ran
        simp [writes, phase]
      all_goals first | (cases ran; rfl) | cases ran

/-- What a move does to its connection: it reads some bytes and writes others. The peer does
nothing. -/
structure Uses (socket used : Socket) (read written : Bytes) : Prop where
  peerEnded : used.peerEnded = socket.peerEnded
  peerGone : used.peerGone = socket.peerGone
  reset : used.reset = socket.reset
  incoming : socket.incoming = read ++ used.incoming
  outgoing : used.outgoing = socket.outgoing ++ written

theorem move_uses (now : Nat) (socket used : Socket) (link after : Link) (action : Action)
    (moved : link.move now socket action = some (after, used)) :
    link.agrees now socket action = true ∧
      link.step now action = some (after, link.writes action) ∧
      Uses socket used action.reads (link.writes action) := by
  unfold move at moved
  split_ifs at moved with agreed
  obtain ⟨⟨stepped, written⟩, went, same⟩ := Option.map_eq_some_iff.mp moved
  obtain rfl := step_writes now link stepped action written went
  have finishes : ∀ plain : Socket, Uses socket plain action.reads (link.writes action) →
      Uses socket (if stepped.outflow.hasEnded then plain.finish else plain) action.reads
        (link.writes action) := by
    intro plain uses
    split_ifs
    · exact { uses with }
    · exact uses
  have writes : Uses socket (socket.write (link.writes action)) [] (link.writes action) := by
    unfold Socket.write
    split_ifs with empty
    · exact ⟨rfl, rfl, rfl, rfl, by rw [empty, List.append_nil]⟩
    · exact ⟨rfl, rfl, rfl, rfl, rfl⟩
  cases same
  refine ⟨agreed, went, finishes _ ?_⟩
  cases action with
  | inflow event =>
      cases event with
      | received chunk =>
          obtain ⟨rest, whole⟩ := List.isPrefixOf_iff_prefix.mp agreed
          have left : (socket.consume chunk.length).incoming = rest := by
            simp [Socket.consume, ← whole]
          exact ⟨rfl, rfl, rfl, left ▸ whole.symm, (List.append_nil _).symm⟩
      | _ => exact writes
  | outflow event => exact writes

/-- What a move of the link changes on the side that bytes come in. -/
inductive Moved (link : Link) : Action → Link → Prop where
  | inflow (event : Inflow.Event) (after : Link) (forwarded : Option Bytes)
      (carried : Inflow.Carried link.inflow event after.inflow forwarded)
      (slot : after.fromDown = link.fromDown ++ forwarded.toList)
      (owned : after.owned = link.owned)
      (owner : forwarded ≠ none → link.owned = true)
      (shifted : Inflow.Shifted link.inflow event after.inflow forwarded) :
      Moved link (.inflow event) after
  | outflow (event : Outflow.Event) (after : Link) (inflow : after.inflow = link.inflow)
      (slot : after.fromDown = link.fromDown) (owned : after.owned = link.owned) :
      Moved link (.outflow event) after

theorem move_moved (now : Nat) (socket used : Socket) (link after : Link) (action : Action)
    (moved : link.move now socket action = some (after, used)) : Moved link action after := by
  obtain ⟨_, went, _⟩ := move_uses now socket used link after action moved
  unfold step at went
  split_ifs at went with allowed
  cases action with
  | inflow event =>
      obtain ⟨⟨inflow, forwarded⟩, ran, same⟩ := Option.map_eq_some_iff.mp went
      obtain ⟨rfl, -⟩ := Prod.mk.inj same
      have shifted := Inflow.step_shifts now link.stopped link.inflow inflow event forwarded ran
      refine .inflow event _ forwarded
        (Inflow.step_carries now link.stopped link.inflow inflow event forwarded ran) rfl rfl ?_
        shifted
      intro handed
      cases event with
      | handed =>
          simp only [allows, Bool.and_eq_true] at allowed
          exact allowed.1.2
      | _ => exact absurd (Option.toList_eq_nil_iff.mp shifted.forwarded) handed
  | outflow event =>
      obtain ⟨⟨outflow, own⟩, ran, same⟩ := Option.map_eq_some_iff.mp went
      obtain ⟨rfl, -⟩ := Prod.mk.inj same
      cases event <;> exact .outflow _ _ rfl rfl rfl

end Link

namespace Tunnel

inductive Happening where
  | act (action : Action)
  | deliver (packet : Packet)
  | close
  | hangUp (client : Nat)
  /-- Nobody will hand over packets any more. -/
  | forget
  | downstream (move : Socket.PeerMove)
  | downstreamReads

structure Stride where
  now : Nat
  action : Action
  before : Tunnel
  after : Tunnel
  deeds : List Deed

def happen (now : Nat) (tunnel : Tunnel) : Happening → Option (Tunnel × List Stride)
  | .act action =>
      (tunnel.step now action).map fun (after, deeds) =>
        (after, [⟨now, action, tunnel, after, deeds⟩])
  | .deliver packet => some (tunnel.deliver packet, [])
  | .close => some (tunnel.close, [])
  | .hangUp client => some (tunnel.hangUp client, [])
  | .forget => some ({ tunnel with reachable := false }, [])
  | .downstream move => some (tunnel.follow move, [])
  | .downstreamReads => some ({ tunnel with socket := tunnel.socket.peerTake.2 }, [])

def run (tunnel : Tunnel) : List (Nat × Happening) → Option (Tunnel × List Stride)
  | [] => some (tunnel, [])
  | (now, happening) :: script => do
      let (middle, strides) ← tunnel.happen now happening
      let (after, trace) ← middle.run script
      return (after, strides ++ trace)

section Trace

/-- The bytes that the reader read from downstream. -/
def bytesRead (trace : List Stride) : Bytes :=
  trace.flatMap fun stride =>
    match stride.action with
    | .link (.inflow event) => event.reads
    | _ => []

def pollerDeeds (trace : List Stride) : List Poller.Deed :=
  trace.flatMap fun stride => stride.deeds.filterMap fun
    | .poller deed => some deed
    | .refused _ => none

/-- The bytes that clients took in replies. -/
def handed (trace : List Stride) : Bytes :=
  ((Poller.dataOf (pollerDeeds trace)).map Prod.snd).flatten

/-- What was left in the slot when the poller ended and released the link. -/
def spilled (trace : List Stride) : Bytes :=
  trace.flatMap fun stride =>
    match stride.action with
    | .poller event =>
        if stride.after.poller.hasEnded then (stride.before.linkAfter event).fromDown.flatten
        else []
    | _ => []

/-- What the reader had in hand when it gave up. -/
def forsaken (trace : List Stride) : Bytes :=
  trace.flatMap fun stride =>
    match stride.action with
    | .link (.inflow event) => stride.before.link.inflow.forsakes event
    | _ => []

variable (trace further : List Stride)

@[simp] theorem bytes_read_append :
    bytesRead (trace ++ further) = bytesRead trace ++ bytesRead further :=
  List.flatMap_append

@[simp] theorem handed_append : handed (trace ++ further) = handed trace ++ handed further := by
  simp [handed, pollerDeeds]

@[simp] theorem spilled_append : spilled (trace ++ further) = spilled trace ++ spilled further :=
  List.flatMap_append

@[simp] theorem forsaken_append :
    forsaken (trace ++ further) = forsaken trace ++ forsaken further :=
  List.flatMap_append

end Trace

/-- One turn of a run: the poller steps, the link moves, or neither the bytes in the poller nor
the link change. -/
inductive Turn (tunnel : Tunnel) : Tunnel → List Stride → Prop where
  | poller (now : Nat) (event : Poller.Event) (after : Tunnel) (deeds : List Poller.Deed)
      (allowed : tunnel.allows event = true)
      (stepped : tunnel.poller.step (tunnel.moment now) event = some (after.poller, deeds))
      (link : after.link =
        if after.poller.hasEnded then (tunnel.linkAfter event).release
        else tunnel.linkAfter event) :
      Turn tunnel after [⟨now, .poller event, tunnel, after, deeds.map .poller⟩]
  | link (now : Nat) (action : Link.Action) (after : Tunnel)
      (moved : Link.Moved tunnel.link action after.link)
      (poller : after.poller = tunnel.poller) :
      Turn tunnel after [⟨now, .link action, tunnel, after, []⟩]
  | enqueues (now : Nat) (after : Tunnel) (deeds : List Deed)
      (pending : after.poller.pending = tunnel.poller.pending)
      (parked : after.poller.parked = tunnel.poller.parked)
      (phase : after.poller.phase = tunnel.poller.phase) (link : after.link = tunnel.link)
      (silent : deeds.filterMap (fun
        | .poller deed => some deed
        | .refused _ => none) = []) :
      Turn tunnel after [⟨now, .enqueue, tunnel, after, deeds⟩]
  | rests (after : Tunnel) (poller : after.poller = tunnel.poller)
      (link : after.link = tunnel.link) : Turn tunnel after []

theorem step_turns (now : Nat) (tunnel after : Tunnel) (action : Action) (deeds : List Deed)
    (stepped : tunnel.step now action = some (after, deeds)) :
    Turn tunnel after [⟨now, action, tunnel, after, deeds⟩] := by
  cases action with
  | poller event =>
      simp only [step, stepPoller] at stepped
      split_ifs at stepped with allowed
      obtain ⟨⟨poller, own⟩, ran, same⟩ := Option.map_eq_some_iff.mp stepped
      cases ended : poller.hasEnded <;> simp only [ended] at same <;> cases same
      · exact .poller now event _ own allowed ran (by simp [ended])
      · exact .poller now event _ own allowed ran (by simp [ended])
  | link action =>
      obtain ⟨⟨link, socket⟩, moved, same⟩ := Option.map_eq_some_iff.mp stepped
      cases same
      exact .link now action _ (Link.move_moved now _ _ _ _ _ moved) rfl
  | enqueue =>
      cases waiting : tunnel.waiting <;> simp only [step, enqueue, waiting] at stepped
      case cons packet rest =>
        unfold Poller.deliver at stepped
        split_ifs at stepped
        · cases stepped
          exact .enqueues now _ [] rfl rfl rfl rfl rfl
        · cases stepped
          exact .enqueues now _ _ rfl rfl rfl rfl rfl
      all_goals cases stepped

theorem happen_turns (now : Nat) (tunnel after : Tunnel) (happening : Happening)
    (strides : List Stride) (happened : tunnel.happen now happening = some (after, strides)) :
    Turn tunnel after strides := by
  cases happening with
  | act action =>
      obtain ⟨⟨last, deeds⟩, stepped, same⟩ := Option.map_eq_some_iff.mp happened
      cases same
      exact step_turns now tunnel after action deeds stepped
  | _ =>
      cases happened
      exact .rests _ rfl rfl

theorem run_keeps (invariant : Tunnel → List Stride → Prop)
    (keeps : ∀ tunnel after past strides, invariant tunnel past → Turn tunnel after strides →
      invariant after (past ++ strides))
    (script : List (Nat × Happening)) (tunnel after : Tunnel) (past trace : List Stride)
    (start : invariant tunnel past) (ran : tunnel.run script = some (after, trace)) :
    invariant after (past ++ trace) := by
  induction script generalizing tunnel past trace with
  | nil =>
      cases ran
      rw [List.append_nil]
      exact start
  | cons entry script induction =>
      rcases entry with ⟨now, happening⟩
      simp only [run, Option.bind_eq_bind, Option.bind_eq_some_iff] at ran
      rcases ran with ⟨⟨middle, strides⟩, happened, ⟨last, later⟩, rest, same⟩
      cases same
      have turn := happen_turns now tunnel middle happening strides happened
      have here := keeps tunnel middle past strides start turn
      have there := induction middle (past ++ strides) later here rest
      rwa [List.append_assoc] at there

end Tunnel

end HttpTunnel.Server
