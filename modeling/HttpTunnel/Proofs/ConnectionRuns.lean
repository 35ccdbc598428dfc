import HttpTunnel.Proofs.CourierErrands

/-!
Runs of a connection beside its local socket. The parts of the connection act as they can, at
any instants and in any order, while the application sends, reads and hangs up as it likes; an
answer may come to a courier whenever it is out. A run has a trace of strides, and what every
turn keeps holds at the end of all runs.
-/

namespace HttpTunnel.Client

/-- A connection with the local socket it works on. -/
structure Site where
  connection : Connection
  socket : Socket
  deriving DecidableEq, Repr

/-- The reply with data that a courier decodes when an answer comes to it. -/
def Connection.Action.decoded? : Connection.Action → Option (Nat × Bytes)
  | .answer _ trip =>
      match trip.reply with
      | .ok reply => reply
      | .error _ => none
  | _ => none

namespace Site

open Connection (Action Deed)

inductive Happening where
  | act (action : Action)
  | application (move : Socket.PeerMove)
  | applicationReads
  deriving DecidableEq, Repr

/-- What came of a happening. -/
structure Stride where
  now : Nat
  happening : Happening
  before : Site
  after : Site
  deeds : List Deed
  deriving DecidableEq, Repr

def ofStart (terms : Terms) (now : Nat) : Site := ⟨.ofStart terms now, {}⟩

def happen (now : Nat) (site : Site) : Happening → Option (Site × List Deed)
  | .act action =>
      (site.connection.move now site.socket action).map fun (connection, socket, deeds) =>
        (⟨connection, socket⟩, deeds)
  | .application move => some ({ site with socket := site.socket.follow move }, [])
  | .applicationReads => some ({ site with socket := site.socket.peerTake.2 }, [])

def run (site : Site) : List (Nat × Happening) → Option (Site × List Stride)
  | [] => some (site, [])
  | (now, happening) :: script => do
      let (middle, deeds) ← site.happen now happening
      let (after, trace) ← middle.run script
      return (after, ⟨now, happening, site, middle, deeds⟩ :: trace)

section Trace

/-- What passes the ends of the tunnel on the connecting side. -/
def passed (trace : List Stride) : List Relay.Deed :=
  trace.flatMap fun stride => stride.deeds.filterMap Relay.Deed.ofClient?

def Stride.decoded? (stride : Stride) : Option (Nat × Bytes) :=
  match stride.happening with
  | .act action => action.decoded?
  | _ => none

def decoded (trace : List Stride) : List (Nat × Bytes) := trace.filterMap Stride.decoded?

variable (trace further : List Stride) (stride : Stride)

@[simp] theorem passed_append : passed (trace ++ further) = passed trace ++ passed further :=
  List.flatMap_append

@[simp] theorem passed_last :
    passed (trace ++ [stride]) =
      passed trace ++ stride.deeds.filterMap Relay.Deed.ofClient? := by
  simp [passed]

end Trace

inductive Turn (now : Nat) (site : Site) : Happening → Site → List Deed → Prop where
  | acts (action : Action) (connection : Connection) (socket : Socket) (deeds : List Deed)
      (allowed : site.connection.agrees site.socket action = true)
      (stepped : site.connection.step now action = some (connection, deeds))
      (moved : site.connection.move now site.socket action = some (connection, socket, deeds)) :
      Turn now site (.act action) ⟨connection, socket⟩ deeds
  | follows (move : Socket.PeerMove) :
      Turn now site (.application move) { site with socket := site.socket.follow move } []
  | reads : Turn now site .applicationReads { site with socket := site.socket.peerTake.2 } []

theorem happen_turns (now : Nat) (site after : Site) (happening : Happening) (deeds : List Deed)
    (happened : site.happen now happening = some (after, deeds)) :
    Turn now site happening after deeds := by
  cases happening with
  | act action =>
      obtain ⟨⟨connection, socket, did⟩, moved, same⟩ := Option.map_eq_some_iff.mp happened
      cases same
      have whole := moved
      unfold Connection.move at moved
      split_ifs at moved with allowed
      obtain ⟨⟨next, done⟩, stepped, same⟩ := Option.map_eq_some_iff.mp moved
      cases same
      exact .acts action _ _ deeds allowed stepped whole
  | application move =>
      cases happened
      exact .follows move
  | applicationReads =>
      cases happened
      exact .reads

theorem run_keeps (invariant : Site → List Stride → Prop)
    (keeps : ∀ now site past happening after deeds, invariant site past →
      Turn now site happening after deeds →
      invariant after (past ++ [⟨now, happening, site, after, deeds⟩]))
    (script : List (Nat × Happening)) (site after : Site) (past trace : List Stride)
    (start : invariant site past) (ran : site.run script = some (after, trace)) :
    invariant after (past ++ trace) := by
  induction script generalizing site past trace with
  | nil =>
      cases ran
      rw [List.append_nil]
      exact start
  | cons entry script induction =>
      rcases entry with ⟨now, happening⟩
      simp only [run, Option.bind_eq_bind, Option.bind_eq_some_iff] at ran
      rcases ran with ⟨⟨middle, deeds⟩, happened, ⟨last, later⟩, rest, same⟩
      cases same
      have turn := happen_turns now site middle happening deeds happened
      have here := keeps now site past happening middle deeds start turn
      have there := induction middle _ later here rest
      rwa [List.append_assoc] at there

/-- A run goes through each of its strides: one run leads up to it, one through it, and another
one on from there. -/
theorem run_splits (script : List (Nat × Happening)) (site after : Site)
    (past future : List Stride) (stride : Stride)
    (ran : site.run script = some (after, past ++ stride :: future)) :
    ∃ earlier upto later, site.run earlier = some (stride.before, past) ∧
      site.run upto = some (stride.after, past ++ [stride]) ∧
      Turn stride.now stride.before stride.happening stride.after stride.deeds ∧
      stride.after.run later = some (after, future) := by
  induction script generalizing site past with
  | nil => simp [run] at ran
  | cons entry script induction =>
      rcases entry with ⟨now, happening⟩
      simp only [run, Option.bind_eq_bind, Option.bind_eq_some_iff] at ran
      rcases ran with ⟨⟨middle, deeds⟩, happened, ⟨last, later⟩, rest, same⟩
      cases past with
      | nil =>
          cases same
          have turn := happen_turns now site middle happening deeds happened
          refine ⟨[], [(now, happening)], script, rfl, ?_, turn, rest⟩
          simp [run, happened]
      | cons first past =>
          cases same
          obtain ⟨earlier, upto, further, before, through, turn, there⟩ :=
            induction middle past rest
          refine ⟨(now, happening) :: earlier, (now, happening) :: upto, further, ?_, ?_, turn,
            there⟩
          · simp [run, happened, before]
          · simp [run, happened, through]

theorem run_connection_keeps (invariant : Connection → Prop)
    (keeps : ∀ now before action after deeds, invariant before →
      Connection.Move now before action after deeds → invariant after)
    (script : List (Nat × Happening)) (site after : Site) (trace : List Stride)
    (start : invariant site.connection) (ran : site.run script = some (after, trace)) :
    invariant after.connection := by
  refine run_keeps (fun site _ => invariant site.connection) ?_ script site after [] trace start ran
  intro now before past happening next deeds holds turn
  cases turn with
  | acts action connection socket deeds allowed stepped moved =>
      exact keeps now before.connection action connection deeds holds
        (Connection.step_moves now before.connection connection action deeds stepped)
  | follows move => exact holds
  | reads => exact holds

end Site

end HttpTunnel.Client
