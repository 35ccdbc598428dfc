import HttpTunnel.Proofs.CourierMoves
import HttpTunnel.Proofs.PollerLaws
import HttpTunnel.Relay

/-!
Runs of a relay from end to end. A run is any list of actions at any instants, as long as
the parts can do them; what passes the ends of the tunnel is its trace. Every action is one
of a few passages, and what all passages keep holds at the end of each run.
-/

namespace HttpTunnel.Relay

open Client (Connection Courier Parcel Trip)
open Server (Packet Poller Response Tunnel)

def run (relay : Relay) : List (Nat × Action) → Option (Relay × List Deed)
  | [] => some (relay, [])
  | (now, action) :: script => do
      let (middle, deeds) ← relay.step now action
      let (after, trace) ← middle.run script
      return (after, deeds ++ trace)

section Trace

/-- All bytes that the local reader queued. -/
def queued (trace : List Deed) : Bytes :=
  trace.flatMap fun
    | .queued chunk => chunk
    | _ => []

def posted (trace : List Deed) : List Parcel :=
  trace.filterMap fun
    | .posted parcel => some parcel
    | _ => none

/-- All bytes that the poller handed to the downstream writer. -/
def passedDown (trace : List Deed) : Bytes :=
  trace.flatMap fun
    | .passedDown payload => payload
    | _ => []

/-- All bytes that the poller took from downstream. -/
def received (trace : List Deed) : Bytes :=
  trace.flatMap fun
    | .received chunk => chunk
    | _ => []

/-- All bytes that the local writer wrote to the application. -/
def wrote (trace : List Deed) : Bytes :=
  trace.flatMap fun
    | .wrote chunk => chunk
    | _ => []

variable (trace further : List Deed)

@[simp] theorem queued_append : queued (trace ++ further) = queued trace ++ queued further :=
  List.flatMap_append

@[simp] theorem posted_append : posted (trace ++ further) = posted trace ++ posted further :=
  List.filterMap_append

@[simp] theorem passed_down_append :
    passedDown (trace ++ further) = passedDown trace ++ passedDown further :=
  List.flatMap_append

@[simp] theorem received_append :
    received (trace ++ further) = received trace ++ received further :=
  List.flatMap_append

@[simp] theorem wrote_append : wrote (trace ++ further) = wrote trace ++ wrote further :=
  List.flatMap_append

end Trace

theorem run_keeps (allowed : Action → Prop) (invariant : Relay → List Deed → Prop)
    (keeps : ∀ now relay past action after deeds, allowed action → invariant relay past →
      relay.step now action = some (after, deeds) → invariant after (past ++ deeds))
    (script : List (Nat × Action)) (relay after : Relay) (past trace : List Deed)
    (orderly : ∀ entry ∈ script, allowed entry.2) (start : invariant relay past)
    (ran : relay.run script = some (after, trace)) : invariant after (past ++ trace) := by
  induction script generalizing relay past trace with
  | nil =>
      cases ran
      rw [List.append_nil]
      exact start
  | cons entry script induction =>
      rcases entry with ⟨now, action⟩
      simp only [run, Option.bind_eq_bind, Option.bind_eq_some_iff] at ran
      rcases ran with ⟨⟨middle, deeds⟩, stepped, ⟨last, later⟩, rest, same⟩
      cases same
      have here := keeps now relay past action middle deeds
        (orderly _ (List.mem_cons_self ..)) start stepped
      have there := induction middle (past ++ deeds) later
        (fun entry member => orderly entry (List.mem_cons_of_mem _ member)) here rest
      rwa [List.append_assoc] at there

/-- What passes the ends of the tunnel in a step of the poller. -/
def served (event : Poller.Event) (deeds : List Poller.Deed) : List Deed :=
  taken (.poller event) ++ (deeds.map .poller).filterMap Deed.ofServer?

section Projections

variable (event : Poller.Event) (moved : List Connection.Deed) (deeds : List Poller.Deed)

theorem posted_of_client : posted (moved.filterMap Deed.ofClient?) = posts moved := by
  unfold posted posts
  rw [List.filterMap_filterMap]
  apply List.filterMap_congr
  intro deed _
  cases deed <;> rfl

theorem passed_down_of_client : passedDown (moved.filterMap Deed.ofClient?) = [] := by
  induction moved with
  | nil => rfl
  | cons deed rest induction => cases deed <;> exact induction

theorem received_of_client : received (moved.filterMap Deed.ofClient?) = [] := by
  induction moved with
  | nil => rfl
  | cons deed rest induction => cases deed <;> exact induction

theorem queued_of_server : queued (served event deeds) = [] := by
  have own : queued (taken (.poller event)) = [] := by cases event <;> rfl
  rw [served, queued_append, own, List.nil_append]
  induction deeds with
  | nil => rfl
  | cons deed rest induction => cases deed <;> exact induction

theorem posted_of_server : posted (served event deeds) = [] := by
  have own : posted (taken (.poller event)) = [] := by cases event <;> rfl
  rw [served, posted_append, own, List.nil_append]
  induction deeds with
  | nil => rfl
  | cons deed rest induction => cases deed <;> exact induction

theorem wrote_of_server : wrote (served event deeds) = [] := by
  have own : wrote (taken (.poller event)) = [] := by cases event <;> rfl
  rw [served, wrote_append, own, List.nil_append]
  induction deeds with
  | nil => rfl
  | cons deed rest induction => cases deed <;> exact induction

theorem received_of_server : received (served event deeds) = event.brings := by
  have own : received (taken (.poller event)) = event.brings := by
    cases event <;> simp [received, taken, Server.Poller.Event.brings]
  have others : received ((deeds.map Tunnel.Deed.poller).filterMap Deed.ofServer?) = [] := by
    induction deeds with
    | nil => rfl
    | cons deed rest induction => cases deed <;> exact induction
  rw [served, received_append, own, others, List.append_nil]

theorem passed_down_of_server : passedDown (served event deeds) = Poller.passedDown deeds := by
  have own : passedDown (taken (.poller event)) = [] := by cases event <;> rfl
  rw [served, passed_down_append, own, List.nil_append]
  induction deeds with
  | nil => rfl
  | cons deed rest induction =>
      cases deed with
      | passedDown payload => exact congrArg (payload ++ ·) induction
      | _ => exact induction

end Projections

def responses (deeds : List Poller.Deed) : List (Nat × Trip) :=
  ((deeds.map Tunnel.Deed.poller).filterMap Tunnel.Deed.response?).map fun (client, response) =>
    (client, tripOf response)

/-- What an action of a relay comes down to. -/
inductive Passage (now : Nat) (relay : Relay) : Action → Relay → List Deed → Prop where
  | client (action : Connection.Action) (connection : Connection) (application : Socket)
      (deeds : List Connection.Deed) (own : ownAction action = true)
      (move : relay.connection.Move now action connection deeds) :
      Passage now relay (.client action)
        { relay with
          connection := connection
          application := application
          outbound := relay.outbound ++ posts deeds } (deeds.filterMap Deed.ofClient?)
  | comeBack (serial : Nat) (trip : Trip) (courier : Courier) (connection : Connection)
      (deeds : List Connection.Deed) (came : (serial, trip) ∈ relay.inbound)
      (waits : relay.connection.waitingFor? serial = some courier)
      (move : relay.connection.Move now (.answer courier trip) connection deeds) :
      Passage now relay (.comeBack serial trip)
        { relay with
          connection := connection
          inbound := relay.inbound.erase (serial, trip)
          outbound := relay.outbound ++ posts deeds } (deeds.filterMap Deed.ofClient?)
  | breakTrip (courier : Courier) (connection : Connection) (deeds : List Connection.Deed)
      (move : relay.connection.Move now (.answer courier .broken) connection deeds) :
      Passage now relay (.breakTrip courier)
        { relay with
          connection := connection
          outbound := relay.outbound ++ posts deeds } (deeds.filterMap Deed.ofClient?)
  | poll (event : Poller.Event) (poller : Poller) (deeds : List Poller.Deed) (tunnel : Tunnel)
      (allowed : relay.tunnel.allows event = true)
      (stepped : relay.tunnel.poller.step (relay.tunnel.moment now) event = some (poller, deeds))
      (samePoller : tunnel.poller = poller) (sameWaiting : tunnel.waiting = relay.tunnel.waiting)
      (sameGone : tunnel.gone = relay.tunnel.gone)
      (sameAsked : tunnel.closeAsked = relay.tunnel.closeAsked) :
      Passage now relay (.server (.poller event))
        { relay with tunnel := tunnel, inbound := relay.inbound ++ responses deeds }
        (served event deeds)
  | enqueue (packet : Packet) (rest : List Packet)
      (waiting : relay.tunnel.waiting = packet :: rest) :
      Passage now relay (.server .enqueue)
        { relay with tunnel := { relay.tunnel with
          poller := { relay.tunnel.poller with queue := relay.tunnel.poller.queue ++ [packet] }
          waiting := rest } } []
  | refuse (packet : Packet) (rest : List Packet)
      (waiting : relay.tunnel.waiting = packet :: rest) :
      Passage now relay (.server .enqueue)
        { relay with
          tunnel := { relay.tunnel with waiting := rest }
          inbound := relay.inbound ++ [(packet.client, tripOf unknown)] } []
  | reach (parcel : Parcel) (posted : parcel ∈ relay.outbound) :
      Passage now relay (.reach parcel)
        { relay with
          outbound := relay.outbound.erase parcel
          tunnel := relay.tunnel.deliver (packetOf parcel) } []
  | turnAway (parcel : Parcel) (posted : parcel ∈ relay.outbound) :
      Passage now relay (.turnAway parcel)
        { relay with
          outbound := relay.outbound.erase parcel
          inbound := relay.inbound ++ [(parcel.serial, tripOf unknown)] } []
  | hangUp (serial : Nat) :
      Passage now relay (.hangUp serial) { relay with tunnel := relay.tunnel.hangUp serial } []
  | loseRequest (parcel : Parcel) (posted : parcel ∈ relay.outbound) :
      Passage now relay (.loseRequest parcel)
        { relay with outbound := relay.outbound.erase parcel } []
  | loseResponse (serial : Nat) (trip : Trip) (came : (serial, trip) ∈ relay.inbound) :
      Passage now relay (.loseResponse serial trip)
        { relay with inbound := relay.inbound.erase (serial, trip) } []
  | still (action : Action) (application : Socket) (tunnel : Tunnel)
      (samePoller : tunnel.poller = relay.tunnel.poller)
      (sameWaiting : tunnel.waiting = relay.tunnel.waiting)
      (sameGone : tunnel.gone = relay.tunnel.gone)
      (asked : relay.tunnel.closeAsked = true → tunnel.closeAsked = true)
      (unanswered : ∀ serial trip, action ≠ .comeBack serial trip) :
      Passage now relay action { relay with application := application, tunnel := tunnel } []

section Steps

variable (now : Nat) (relay after : Relay) (deeds : List Deed)

theorem client_passes (action : Connection.Action)
    (stepped : relay.stepClient now action = some (after, deeds)) :
    Passage now relay (.client action) after deeds := by
  unfold stepClient at stepped
  split_ifs at stepped with own
  obtain ⟨⟨connection, socket, did⟩, moved, same⟩ := Option.map_eq_some_iff.mp stepped
  cases same
  unfold Connection.move at moved
  split_ifs at moved
  obtain ⟨⟨next, done⟩, ran, same⟩ := Option.map_eq_some_iff.mp moved
  cases same
  exact .client action connection _ did own
    (Connection.step_moves now relay.connection connection action did ran)

theorem server_passes (action : Tunnel.Action)
    (stepped : relay.stepServer now action = some (after, deeds)) :
    Passage now relay (.server action) after deeds := by
  obtain ⟨⟨tunnel, did⟩, moved, same⟩ := Option.map_eq_some_iff.mp stepped
  cases same
  cases action with
  | poller event =>
      simp only [Tunnel.step, Tunnel.stepPoller] at moved
      split_ifs at moved with allowed
      obtain ⟨⟨poller, own⟩, ran, same⟩ := Option.map_eq_some_iff.mp moved
      cases same
      refine .poll event poller own _ allowed ran ?_ ?_ ?_ ?_ <;> split_ifs <;> rfl
  | link action =>
      obtain ⟨⟨link, socket⟩, ran, same⟩ := Option.map_eq_some_iff.mp moved
      cases same
      simp only [List.filterMap_nil, List.map_nil, List.append_nil]
      exact .still _ relay.application { relay.tunnel with link := link, socket := socket }
        rfl rfl rfl id (by simp)
  | enqueue =>
      cases waiting : relay.tunnel.waiting <;>
        simp only [Tunnel.step, Tunnel.enqueue, waiting] at moved
      case cons packet rest =>
        unfold Server.Poller.deliver at moved
        split_ifs at moved
        · cases moved
          have passes : Passage now relay (.server .enqueue) _ _ := .enqueue packet rest waiting
          simpa [taken] using passes
        · cases moved
          exact .refuse packet rest waiting
      all_goals cases moved

/-- Every action of a relay is a passage. -/
theorem step_passes (action : Action) (stepped : relay.step now action = some (after, deeds)) :
    Passage now relay action after deeds := by
  cases action with
  | client action => exact client_passes now relay after deeds action stepped
  | server action => exact server_passes now relay after deeds action stepped
  | reach parcel =>
      simp only [step] at stepped
      split_ifs at stepped with posted
      cases stepped
      exact .reach parcel (List.contains_iff_mem.mp posted)
  | turnAway parcel =>
      simp only [step] at stepped
      split_ifs at stepped with posted
      cases stepped
      exact .turnAway parcel (List.contains_iff_mem.mp posted.2)
  | comeBack serial trip =>
      simp only [step] at stepped
      split_ifs at stepped with came
      obtain ⟨courier, waits, answered⟩ := Option.bind_eq_some_iff.mp stepped
      obtain ⟨⟨connection, did⟩, ran, same⟩ := Option.map_eq_some_iff.mp answered
      cases same
      exact .comeBack serial trip courier connection did (List.contains_iff_mem.mp came) waits
        (Connection.step_moves _ _ _ _ _ ran)
  | hangUp serial =>
      cases stepped
      exact .hangUp serial
  | loseRequest parcel =>
      simp only [step] at stepped
      split_ifs at stepped with posted
      cases stepped
      exact .loseRequest parcel (List.contains_iff_mem.mp posted)
  | loseResponse serial trip =>
      simp only [step] at stepped
      split_ifs at stepped with came
      cases stepped
      exact .loseResponse serial trip (List.contains_iff_mem.mp came)
  | breakTrip courier =>
      obtain ⟨⟨connection, did⟩, ran, same⟩ := Option.map_eq_some_iff.mp stepped
      cases same
      exact .breakTrip courier connection did (Connection.step_moves _ _ _ _ _ ran)
  | close =>
      cases stepped
      exact .still _ relay.application relay.tunnel.close rfl rfl rfl (fun _ => rfl) (by simp)
  | application move =>
      cases stepped
      exact .still _ (relay.application.follow move) relay.tunnel rfl rfl rfl id (by simp)
  | downstream move =>
      cases stepped
      exact .still _ relay.application (relay.tunnel.follow move) rfl rfl rfl id
        (by simp)
  | applicationReads =>
      cases stepped
      exact .still _ relay.application.peerTake.2 relay.tunnel rfl rfl rfl id (by simp)
  | downstreamReads =>
      cases stepped
      exact .still _ relay.application
        { relay.tunnel with socket := relay.tunnel.socket.peerTake.2 } rfl rfl rfl id
        (by simp)

end Steps

end HttpTunnel.Relay
