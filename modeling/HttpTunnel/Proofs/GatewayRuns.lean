import HttpTunnel.Proofs.PollerPartings
import HttpTunnel.Proofs.TunnelRuns
import HttpTunnel.Server.Gateway
import Mathlib.Data.List.Nodup

/-!
Runs of the serving side. Clients, the owner, the network and the tunnels act in any order that the
gateway allows, and every act leaves a stride in the trace. A key leads to the tunnel that was
made for it and to no other, and each request in flight waits for one tunnel, as long as no key is
made twice and no two requests have the same number.
-/

namespace HttpTunnel.Server

namespace Registry

variable (registry : Registry) (key other : Key) (number : Nat)

theorem lookup_erased (entries : List (Key × Nat)) (apart : other ≠ key) :
    (entries.filter fun entry => entry.1 != key).lookup other = entries.lookup other := by
  induction entries with
  | nil => rfl
  | cons entry rest induction =>
      rcases entry with ⟨first, leads⟩
      rw [List.filter_cons]
      split_ifs with kept
      · rw [List.lookup_cons, List.lookup_cons, induction]
      · have same : first = key := by simpa using kept
        rw [induction, List.lookup_cons, same, beq_false_of_ne apart]

@[simp] theorem find_erase_self : (registry.erase key).find? key = none := by
  rw [find?, List.lookup_eq_none_iff]
  intro entry member
  have kept := (List.mem_filter.mp member).2
  exact bne_iff_ne.mpr (bne_iff_ne.mp kept).symm

theorem find_erase_other (apart : other ≠ key) :
    (registry.erase key).find? other = registry.find? other :=
  lookup_erased key other registry.entries apart

@[simp] theorem find_insert_self : (registry.insert key number).find? key = some number := by
  simp [find?, insert]

theorem find_insert_other (apart : other ≠ key) :
    (registry.insert key number).find? other = registry.find? other := by
  rw [find?, insert, List.lookup_cons, beq_false_of_ne apart]
  exact find_erase_other registry key other apart

theorem find_release_other (apart : other ≠ key) :
    (registry.release key number).find? other = registry.find? other := by
  unfold release
  split_ifs
  · exact find_erase_other registry key other apart
  · rfl

theorem find_release_self :
    (registry.release key number).find? key =
      if registry.find? key = some number then none else registry.find? key := by
  unfold release
  split_ifs with leads
  · exact find_erase_self registry key
  · rfl

end Registry

namespace Gateway

def routeOf (gateway : Gateway) (request : HttpRequest) : Route :=
  request.route gateway.terms.largestBody gateway.fallback

/-- The answers that a tunnel gives by deeds to clients that wait for it. -/
def responsesOf (gateway : Gateway) (number : Nat) (deeds : List Tunnel.Deed) :
    List (Nat × Response) :=
  (deeds.filterMap Tunnel.Deed.response?).filter fun entry =>
    gateway.inFlight.contains (entry.1, number)

def unanswered (gateway : Gateway) (responses : List (Nat × Response)) : List (Nat × Nat) :=
  gateway.inFlight.filter fun entry =>
    !(responses.any fun response => response.1 == entry.1)

/-- What happens to a gateway: it acts, or the downstream server of a tunnel reads. -/
inductive Happening where
  | act (action : Action)
  | downstreamReads (number : Nat)

structure Stride where
  now : Nat
  happening : Happening
  before : Gateway
  after : Gateway
  deeds : List Deed

def happen (now : Nat) (gateway : Gateway) : Happening → Option (Gateway × List Deed)
  | .act action => gateway.step now action
  | .downstreamReads number =>
      some (gateway.modifyTunnel number fun tunnel =>
        { tunnel with socket := tunnel.socket.peerTake.2 }, [])

def run (gateway : Gateway) : List (Nat × Happening) → Option (Gateway × List Stride)
  | [] => some (gateway, [])
  | (now, happening) :: script => do
      let (middle, deeds) ← gateway.happen now happening
      let (after, trace) ← middle.run script
      return (after, ⟨now, happening, gateway, middle, deeds⟩ :: trace)

section Trace

/-- The keys that were made, in their order. -/
def created (trace : List Stride) : List Key :=
  trace.filterMap fun stride =>
    match stride.happening with
    | .act (.dialed _ (.ok key)) => some key
    | _ => none

/-- The requests of clients, each with what it is about. -/
def asks (trace : List Stride) : List (Nat × Route) :=
  trace.filterMap fun stride =>
    match stride.happening with
    | .act (.ask client request) => some (client, stride.before.routeOf request)
    | _ => none

variable (trace further : List Stride)

@[simp] theorem created_append : created (trace ++ further) = created trace ++ created further :=
  List.filterMap_append

@[simp] theorem asks_append : asks (trace ++ further) = asks trace ++ asks further :=
  List.filterMap_append

end Trace

/-- One turn of a run: what a gateway makes of a happening. -/
inductive Turn (now : Nat) (gateway : Gateway) : Happening → Gateway → List Deed → Prop where
  | answers (client : Nat) (request : HttpRequest) (response : Response)
      (routed : gateway.routeOf request = .answer response) :
      Turn now gateway (.act (.ask client request)) gateway [.responded client response]
  | dials (client : Nat) (request : HttpRequest) (routed : gateway.routeOf request = .create) :
      Turn now gateway (.act (.ask client request))
        { gateway with dialing := gateway.dialing ++ [.client client] } []
  | refuses (client : Nat) (request : HttpRequest) (packet : Request)
      (routed : gateway.routeOf request = .packet packet)
      (shut : gateway.open? packet.key = none) :
      Turn now gateway (.act (.ask client request)) gateway
        [.responded client ⟨.notFound, []⟩]
  | delivers (client : Nat) (request : HttpRequest) (packet : Request) (number : Nat)
      (routed : gateway.routeOf request = .packet packet)
      (opened : gateway.open? packet.key = some number) :
      Turn now gateway (.act (.ask client request))
        ({ gateway with inFlight := gateway.inFlight ++ [(client, number)] }.modifyTunnel number
          (·.deliver ⟨client, packet.serial.toInt, packet.payload⟩)) []
  | dialsForOwner :
      Turn now gateway (.act .create) { gateway with dialing := gateway.dialing ++ [.owner] } []
  | hosts (caller : Caller) (key : Key) (dialing : caller ∈ gateway.dialing) :
      Turn now gateway (.act (.dialed caller (.ok key)))
        ({ gateway with dialing := gateway.dialing.erase caller }.host now key)
        [tell gateway.hosted.length caller (.ok key)]
  | fails (caller : Caller) (failure : Failure) (dialing : caller ∈ gateway.dialing) :
      Turn now gateway (.act (.dialed caller (.error failure)))
        { gateway with dialing := gateway.dialing.erase caller }
        [tell gateway.hosted.length caller (.error failure)]
  | leaves (client : Nat) (dialing : gateway.dialing.contains (.client client) = true) :
      Turn now gateway (.act (.hangUp client))
        { gateway with dialing := gateway.dialing.erase (.client client) } []
  | hangsUp (client number : Nat) (dialed : gateway.dialing.contains (.client client) = false)
      (waiting : gateway.inFlight.lookup client = some number) :
      Turn now gateway (.act (.hangUp client))
        ({ gateway with
          inFlight := gateway.inFlight.filter fun entry => entry.1 != client }.modifyTunnel number
            (·.hangUp client)) []
  | closes (key : Key) (number : Nat) (found : gateway.registry.find? key = some number) :
      Turn now gateway (.act (.close key))
        ({ gateway with registry := gateway.registry.erase key }.modifyTunnel number (·.close))
        [.closed true]
  | closesNothing (key : Key) (unknown : gateway.registry.find? key = none) :
      Turn now gateway (.act (.close key)) gateway [.closed false]
  | shutsDown : Turn now gateway (.act .shutDown) gateway.shutDown []
  | moves (number : Nat) (action : Tunnel.Action) (tunnel after : Tunnel)
      (deeds : List Tunnel.Deed) (known : gateway.tunnel? number = some tunnel)
      (stepped : tunnel.step now action = some (after, deeds)) :
      Turn now gateway (.act (.tunnel number action))
        ({ gateway with
          inFlight := gateway.unanswered (gateway.responsesOf number deeds) }.modifyTunnel number
            fun _ => after)
        ((gateway.responsesOf number deeds).map fun entry => .responded entry.1 entry.2)
  | follows (number : Nat) (move : Socket.PeerMove) :
      Turn now gateway (.act (.downstream number move))
        (gateway.modifyTunnel number (·.follow move)) []
  | retires (number : Nat) (hosted : Hosted) (known : gateway.hosted[number]? = some hosted)
      (done : canRetire now hosted = true) :
      Turn now gateway (.act (.retire number))
        { gateway with
          registry := gateway.registry.release hosted.key number
          hosted := gateway.hosted.modify number fun hosted => { hosted with retired := true } }
        []
  | reads (number : Nat) :
      Turn now gateway (.downstreamReads number)
        (gateway.modifyTunnel number fun tunnel =>
          { tunnel with socket := tunnel.socket.peerTake.2 }) []

theorem step_turns (now : Nat) (gateway after : Gateway) (action : Action) (deeds : List Deed)
    (stepped : gateway.step now action = some (after, deeds)) :
    Turn now gateway (.act action) after deeds := by
  cases action with
  | ask client request =>
      rw [step, Option.some.injEq, ask] at stepped
      cases routed : gateway.routeOf request <;> rw [routeOf] at routed <;>
        simp only [routed] at stepped
      case answer response =>
        cases stepped
        exact .answers client request response routed
      case create =>
        cases stepped
        exact .dials client request routed
      case packet packet =>
        cases opened : gateway.open? packet.key <;> simp only [deliver, opened] at stepped
        case none =>
          cases stepped
          exact .refuses client request packet routed opened
        case some number =>
          cases stepped
          exact .delivers client request packet number routed opened
  | create =>
      cases stepped
      exact .dialsForOwner
  | dialed caller outcome =>
      simp only [step] at stepped
      split_ifs at stepped with dialing
      have waiting : caller ∈ gateway.dialing := by simpa using dialing
      cases outcome with
      | ok key =>
          cases stepped
          exact .hosts caller key waiting
      | error failure =>
          cases stepped
          exact .fails caller failure waiting
  | hangUp client =>
      obtain ⟨went, left, same⟩ := Option.map_eq_some_iff.mp stepped
      cases same
      unfold hangUp at left
      split_ifs at left with dialing
      · cases left
        exact .leaves client dialing
      · cases waiting : gateway.inFlight.lookup client <;> simp only [waiting] at left
        case some number =>
          cases left
          exact .hangsUp client number (by simpa using dialing) waiting
        all_goals cases left
  | close key =>
      rw [step, Option.some.injEq, close] at stepped
      cases found : gateway.registry.find? key <;> simp only [found] at stepped
      case none =>
        cases stepped
        exact .closesNothing key found
      case some number =>
        cases stepped
        exact .closes key number found
  | shutDown =>
      cases stepped
      exact .shutsDown
  | tunnel number action =>
      simp only [step, stepTunnel, Option.bind_eq_bind, Option.bind_eq_some_iff] at stepped
      obtain ⟨tunnel, known, ⟨moved, own⟩, ran, same⟩ := stepped
      cases same
      exact .moves number action tunnel moved own known ran
  | downstream number move =>
      cases stepped
      exact .follows number move
  | retire number =>
      obtain ⟨went, left, same⟩ := Option.map_eq_some_iff.mp stepped
      cases same
      simp only [retire, Option.bind_eq_bind, Option.bind_eq_some_iff] at left
      obtain ⟨hosted, known, retired⟩ := left
      split_ifs at retired with done
      cases retired
      exact .retires number hosted known done

theorem happen_turns (now : Nat) (gateway after : Gateway) (happening : Happening)
    (deeds : List Deed) (happened : gateway.happen now happening = some (after, deeds)) :
    Turn now gateway happening after deeds := by
  cases happening with
  | act action => exact step_turns now gateway after action deeds happened
  | downstreamReads number =>
      cases happened
      exact .reads number

theorem run_keeps (invariant : Gateway → List Stride → Prop)
    (keeps : ∀ now gateway happening after deeds past, invariant gateway past →
      Turn now gateway happening after deeds →
      invariant after (past ++ [⟨now, happening, gateway, after, deeds⟩]))
    (script : List (Nat × Happening)) (gateway after : Gateway) (past trace : List Stride)
    (start : invariant gateway past) (ran : gateway.run script = some (after, trace)) :
    invariant after (past ++ trace) := by
  induction script generalizing gateway past trace with
  | nil =>
      cases ran
      rw [List.append_nil]
      exact start
  | cons entry script induction =>
      rcases entry with ⟨now, happening⟩
      simp only [run, Option.bind_eq_bind, Option.bind_eq_some_iff] at ran
      rcases ran with ⟨⟨middle, deeds⟩, happened, ⟨last, later⟩, rest, same⟩
      cases same
      have turn := happen_turns now gateway middle happening deeds happened
      have here := keeps now gateway happening middle deeds past start turn
      have there := induction middle _ later here rest
      rwa [List.append_assoc] at there

theorem run_happenings (script : List (Nat × Happening)) (gateway after : Gateway)
    (trace : List Stride) (ran : gateway.run script = some (after, trace)) :
    trace.map Stride.happening = script.map Prod.snd := by
  induction script generalizing gateway trace with
  | nil =>
      cases ran
      rfl
  | cons entry script induction =>
      rcases entry with ⟨now, happening⟩
      simp only [run, Option.bind_eq_bind, Option.bind_eq_some_iff] at ran
      rcases ran with ⟨⟨middle, deeds⟩, happened, ⟨last, later⟩, rest, same⟩
      cases same
      rw [List.map_cons, List.map_cons, induction middle later rest]

theorem run_splits (earlier later : List Stride) (stride : Stride)
    (script : List (Nat × Happening)) (gateway after : Gateway)
    (ran : gateway.run script = some (after, earlier ++ stride :: later)) :
    ∃ first rest, gateway.run first = some (stride.before, earlier) ∧
      Turn stride.now stride.before stride.happening stride.after stride.deeds ∧
      stride.after.run rest = some (after, later) := by
  induction earlier generalizing script gateway with
  | nil =>
      cases script with
      | nil => cases ran
      | cons entry script =>
          rcases entry with ⟨now, happening⟩
          simp only [run, Option.bind_eq_bind, Option.bind_eq_some_iff] at ran
          rcases ran with ⟨⟨middle, deeds⟩, happened, ⟨last, trace⟩, rest, same⟩
          cases same
          exact ⟨[], script, rfl, happen_turns now gateway middle happening deeds happened, rest⟩
  | cons opening earlier induction =>
      cases script with
      | nil => cases ran
      | cons entry script =>
          rcases entry with ⟨now, happening⟩
          simp only [run, Option.bind_eq_bind, Option.bind_eq_some_iff] at ran
          rcases ran with ⟨⟨middle, deeds⟩, happened, ⟨last, trace⟩, rest, same⟩
          cases same
          obtain ⟨first, further, reached, turn, finished⟩ := induction script middle rest
          refine ⟨(now, happening) :: first, further, ?_, turn, finished⟩
          simp [run, happened, reached]

def keys (gateway : Gateway) : List Key := gateway.hosted.map Hosted.key

theorem same_keys (hosted changed : List Hosted) (change : Nat → Hosted → Hosted)
    (each : ∀ place : Nat, changed[place]? = hosted[place]?.map (change place))
    (keeps : ∀ place entry, (change place entry).key = entry.key) :
    changed.map Hosted.key = hosted.map Hosted.key := by
  apply List.ext_getElem?
  intro place
  rw [List.getElem?_map, List.getElem?_map, each, Option.map_map]
  exact congrArg (Option.map · _) (funext (keeps place))

section Tunnels

variable (gateway : Gateway) (number : Nat) (change : Tunnel → Tunnel)

theorem modify_tunnel_hosted (place : Nat) :
    (gateway.modifyTunnel number change).hosted[place]? =
      gateway.hosted[place]?.map fun hosted =>
        if number = place then { hosted with tunnel := change hosted.tunnel } else hosted :=
  List.getElem?_modify ..

@[simp] theorem modify_tunnel_keys : (gateway.modifyTunnel number change).keys = gateway.keys :=
  same_keys _ _ _ (modify_tunnel_hosted gateway number change) fun _ _ => by split_ifs <;> rfl

theorem retired_keys :
    (gateway.hosted.modify number fun hosted => { hosted with retired := true }).map Hosted.key =
      gateway.keys :=
  same_keys _ _ _ (fun _ => List.getElem?_modify ..) fun _ _ => by split_ifs <;> rfl

theorem tunnel_hosted (tunnel : Tunnel) (known : gateway.tunnel? number = some tunnel) :
    ∃ hosted, gateway.hosted[number]? = some hosted ∧ hosted.tunnel = tunnel :=
  Option.map_eq_some_iff.mp known

end Tunnels

/-- Closing tunnels one after the other touches nothing but these tunnels. -/
theorem close_all (numbers : List Nat) (gateway : Gateway) :
    ∃ hosted, numbers.foldl (fun closing number => closing.modifyTunnel number (·.close)) gateway =
        { gateway with hosted := hosted } ∧
      ∀ place : Nat, hosted[place]? = gateway.hosted[place]?.map fun entry =>
        if place ∈ numbers then { entry with tunnel := entry.tunnel.close } else entry := by
  induction numbers generalizing gateway with
  | nil => exact ⟨gateway.hosted, rfl, fun place => by simp⟩
  | cons number numbers induction =>
      obtain ⟨hosted, same, each⟩ := induction (gateway.modifyTunnel number (·.close))
      refine ⟨hosted, same, fun place => ?_⟩
      rw [each, modify_tunnel_hosted, Option.map_map]
      congr 1
      funext entry
      simp only [Function.comp, List.mem_cons]
      by_cases here : number = place
      · by_cases again : place ∈ numbers <;> simp [here, again, Tunnel.close]
      · by_cases again : place ∈ numbers <;> simp [here, Ne.symm here, again]

/-- What a shutdown does: the register is empty, and the tunnels that were in it are told to
close. -/
theorem shut_down_closes (gateway : Gateway) :
    ∃ hosted, gateway.shutDown =
        { gateway with registry := {}, hasShutDown := true, hosted := hosted } ∧
      ∀ place : Nat, hosted[place]? = gateway.hosted[place]?.map fun entry =>
        if place ∈ gateway.registry.numbers then { entry with tunnel := entry.tunnel.close }
        else entry :=
  close_all gateway.registry.numbers { gateway with registry := {}, hasShutDown := true }

theorem shut_down_keys (gateway : Gateway) : gateway.shutDown.keys = gateway.keys := by
  obtain ⟨hosted, same, each⟩ := gateway.shut_down_closes
  rw [same]
  exact same_keys _ _ _ each fun _ _ => by split_ifs <;> rfl

/-- What a tunnel does not lose, whatever happens to it. -/
structure Lasting (property : Tunnel → Prop) : Prop where
  steps : ∀ now tunnel action after deeds, property tunnel →
    tunnel.step now action = some (after, deeds) → property after
  delivers : ∀ tunnel packet, property tunnel → property (tunnel.deliver packet)
  hangsUp : ∀ tunnel client, property tunnel → property (tunnel.hangUp client)
  closes : ∀ tunnel, property tunnel → property tunnel.close
  follows : ∀ tunnel move, property tunnel → property (tunnel.follow move)
  reads : ∀ tunnel, property tunnel →
    property { tunnel with socket := tunnel.socket.peerTake.2 }

/-- Whether a tunnel is hosted under a number and has a property. -/
def Hosts (gateway : Gateway) (number : Nat) (property : Tunnel → Prop) : Prop :=
  ∃ tunnel, gateway.tunnel? number = some tunnel ∧ property tunnel

theorem modify_tunnel_hosts {property : Tunnel → Prop} {gateway : Gateway} (place number : Nat)
    (change : Tunnel → Tunnel) (hosts : gateway.Hosts place property)
    (keeps : number = place → ∀ tunnel, gateway.tunnel? place = some tunnel → property tunnel →
      property (change tunnel)) :
    (gateway.modifyTunnel number change).Hosts place property := by
  obtain ⟨tunnel, known, holds⟩ := hosts
  obtain ⟨hosted, hosting, rfl⟩ := tunnel_hosted gateway place tunnel known
  by_cases here : number = place
  · refine ⟨change hosted.tunnel, ?_, keeps here _ known holds⟩
    rw [tunnel?, modify_tunnel_hosted, hosting, Option.map_some, if_pos here]
    rfl
  · refine ⟨hosted.tunnel, ?_, holds⟩
    rw [tunnel?, modify_tunnel_hosted, hosting, Option.map_some, if_neg here]
    rfl

theorem Turn.lasts {property : Tunnel → Prop} (lasting : Lasting property) {now : Nat}
    {gateway after : Gateway} {happening : Happening} {deeds : List Deed}
    (turn : Turn now gateway happening after deeds) (place : Nat)
    (hosts : gateway.Hosts place property) : after.Hosts place property := by
  cases turn with
  | answers | dials | refuses | dialsForOwner | fails | leaves | closesNothing => exact hosts
  | delivers client request packet number routed opened =>
      exact modify_tunnel_hosts place number _ hosts fun _ _ _ => lasting.delivers _ _
  | hosts caller key dialing =>
      obtain ⟨tunnel, known, holds⟩ := hosts
      obtain ⟨hosted, hosting, rfl⟩ := tunnel_hosted gateway place tunnel known
      have bound := (List.getElem?_eq_some_iff.mp hosting).1
      refine ⟨hosted.tunnel, ?_, holds⟩
      rw [tunnel?, host, List.getElem?_append_left bound, hosting]
      rfl
  | hangsUp client number dialed waiting =>
      exact modify_tunnel_hosts place number _ hosts fun _ _ _ => lasting.hangsUp _ _
  | closes key number found =>
      exact modify_tunnel_hosts place number _ hosts fun _ _ _ => lasting.closes _
  | shutsDown =>
      obtain ⟨tunnel, known, holds⟩ := hosts
      obtain ⟨hosted, hosting, rfl⟩ := tunnel_hosted gateway place tunnel known
      obtain ⟨shut, same, each⟩ := gateway.shut_down_closes
      have found := each place
      rw [hosting, Option.map_some] at found
      rw [same]
      refine ⟨_, congrArg (Option.map Hosted.tunnel) found, ?_⟩
      split_ifs
      · exact lasting.closes _ holds
      · exact holds
  | moves number action tunnel moved own known stepped =>
      refine modify_tunnel_hosts place number _ hosts fun here other there holds => ?_
      cases (here ▸ known).symm.trans there
      exact lasting.steps now tunnel action moved own holds stepped
  | follows number move =>
      exact modify_tunnel_hosts place number _ hosts fun _ _ _ => lasting.follows _ _
  | retires number hosted known done =>
      obtain ⟨tunnel, there, holds⟩ := hosts
      obtain ⟨other, hosting, rfl⟩ := tunnel_hosted gateway place tunnel there
      refine ⟨other.tunnel, ?_, holds⟩
      rw [tunnel?, List.getElem?_modify, hosting]
      split_ifs <;> rfl
  | reads number =>
      exact modify_tunnel_hosts place number _ hosts fun _ _ _ => lasting.reads _

theorem run_lasts {property : Tunnel → Prop} (lasting : Lasting property) (place : Nat)
    (script : List (Nat × Happening)) (gateway after : Gateway) (trace : List Stride)
    (hosts : gateway.Hosts place property) (ran : gateway.run script = some (after, trace)) :
    after.Hosts place property :=
  run_keeps (fun gateway _ => gateway.Hosts place property)
    (fun _ _ _ _ _ _ hosts turn => turn.lasts lasting place hosts) script gateway after [] trace
    hosts ran

theorem ended_lasts : Lasting (·.poller.hasEnded = true) where
  steps now tunnel action after deeds ended stepped := by
    cases Tunnel.step_turns now tunnel after action deeds stepped with
    | poller now event after own allowed moved link =>
        rw [Poller.step_active _ _ _ moved] at ended
        cases ended
    | link now action after moved poller => exact poller ▸ ended
    | enqueues now after own pending parked phase link silent =>
        rw [Poller.hasEnded, phase]
        exact ended
  delivers _ _ := id
  hangsUp _ _ := id
  closes _ := id
  follows _ _ := id
  reads _ := id

/-- No key is made twice, and no two requests of clients have the same number. -/
structure Fresh (trace : List Stride) : Prop where
  keys : (created trace).Nodup
  clients : ((asks trace).map Prod.fst).Nodup

theorem Fresh.begins {trace further : List Stride} (fresh : Fresh (trace ++ further)) :
    Fresh trace := by
  have keys := fresh.keys
  have clients := fresh.clients
  rw [created_append] at keys
  rw [asks_append, List.map_append] at clients
  exact ⟨(List.nodup_append.mp keys).1, (List.nodup_append.mp clients).1⟩

/-- What is known about a gateway at every point of a run. Tunnels are numbered as their keys were
made, a registered key leads to its own tunnel, and each request in flight waits for the tunnel
of the key that it named. -/
structure Booked (gateway : Gateway) (past : List Stride) : Prop where
  keys : gateway.keys = created past
  leads : ∀ key number, gateway.registry.find? key = some number →
    gateway.keys[number]? = some key
  owed : ∀ client number, (client, number) ∈ gateway.inFlight →
    ∃ packet, (client, .packet packet) ∈ asks past ∧ gateway.keys[number]? = some packet.key
  apart : (gateway.inFlight.map Prod.fst).Nodup
  dialing : ∀ client, .client client ∈ gateway.dialing → (client, .create) ∈ asks past

theorem of_start_booked (destination : Address.Endpoint) (terms : Terms) (fallback : Fallback) :
    Booked { destination := destination, terms := terms, fallback := fallback } [] :=
  ⟨rfl, nofun, nofun, .nil, nofun⟩

theorem Fresh.unmade {past : List Stride} {stride : Stride} (fresh : Fresh (past ++ [stride]))
    (key : Key) (makes : created [stride] = [key]) : key ∉ created past := by
  have keys := fresh.keys
  rw [created_append, makes] at keys
  intro made
  exact (List.nodup_append.mp keys).2.2 key made key (List.mem_singleton_self key) rfl

theorem Fresh.unasked {past : List Stride} {stride : Stride} (fresh : Fresh (past ++ [stride]))
    (client : Nat) (route : Route) (asking : asks [stride] = [(client, route)]) (other : Route) :
    (client, other) ∉ asks past := by
  have clients := fresh.clients
  rw [asks_append, asking, List.map_append] at clients
  intro asked
  have before : client ∈ (asks past).map Prod.fst := List.mem_map_of_mem asked
  exact (List.nodup_append.mp clients).2.2 client before client (List.mem_singleton_self client) rfl

section Bookings

variable {gateway after : Gateway} {past : List Stride} {stride : Stride}

theorem Booked.still (booked : gateway.Booked past) (keys : after.keys = gateway.keys)
    (silent : created [stride] = [])
    (leads : ∀ key number, after.registry.find? key = some number →
      gateway.registry.find? key = some number)
    (inFlight : after.inFlight.Sublist gateway.inFlight)
    (dialing : ∀ client, .client client ∈ after.dialing →
      (client, .create) ∈ asks (past ++ [stride])) :
    after.Booked (past ++ [stride]) := by
  constructor
  · rw [keys, created_append, silent, List.append_nil]
    exact booked.keys
  · intro key number found
    rw [keys]
    exact booked.leads key number (leads key number found)
  · intro client number waits
    obtain ⟨packet, asked, named⟩ := booked.owed client number (inFlight.subset waits)
    rw [keys, asks_append]
    exact ⟨packet, List.mem_append_left _ asked, named⟩
  · exact booked.apart.sublist (inFlight.map Prod.fst)
  · exact dialing

theorem Booked.dials_on (booked : gateway.Booked past) (client : Nat)
    (dialing : .client client ∈ gateway.dialing) : (client, .create) ∈ asks (past ++ [stride]) := by
  rw [asks_append]
  exact List.mem_append_left _ (booked.dialing client dialing)

theorem Booked.opens (booked : gateway.Booked past) (key : Key) (number : Nat)
    (opened : gateway.open? key = some number) : gateway.keys[number]? = some key := by
  simp only [open?, Option.bind_eq_bind, Option.bind_eq_some_iff] at opened
  obtain ⟨place, found, tunnel, known, same⟩ := opened
  split_ifs at same
  cases same
  exact booked.leads key number found

theorem Booked.delivers (booked : gateway.Booked past) (client number : Nat) (packet : Request)
    (opened : gateway.open? packet.key = some number) (change : Tunnel → Tunnel)
    (silent : created [stride] = []) (asking : asks [stride] = [(client, .packet packet)])
    (fresh : Fresh (past ++ [stride])) :
    ({ gateway with inFlight := gateway.inFlight ++ [(client, number)] }.modifyTunnel number
      change).Booked (past ++ [stride]) := by
  have keys : ({ gateway with inFlight := gateway.inFlight ++ [(client, number)] }.modifyTunnel
      number change).keys = gateway.keys := modify_tunnel_keys _ number change
  constructor
  · rw [keys, created_append, silent, List.append_nil]
    exact booked.keys
  · intro key place found
    rw [keys]
    exact booked.leads key place found
  · intro other place waits
    rw [keys, asks_append, asking]
    rcases List.mem_append.mp waits with before | now
    · obtain ⟨own, asked, named⟩ := booked.owed other place before
      exact ⟨own, List.mem_append_left _ asked, named⟩
    · cases List.mem_singleton.mp now
      exact ⟨packet, List.mem_append_right _ (List.mem_singleton_self _),
        booked.opens packet.key number opened⟩
  · show ((gateway.inFlight ++ [(client, number)]).map Prod.fst).Nodup
    rw [List.map_append, List.nodup_append]
    refine ⟨booked.apart, List.nodup_singleton _, ?_⟩
    rintro other waits _ now rfl
    obtain ⟨entry, member, rfl⟩ := List.mem_map.mp waits
    obtain ⟨own, asked, _⟩ := booked.owed entry.1 entry.2 member
    rw [List.mem_singleton.mp now] at asked
    exact fresh.unasked client _ asking _ asked
  · exact fun other dialing => booked.dials_on other dialing

theorem Booked.hosts (booked : gateway.Booked past) (now : Nat) (caller : Caller) (key : Key)
    (makes : created [stride] = [key]) (fresh : Fresh (past ++ [stride])) :
    ({ gateway with dialing := gateway.dialing.erase caller }.host now key).Booked
      (past ++ [stride]) := by
  have keys : ({ gateway with dialing := gateway.dialing.erase caller }.host now key).keys =
      gateway.keys ++ [key] := List.map_append
  have length : gateway.hosted.length = gateway.keys.length := (List.length_map _).symm
  have unmade := fresh.unmade key makes
  constructor
  · rw [keys, created_append, makes, booked.keys]
  · intro other number found
    rw [keys]
    by_cases same : other = key
    · subst same
      have leads : some gateway.hosted.length = some number :=
        (Registry.find_insert_self gateway.registry other _).symm.trans found
      cases leads
      rw [length, List.getElem?_concat_length]
    · have before := booked.leads other number
        ((Registry.find_insert_other gateway.registry key other _ same).symm.trans found)
      have bound := (List.getElem?_eq_some_iff.mp before).1
      rwa [List.getElem?_append_left bound]
  · intro client number waits
    obtain ⟨packet, asked, named⟩ := booked.owed client number waits
    have bound := (List.getElem?_eq_some_iff.mp named).1
    rw [keys, asks_append, List.getElem?_append_left bound]
    exact ⟨packet, List.mem_append_left _ asked, named⟩
  · exact booked.apart
  · exact fun client dialing => booked.dials_on client (List.mem_of_mem_erase dialing)

theorem Booked.turn {now : Nat} {happening : Happening} {deeds : List Deed}
    (booked : gateway.Booked past) (turn : Turn now gateway happening after deeds)
    (fresh : Fresh (past ++ [⟨now, happening, gateway, after, deeds⟩])) :
    after.Booked (past ++ [⟨now, happening, gateway, after, deeds⟩]) := by
  have dials : ∀ client, .client client ∈ gateway.dialing →
      (client, .create) ∈ asks (past ++ [⟨now, happening, gateway, after, deeds⟩]) :=
    fun client => booked.dials_on client
  cases turn with
  | answers client request response routed =>
      exact booked.still rfl rfl (fun _ _ => id) (.refl _) dials
  | dials client request routed =>
      refine booked.still rfl rfl (fun _ _ => id) (.refl _) fun other waits => ?_
      rcases List.mem_append.mp waits with before | now
      · exact dials other before
      · cases List.mem_singleton.mp now
        rw [asks_append]
        exact List.mem_append_right _ (by simp [asks, routed])
  | refuses client request packet routed shut =>
      exact booked.still rfl rfl (fun _ _ => id) (.refl _) dials
  | delivers client request packet number routed opened =>
      exact booked.delivers client number packet opened _ rfl (by simp [asks, routed]) fresh
  | dialsForOwner =>
      refine booked.still rfl rfl (fun _ _ => id) (.refl _) fun other waits => ?_
      exact dials other (by simpa using waits)
  | hosts caller key dialing => exact booked.hosts now caller key rfl fresh
  | fails caller failure dialing =>
      exact booked.still rfl rfl (fun _ _ => id) (.refl _) fun other waits =>
        dials other (List.mem_of_mem_erase waits)
  | leaves client dialing =>
      exact booked.still rfl rfl (fun _ _ => id) (.refl _) fun other waits =>
        dials other (List.mem_of_mem_erase waits)
  | hangsUp client number dialed waiting =>
      exact booked.still (modify_tunnel_keys _ _ _) rfl (fun _ _ => id) List.filter_sublist dials
  | closes key number found =>
      refine booked.still (modify_tunnel_keys _ _ _) rfl ?_ (.refl _) dials
      intro other place leads
      by_cases same : other = key
      · subst same
        cases (Registry.find_erase_self gateway.registry other).symm.trans leads
      · exact (Registry.find_erase_other gateway.registry key other same).symm.trans leads
  | closesNothing key unknown =>
      exact booked.still rfl rfl (fun _ _ => id) (.refl _) dials
  | shutsDown =>
      obtain ⟨hosted, same, _⟩ := gateway.shut_down_closes
      refine booked.still gateway.shut_down_keys rfl ?_ ?_ ?_
      · intro key number found
        rw [same] at found
        cases found
      · rw [same]
      · intro client waits
        rw [same] at waits
        exact dials client waits
  | moves number action tunnel moved own known stepped =>
      exact booked.still (modify_tunnel_keys _ _ _) rfl (fun _ _ => id) List.filter_sublist dials
  | follows number move =>
      exact booked.still (modify_tunnel_keys _ _ _) rfl (fun _ _ => id) (.refl _) dials
  | retires number hosted known done =>
      refine booked.still (gateway.retired_keys number) rfl ?_ (.refl _) dials
      intro other place leads
      by_cases same : other = hosted.key
      · subst same
        have freed :=
          (Registry.find_release_self gateway.registry hosted.key number).symm.trans leads
        split_ifs at freed
        exact freed
      · exact (Registry.find_release_other gateway.registry hosted.key other number same).symm.trans
          leads
  | reads number =>
      exact booked.still (modify_tunnel_keys _ _ _) rfl (fun _ _ => id) (.refl _) dials

end Bookings

/-- What turns of a gateway with right books keep holds after every run in which no key is made
twice and no two requests have the same number. -/
theorem run_booked (destination : Address.Endpoint) (terms : Terms) (fallback : Fallback)
    (invariant : Gateway → List Stride → Prop)
    (begins : invariant { destination := destination, terms := terms, fallback := fallback } [])
    (keeps : ∀ now gateway happening after deeds past, gateway.Booked past →
      invariant gateway past → Turn now gateway happening after deeds →
      Fresh (past ++ [⟨now, happening, gateway, after, deeds⟩]) →
      invariant after (past ++ [⟨now, happening, gateway, after, deeds⟩]))
    (script : List (Nat × Happening)) (gateway : Gateway) (trace : List Stride)
    (ran : Gateway.run { destination := destination, terms := terms, fallback := fallback }
      script = some (gateway, trace)) (fresh : Fresh trace) :
    gateway.Booked trace ∧ invariant gateway trace := by
  refine run_keeps (fun gateway past => Fresh past → gateway.Booked past ∧ invariant gateway past)
    ?_ script _ gateway [] trace ?_ ran fresh
  · intro now before happening after deeds past holds turn fresh
    obtain ⟨booked, kept⟩ := holds fresh.begins
    exact ⟨booked.turn turn fresh,
      keeps now before happening after deeds past booked kept turn fresh⟩
  · exact fun _ => ⟨of_start_booked destination terms fallback, begins⟩

theorem run_books (destination : Address.Endpoint) (terms : Terms) (fallback : Fallback)
    (script : List (Nat × Happening)) (gateway : Gateway) (trace : List Stride)
    (ran : Gateway.run { destination := destination, terms := terms, fallback := fallback }
      script = some (gateway, trace)) (fresh : Fresh trace) : gateway.Booked trace :=
  (run_booked destination terms fallback (fun _ _ => True) trivial
    (fun _ _ _ _ _ _ _ _ _ _ => trivial) script gateway trace ran fresh).1

section Splits

variable {destination : Address.Endpoint} {terms : Terms} {fallback : Fallback}
  {script : List (Nat × Happening)} {gateway : Gateway} {trace : List Stride}

/-- A run at any of its strides. -/
theorem run_at
    (ran : Gateway.run { destination := destination, terms := terms, fallback := fallback }
      script = some (gateway, trace)) (fresh : Fresh trace) (earlier later : List Stride)
    (stride : Stride) (split : trace = earlier ++ stride :: later) :
    stride.before.Booked earlier ∧
      Turn stride.now stride.before stride.happening stride.after stride.deeds ∧
      stride.after.Booked (earlier ++ [stride]) ∧
      ∃ rest, stride.after.run rest = some (gateway, later) := by
  subst split
  obtain ⟨first, rest, reached, turn, goesOn⟩ := run_splits earlier later stride script _ _ ran
  have whole : Fresh ((earlier ++ [stride]) ++ later) := by rwa [List.append_assoc]
  have begun : Fresh (earlier ++ [stride]) := whole.begins
  have booked := run_books destination terms fallback first _ earlier reached begun.begins
  exact ⟨booked, turn, booked.turn turn begun, rest, goesOn⟩

theorem stride_in_run {start after : Gateway} {further : List (Nat × Happening)}
    {later : List Stride} (ran : start.run further = some (after, later)) (stride : Stride)
    (member : stride ∈ later) :
    ∃ first rest begun, later = first ++ stride :: rest ∧
      start.run begun = some (stride.before, first) ∧
        Turn stride.now stride.before stride.happening stride.after stride.deeds := by
  obtain ⟨first, rest, rfl⟩ := List.append_of_mem member
  obtain ⟨begun, _, reached, turn, _⟩ := run_splits first rest stride further start after ran
  exact ⟨first, rest, begun, rfl, reached, turn⟩

end Splits

section Fixtures

def toLocalhost : Gateway := { destination := ⟨"localhost".toList, none, 80⟩ }

def minted (seed : UInt8) : Key := .mint (List.replicate 32 seed) (List.replicate 32 seed)

end Fixtures

end Gateway

end HttpTunnel.Server
