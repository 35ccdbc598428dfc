import HttpTunnel.Proofs.TunnelLanes
import Mathlib.Data.List.Induction

/-!
What the register promises over whole runs. The errands of a key drive its lane, so two runs with
the same errands of a key agree in all that concerns it. A key is registered from the moment its
tunnel is made until somebody closes it or its tunnel retires, and nobody gets in after that.
-/

namespace HttpTunnel.Server

namespace Tunnel

def writes (tunnel : Tunnel) : Action → Bytes
  | .link action => tunnel.link.writes action
  | _ => []

theorem step_writes (now : Nat) (tunnel after : Tunnel) (action : Action) (deeds : List Deed)
    (stepped : tunnel.step now action = some (after, deeds)) :
    after.socket.outgoing = tunnel.socket.outgoing ++ tunnel.writes action := by
  cases action with
  | poller event =>
      simp only [step, stepPoller] at stepped
      split_ifs at stepped
      obtain ⟨⟨poller, own⟩, _, same⟩ := Option.map_eq_some_iff.mp stepped
      cases ended : poller.hasEnded <;> simp only [ended] at same <;> cases same <;>
        exact (List.append_nil _).symm
  | link action =>
      obtain ⟨⟨link, socket⟩, moved, same⟩ := Option.map_eq_some_iff.mp stepped
      cases same
      exact (Link.move_uses now _ _ _ _ _ moved).2.2.outgoing
  | enqueue =>
      cases waiting : tunnel.waiting <;> simp only [step, enqueue, waiting] at stepped
      case cons packet rest =>
        unfold Poller.deliver at stepped
        split_ifs at stepped <;> cases stepped <;> exact (List.append_nil _).symm
      all_goals cases stepped

end Tunnel

namespace Gateway

/-- Whether a request is for the tunnel of a key. -/
def concerns (key : Key) : Route → Bool
  | .packet packet => packet.key == key
  | _ => false

/-- Whether a client asked for the tunnel of a key. -/
def askedFor (asked : List (Nat × Route)) (key : Key) (client : Nat) : Bool :=
  asked.any fun entry => entry.1 == client && concerns key entry.2

def responses (trace : List Stride) : List (Nat × Response) :=
  trace.flatMap fun stride => stride.deeds.filterMap Deed.responded?

/-- The answers of a run to requests for the tunnel of a key. -/
def repliesTo (key : Key) (trace : List Stride) : List (Nat × Response) :=
  (responses trace).filter fun entry => askedFor (asks trace) key entry.1

/-- The bytes that were written downstream for a key. -/
def writtenFor (key : Key) (trace : List Stride) : Bytes :=
  trace.flatMap fun stride =>
    match stride.happening with
    | .act (.tunnel number action) =>
        if stride.before.serves number key then
          ((stride.before.tunnel? number).map (·.writes action)).getD []
        else []
    | _ => []

def errandsOf (key : Key) (trace : List Stride) : List Errand :=
  trace.filterMap fun stride => stride.before.errand? key stride.now stride.happening

/-- Nobody shuts the gateway down. -/
def Calm (trace : List Stride) : Prop := ∀ stride ∈ trace, stride.happening ≠ .act .shutDown

namespace Lane

def writes (lane : Lane) : Errand → Bytes
  | .move _ action => (lane.hosted.map (·.tunnel.writes action)).getD []
  | _ => []

structure Record where
  lane : Lane := {}
  told : List (Nat × Response) := []
  written : Bytes := []

def record (terms : Terms) (key : Key) (record : Record) (errand : Errand) : Option Record := do
  let (next, told) ← record.lane.step terms key errand
  return ⟨next, record.told ++ told, record.written ++ record.lane.writes errand⟩

def run (terms : Terms) (key : Key) (errands : List Errand) : Option Record :=
  errands.foldlM (record terms key) {}

theorem run_last (terms : Terms) (key : Key) (errands : List Errand) (errand : Errand)
    (past : Record) (next : Lane) (told : List (Nat × Response))
    (ran : run terms key errands = some past)
    (stepped : past.lane.step terms key errand = some (next, told)) :
    run terms key (errands ++ [errand]) =
      some ⟨next, past.told ++ told, past.written ++ past.lane.writes errand⟩ := by
  rw [run] at ran
  simp [run, List.foldlM_append, ran, record, stepped]

end Lane

section Trace

variable (key : Key) (trace further : List Stride)

@[simp] theorem responses_append :
    responses (trace ++ further) = responses trace ++ responses further :=
  List.flatMap_append

@[simp] theorem written_for_append :
    writtenFor key (trace ++ further) = writtenFor key trace ++ writtenFor key further :=
  List.flatMap_append

@[simp] theorem errands_of_append :
    errandsOf key (trace ++ further) = errandsOf key trace ++ errandsOf key further :=
  List.filterMap_append

end Trace

theorem asked_for (asked : List (Nat × Route)) (distinct : (asked.map Prod.fst).Nodup) (key : Key)
    (client : Nat) (route : Route) (asks : (client, route) ∈ asked) :
    askedFor asked key client = concerns key route := by
  rw [askedFor, Bool.eq_iff_iff, List.any_eq_true]
  constructor
  · rintro ⟨entry, member, same⟩
    obtain ⟨own, concerned⟩ := Bool.and_eq_true_iff.mp same
    rwa [List.inj_on_of_nodup_map distinct member asks (beq_iff_eq.mp own)] at concerned
  · intro concerned
    exact ⟨(client, route), asks, by simp [concerned]⟩

def Errand.answers : Option Errand → Bool
  | none | some (.make _) => false
  | some _ => true

theorem Errand.told_of (errand : Errand) (deeds : List Deed) :
    errand.told deeds =
      if Errand.answers (some errand) then deeds.filterMap Deed.responded? else [] := by
  cases errand <;> rfl

theorem replies_to_last (past : List Stride) (stride : Stride) (fresh : Fresh (past ++ [stride]))
    (asked : ∀ entry ∈ responses past, ∃ route, (entry.1, route) ∈ asks past) (key : Key) :
    repliesTo key (past ++ [stride]) = repliesTo key past ++
      (stride.deeds.filterMap Deed.responded?).filter fun entry =>
        askedFor (asks (past ++ [stride])) key entry.1 := by
  have last : responses [stride] = stride.deeds.filterMap Deed.responded? := by simp [responses]
  rw [repliesTo, responses_append, List.filter_append, last, repliesTo]
  congr 1
  refine List.filter_congr fun entry member => ?_
  obtain ⟨route, before⟩ := asked entry member
  have still : (entry.1, route) ∈ asks (past ++ [stride]) := by
    rw [asks_append]
    exact List.mem_append_left _ before
  rw [asked_for _ fresh.clients key entry.1 route still,
    asked_for _ fresh.begins.clients key entry.1 route before]

section Turns

variable {now : Nat} {gateway after : Gateway} {happening : Happening} {deeds : List Deed}
  {past : List Stride}

theorem Booked.answers (booked : gateway.Booked past)
    (turn : Turn now gateway happening after deeds) (key : Key) (client : Nat)
    (response : Response) (answered : (client, response) ∈ deeds.filterMap Deed.responded?) :
    ∃ route, (client, route) ∈ asks (past ++ [⟨now, happening, gateway, after, deeds⟩]) ∧
      concerns key route = Errand.answers (gateway.errand? key now happening) := by
  rw [asks_append]
  cases turn with
  | answers other request own routed =>
      obtain ⟨rfl, rfl⟩ : client = other ∧ response = own := by
        simpa [Deed.responded?] using answered
      refine ⟨.answer response, List.mem_append_right _ (by simp [asks, routed]), ?_⟩
      simp [errand?, routed, concerns, Errand.answers]
  | refuses other request packet routed shut =>
      obtain ⟨rfl, rfl⟩ : client = other ∧ response = ⟨.notFound, []⟩ := by
        simpa [Deed.responded?] using answered
      refine ⟨.packet packet, List.mem_append_right _ (by simp [asks, routed]), ?_⟩
      by_cases own : packet.key = key <;> simp [errand?, routed, concerns, Errand.answers, own]
  | hosts caller made dialing =>
      cases caller with
      | owner => simp [tell, Deed.responded?] at answered
      | client other =>
          have same : client = other := by
            simp [tell, Deed.responded?] at answered
            exact answered.1
          refine ⟨.create, List.mem_append_left _ (booked.dialing client (same ▸ dialing)), ?_⟩
          by_cases own : made = key <;> simp [errand?, concerns, Errand.answers, own]
  | fails caller failure dialing =>
      cases caller with
      | owner => simp [tell, Deed.responded?] at answered
      | client other =>
          have same : client = other := by
            simp [tell, Deed.responded?] at answered
            exact answered.1
          exact ⟨.create, List.mem_append_left _ (booked.dialing client (same ▸ dialing)), rfl⟩
  | moves number action tunnel moved own known stepped =>
      have responded : (client, response) ∈ gateway.responsesOf number own := by
        simpa [List.filterMap_map, Function.comp_def, Deed.responded?] using answered
      obtain ⟨packet, asked, named⟩ := booked.owed client number
        (responded_waits number own (client, response) responded)
      refine ⟨.packet packet, List.mem_append_left _ asked, ?_⟩
      by_cases same : packet.key = key <;>
        simp [errand?, serves, named, concerns, Errand.answers, same]
  | _ => simp [Deed.responded?] at answered

theorem Turn.terms (turn : Turn now gateway happening after deeds) :
    after.terms = gateway.terms := by
  cases turn with
  | shutsDown =>
      obtain ⟨hosted, same, _⟩ := gateway.shut_down_closes
      rw [same]
  | _ => rfl

theorem Booked.replies (booked : gateway.Booked past)
    (turn : Turn now gateway happening after deeds)
    (fresh : Fresh (past ++ [⟨now, happening, gateway, after, deeds⟩])) (key : Key) :
    (deeds.filterMap Deed.responded?).filter (fun entry =>
      askedFor (asks (past ++ [⟨now, happening, gateway, after, deeds⟩])) key entry.1) =
      ((gateway.errand? key now happening).map (·.told deeds)).getD [] := by
  have each : ∀ entry ∈ deeds.filterMap Deed.responded?,
      askedFor (asks (past ++ [⟨now, happening, gateway, after, deeds⟩])) key entry.1 =
        Errand.answers (gateway.errand? key now happening) := by
    intro entry answered
    obtain ⟨route, asked, same⟩ := booked.answers turn key entry.1 entry.2 answered
    rw [asked_for _ fresh.clients key entry.1 route asked, same]
  rw [List.filter_congr each]
  cases gateway.errand? key now happening with
  | none => simp [Errand.answers]
  | some errand =>
      rw [Option.map_some, Option.getD_some, errand.told_of]
      cases Errand.answers (some errand) <;> simp

theorem Shows.writes (stride : Stride) {key : Key} {lane : Lane}
    (shows : stride.before.Shows key lane) (booked : stride.before.Booked past)
    (fresh : Fresh past) :
    writtenFor key [stride] =
      ((stride.before.errand? key stride.now stride.happening).map lane.writes).getD [] := by
  rcases stride with ⟨now, happening, gateway, after, deeds⟩
  rw [writtenFor, List.flatMap_singleton]
  cases happening with
  | act action =>
      cases action with
      | tunnel number action =>
          by_cases own : gateway.serves number key
          · obtain ⟨hosted, known, _, rfl⟩ :=
              shows.hosted booked fresh number ((serves_iff number).mp own)
            simp [errand?, own, tunnel?, known, Lane.writes, laneOf]
          · simp [errand?, own]
      | ask client request =>
          cases routed : gateway.routeOf request with
          | packet packet =>
              by_cases own : packet.key = key <;> simp [errand?, routed, own, Lane.writes]
          | _ => simp [errand?, routed]
      | dialed caller outcome =>
          cases outcome with
          | ok made => by_cases own : made = key <;> simp [errand?, own, Lane.writes]
          | error failure => rfl
      | hangUp client =>
          by_cases dialing : gateway.dialing.contains (.client client)
          · simp only [errand?, dialing, if_true]
            rfl
          · cases waiting : gateway.inFlight.lookup client with
            | none => simp only [errand?, dialing, waiting]; rfl
            | some number =>
                by_cases own : gateway.serves number key <;>
                  simp only [errand?, dialing, waiting, own] <;> rfl
      | close closed => by_cases own : closed = key <;> simp [errand?, own, Lane.writes]
      | downstream number move | retire number =>
          by_cases own : gateway.serves number key <;> simp [errand?, own, Lane.writes]
      | create | shutDown => rfl
  | downstreamReads number =>
      by_cases own : gateway.serves number key <;> simp [errand?, own, Lane.writes]

/-- What is known about a key at every point of a run: its lane, driven by its errands alone,
shows what the gateway shows of the key. -/
structure Tracked (terms : Terms) (key : Key) (gateway : Gateway) (past : List Stride) : Prop where
  same : gateway.terms = terms
  asked : ∀ entry ∈ responses past, ∃ route, (entry.1, route) ∈ asks past
  lane : ∃ lane, Lane.run terms key (errandsOf key past) =
    some ⟨lane, repliesTo key past, writtenFor key past⟩ ∧ gateway.Shows key lane

theorem Tracked.turn {terms : Terms} {key : Key} (tracked : Tracked terms key gateway past)
    (booked : gateway.Booked past) (turn : Turn now gateway happening after deeds)
    (fresh : Fresh (past ++ [⟨now, happening, gateway, after, deeds⟩]))
    (calm : happening ≠ .act .shutDown) :
    Tracked terms key after (past ++ [⟨now, happening, gateway, after, deeds⟩]) := by
  obtain ⟨lane, ran, shows⟩ := tracked.lane
  have told := booked.replies turn fresh key
  have written := Shows.writes ⟨now, happening, gateway, after, deeds⟩ shows booked fresh.begins
  have follows := shows.turn now booked fresh.begins turn fresh calm
  refine ⟨turn.terms.trans tracked.same, ?_, ?_⟩
  · intro entry answered
    rw [responses_append, List.mem_append] at answered
    rcases answered with earlier | new
    · obtain ⟨route, before⟩ := tracked.asked entry earlier
      rw [asks_append]
      exact ⟨route, List.mem_append_left _ before⟩
    · obtain ⟨route, now, _⟩ := booked.answers turn key entry.1 entry.2 (by
        simpa [responses] using new)
      exact ⟨route, now⟩
  · rw [replies_to_last past _ fresh tracked.asked key, told, written_for_append, written,
      errands_of_append]
    have last : errandsOf key [⟨now, happening, gateway, after, deeds⟩] =
        (gateway.errand? key now happening).toList := by
      simp only [errandsOf, List.filterMap_cons, List.filterMap_nil]
      cases gateway.errand? key now happening <;> rfl
    cases about : gateway.errand? key now happening with
    | none =>
        rw [Follows, about] at follows
        rw [last, about]
        simpa using ⟨lane, ran, follows⟩
    | some errand =>
        rw [Follows, about, tracked.same] at follows
        obtain ⟨next, stepped, shown⟩ := follows
        rw [last, about]
        exact ⟨next, Lane.run_last terms key _ errand _ next _ ran stepped, shown⟩

end Turns

/-- What a run does for a key is what the errands of the key make of its lane. -/
theorem run_tracked (destination : Address.Endpoint) (terms : Terms) (fallback : Fallback)
    (script : List (Nat × Happening)) (gateway : Gateway) (trace : List Stride)
    (ran : Gateway.run { destination := destination, terms := terms, fallback := fallback }
      script = some (gateway, trace)) (fresh : Fresh trace) (calm : Calm trace) (key : Key) :
    Tracked terms key gateway trace := by
  refine (run_booked destination terms fallback (fun gateway past => Calm past →
    Tracked terms key gateway past) ?_ ?_ script gateway trace ran fresh).2 calm
  · exact fun _ => ⟨rfl, nofun, {}, rfl, .unmade nofun⟩
  · intro now before happening after deeds past booked tracked turn fresh calm
    have earlier : Calm past := fun stride member => calm stride (List.mem_append_left _ member)
    exact (tracked earlier).turn booked turn fresh
      (calm _ (List.mem_append_right _ (List.mem_singleton_self _)))

/-- The tunnel that was made for a key. -/
def tunnelOf (gateway : Gateway) (key : Key) : Option Tunnel :=
  (gateway.hosted.find? fun hosted => hosted.key == key).map Hosted.tunnel

section Register

variable (key : Key)

/-- A stride in which the tunnel of a key is made. -/
def Stride.Makes (stride : Stride) : Prop :=
  ∃ caller, stride.happening = .act (.dialed caller (.ok key))

/-- A stride in which somebody closes a key, its tunnel leaves the register, or the whole gateway
shuts down. -/
def Stride.Frees (stride : Stride) : Prop :=
  stride.happening = .act (.close key) ∨
    (∃ number, stride.happening = .act (.retire number) ∧
      stride.before.serves number key = true) ∨
    stride.happening = .act .shutDown

/-- A stride that closes a key, or after which its poller has ended. -/
def Stride.Shuts (stride : Stride) : Prop :=
  stride.happening = .act (.close key) ∧ stride.deeds = [.closed true] ∨
    ∃ tunnel, stride.after.tunnelOf key = some tunnel ∧ tunnel.poller.hasEnded = true

/-- Whether something began in a run and has not ended since. -/
def Since (begins ends : Stride → Prop) (trace : List Stride) : Prop :=
  ∃ earlier stride later, trace = earlier ++ stride :: later ∧ begins stride ∧
    ∀ other ∈ later, ¬ ends other

theorem since_last (begins ends : Stride → Prop) (past : List Stride) (stride : Stride) :
    Since begins ends (past ++ [stride]) ↔
      begins stride ∨ ¬ ends stride ∧ Since begins ends past := by
  constructor
  · rintro ⟨earlier, first, later, split, began, lasts⟩
    rcases List.eq_nil_or_concat later with rfl | ⟨later, last, rfl⟩
    · obtain ⟨rfl, same⟩ := List.append_inj' split rfl
      cases same
      exact .inl began
    · rw [List.concat_eq_append, ← List.cons_append, ← List.append_assoc] at split
      obtain ⟨rfl, same⟩ := List.append_inj' split rfl
      cases same
      refine .inr ⟨lasts stride (by simp), earlier, first, later, rfl, began, ?_⟩
      exact fun other member => lasts other (by simp [member])
  · rintro (began | ⟨lasts, earlier, first, later, rfl, began, still⟩)
    · exact ⟨past, stride, [], rfl, began, fun _ member => absurd member List.not_mem_nil⟩
    · refine ⟨earlier, first, later ++ [stride], by simp, began, fun other member => ?_⟩
      rcases List.mem_append.mp member with before | now
      · exact still other before
      · rwa [List.mem_singleton.mp now]

theorem since_after (begins ends : Stride → Prop) (earlier later : List Stride) (stride : Stride)
    (ended : ends stride) (silent : ¬ begins stride) :
    Since begins ends (earlier ++ stride :: later) ↔ Since begins ends later := by
  induction later using List.reverseRecOn with
  | nil =>
      have never : ¬ Since begins ends [] := fun ⟨_, _, _, split, _⟩ => by simp at split
      rw [since_last]
      simp [ended, silent, never]
  | append_singleton later last induction =>
      rw [← List.cons_append, ← List.append_assoc, since_last, since_last, induction]

variable {now : Nat} {gateway after : Gateway} {happening : Happening} {deeds : List Deed}
  {past : List Stride}

theorem Booked.registers (booked : gateway.Booked past) (fresh : Fresh past)
    (turn : Turn now gateway happening after deeds) :
    after.registry.contains key = true ↔
      Stride.Makes key ⟨now, happening, gateway, after, deeds⟩ ∨
        ¬ Stride.Frees key ⟨now, happening, gateway, after, deeds⟩ ∧
          gateway.registry.contains key = true := by
  cases turn with
  | hosts caller made dialing =>
      by_cases own : made = key
      · subst own
        simp [Stride.Makes, host, Registry.contains]
      · have other := Registry.find_insert_other gateway.registry made key gateway.hosted.length
          (Ne.symm own)
        simp [Stride.Makes, Stride.Frees, host, Registry.contains, other, own]
  | closes closed number found =>
      by_cases own : closed = key
      · subst own
        simp [Stride.Makes, Stride.Frees, modifyTunnel, Registry.contains]
      · have other := Registry.find_erase_other gateway.registry closed key (Ne.symm own)
        simp [Stride.Makes, Stride.Frees, modifyTunnel, Registry.contains, other, own]
  | closesNothing closed unknown =>
      by_cases own : closed = key
      · subst own
        simp [Registry.contains, unknown, Stride.Makes]
      · simp [Stride.Makes, Stride.Frees, own]
  | shutsDown =>
      obtain ⟨hosted, same, _⟩ := gateway.shut_down_closes
      simp [same, Stride.Makes, Stride.Frees, Registry.contains, Registry.find?]
  | retires number hosted known done =>
      have named := keys_known number hosted known
      by_cases own : hosted.key = key
      · subst own
        simp [booked.released fresh number hosted known, Stride.Makes, Stride.Frees, serves, named]
      · have other := Registry.find_release_other gateway.registry hosted.key key number
          (Ne.symm own)
        simp [Stride.Makes, Stride.Frees, serves, named, own, Registry.contains, other]
  | _ => simp [Stride.Makes, Stride.Frees, modifyTunnel]

end Register

section Forever

variable {gateway after : Gateway} {past : List Stride} {key : Key}

theorem tunnel_of_hosts (tunnel : Tunnel) (known : gateway.tunnelOf key = some tunnel) :
    ∃ number, gateway.keys[number]? = some key ∧ gateway.tunnel? number = some tunnel := by
  obtain ⟨hosted, found, rfl⟩ := Option.map_eq_some_iff.mp known
  obtain ⟨number, hosting⟩ := List.getElem?_of_mem (List.mem_of_find?_eq_some found)
  have own : hosted.key = key := by simpa using List.find?_some found
  exact ⟨number, own ▸ keys_known number hosted hosting, by rw [tunnel?, hosting]; rfl⟩

theorem Shows.tunnel_of {lane : Lane} (shows : gateway.Shows key lane)
    (booked : gateway.Booked past) (fresh : Fresh past) :
    gateway.tunnelOf key = lane.hosted.map Hosted.tunnel := by
  cases found : gateway.tunnelOf key with
  | none =>
      cases shows with
      | unmade new => rfl
      | made number hosted known own =>
          have missing := List.find?_eq_none.mp (Option.map_eq_none_iff.mp found) hosted
            (List.mem_of_getElem? known)
          exact absurd (beq_iff_eq.mpr own) missing
  | some tunnel =>
      obtain ⟨number, named, hosting⟩ := tunnel_of_hosts tunnel found
      obtain ⟨hosted, known, _, rfl⟩ := shows.hosted booked fresh number named
      rw [tunnel?, known] at hosting
      exact hosting.symm

theorem free_shuts (free : gateway.registry.contains key = false) : gateway.open? key = none := by
  rw [Registry.contains, Option.isSome_eq_false_iff, Option.isNone_iff_eq_none] at free
  rw [open?, free]
  rfl

theorem Booked.closed_shuts (booked : gateway.Booked past) (fresh : Fresh past) (number : Nat)
    (named : gateway.keys[number]? = some key)
    (closed : gateway.Hosts number (·.closed = true)) : gateway.open? key = none := by
  obtain ⟨tunnel, known, closed⟩ := closed
  cases found : gateway.registry.find? key with
  | none => simp [open?, found]
  | some place =>
      obtain rfl := booked.number_unique fresh place number (booked.leads key place found) named
      simp [open?, found, known, closed]

theorem closing_tells {now : Nat} {deeds : List Deed}
    (turn : Turn now gateway (.act (.close key)) after deeds) :
    deeds = [.closed (gateway.registry.contains key)] ∧
      after.registry.contains key = false := by
  cases turn with
  | closes key number found =>
      refine ⟨by simp [Registry.contains, found], ?_⟩
      simp [modifyTunnel, Registry.contains]
  | closesNothing key unknown => simp [Registry.contains, unknown]

theorem shut_refuses {now : Nat} {deeds : List Deed} {client : Nat} {request : HttpRequest}
    (packet : Request) (turn : Turn now gateway (.act (.ask client request)) after deeds)
    (routed : gateway.routeOf request = .packet packet)
    (shut : gateway.open? packet.key = none) :
    deeds = [.responded client ⟨.notFound, []⟩] ∧ after = gateway := by
  cases turn with
  | refuses client request other own _ => exact ⟨rfl, rfl⟩
  | delivers client request other number own opened =>
      cases routed.symm.trans own
      cases shut.symm.trans opened
  | answers client request response own => cases routed.symm.trans own
  | dials client request own => cases routed.symm.trans own

theorem moving_writes {now number : Nat} {action : Tunnel.Action} {deeds : List Deed}
    (turn : Turn now gateway (.act (.tunnel number action)) after deeds)
    (own : gateway.serves number key = true) :
    ∃ before later, gateway.tunnel? number = some before ∧ after.tunnel? number = some later ∧
      later.socket.outgoing = before.socket.outgoing ++
        writtenFor key [⟨now, .act (.tunnel number action), gateway, after, deeds⟩] := by
  cases turn with
  | moves number action before later acts known stepped =>
      refine ⟨before, later, known, ?_, ?_⟩
      · obtain ⟨hosted, hosting, _⟩ := tunnel_hosted gateway number before known
        rw [tunnel?, modify_tunnel_hosted, hosting, Option.map_some, if_pos rfl]
        rfl
      · rw [Tunnel.step_writes now before later action acts stepped]
        simp [writtenFor, own, known]

theorem run_stays_free (made : key ∈ gateway.keys) (free : gateway.registry.contains key = false)
    (booked : gateway.Booked past) (script : List (Nat × Happening)) (trace : List Stride)
    (ran : gateway.run script = some (after, trace)) (fresh : Fresh (past ++ trace)) :
    after.Booked (past ++ trace) ∧ after.registry.contains key = false := by
  suffices kept : after.Booked (past ++ trace) ∧ key ∈ after.keys ∧
      after.registry.contains key = false from ⟨kept.1, kept.2.2⟩
  refine run_keeps (fun gateway past => Fresh past →
    gateway.Booked past ∧ key ∈ gateway.keys ∧ gateway.registry.contains key = false)
    ?_ script gateway after past trace (fun _ => ⟨booked, made, free⟩) ran fresh
  intro now before happening after deeds past holds turn fresh
  obtain ⟨booked, made, free⟩ := holds fresh.begins
  have next := booked.turn turn fresh
  refine ⟨next, ?_, ?_⟩
  · rw [next.keys, created_append, ← booked.keys]
    exact List.mem_append_left _ made
  · rw [← Bool.not_eq_true, booked.registers key fresh.begins turn]
    rintro (⟨caller, makes⟩ | ⟨_, registered⟩)
    · have again : created [⟨now, happening, before, after, deeds⟩] = [key] := by
        simp only at makes
        simp [created, makes]
      exact fresh.unmade key again (booked.keys ▸ made)
    · rw [free] at registered
      cases registered

end Forever

section Promises

variable {destination : Address.Endpoint} {terms : Terms} {fallback : Fallback}
  {script : List (Nat × Happening)} {gateway : Gateway} {trace : List Stride}

theorem registered_since
    (ran : Gateway.run { destination := destination, terms := terms, fallback := fallback }
      script = some (gateway, trace)) (fresh : Fresh trace) (key : Key) :
    gateway.registry.contains key = true ↔ Since (Stride.Makes key) (Stride.Frees key) trace := by
  refine (run_booked destination terms fallback (fun gateway past =>
    (gateway.registry.contains key = true ↔ Since (Stride.Makes key) (Stride.Frees key) past))
    ?_ ?_ script gateway trace ran fresh).2
  · exact ⟨nofun, fun ⟨_, _, _, split, _⟩ => by simp at split⟩
  · intro now before happening after deeds past booked holds turn fresh
    rw [since_last, ← holds]
    exact booked.registers key fresh.begins turn

theorem closed_stays_free
    (ran : Gateway.run { destination := destination, terms := terms, fallback := fallback }
      script = some (gateway, trace)) (fresh : Fresh trace) (key : Key)
    (earlier later : List Stride) (stride : Stride) (split : trace = earlier ++ stride :: later)
    (closes : stride.happening = .act (.close key)) (told : stride.deeds = [.closed true])
    (other : Stride) (after : other ∈ later) :
    other.before.registry.contains key = false := by
  obtain ⟨booked, turn, next, further, goesOn⟩ := run_at ran fresh earlier later stride split
  obtain ⟨first, rest, begun, rfl, reached, _⟩ := stride_in_run goesOn other after
  have same : trace = ((earlier ++ [stride]) ++ first) ++ other :: rest := by simp [split]
  rw [closes] at turn
  obtain ⟨tells, free⟩ := closing_tells turn
  have registered : stride.before.registry.contains key = true := by
    simpa using tells.symm.trans told
  have made : key ∈ stride.after.keys := by
    obtain ⟨number, found⟩ := Option.isSome_iff_exists.mp registered
    have before := List.mem_of_getElem? (booked.leads key number found)
    rw [next.keys, created_append, ← booked.keys]
    exact List.mem_append_left _ before
  exact (run_stays_free made free next begun first reached (same ▸ fresh).begins).2

theorem ended_stays_shut
    (ran : Gateway.run { destination := destination, terms := terms, fallback := fallback }
      script = some (gateway, trace)) (fresh : Fresh trace) (key : Key)
    (earlier later : List Stride) (stride : Stride) (split : trace = earlier ++ stride :: later)
    (tunnel : Tunnel) (known : stride.after.tunnelOf key = some tunnel)
    (ended : tunnel.poller.hasEnded = true) (other : Stride) (after : other ∈ later) :
    other.before.open? key = none := by
  obtain ⟨booked, turn, next, further, goesOn⟩ := run_at ran fresh earlier later stride split
  obtain ⟨first, rest, begun, rfl, reached, _⟩ := stride_in_run goesOn other after
  have same : trace = ((earlier ++ [stride]) ++ first) ++ other :: rest := by simp [split]
  obtain ⟨there, -⟩ := run_at ran fresh _ rest other same
  obtain ⟨number, named, hosting⟩ := tunnel_of_hosts tunnel known
  obtain ⟨last, hosts, still⟩ := run_lasts ended_lasts number begun stride.after other.before first
    ⟨tunnel, hosting, ended⟩ reached
  have stays : other.before.keys[number]? = some key := by
    rw [next.keys] at named
    have bound := (List.getElem?_eq_some_iff.mp named).1
    rw [there.keys, created_append, List.getElem?_append_left bound, named]
  refine there.closed_shuts (same ▸ fresh).begins number stays ⟨last, hosts, ?_⟩
  simp [Tunnel.closed, still]

/-- In every run without a shutdown, a key is registered from the making of its tunnel until it is
freed. Closing it tells whether it was registered, and does so at most once. A packet that comes
for it after that, or after its poller has ended, is answered that there is no such tunnel, and
does nothing. What is written for it comes to the connection of its tunnel. Another run in which
the same happens to the key is the same for it: nothing that happens to other keys touches its
registration, its tunnel, the answers that its clients get, or the bytes that are written
downstream for it. -/
theorem register_keeps_promises (destination : Address.Endpoint) (terms : Terms)
    (fallback : Fallback) (script : List (Nat × Happening)) (gateway : Gateway)
    (trace : List Stride)
    (ran : Gateway.run { destination := destination, terms := terms, fallback := fallback }
      script = some (gateway, trace)) (fresh : Fresh trace) (calm : Calm trace) (key : Key) :
    (gateway.registry.contains key = true ↔
        Since (Stride.Makes key) (Stride.Frees key) trace) ∧
      (∀ stride ∈ trace, stride.happening = .act (.close key) →
        stride.deeds = [.closed (stride.before.registry.contains key)]) ∧
      (∀ earlier stride later, trace = earlier ++ stride :: later →
        stride.happening = .act (.close key) → stride.deeds = [.closed true] →
        ∀ other ∈ later, other.happening = .act (.close key) → other.deeds = [.closed false]) ∧
      (∀ earlier stride later, trace = earlier ++ stride :: later → stride.Shuts key →
        ∀ other ∈ later, ∀ client request packet,
          other.happening = .act (.ask client request) →
          other.before.routeOf request = .packet packet → packet.key = key →
          other.deeds = [.responded client ⟨.notFound, []⟩] ∧ other.after = other.before) ∧
      (∀ stride ∈ trace, ∀ number action, stride.happening = .act (.tunnel number action) →
        stride.before.serves number key = true →
        ∃ before later, stride.before.tunnel? number = some before ∧
          stride.after.tunnel? number = some later ∧
          later.socket.outgoing = before.socket.outgoing ++ writtenFor key [stride]) ∧
      ∀ further twin copy,
        Gateway.run { destination := destination, terms := terms, fallback := fallback }
          further = some (twin, copy) → Fresh copy → Calm copy →
        errandsOf key copy = errandsOf key trace →
        twin.registry.contains key = gateway.registry.contains key ∧
          twin.tunnelOf key = gateway.tunnelOf key ∧
          repliesTo key copy = repliesTo key trace ∧
          writtenFor key copy = writtenFor key trace := by
  have turns : ∀ stride ∈ trace,
      Turn stride.now stride.before stride.happening stride.after stride.deeds :=
    fun stride member => (stride_in_run ran stride member).choose_spec.choose_spec.choose_spec.2.2
  refine ⟨registered_since ran fresh key, ?_, ?_, ?_, ?_, ?_⟩
  · intro stride member closes
    exact (closing_tells (closes ▸ turns stride member)).1
  · intro earlier stride later split closes told other after again
    have free := closed_stays_free ran fresh key earlier later stride split closes told other
      after
    have turn := turns other (split ▸ List.mem_append_right _ (.tail _ after))
    rw [again] at turn
    rw [(closing_tells turn).1, free]
  · intro earlier stride later split shuts other after client request packet asks routed own
    have turn := turns other (split ▸ List.mem_append_right _ (.tail _ after))
    rw [asks] at turn
    refine shut_refuses packet turn routed (own ▸ ?_)
    rcases shuts with ⟨closes, told⟩ | ⟨tunnel, known, ended⟩
    · exact free_shuts (closed_stays_free ran fresh key earlier later stride split closes told
        other after)
    · exact ended_stays_shut ran fresh key earlier later stride split tunnel known ended other after
  · rintro ⟨now, _, before, after, deeds⟩ member number action rfl own
    exact moving_writes (turns _ member) own
  · intro further twin copy came freshly calmly same
    obtain ⟨lane, drove, shows⟩ := (run_tracked destination terms fallback script gateway trace
      ran fresh calm key).lane
    obtain ⟨other, drives, shown⟩ := (run_tracked destination terms fallback further twin copy
      came freshly calmly key).lane
    have booked := run_books destination terms fallback script gateway trace ran fresh
    have booking := run_books destination terms fallback further twin copy came freshly
    rw [same, drove] at drives
    obtain ⟨rfl, replies, written⟩ := Lane.Record.mk.inj (Option.some.inj drives)
    refine ⟨?_, ?_, replies.symm, written.symm⟩
    · rw [← shown.registered booking, shows.registered booked]
    · rw [shown.tunnel_of booking freshly, shows.tunnel_of booked fresh]

end Promises

theorem run_calm (script : List (Nat × Happening)) (silent : .act .shutDown ∉ script.map Prod.snd)
    (gateway after : Gateway) (trace : List Stride)
    (ran : gateway.run script = some (after, trace)) : Calm trace := by
  intro stride member shuts
  rw [← run_happenings script gateway after trace ran, ← shuts] at silent
  exact silent (List.mem_map_of_mem member)

section Fixtures

def packetFor (key : Key) (serial : UInt64) (payload : Bytes) : HttpRequest :=
  ⟨"POST", packetPath, Request.encode key serial payload, true⟩

/-- Two tunnels, of which one is closed while a request waits at the other. -/
def closingOne : List (Nat × Happening) :=
  [(0, .act .create), (1, .act (.dialed .owner (.ok (minted 1)))), (2, .act .create),
    (3, .act (.dialed .owner (.ok (minted 2)))), (4, .act (.ask 1 (packetFor (minted 2) 1 [7]))),
    (5, .act (.tunnel 1 .enqueue)), (5, .act (.tunnel 1 (.poller .packet))),
    (6, .act (.close (minted 1))), (6, .act (.close (minted 1))),
    (7, .act (.tunnel 1 (.poller .passed))), (7, .act (.tunnel 1 (.link (.outflow (.took [7]))))),
    (8, .act (.ask 2 (packetFor (minted 1) 1 [8]))),
    (9, .act (.tunnel 1 (.link (.outflow (.wrote 1))))), (9, .act (.downstream 1 (.send [5]))),
    (9, .act (.tunnel 1 (.link (.inflow (.received [5]))))),
    (9, .act (.tunnel 1 (.link (.inflow .handed)))), (9, .act (.tunnel 1 (.poller (.chunk [5]))))]

def closingNone : List (Nat × Happening) :=
  [(2, .act .create), (3, .act (.dialed .owner (.ok (minted 2)))),
    (4, .act (.ask 1 (packetFor (minted 2) 1 [7]))),
    (5, .act (.tunnel 0 .enqueue)), (5, .act (.tunnel 0 (.poller .packet))),
    (7, .act (.tunnel 0 (.poller .passed))), (7, .act (.tunnel 0 (.link (.outflow (.took [7]))))),
    (9, .act (.tunnel 0 (.link (.outflow (.wrote 1))))), (9, .act (.downstream 0 (.send [5]))),
    (9, .act (.tunnel 0 (.link (.inflow (.received [5]))))),
    (9, .act (.tunnel 0 (.link (.inflow .handed)))), (9, .act (.tunnel 0 (.poller (.chunk [5]))))]

set_option maxRecDepth 10000 in
theorem closing_one_keeps_other : ∃ gateway trace twin copy,
    toLocalhost.run closingOne = some (gateway, trace) ∧
      toLocalhost.run closingNone = some (twin, copy) ∧
      gateway.registry.contains (minted 1) = false ∧
      gateway.registry.contains (minted 2) = true ∧
      repliesTo (minted 1) trace = [(2, ⟨.notFound, []⟩)] ∧
      repliesTo (minted 2) trace = [(1, Answer.response (.data 1 [5]))] ∧
      writtenFor (minted 2) trace = [7] ∧
      twin.tunnelOf (minted 2) = gateway.tunnelOf (minted 2) ∧
      repliesTo (minted 2) copy = repliesTo (minted 2) trace ∧
      writtenFor (minted 2) copy = writtenFor (minted 2) trace := by
  have both : (toLocalhost.run closingOne).any fun whole =>
      (toLocalhost.run closingNone).any fun part =>
        (created whole.2 = [minted 1, minted 2] ∧ (asks whole.2).map Prod.fst = [1, 2]) ∧
        (created part.2 = [minted 2] ∧ (asks part.2).map Prod.fst = [1]) ∧
        minted 1 ≠ minted 2 ∧
        whole.1.registry.contains (minted 1) = false ∧
        whole.1.registry.contains (minted 2) = true ∧
        repliesTo (minted 1) whole.2 = [(2, ⟨.notFound, []⟩)] ∧
        repliesTo (minted 2) whole.2 = [(1, Answer.response (.data 1 [5]))] ∧
        writtenFor (minted 2) whole.2 = [7] ∧
        errandsOf (minted 2) part.2 = errandsOf (minted 2) whole.2 := by
    decide +kernel
  obtain ⟨⟨gateway, trace⟩, ran, rest⟩ := (Option.any_eq_true _ _).mp both
  obtain ⟨⟨twin, copy⟩, came, facts⟩ := (Option.any_eq_true _ _).mp rest
  obtain ⟨⟨made, asked⟩, ⟨copied, asking⟩, apart, free, kept, refused, answered, wrote, same⟩ :=
    of_decide_eq_true facts
  have fresh : Fresh trace := ⟨by simp [made, apart], by simp [asked]⟩
  have freshly : Fresh copy := ⟨by simp [copied], by simp [asking]⟩
  have calm := run_calm closingOne (by simp [closingOne]) _ gateway trace ran
  have calmly := run_calm closingNone (by simp [closingNone]) _ twin copy came
  obtain ⟨_, _, _, _, _, apart⟩ :=
    register_keeps_promises _ _ _ closingOne gateway trace ran fresh calm (minted 2)
  obtain ⟨_, tunnel, replies, written⟩ := apart closingNone twin copy came freshly calmly same
  exact ⟨gateway, trace, twin, copy, ran, came, free, kept, refused, answered, wrote, tunnel,
    replies, written⟩

end Fixtures

end Gateway

end HttpTunnel.Server
