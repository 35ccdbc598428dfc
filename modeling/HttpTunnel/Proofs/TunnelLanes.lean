import HttpTunnel.Proofs.GatewayRuns

/-!
One key by itself. What a gateway does for a key is what a single tunnel does with a flag that says
whether it is registered and with the clients that wait for it. In every run of a gateway the
errands of a key, taken out of all that happens, drive such a lane, and the lane shows what the
gateway shows of the key. So nothing that happens to another key matters.
-/

namespace HttpTunnel.Server.Gateway

/-- What can happen to one key. -/
inductive Errand where
  | make (now : Nat)
  | ask (client : Nat) (packet : Request)
  | hangUp (client : Nat)
  | close
  | move (now : Nat) (action : Tunnel.Action)
  | follow (move : Socket.PeerMove)
  | read
  | retire (now : Nat)
  deriving DecidableEq

/-- A key with its tunnel, once that has been made, and the clients that wait for it. -/
structure Lane where
  registered : Bool := false
  hosted : Option Hosted := none
  waiters : List Nat := []

namespace Lane

def isOpen (lane : Lane) : Bool :=
  lane.registered && lane.hosted.any fun hosted => !hosted.tunnel.closed

def change (lane : Lane) (change : Tunnel → Tunnel) : Lane :=
  { lane with
    hosted := lane.hosted.map fun hosted => { hosted with tunnel := change hosted.tunnel } }

/-- One errand, and the answers that clients get in it. -/
def step (terms : Terms) (key : Key) (lane : Lane) :
    Errand → Option (Lane × List (Nat × Response))
  | .make now =>
      if lane.hosted.isSome then none
      else some ({ lane with
        registered := true
        hosted := some ⟨key, .ofStart terms now, false⟩ }, [])
  | .ask client packet =>
      if lane.isOpen then
        some ({ lane with waiters := lane.waiters ++ [client] }.change
          (·.deliver ⟨client, packet.serial.toInt, packet.payload⟩), [])
      else some (lane, [(client, ⟨.notFound, []⟩)])
  | .hangUp client =>
      some ({ lane with waiters := lane.waiters.filter (· != client) }.change (·.hangUp client), [])
  | .close =>
      if lane.registered then some ({ lane with registered := false }.change (·.close), [])
      else some (lane, [])
  | .move now action => do
      let hosted ← lane.hosted
      let (after, deeds) ← hosted.tunnel.step now action
      let responses := (deeds.filterMap Tunnel.Deed.response?).filter fun entry =>
        lane.waiters.contains entry.1
      let waiting := lane.waiters.filter fun client =>
        !(responses.any fun response => response.1 == client)
      some ({ lane with waiters := waiting }.change fun _ => after, responses)
  | .follow move => some (lane.change (·.follow move), [])
  | .read =>
      some (lane.change fun tunnel => { tunnel with socket := tunnel.socket.peerTake.2 }, [])
  | .retire now => do
      let hosted ← lane.hosted
      if canRetire now hosted then
        some ({ lane with registered := false, hosted := some { hosted with retired := true } }, [])
      else none

end Lane

def Deed.responded? : Deed → Option (Nat × Response)
  | .responded client response => some (client, response)
  | _ => none

/-- The answers to requests for a key. The one that brings a key is an answer to a request for any
tunnel. -/
def Errand.told (deeds : List Deed) : Errand → List (Nat × Response)
  | .make _ => []
  | _ => deeds.filterMap Deed.responded?

def serves (gateway : Gateway) (number : Nat) (key : Key) : Bool :=
  gateway.keys[number]? == some key

/-- What a happening is to a key, if it concerns the key at all. -/
def errand? (gateway : Gateway) (key : Key) (now : Nat) : Happening → Option Errand
  | .act (.dialed _ (.ok made)) => if made = key then some (.make now) else none
  | .act (.ask client request) =>
      match gateway.routeOf request with
      | .packet packet => if packet.key = key then some (.ask client packet) else none
      | _ => none
  | .act (.hangUp client) =>
      if gateway.dialing.contains (.client client) then none
      else
        match gateway.inFlight.lookup client with
        | some number => if gateway.serves number key then some (.hangUp client) else none
        | none => none
  | .act (.close closed) => if closed = key then some .close else none
  | .act (.tunnel number action) =>
      if gateway.serves number key then some (.move now action) else none
  | .act (.downstream number move) =>
      if gateway.serves number key then some (.follow move) else none
  | .act (.retire number) => if gateway.serves number key then some (.retire now) else none
  | .downstreamReads number => if gateway.serves number key then some .read else none
  | _ => none

def waitersOf (gateway : Gateway) (number : Nat) : List Nat :=
  (gateway.inFlight.filter fun entry => entry.2 == number).map Prod.fst

/-- The lane of a tunnel that a gateway hosts. -/
def laneOf (gateway : Gateway) (number : Nat) (hosted : Hosted) : Lane :=
  ⟨gateway.registry.contains hosted.key, some hosted, gateway.waitersOf number⟩

/-- What a gateway shows of a key: nothing before its tunnel is made, then the tunnel, whether it
is registered, and who waits for it. -/
inductive Shows (gateway : Gateway) (key : Key) : Lane → Prop where
  | unmade (new : key ∉ gateway.keys) : Shows gateway key {}
  | made (number : Nat) (hosted : Hosted) (known : gateway.hosted[number]? = some hosted)
      (own : hosted.key = key) : Shows gateway key (gateway.laneOf number hosted)

section Shown

variable {gateway after : Gateway} {past : List Stride} {key : Key} {lane : Lane}

theorem keys_known (number : Nat) (hosted : Hosted)
    (known : gateway.hosted[number]? = some hosted) :
    gateway.keys[number]? = some hosted.key := by
  rw [keys, List.getElem?_map, known]
  rfl

/-- No key was made twice, so a key is that of one tunnel. -/
theorem Booked.number_unique (booked : gateway.Booked past) (fresh : Fresh past)
    (number other : Nat) (here : gateway.keys[number]? = some key)
    (there : gateway.keys[other]? = some key) : number = other := by
  have distinct : gateway.keys.Nodup := booked.keys ▸ fresh.keys
  have bound := (List.getElem?_eq_some_iff.mp here).1
  exact List.getElem?_inj bound distinct |>.mp (here.trans there.symm)

theorem Booked.released (booked : gateway.Booked past) (fresh : Fresh past) (number : Nat)
    (hosted : Hosted) (known : gateway.hosted[number]? = some hosted) :
    (gateway.registry.release hosted.key number).contains hosted.key = false := by
  have named := keys_known number hosted known
  rw [Registry.contains, Registry.find_release_self]
  cases found : gateway.registry.find? hosted.key with
  | none => rfl
  | some place =>
      have leads := booked.leads hosted.key place found
      simp [booked.number_unique fresh place number leads named]

theorem Booked.waits_once (booked : gateway.Booked past) (client number other : Nat)
    (here : (client, number) ∈ gateway.inFlight) (there : (client, other) ∈ gateway.inFlight) :
    number = other := by
  have same := List.inj_on_of_nodup_map booked.apart here there rfl
  exact congrArg Prod.snd same

theorem waiter_in_flight (number client : Nat) :
    client ∈ gateway.waitersOf number ↔ (client, number) ∈ gateway.inFlight := by
  simp [waitersOf]

theorem Shows.untouched (shows : gateway.Shows key lane)
    (known : key ∈ after.keys → key ∈ gateway.keys)
    (registry : after.registry.find? key = gateway.registry.find? key)
    (same : ∀ number, gateway.keys[number]? = some key →
      after.hosted[number]? = gateway.hosted[number]? ∧
        after.waitersOf number = gateway.waitersOf number) : after.Shows key lane := by
  cases shows with
  | unmade new => exact .unmade fun made => new (known made)
  | made number hosted hosts own =>
      subst own
      obtain ⟨stays, waiters⟩ := same number (keys_known number hosted hosts)
      have lane : gateway.laneOf number hosted = after.laneOf number hosted := by
        rw [laneOf, laneOf, Registry.contains, Registry.contains, registry, waiters]
      rw [lane]
      exact .made number hosted (stays.trans hosts) rfl

theorem Booked.opens_lane (booked : gateway.Booked past) (fresh : Fresh past) (number : Nat)
    (hosted : Hosted) (known : gateway.hosted[number]? = some hosted) :
    gateway.open? hosted.key =
      if (gateway.laneOf number hosted).isOpen then some number else none := by
  have named := keys_known number hosted known
  cases found : gateway.registry.find? hosted.key with
  | none => simp [open?, found, laneOf, Lane.isOpen, Registry.contains]
  | some place =>
      obtain rfl := booked.number_unique fresh place number
        (booked.leads hosted.key place found) named
      simp only [open?, Option.bind_eq_bind, found, Option.bind_some, tunnel?, known,
        Option.map_some, laneOf, Lane.isOpen, Registry.contains]
      cases closed : hosted.tunnel.closed <;> simp [closed]

theorem lane_changes (gateway : Gateway) (number : Nat) (hosted : Hosted) (change : Tunnel → Tunnel)
    (known : gateway.hosted[number]? = some hosted) :
    (gateway.modifyTunnel number change).Shows hosted.key
      ((gateway.laneOf number hosted).change change) := by
  have changed : (gateway.modifyTunnel number change).hosted[number]? =
      some { hosted with tunnel := change hosted.tunnel } := by
    rw [modify_tunnel_hosted, known, Option.map_some, if_pos rfl]
  exact .made number _ changed rfl

theorem Shows.elsewhere (shows : gateway.Shows key lane) (number : Nat)
    (change : Tunnel → Tunnel) (apart : gateway.keys[number]? ≠ some key) :
    (gateway.modifyTunnel number change).Shows key lane := by
  have keys := modify_tunnel_keys gateway number change
  refine shows.untouched (fun known => keys ▸ known) rfl fun place named => ⟨?_, rfl⟩
  have other : number ≠ place := by
    rintro rfl
    exact apart named
  rw [modify_tunnel_hosted]
  cases gateway.hosted[place]? with
  | none => rfl
  | some hosted => rw [Option.map_some, if_neg other]

theorem Shows.requests (shows : gateway.Shows key lane) (inFlight : List (Nat × Nat))
    (same : ∀ number, gateway.keys[number]? = some key →
      ({ gateway with inFlight := inFlight } : Gateway).waitersOf number =
        gateway.waitersOf number) :
    ({ gateway with inFlight := inFlight } : Gateway).Shows key lane :=
  shows.untouched id rfl fun number named => ⟨rfl, same number named⟩

end Shown

section Errands

variable {gateway after : Gateway} {past : List Stride} {key : Key} {lane : Lane}

/-- What comes of a turn for a key that it does not concern, and for one that it does. -/
def Follows (gateway : Gateway) (key : Key) (lane : Lane) (now : Nat) (happening : Happening)
    (after : Gateway) (deeds : List Deed) : Prop :=
  match gateway.errand? key now happening with
  | none => after.Shows key lane
  | some errand => ∃ next, lane.step gateway.terms key errand = some (next, errand.told deeds) ∧
      after.Shows key next

theorem Follows.apart {now : Nat} {happening : Happening} {deeds : List Deed}
    (none : gateway.errand? key now happening = none) (shows : after.Shows key lane) :
    gateway.Follows key lane now happening after deeds := by
  rw [Follows, none]
  exact shows

theorem Follows.own {now : Nat} {happening : Happening} {deeds : List Deed} (errand : Errand)
    (next : Lane) (some : gateway.errand? key now happening = some errand)
    (stepped : lane.step gateway.terms key errand = .some (next, errand.told deeds))
    (shows : after.Shows key next) : gateway.Follows key lane now happening after deeds := by
  rw [Follows, some]
  exact ⟨next, stepped, shows⟩

theorem Shows.hosted (shows : gateway.Shows key lane) (booked : gateway.Booked past)
    (fresh : Fresh past) (number : Nat) (serves : gateway.keys[number]? = some key) :
    ∃ hosted, gateway.hosted[number]? = some hosted ∧ hosted.key = key ∧
      lane = gateway.laneOf number hosted := by
  cases shows with
  | unmade new => exact absurd (List.mem_of_getElem? serves) new
  | made other hosted known own =>
      have named := own ▸ keys_known other hosted known
      obtain rfl := booked.number_unique fresh number other serves named
      exact ⟨hosted, known, own, rfl⟩

theorem Shows.opens (shows : gateway.Shows key lane) (booked : gateway.Booked past)
    (fresh : Fresh past) : lane.isOpen = (gateway.open? key).isSome := by
  cases shows with
  | unmade new =>
      cases opened : gateway.open? key with
      | none => rfl
      | some number => exact absurd (List.mem_of_getElem? (booked.opens key number opened)) new
  | made number hosted known own =>
      rw [← own, booked.opens_lane fresh number hosted known]
      cases (gateway.laneOf number hosted).isOpen <;> rfl

theorem Shows.registered (shows : gateway.Shows key lane) (booked : gateway.Booked past) :
    lane.registered = gateway.registry.contains key := by
  cases shows with
  | unmade new =>
      cases found : gateway.registry.find? key with
      | none => simp [Registry.contains, found]
      | some number => exact absurd (List.mem_of_getElem? (booked.leads key number found)) new
  | made number hosted known own => rw [← own, laneOf]

theorem waiters_filtered (number : Nat) (stays : Nat → Bool) :
    ({ gateway with inFlight := gateway.inFlight.filter fun entry => stays entry.1 } :
      Gateway).waitersOf number = (gateway.waitersOf number).filter stays := by
  rw [waitersOf, waitersOf, List.filter_map, List.filter_filter, List.filter_filter]
  congr 2
  funext entry
  exact Bool.and_comm _ _

theorem waiters_stay (number : Nat) (stays : Nat → Bool)
    (all : ∀ client, (client, number) ∈ gateway.inFlight → stays client = true) :
    ({ gateway with inFlight := gateway.inFlight.filter fun entry => stays entry.1 } :
      Gateway).waitersOf number = gateway.waitersOf number := by
  rw [waiters_filtered, List.filter_eq_self]
  exact fun client waits => all client ((waiter_in_flight number client).mp waits)

theorem responses_of_waiters (number : Nat) (deeds : List Tunnel.Deed) :
    gateway.responsesOf number deeds = (deeds.filterMap Tunnel.Deed.response?).filter fun entry =>
      (gateway.waitersOf number).contains entry.1 := by
  refine List.filter_congr fun entry _ => ?_
  rw [Bool.eq_iff_iff, List.contains_iff_mem, List.contains_iff_mem]
  exact (waiter_in_flight number entry.1).symm

theorem responded_waits (number : Nat) (deeds : List Tunnel.Deed) (entry : Nat × Response)
    (responded : entry ∈ gateway.responsesOf number deeds) :
    (entry.1, number) ∈ gateway.inFlight := by
  simpa using (List.mem_filter.mp responded).2

theorem serves_iff (number : Nat) :
    gateway.serves number key = true ↔ gateway.keys[number]? = some key := beq_iff_eq

section Cases

variable (now : Nat) (shows : gateway.Shows key lane) (booked : gateway.Booked past)

include shows booked

theorem follows_vain_close (closed : Key) (unknown : gateway.registry.find? closed = none) :
    gateway.Follows key lane now (.act (.close closed)) gateway [.closed false] := by
  by_cases own : closed = key
  · subst own
    have registered : lane.registered = false := by
      rw [shows.registered booked, Registry.contains, unknown]
      rfl
    refine .own .close lane (by simp [errand?]) ?_ shows
    simp [Lane.step, registered, Errand.told, Deed.responded?]
  · exact .apart (by simp [errand?, own]) shows

theorem follows_hosting (caller : Caller) (made : Key)
    (unmade : made ∉ gateway.keys) :
    gateway.Follows key lane now (.act (.dialed caller (.ok made)))
      ({ gateway with dialing := gateway.dialing.erase caller }.host now made)
      [tell gateway.hosted.length caller (.ok made)] := by
  have length : gateway.hosted.length = gateway.keys.length := (List.length_map _).symm
  by_cases own : made = key
  · subst own
    refine .own (.make now) ⟨true, some ⟨made, .ofStart gateway.terms now, false⟩, []⟩
      (by simp [errand?]) ?_ ?_
    · cases shows with
      | unmade new => rfl
      | made number hosted known own =>
          exact absurd (List.mem_of_getElem? (own ▸ keys_known number hosted known)) unmade
    · have waiters : gateway.waitersOf gateway.hosted.length = [] := by
        rw [List.eq_nil_iff_forall_not_mem]
        intro client waits
        obtain ⟨packet, asked, named⟩ := booked.owed client _
          ((waiter_in_flight gateway.hosted.length client).mp waits)
        have bound := (List.getElem?_eq_some_iff.mp named).1
        omega
      have registered :
          (gateway.registry.insert made gateway.hosted.length).contains made = true := by
        rw [Registry.contains, Registry.find_insert_self]
        rfl
      have shown : ({ gateway with dialing := gateway.dialing.erase caller }.host now made).Shows
          made (Lane.mk _ _ _) :=
        .made gateway.hosted.length ⟨made, .ofStart gateway.terms now, false⟩
          List.getElem?_concat_length rfl
      exact registered ▸ waiters ▸ shown
  · refine .apart (by simp [errand?, own]) ?_
    refine shows.untouched ?_ (Registry.find_insert_other _ _ _ _ (Ne.symm own)) ?_
    · intro known
      rw [keys, host, List.map_append, List.mem_append] at known
      exact known.resolve_right fun new => own (List.mem_singleton.mp new).symm
    · intro number there
      have bound := (List.getElem?_eq_some_iff.mp there).1
      exact ⟨List.getElem?_append_left (length ▸ bound), rfl⟩

variable (fresh : Fresh past)

include fresh

theorem follows_refusal (client : Nat) (request : HttpRequest) (packet : Request)
    (routed : gateway.routeOf request = .packet packet) (shut : gateway.open? packet.key = none) :
    gateway.Follows key lane now (.act (.ask client request)) gateway
      [.responded client ⟨.notFound, []⟩] := by
  by_cases own : packet.key = key
  · refine .own (.ask client packet) lane (by simp [errand?, routed, own]) ?_ shows
    have closed : lane.isOpen = false := by rw [shows.opens booked fresh, ← own, shut]; rfl
    simp [Lane.step, closed, Errand.told, Deed.responded?]
  · exact .apart (by simp [errand?, routed, own]) shows

theorem follows_delivery (client : Nat) (request : HttpRequest) (packet : Request) (number : Nat)
    (routed : gateway.routeOf request = .packet packet)
    (opened : gateway.open? packet.key = some number) :
    gateway.Follows key lane now (.act (.ask client request))
      ({ gateway with inFlight := gateway.inFlight ++ [(client, number)] }.modifyTunnel number
        (·.deliver ⟨client, packet.serial.toInt, packet.payload⟩)) [] := by
  have named := booked.opens packet.key number opened
  by_cases own : packet.key = key
  · subst own
    obtain ⟨hosted, known, own, same⟩ := shows.hosted booked fresh number named
    have isOpen : lane.isOpen = true := by rw [shows.opens booked fresh, opened]; rfl
    refine .own (.ask client packet) _ (by simp [errand?, routed]) ?_ (own ▸
      lane_changes { gateway with inFlight := gateway.inFlight ++ [(client, number)] }
        number hosted _ known)
    have waiters : { lane with waiters := lane.waiters ++ [client] } =
        ({ gateway with inFlight := gateway.inFlight ++ [(client, number)] } : Gateway).laneOf
          number hosted := by
      simp [same, laneOf, waitersOf]
    simp only [Lane.step, isOpen, if_true, waiters]
    rfl
  · refine .apart (by simp [errand?, routed, own]) ?_
    have elsewhere : gateway.keys[number]? ≠ some key := by
      rw [named]
      simpa using own
    refine (shows.requests _ fun place there => ?_).elsewhere number _ elsewhere
    have other : number ≠ place := by
      rintro rfl
      exact elsewhere there
    simp [waitersOf, other]

theorem follows_hang_up (client number : Nat)
    (dialed : gateway.dialing.contains (.client client) = false)
    (waiting : gateway.inFlight.lookup client = some number) :
    gateway.Follows key lane now (.act (.hangUp client))
      ({ gateway with
        inFlight := gateway.inFlight.filter fun entry => entry.1 != client }.modifyTunnel number
          (·.hangUp client)) [] := by
  by_cases own : gateway.serves number key
  · obtain ⟨hosted, known, same, shown⟩ :=
      shows.hosted booked fresh number ((serves_iff number).mp own)
    refine .own (.hangUp client) _ (by simp only [errand?, dialed, waiting, own]; rfl) ?_ (same ▸
      lane_changes { gateway with
        inFlight := gateway.inFlight.filter fun entry => entry.1 != client } number hosted _ known)
    rw [laneOf, waiters_filtered number (· != client), shown]
    rfl
  · refine .apart (by simp only [errand?, dialed, waiting, own]; rfl) ?_
    have elsewhere : gateway.keys[number]? ≠ some key := fun named =>
      own ((serves_iff number).mpr named)
    refine (shows.requests _ fun place there => ?_).elsewhere number _ elsewhere
    refine waiters_stay place (· != client) fun other waits => ?_
    have here : (client, number) ∈ gateway.inFlight := by
      obtain ⟨before, after, split, _⟩ := List.lookup_eq_some_iff.mp waiting
      simp [split]
    rw [bne_iff_ne]
    rintro rfl
    exact elsewhere (booked.waits_once other place number waits here ▸ there)

theorem follows_close (closed : Key) (number : Nat)
    (found : gateway.registry.find? closed = some number) :
    gateway.Follows key lane now (.act (.close closed))
      ({ gateway with registry := gateway.registry.erase closed }.modifyTunnel number (·.close))
      [.closed true] := by
  have named := booked.leads closed number found
  by_cases own : closed = key
  · subst own
    obtain ⟨hosted, known, own, same⟩ := shows.hosted booked fresh number named
    have registered : lane.registered = true := by
      rw [shows.registered booked, Registry.contains, found]
      rfl
    refine .own .close _ (by simp [errand?]) ?_ (own ▸ lane_changes
      { gateway with registry := gateway.registry.erase closed } number hosted _ known)
    have erased : { lane with registered := false } =
        ({ gateway with registry := gateway.registry.erase closed } : Gateway).laneOf number
          hosted := by
      simp [same, laneOf, own, Registry.contains]
      rfl
    simp only [Lane.step, registered, if_true, erased]
    rfl
  · refine .apart (by simp [errand?, own]) ?_
    have elsewhere : gateway.keys[number]? ≠ some key := by
      rw [named]
      simpa using own
    have erased := Registry.find_erase_other gateway.registry closed key (Ne.symm own)
    have forgotten : ({ gateway with registry := gateway.registry.erase closed } :
        Gateway).Shows key lane := shows.untouched id erased fun _ _ => ⟨rfl, rfl⟩
    exact forgotten.elsewhere number _ elsewhere

theorem follows_move (number : Nat) (action : Tunnel.Action) (tunnel after : Tunnel)
    (deeds : List Tunnel.Deed) (known : gateway.tunnel? number = some tunnel)
    (stepped : tunnel.step now action = some (after, deeds)) :
    gateway.Follows key lane now (.act (.tunnel number action))
      ({ gateway with
        inFlight := gateway.unanswered (gateway.responsesOf number deeds) }.modifyTunnel number
          fun _ => after)
      ((gateway.responsesOf number deeds).map fun entry => .responded entry.1 entry.2) := by
  by_cases own : gateway.serves number key
  · obtain ⟨hosted, hosts, same, shown⟩ :=
      shows.hosted booked fresh number ((serves_iff number).mp own)
    have tunnels : hosted.tunnel = tunnel := by simpa [tunnel?, hosts] using known
    refine .own (.move now action) _ (by simp [errand?, own]) ?_ (same ▸ lane_changes
      { gateway with
        inFlight := gateway.unanswered (gateway.responsesOf number deeds) } number hosted _ hosts)
    have told : Errand.told ((gateway.responsesOf number deeds).map fun entry =>
        .responded entry.1 entry.2) (.move now action) = gateway.responsesOf number deeds := by
      simp [Errand.told, Deed.responded?, List.filterMap_map, Function.comp_def]
    have responses := gateway.responses_of_waiters number deeds
    subst tunnels
    rw [told, shown]
    simp only [Lane.step, laneOf, Option.bind_eq_bind, Option.bind_some, stepped, ← responses]
    rw [unanswered, waiters_filtered number fun client =>
      !((gateway.responsesOf number deeds).any fun response => response.1 == client)]
  · refine .apart (by simp [errand?, own]) ?_
    have elsewhere : gateway.keys[number]? ≠ some key := fun named =>
      own ((serves_iff number).mpr named)
    refine (shows.requests _ fun place there => ?_).elsewhere number _ elsewhere
    refine waiters_stay place (fun client =>
      !((gateway.responsesOf number deeds).any fun response => response.1 == client))
      fun client waits => ?_
    rw [Bool.not_eq_true', List.any_eq_false]
    intro response responded same
    have here := responded_waits number deeds response responded
    rw [beq_iff_eq.mp same] at here
    exact elsewhere (booked.waits_once client place number waits here ▸ there)

theorem follows_retirement (number : Nat) (hosted : Hosted)
    (known : gateway.hosted[number]? = some hosted) (done : canRetire now hosted = true) :
    gateway.Follows key lane now (.act (.retire number))
      { gateway with
        registry := gateway.registry.release hosted.key number
        hosted := gateway.hosted.modify number fun hosted => { hosted with retired := true } }
      [] := by
  have named := keys_known number hosted known
  by_cases own : hosted.key = key
  · subst own
    obtain ⟨same, there, _, shown⟩ := shows.hosted booked fresh number named
    cases known.symm.trans there
    have released := booked.released fresh number hosted known
    have retired : (gateway.hosted.modify number fun hosted =>
        { hosted with retired := true })[number]? = some { hosted with retired := true } := by
      simp [known]
    refine .own (.retire now) _ (by simp [errand?, (serves_iff number).mpr named]) ?_
      (.made number _ retired rfl)
    rw [shown]
    simp [Lane.step, laneOf, done, released, Errand.told]
    rfl
  · have elsewhere : gateway.serves number key = false := by
      rw [serves, named]
      simpa using own
    refine .apart (by simp [errand?, elsewhere]) ?_
    refine shows.untouched (fun made => gateway.retired_keys number ▸ made)
      (Registry.find_release_other gateway.registry hosted.key key number (Ne.symm own))
      fun place there => ⟨?_, rfl⟩
    have other : number ≠ place := by
      rintro rfl
      exact own (Option.some.inj (named.symm.trans there))
    exact List.getElem?_modify_ne _ _ other

theorem follows_change (number : Nat) (happening : Happening) (errand : Errand)
    (change : Tunnel → Tunnel)
    (about : gateway.errand? key now happening =
      if gateway.serves number key then some errand else none)
    (changes : ∀ lane : Lane,
      lane.step gateway.terms key errand = some (lane.change change, errand.told [])) :
    gateway.Follows key lane now happening (gateway.modifyTunnel number change) [] := by
  by_cases own : gateway.serves number key
  · obtain ⟨hosted, hosts, same, shown⟩ :=
      shows.hosted booked fresh number ((serves_iff number).mp own)
    exact .own errand _ (by rw [about, if_pos own]) (changes lane)
      (same ▸ shown ▸ lane_changes gateway number hosted change hosts)
  · exact .apart (by rw [about, if_neg own])
      (shows.elsewhere number change fun named => own ((serves_iff number).mpr named))

/-- The lane of a key keeps step with the gateway. -/
theorem Shows.turn {happening : Happening} {deeds : List Deed}
    (turn : Turn now gateway happening after deeds)
    (further : Fresh (past ++ [⟨now, happening, gateway, after, deeds⟩]))
    (calm : happening ≠ .act .shutDown) :
    gateway.Follows key lane now happening after deeds := by
  have idles : ∀ dialing, ({ gateway with dialing := dialing } : Gateway).Shows key lane :=
    fun dialing => shows.untouched id rfl fun _ _ => ⟨rfl, rfl⟩
  cases turn with
  | answers client request response routed =>
      exact .apart (by simp [errand?, routed]) shows
  | dials client request routed => exact .apart (by simp [errand?, routed]) (idles _)
  | refuses client request packet routed shut =>
      exact follows_refusal now shows booked fresh client request packet routed shut
  | delivers client request packet number routed opened =>
      exact follows_delivery now shows booked fresh client request packet number routed opened
  | dialsForOwner => exact .apart rfl (idles _)
  | hosts caller made dialing =>
      have unmade : made ∉ gateway.keys := booked.keys ▸ further.unmade made rfl
      exact follows_hosting now shows booked caller made unmade
  | fails caller failure dialing => exact .apart rfl (idles _)
  | leaves client dialing => exact .apart (by simp only [errand?, dialing, if_true]) (idles _)
  | hangsUp client number dialed waiting =>
      exact follows_hang_up now shows booked fresh client number dialed waiting
  | closes closed number found => exact follows_close now shows booked fresh closed number found
  | closesNothing closed unknown => exact follows_vain_close now shows booked closed unknown
  | shutsDown => exact absurd rfl calm
  | moves number action tunnel moved own known stepped =>
      exact follows_move now shows booked fresh number action tunnel moved own known stepped
  | follows number move =>
      exact follows_change now shows booked fresh number _ (.follow move) (·.follow move) rfl
        fun _ => rfl
  | retires number hosted known done =>
      exact follows_retirement now shows booked fresh number hosted known done
  | reads number =>
      exact follows_change now shows booked fresh number _ .read _ rfl fun _ => rfl

end Cases

end Errands

end HttpTunnel.Server.Gateway
