import HttpTunnel.Proofs.GatewayRuns
import HttpTunnel.Proofs.RequestFraming

/-!
What the gateway makes of a request. It hands a packet to a tunnel just if the request is a post of
an encoded packet under the key of an open tunnel. Whatever else it gets is answered at once, by the
first of its rules that applies, and changes nothing.
-/

namespace HttpTunnel.Server

namespace HttpRequest

variable {largestBody : Nat} {fallback : Fallback} {request : HttpRequest}

/-- A post to a path, arrived as a whole and within the bound. -/
structure Posted (largestBody : Nat) (request : HttpRequest) (path : String) : Prop where
  fits : request.body.length ≤ largestBody
  whole : request.complete = true
  method : request.method = "POST"
  path : request.path = path

/-- Something that a tunnel client never sends. -/
def Stray (request : HttpRequest) : Prop :=
  request.method ≠ "POST" ∨ request.path ≠ createPath ∧ request.path ≠ packetPath

theorem route_incomplete (fits : request.body.length ≤ largestBody)
    (incomplete : request.complete = false) :
    request.route largestBody fallback = .answer ⟨.badRequest, []⟩ := by
  rw [route, if_neg (Nat.not_lt.mpr fits), incomplete]
  rfl

theorem route_stray (fits : request.body.length ≤ largestBody) (whole : request.complete = true)
    (stray : request.Stray) :
    request.route largestBody fallback = .answer (request.visit fallback) := by
  rw [route, if_neg (Nat.not_lt.mpr fits), whole]
  rcases stray with other | ⟨create, packet⟩
  · simp [other]
  · simp [create, packet]

theorem route_create (posted : request.Posted largestBody createPath) :
    request.route largestBody fallback = .create := by
  rw [route, if_neg (Nat.not_lt.mpr posted.fits), posted.whole]
  simp [posted.method, posted.path]

theorem route_posted (posted : request.Posted largestBody packetPath) :
    request.route largestBody fallback = request.routePacket fallback := by
  have other : packetPath ≠ createPath := by decide
  rw [route, if_neg (Nat.not_lt.mpr posted.fits), posted.whole]
  simp [posted.method, posted.path, other]

theorem route_packet_parses (packet : Request) :
    request.routePacket fallback = .packet packet ↔ Request.parse? request.body = some packet := by
  constructor
  · intro routed
    unfold routePacket at routed
    split_ifs at routed
    cases read : Key.parse? request.body <;> simp only [read] at routed
    case some key =>
      cases parsed : Request.parse? request.body <;> simp only [parsed] at routed
      case some other =>
        cases routed
        rfl
      all_goals cases routed
    all_goals cases routed
  · intro parsed
    -- The key is read twice, and what the second reading needs is enough for the first.
    obtain ⟨long, read⟩ := Request.parse_front parsed
    have keyLong : ¬ request.body.length < Key.length := by
      rw [requestHeaderLength] at long
      omega
    rw [routePacket, if_neg keyLong, read]
    simp only [parsed]

theorem route_packet_iff (packet : Request) :
    request.route largestBody fallback = .packet packet ↔
      request.Posted largestBody packetPath ∧ packet.key.Legitimate ∧
        request.body = Request.encode packet.key packet.serial.toUInt64 packet.payload := by
  rw [← Request.parse_iff, ← @route_packet_parses fallback]
  constructor
  · intro routed
    have posted : request.Posted largestBody packetPath := by
      unfold route at routed
      split_ifs at routed with large incomplete other create path
      exact ⟨Nat.le_of_not_lt large, by simpa using incomplete, not_not.mp other, path⟩
    exact ⟨posted, route_posted posted ▸ routed⟩
  · rintro ⟨posted, routed⟩
    rw [route_posted posted, routed]

end HttpRequest

theorem Tunnel.deliver_injective (tunnel : Tunnel) (packet other : Packet)
    (same : tunnel.deliver packet = tunnel.deliver other) : packet = other := by
  have waiting := congrArg Tunnel.waiting same
  exact List.singleton_inj.mp (List.append_cancel_left waiting)

theorem Tunnel.deliver_changes (tunnel : Tunnel) (packet : Packet) :
    tunnel.deliver packet ≠ tunnel := by
  intro same
  have waiting := congrArg Tunnel.waiting same
  exact List.cons_ne_nil _ _ (List.append_right_eq_self.mp waiting)

namespace Gateway

variable {gateway : Gateway} {client : Nat} {request : HttpRequest} {number : Nat}

/-- A key is registered for a tunnel that has not been closed. -/
def Leads (gateway : Gateway) (key : Key) (number : Nat) : Prop :=
  gateway.registry.find? key = some number ∧
    ∃ tunnel, gateway.tunnel? number = some tunnel ∧ tunnel.closed = false

/-- A request hands a packet to a tunnel. -/
def Hands (gateway : Gateway) (client : Nat) (request : HttpRequest) (number : Nat)
    (packet : Packet) : Prop :=
  ∃ tunnel, gateway.tunnel? number = some tunnel ∧
    (gateway.ask client request).1.tunnel? number = some (tunnel.deliver packet)

/-- A request is answered at once and changes nothing. -/
def Answers (gateway : Gateway) (client : Nat) (request : HttpRequest) (response : Response) :
    Prop :=
  gateway.ask client request = (gateway, [.responded client response])

theorem open_iff (key : Key) : gateway.open? key = some number ↔ gateway.Leads key number := by
  simp only [open?, Option.bind_eq_bind, Option.bind_eq_some_iff, Leads]
  constructor
  · rintro ⟨place, found, tunnel, known, opened⟩
    split_ifs at opened with closed
    cases opened
    exact ⟨found, tunnel, known, Bool.eq_false_iff.mpr closed⟩
  · rintro ⟨found, tunnel, known, opened⟩
    exact ⟨number, found, tunnel, known, by rw [opened]; rfl⟩

theorem answers_routed {response : Response} (routed : gateway.routeOf request = .answer response) :
    gateway.Answers client request response := by
  rw [Answers, ask]
  rw [routeOf] at routed
  rw [routed]

theorem ask_packet {packet : Request} (routed : gateway.routeOf request = .packet packet) :
    gateway.ask client request = gateway.deliver client packet := by
  rw [routeOf] at routed
  rw [ask, routed]

theorem ask_create (posted : request.Posted gateway.terms.largestBody createPath) :
    gateway.ask client request =
      ({ gateway with dialing := gateway.dialing ++ [.client client] }, []) := by
  rw [ask, HttpRequest.route_create posted]

theorem still_hands_none (packet : Packet)
    (still : (gateway.ask client request).1.tunnel? number = gateway.tunnel? number) :
    ¬ gateway.Hands client request number packet := by
  rintro ⟨tunnel, known, handed⟩
  rw [still, known] at handed
  exact tunnel.deliver_changes packet (Option.some.inj handed).symm

theorem Answers.hands_none {response : Response} (answers : gateway.Answers client request response)
    (packet : Packet) : ¬ gateway.Hands client request number packet := by
  apply still_hands_none
  rw [Answers] at answers
  rw [answers]

theorem deliver_open {packet : Request} (opened : gateway.open? packet.key = some number) :
    gateway.deliver client packet =
      ({ gateway with inFlight := gateway.inFlight ++ [(client, number)] }.modifyTunnel number
        (·.deliver ⟨client, packet.serial.toInt, packet.payload⟩), []) := by
  rw [deliver, opened]

theorem modified_tunnel (gateway : Gateway) (number place : Nat) (change : Tunnel → Tunnel) :
    (gateway.modifyTunnel number change).tunnel? place =
      if number = place then (gateway.tunnel? place).map change else gateway.tunnel? place := by
  rw [tunnel?, tunnel?, modify_tunnel_hosted, Option.map_map]
  split_ifs with here
  · rw [Option.map_map]
    rfl
  · rfl

theorem delivers_to {packet : Request} (opened : gateway.open? packet.key = some number)
    (place : Nat) : (gateway.deliver client packet).1.tunnel? place =
      if number = place then
        (gateway.tunnel? place).map (·.deliver ⟨client, packet.serial.toInt, packet.payload⟩)
      else gateway.tunnel? place := by
  rw [deliver_open opened]
  exact modified_tunnel _ number place _

theorem hands_routed (packet : Packet) : gateway.Hands client request number packet ↔
    ∃ parsed, gateway.routeOf request = .packet parsed ∧ gateway.Leads parsed.key number ∧
      packet = ⟨client, parsed.serial.toInt, parsed.payload⟩ := by
  constructor
  · intro hands
    cases routed : gateway.routeOf request with
    | answer response => exact absurd hands ((answers_routed routed).hands_none packet)
    | create =>
        refine absurd hands (still_hands_none packet ?_)
        rw [routeOf] at routed
        rw [ask, routed]
        rfl
    | packet parsed =>
        cases opened : gateway.open? parsed.key with
        | none =>
            refine absurd hands (still_hands_none packet ?_)
            rw [ask_packet routed, deliver, opened]
        | some place =>
            -- Delivering changes one tunnel only, and by one packet only.
            by_cases here : place = number
            · subst here
              obtain ⟨tunnel, known, handed⟩ := hands
              rw [ask_packet routed, delivers_to opened, if_pos rfl, known] at handed
              exact ⟨parsed, rfl, (open_iff _).mp opened,
                (tunnel.deliver_injective _ _ (Option.some.inj handed)).symm⟩
            · refine absurd hands (still_hands_none packet ?_)
              rw [ask_packet routed, delivers_to opened, if_neg here]
  · rintro ⟨parsed, routed, leads, rfl⟩
    obtain ⟨tunnel, known, _⟩ := leads.2
    refine ⟨tunnel, known, ?_⟩
    rw [ask_packet routed, delivers_to ((open_iff _).mpr leads), if_pos rfl, known]
    rfl

/-- Exactly the posts of packets that are encoded under the key of an open tunnel are handed over,
each to the tunnel of its key. -/
theorem hands_iff (packet : Packet) : gateway.Hands client request number packet ↔
    request.Posted gateway.terms.largestBody packetPath ∧
      ∃ key serial payload, key.Legitimate ∧ request.body = Request.encode key serial payload ∧
        gateway.Leads key number ∧ packet = ⟨client, serial.toInt64.toInt, payload⟩ := by
  rw [hands_routed]
  constructor
  · rintro ⟨parsed, routed, leads, rfl⟩
    obtain ⟨posted, legitimate, body⟩ := (HttpRequest.route_packet_iff parsed).mp routed
    refine ⟨posted, parsed.key, parsed.serial.toUInt64, parsed.payload, legitimate, body, leads, ?_⟩
    rw [Int64.toInt64_toUInt64]
  · rintro ⟨posted, key, serial, payload, legitimate, body, leads, rfl⟩
    refine ⟨⟨key, serial.toInt64, payload⟩, ?_, leads, rfl⟩
    refine (HttpRequest.route_packet_iff _).mpr ⟨posted, legitimate, ?_⟩
    rw [UInt64.toUInt64_toInt64]
    exact body

theorem Hands.others {packet : Packet} (hands : gateway.Hands client request number packet) :
    (gateway.ask client request).1.registry = gateway.registry ∧
      (∀ other, other ≠ number →
        (gateway.ask client request).1.tunnel? other = gateway.tunnel? other) ∧
      (gateway.ask client request).2 = [] := by
  obtain ⟨parsed, routed, leads, rfl⟩ := (hands_routed packet).mp hands
  have opened := (open_iff parsed.key).mpr leads
  rw [ask_packet routed]
  refine ⟨?_, ?_, ?_⟩
  · rw [deliver_open opened]
    rfl
  · intro other apart
    rw [delivers_to opened, if_neg apart.symm]
  · rw [deliver_open opened]

section Rules

variable {key : Key}

theorem answers_large (large : gateway.terms.largestBody < request.body.length) :
    gateway.Answers client request ⟨.payloadTooLarge, []⟩ :=
  answers_routed (if_pos large)

theorem answers_short (posted : request.Posted gateway.terms.largestBody packetPath)
    (short : request.body.length < Key.length) :
    gateway.Answers client request ⟨.badRequest, []⟩ :=
  answers_routed ((HttpRequest.route_posted posted).trans (if_pos short))

theorem answers_foreign (posted : request.Posted gateway.terms.largestBody packetPath)
    (long : Key.length ≤ request.body.length)
    (foreign : ∀ key : Key, key.Legitimate → request.body.take Key.length ≠ key.text) :
    gateway.Answers client request (request.visit gateway.fallback) := by
  apply answers_routed
  rw [routeOf, HttpRequest.route_posted posted, HttpRequest.routePacket,
    if_neg (Nat.not_lt.mpr long), (Key.parse_none _).mpr foreign, HttpRequest.visit, posted.method]

theorem routes_known (posted : request.Posted gateway.terms.largestBody packetPath)
    (legitimate : key.Legitimate) (front : request.body.take Key.length = key.text) :
    gateway.routeOf request =
      (Request.parse? request.body).elim (.answer ⟨.badRequest, []⟩) .packet := by
  have read := (Key.parse_legitimate request.body key).mpr ⟨legitimate, front⟩
  have long : ¬ request.body.length < Key.length := by
    have whole := congrArg List.length front
    rw [legitimate.long, List.length_take] at whole
    omega
  rw [routeOf, HttpRequest.route_posted posted, HttpRequest.routePacket, if_neg long, read]
  cases Request.parse? request.body with
  | none => rfl
  | some packet => rfl

theorem answers_headless (posted : request.Posted gateway.terms.largestBody packetPath)
    (legitimate : key.Legitimate) (front : request.body.take Key.length = key.text)
    (short : request.body.length < requestHeaderLength) :
    gateway.Answers client request ⟨.badRequest, []⟩ := by
  apply answers_routed
  rw [routes_known posted legitimate front, (Request.parse_none legitimate _ front).mpr short]
  rfl

theorem answers_unknown (posted : request.Posted gateway.terms.largestBody packetPath)
    (legitimate : key.Legitimate) (front : request.body.take Key.length = key.text)
    (long : requestHeaderLength ≤ request.body.length)
    (unknown : ∀ number, ¬ gateway.Leads key number) :
    gateway.Answers client request ⟨.notFound, []⟩ := by
  have parsed : ∃ serial payload,
      Request.parse? request.body = some ⟨key, serial, payload⟩ := by
    rw [← Request.encode_parts request.body front long]
    exact ⟨_, _, Request.parse_encode legitimate _ _⟩
  obtain ⟨serial, payload, parsed⟩ := parsed
  have routed := routes_known posted legitimate front
  rw [parsed] at routed
  have shut : gateway.open? key = none := by
    apply Option.eq_none_iff_forall_ne_some.mpr
    intro number opened
    exact unknown number ((open_iff key).mp opened)
  rw [Answers, ask_packet routed, deliver, shut]

/-- A post to the packet path is handed over, or a rule for such posts applies. -/
theorem posted_settled (posted : request.Posted gateway.terms.largestBody packetPath)
    (none : ∀ number packet, ¬ gateway.Hands client request number packet) :
    ∃ response, gateway.Answers client request response := by
  by_cases short : request.body.length < Key.length
  · exact ⟨_, answers_short posted short⟩
  by_cases foreign : ∀ key : Key, key.Legitimate → request.body.take Key.length ≠ key.text
  · exact ⟨_, answers_foreign posted (Nat.le_of_not_lt short) foreign⟩
  simp only [not_forall, not_not] at foreign
  obtain ⟨key, legitimate, front⟩ := foreign
  by_cases headless : request.body.length < requestHeaderLength
  · exact ⟨_, answers_headless posted legitimate front headless⟩
  have long := Nat.le_of_not_lt headless
  refine ⟨_, answers_unknown posted legitimate front long ?_⟩
  intro number leads
  have body := Request.encode_parts request.body front long
  exact none number _ ((hands_iff _).mpr ⟨posted, key, _, _, legitimate, body.symm, leads, rfl⟩)

theorem others_answered (none : ∀ number packet, ¬ gateway.Hands client request number packet)
    (other : ¬ request.Posted gateway.terms.largestBody createPath) :
    ∃ response, gateway.Answers client request response := by
  by_cases large : gateway.terms.largestBody < request.body.length
  · exact ⟨_, answers_large large⟩
  have fits := Nat.le_of_not_lt large
  cases whole : request.complete with
  | false => exact ⟨_, answers_routed (HttpRequest.route_incomplete fits whole)⟩
  | true =>
      by_cases stray : request.Stray
      · exact ⟨_, answers_routed (HttpRequest.route_stray fits whole stray)⟩
      · simp only [HttpRequest.Stray, not_or, not_not, not_and] at stray
        have path := stray.2 fun create => other ⟨fits, whole, stray.1, create⟩
        exact posted_settled ⟨fits, whole, stray.1, path⟩ none

end Rules

/-- A request hands a packet to a tunnel just if it is a post to the packet path, within the bound,
of a packet encoded under a legitimate key that is registered for this tunnel, which has not been
closed. Then nobody else is affected. Every other request but one for a new tunnel changes nothing
and is answered by the first rule that applies: it is too large, it did not arrive as a whole, it
is none of ours, it is too short for a key, it begins with no legitimate key, it is too short for a
serial, or there is no such tunnel. One for a new tunnel waits for it, and changes nothing else. -/
theorem dispatch_accepts_tunnel_packets (gateway : Gateway) (client : Nat)
    (request : HttpRequest) :
    (∀ number packet, gateway.Hands client request number packet ↔
      request.Posted gateway.terms.largestBody "/" ∧
        ∃ key serial payload, key.Legitimate ∧ request.body = Request.encode key serial payload ∧
          gateway.Leads key number ∧ packet = ⟨client, serial.toInt64.toInt, payload⟩) ∧
    (∀ number packet, gateway.Hands client request number packet →
      (gateway.ask client request).1.registry = gateway.registry ∧
        (∀ other, other ≠ number →
          (gateway.ask client request).1.tunnel? other = gateway.tunnel? other) ∧
        (gateway.ask client request).2 = []) ∧
    (gateway.terms.largestBody < request.body.length →
      gateway.Answers client request ⟨.payloadTooLarge, []⟩) ∧
    (request.body.length ≤ gateway.terms.largestBody → request.complete = false →
      gateway.Answers client request ⟨.badRequest, []⟩) ∧
    (request.body.length ≤ gateway.terms.largestBody → request.complete = true →
      request.Stray → gateway.Answers client request
        (gateway.fallback.handle request.method request.path request.body)) ∧
    (request.Posted gateway.terms.largestBody "/" →
      (request.body.length < 149 → gateway.Answers client request ⟨.badRequest, []⟩) ∧
      (149 ≤ request.body.length →
        (∀ key : Key, key.Legitimate → request.body.take 149 ≠ key.text) →
          gateway.Answers client request
            (gateway.fallback.handle request.method request.path request.body)) ∧
      (∀ key : Key, key.Legitimate → request.body.take 149 = key.text →
        (request.body.length < 157 → gateway.Answers client request ⟨.badRequest, []⟩) ∧
        (157 ≤ request.body.length → (∀ number, ¬ gateway.Leads key number) →
          gateway.Answers client request ⟨.notFound, []⟩))) ∧
    ((∀ number packet, ¬ gateway.Hands client request number packet) →
      ¬ request.Posted gateway.terms.largestBody "/create" →
        ∃ response, gateway.Answers client request response) ∧
    (request.Posted gateway.terms.largestBody "/create" →
      gateway.ask client request =
        ({ gateway with dialing := gateway.dialing ++ [.client client] }, [])) := by
  refine ⟨fun _ => hands_iff, fun _ _ hands => hands.others, answers_large, ?_, ?_, ?_,
    others_answered, ask_create⟩
  · intro fits incomplete
    exact answers_routed (HttpRequest.route_incomplete fits incomplete)
  · intro fits whole stray
    exact answers_routed (HttpRequest.route_stray fits whole stray)
  · intro posted
    refine ⟨answers_short posted, answers_foreign posted, ?_⟩
    intro key legitimate front
    exact ⟨answers_headless posted legitimate front, answers_unknown posted legitimate front⟩

def threeBytes (key : Key) : HttpRequest := ⟨"POST", "/", Request.encode key 7 [1, 2, 3], true⟩

theorem minted_packet_handed :
    (threeBytes (minted 1)).Posted toLocalhost.terms.largestBody "/" ∧ (minted 1).Legitimate ∧
      (toLocalhost.host 0 (minted 1)).Hands 5 (threeBytes (minted 1)) 0 ⟨5, 7, [1, 2, 3]⟩ ∧
      toLocalhost.Answers 5 (threeBytes (minted 1)) ⟨.notFound, []⟩ := by
  have legitimate : (minted 1).Legitimate := ⟨_, _, ⟨rfl, rfl⟩, rfl⟩
  have long : (threeBytes (minted 1)).body.length = 160 := Request.encode_length legitimate 7 _
  have posted : (threeBytes (minted 1)).Posted toLocalhost.terms.largestBody "/" := by
    refine ⟨?_, rfl, rfl, rfl⟩
    rw [long]
    decide
  have leads : (toLocalhost.host 0 (minted 1)).Leads (minted 1) 0 :=
    ⟨Registry.find_insert_self .., _, rfl, rfl⟩
  refine ⟨posted, legitimate, ?_, ?_⟩
  · exact ((dispatch_accepts_tunnel_packets _ 5 _).1 0 _).mpr
      ⟨posted, minted 1, 7, [1, 2, 3], legitimate, rfl, leads, rfl⟩
  · have known := (dispatch_accepts_tunnel_packets toLocalhost 5
      (threeBytes (minted 1))).2.2.2.2.2.1 posted
    refine (known.2.2 (minted 1) legitimate (Request.encode_front legitimate _ _)).2 ?_ ?_
    · rw [long]
      decide
    · rintro number ⟨found, _⟩
      cases found

end Gateway

end HttpTunnel.Server
