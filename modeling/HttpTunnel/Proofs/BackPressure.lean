import HttpTunnel.Proofs.InOrderPoller
import HttpTunnel.Proofs.TunnelRuns

/-!
Back-pressure without a deadlock. A downstream server writes all it has to say before it reads a
byte, through a connection that holds a limited number of bytes, and a client has its next request
ready at any time. The slot for chunks from downstream holds one, the writer takes chunks from a
queue of any length, and the poller may wait for the writer. As long as the poller has not
received all that the server says, one of them can move without any timer, and what they can do
at one instant brings the poller all the rest.
-/

namespace HttpTunnel.Server

namespace Link

/-- A link that works, on a connection that is whole. -/
structure Running (link : Link) (socket : Socket) : Prop where
  stopped : link.stopped = false
  owned : link.owned = true
  reader : link.inflow.hasEnded = false
  writer : link.outflow.hasEnded = false
  peerEnded : socket.peerEnded = false
  peerGone : socket.peerGone = false
  reset : socket.reset = false

def underWay (link : Link) (socket : Socket) : Bytes :=
  link.fromDown.flatten ++ link.inflow.hand ++ socket.incoming

def chunks (link : Link) : List Bytes := link.fromDown ++ link.inflow.held

/-- How many steps the bytes on their way are from the poller. -/
def distance (link : Link) (socket : Socket) : Nat :=
  link.fromDown.flatten.length + 2 * link.inflow.hand.length + 3 * socket.incoming.length

/-- Every chunk that the reader reads or hands over comes nearer to the poller. -/
theorem move_nears (now : Nat) (socket used : Socket) (link after : Link) (event : Inflow.Event)
    (moved : link.move now socket (.inflow event) = some (after, used))
    (reader : after.inflow.hasEnded = false) :
    after.distance used + (link.inflow.forwards event).flatten.length + event.reads.length =
      link.distance socket := by
  obtain ⟨_, _, uses⟩ := move_uses now socket used link after _ moved
  have incoming := congrArg List.length uses.incoming
  cases move_moved now socket used link after _ moved with
  | inflow _ _ forwarded carried slot owned owner shifted =>
      have bytes := congrArg List.length carried.bytes
      rw [carried.spared reader, shifted.forwarded] at bytes
      rw [shifted.forwarded] at slot
      simp only [Action.reads, List.length_append, List.length_nil] at incoming bytes
      simp only [distance, slot, List.flatten_append, List.length_append]
      omega

theorem move_chunks (now : Nat) (socket used : Socket) (link after : Link) (action : Action)
    (moved : link.move now socket action = some (after, used))
    (solid : ∀ chunk ∈ link.chunks, chunk ≠ []) (chunk : Bytes) (member : chunk ∈ after.chunks) :
    chunk ≠ [] := by
  cases move_moved now socket used link after action moved with
  | inflow event _ forwarded carried slot owned owner shifted =>
      have among : chunk ∈ link.fromDown ++ (link.inflow.held ++ event.chunks) := by
        rw [shifted.chunks]
        rw [chunks, slot, shifted.forwarded] at member
        simp only [List.mem_append] at member ⊢
        tauto
      rw [← List.append_assoc, List.mem_append] at among
      exact among.elim (solid chunk) (shifted.some chunk)
  | outflow event _ inflow slot owned =>
      rw [chunks, slot, inflow] at member
      exact solid chunk member

section Running

variable {link : Link} {socket : Socket} (running : link.Running socket) (now : Nat)

include running

theorem look_whole (size : Nat) : socket.look size ≠ .ended ∧ socket.look size ≠ .failed := by
  unfold Socket.look
  rw [running.reset, running.peerEnded]
  by_cases empty : socket.incoming = [] <;> simp [empty]

theorem reader_goes_on (event : Inflow.Event) (inflow : Inflow) (forwarded : Option Bytes)
    (agreed : link.agrees now socket (.inflow event) = true)
    (allowed : link.allows (.inflow event) = true)
    (stepped : link.inflow.step now link.stopped event = some (inflow, forwarded)) :
    inflow.hasEnded = false := by
  have whole := look_whole running link.readSize
  rw [running.stopped] at stepped
  cases event <;> cases phase : link.inflow.phase <;> simp only [Inflow.step, phase] at stepped
  case received.reading =>
    split_ifs at stepped
    cases stepped
    rfl
  case elapsed.reading | handed.handing =>
    cases stepped
    rfl
  case endOfStream.reading => exact absurd (beq_iff_eq.mp agreed) whole.1
  case failed.reading => exact absurd (beq_iff_eq.mp agreed) whole.2
  case refused.handing =>
    simp only [allows, running.owned] at allowed
    cases allowed
  case halted.handing =>
    simp only [allows, running.stopped] at allowed
    cases allowed
  all_goals cases stepped

theorem writer_goes_on (event : Outflow.Event) (outflow : Outflow) (written : Bytes)
    (agreed : link.agrees now socket (.outflow event) = true)
    (allowed : link.allows (.outflow event) = true)
    (stepped : link.outflow.step now link.stopped event = some (outflow, written)) :
    outflow.hasEnded = false := by
  have attempts : ∀ rest (other : Outflow), (other.attempt now false rest).hasEnded = false := by
    intro rest other
    by_cases empty : rest = [] <;> simp [Outflow.attempt, Outflow.hasEnded, empty]
  rw [running.stopped] at stepped
  cases event <;> cases phase : link.outflow.phase <;> simp only [Outflow.step, phase] at stepped
  case took.waiting | elapsed.writing =>
    cases stepped
    exact attempts _ _
  case wrote.writing =>
    split_ifs at stepped
    cases stepped
    exact attempts _ _
  case exhausted.waiting =>
    simp [allows, running.owned] at allowed
  case halted.waiting =>
    simp only [allows, running.stopped] at allowed
    cases allowed
  case wroteNothing.writing => cases agreed
  case failed.writing =>
    simp only [agrees, running.peerGone] at agreed
    cases agreed
  all_goals cases stepped

/-- A link that works goes on working, and loses no byte. -/
theorem move_running (used : Socket) (after : Link) (action : Action)
    (moved : link.move now socket action = some (after, used)) :
    after.Running used ∧ after.underWay used = link.underWay socket := by
  have moves := move_moved now socket used link after action moved
  obtain ⟨agreed, went, uses⟩ := move_uses now socket used link after action moved
  unfold step at went
  split_ifs at went with allowed
  have workers : after.inflow.hasEnded = false ∧ after.outflow.hasEnded = false ∧
      after.stopped = false ∧ after.owned = true := by
    cases action with
    | inflow event =>
        obtain ⟨⟨inflow, forwarded⟩, ran, same⟩ := Option.map_eq_some_iff.mp went
        have reader := reader_goes_on running now event inflow forwarded agreed allowed ran
        cases same
        exact ⟨reader, running.writer, by simp [propagate, running.stopped, reader, running.writer],
          running.owned⟩
    | outflow event =>
        obtain ⟨⟨outflow, own⟩, ran, same⟩ := Option.map_eq_some_iff.mp went
        have writer := writer_goes_on running now event outflow own agreed allowed ran
        have stopped := running.stopped
        have reader := running.reader
        have owned := running.owned
        cases same
        cases event <;> exact ⟨reader, writer, by simp [propagate, stopped, reader, writer], owned⟩
  obtain ⟨reader, writer, stopped, owned⟩ := workers
  refine ⟨⟨stopped, owned, reader, writer, uses.peerEnded.trans running.peerEnded,
    uses.peerGone.trans running.peerGone, uses.reset.trans running.reset⟩, ?_⟩
  have incoming := uses.incoming
  cases moves with
  | inflow event after forwarded carried slot owned owner =>
      have bytes := carried.bytes
      rw [carried.spared reader, List.append_nil] at bytes
      rw [underWay, underWay, slot, incoming, Action.reads, List.flatten_append]
      simp only [List.append_assoc] at bytes ⊢
      rw [← List.append_assoc link.inflow.hand, bytes]
      simp
  | outflow event after inflow slot owned =>
      rw [underWay, underWay, slot, inflow, incoming]
      rfl

end Running

/-- Whatever is under way comes nearer as soon as the slot is free. -/
theorem running_nears (now : Nat) (link : Link) (socket : Socket) (running : link.Running socket)
    (solid : ∀ chunk ∈ link.chunks, chunk ≠ []) (free : link.fromDown = [])
    (present : link.underWay socket ≠ []) :
    ∃ event after used, event ≠ .elapsed ∧
      link.move now socket (.inflow event) = some (after, used) ∧
        after.distance used < link.distance socket := by
  have nearer : ∀ event : Inflow.Event, event ≠ .elapsed →
      (link.move now socket (.inflow event)).isSome = true →
      0 < (link.inflow.forwards event).flatten.length + event.reads.length →
      ∃ event after used, event ≠ .elapsed ∧
        link.move now socket (.inflow event) = some (after, used) ∧
          after.distance used < link.distance socket := by
    intro event silent enabled moves
    obtain ⟨⟨after, used⟩, moved⟩ := Option.isSome_iff_exists.mp enabled
    have goesOn := (move_running running now used after _ moved).1
    have steps := move_nears now socket used link after event moved goesOn.reader
    exact ⟨event, after, used, silent, moved, by omega⟩
  cases phase : link.inflow.phase with
  | reading since =>
      have waits : socket.incoming ≠ [] := by
        simpa [underWay, free, Inflow.hand, phase] using present
      have positive : 0 < link.readSize := Nat.lt_of_lt_of_le Nat.one_pos (Nat.le_max_right ..)
      have filled : socket.incoming.take link.readSize ≠ [] := by
        rw [ne_eq, List.take_eq_nil_iff]
        rintro (none | empty)
        · omega
        · exact waits empty
      have agrees : link.agrees now socket
          (.inflow (.received (socket.incoming.take link.readSize))) = true :=
        List.isPrefixOf_iff_prefix.mpr (List.take_prefix ..)
      have allows : link.allows (.inflow (.received (socket.incoming.take link.readSize))) = true :=
        decide_eq_true (List.length_take_le ..)
      refine nearer (.received (socket.incoming.take link.readSize)) (by simp) ?_ ?_
      · simp [move, agrees, step, allows, Inflow.step, phase, filled]
      · exact Nat.add_pos_right _ (List.length_pos_iff.mpr filled)
  | handing chunk =>
      have allows : link.allows (.inflow .handed) = true := by
        simp [Link.allows, running.stopped, running.owned, free]
      have agrees : link.agrees now socket (.inflow .handed) = true := rfl
      have held : link.inflow.held = [chunk] := by rw [Inflow.held, phase]
      have filled : chunk ≠ [] := solid chunk (by simp [chunks, held])
      refine nearer .handed (by simp) ?_ ?_
      · simp [move, agrees, step, allows, Inflow.step, phase]
      · simpa [Inflow.forwards, held] using Nat.add_pos_left (List.length_pos_iff.mpr filled) _
  | ended =>
      have reader := running.reader
      rw [Inflow.hasEnded, phase] at reader
      cases reader

end Link

/-- A tunnel between a client that has its next request ready at any time and a downstream server
that writes all it has to say before it reads. -/
structure Standoff where
  tunnel : Tunnel
  /-- What downstream has not written yet. -/
  unsent : Bytes
  /-- How many bytes may be on their way from downstream. -/
  buffer : Nat
  /-- The serial after that of the request that the client has ready. -/
  upcoming : Nat

namespace Standoff

inductive Action where
  | poller (event : Poller.Event)
  | link (action : Link.Action)
  /-- The queue takes the request that is ready, and the client gets the next one ready. -/
  | offer (payload : Bytes)
  /-- Downstream writes so many bytes. -/
  | send (count : Nat)
  /-- Downstream reads what is there, once it has written everything. It begins to read even if
  nothing is there. -/
  | read

def Action.rings : Action → Bool
  | .poller event => event.rings
  | .link (.inflow .elapsed) | .link (.outflow .elapsed) => true
  | _ => false

/-- The bytes that the poller receives in an action. -/
def Action.brings : Action → Bytes
  | .poller event => event.brings
  | _ => []

def request (serial : Nat) (payload : Bytes) : Packet := ⟨serial, serial, payload⟩

def ofStart (terms : Terms) (now : Nat) (output : Bytes) (buffer room : Nat) (payload : Bytes) :
    Standoff where
  tunnel := { Tunnel.ofStart terms now with
    socket := { peerReads := false, room := room }
    waiting := [request 1 payload] }
  unsent := output
  buffer := buffer
  upcoming := 2

def step (now : Nat) (world : Standoff) : Action → Option Standoff
  | .poller event =>
      (world.tunnel.step now (.poller event)).map fun stepped => { world with tunnel := stepped.1 }
  | .link action =>
      (world.tunnel.step now (.link action)).map fun stepped => { world with tunnel := stepped.1 }
  | .offer payload =>
      (world.tunnel.step now .enqueue).map fun stepped =>
        { world with
          tunnel := stepped.1.deliver (request world.upcoming payload)
          upcoming := world.upcoming + 1 }
  | .send count =>
      if 0 < count ∧ count ≤ world.unsent.length ∧
          world.tunnel.socket.incoming.length + count ≤ world.buffer then
        some { world with
          tunnel := world.tunnel.follow (.send (world.unsent.take count))
          unsent := world.unsent.drop count }
      else none
  | .read =>
      if world.unsent = [] ∧
          (world.tunnel.socket.outgoing ≠ [] ∨ world.tunnel.socket.peerReads = false) then
        some { world with
          tunnel := { world.tunnel with socket := world.tunnel.socket.resume.peerTake.2 } }
      else none

def run (world : Standoff) : List (Nat × Action) → Option Standoff
  | [] => some world
  | (now, action) :: script => (world.step now action).bind (·.run script)

/-- The bytes that the poller receives in a run. -/
def received (script : List (Nat × Action)) : Bytes := script.flatMap fun entry => entry.2.brings

def Consecutive (next : Nat) (packets : List Packet) : Prop :=
  ∀ (place : Nat) packet, packets[place]? = some packet → packet.serial = (next + place : Nat)

def ready (world : Standoff) : List Packet := world.tunnel.poller.queue ++ world.tunnel.waiting

/-- What holds at every point of a run: nothing has ended, the requests come in their order, and
no byte from downstream is lost. -/
structure Fluid (output : Bytes) (world : Standoff) (received : Bytes) : Prop where
  running : world.tunnel.link.Running world.tunnel.socket
  unasked : world.tunnel.closeAsked = false
  reachable : world.tunnel.reachable = true
  one : world.tunnel.waiting.length = 1
  roomy : 0 < world.buffer
  present : world.tunnel.gone = []
  solid : ∀ chunk ∈ world.tunnel.link.chunks, chunk ≠ []
  poller : ∃ next, 0 < next ∧ world.tunnel.poller.InOrder next ∧ Consecutive next world.ready ∧
    world.upcoming = next + world.ready.length
  bytes : output = received ++ world.tunnel.link.underWay world.tunnel.socket ++ world.unsent

section Requests

theorem consecutive_none (next : Nat) : Consecutive next [] := by
  intro place packet known
  rw [List.getElem?_nil] at known
  cases known

variable {next : Nat} {packets : List Packet}

theorem Consecutive.rest (taken rest : List Packet) (lined : Consecutive next (taken ++ rest)) :
    Consecutive (next + taken.length) rest := by
  intro place packet known
  have serial := lined (taken.length + place) packet (by
    rwa [List.getElem?_append_right (Nat.le_add_right ..), Nat.add_sub_cancel_left])
  omega

theorem Consecutive.more (lined : Consecutive next packets) (payload : Bytes) :
    Consecutive next (packets ++ [request (next + packets.length) payload]) := by
  intro place packet known
  by_cases bound : place < packets.length
  · rw [List.getElem?_append_left bound] at known
    exact lined place packet known
  · rw [List.getElem?_append_right (Nat.le_of_not_lt bound), List.getElem?_singleton] at known
    split_ifs at known with last
    cases known
    have : place = packets.length := by omega
    simp [request, this]

end Requests

theorem of_start_fluid (terms : Terms) (now : Nat) (output : Bytes) (buffer room : Nat)
    (payload : Bytes) (roomy : 0 < buffer) :
    Fluid output (ofStart terms now output buffer room payload) [] := by
  refine ⟨⟨rfl, rfl, rfl, rfl, rfl, rfl, rfl⟩, rfl, rfl, rfl, roomy, rfl, nofun,
    ⟨1, Nat.one_pos, Poller.of_start_in_order terms now, ?_, rfl⟩, rfl⟩
  exact (consecutive_none 1).more payload

section Steps

variable {world after : Standoff} {output past : Bytes} {now : Nat}

theorem Fluid.inside (fluid : Fluid output world past) (event : Poller.Event)
    (allowed : world.tunnel.allows event = true) (busy : event ≠ .idleDue) :
    event.ends = false := by
  have running := fluid.running
  cases event <;> simp only [Tunnel.allows] at allowed
  case close =>
    rw [fluid.unasked] at allowed
    cases allowed
  case stop =>
    rw [running.stopped] at allowed
    cases allowed
  case downstreamEnd =>
    rw [running.reader, Bool.and_false] at allowed
    cases allowed
  case packetsEnd =>
    rw [fluid.reachable] at allowed
    cases allowed
  case refused =>
    have taken : world.tunnel.fed ≠ some .refused := by
      unfold Tunnel.fed
      cases world.tunnel.poller.phase with
      | passing packet released =>
          simp only [Link.feed, running.writer]
          by_cases room : world.tunnel.link.toDown.length < world.tunnel.link.capacity <;>
            simp [room]
      | _ => simp
    exact absurd (beq_iff_eq.mp allowed) taken
  case idleDue => exact absurd rfl busy
  all_goals rfl

theorem feed_running (link : Link) (socket : Socket) (chunk : Bytes)
    (running : link.Running socket) :
    (link.feed chunk).2.Running socket ∧ (link.feed chunk).2.inflow = link.inflow ∧
      link.fromDown = (link.feed chunk).2.fromDown := by
  unfold Link.feed
  split_ifs
  · exact ⟨running, rfl, rfl⟩
  · exact ⟨{ running with }, rfl, rfl⟩
  · exact ⟨running, rfl, rfl⟩

theorem link_after_running (tunnel : Tunnel) (running : tunnel.link.Running tunnel.socket)
    (event : Poller.Event) (allowed : tunnel.allows event = true) :
    (tunnel.linkAfter event).Running tunnel.socket ∧
      (tunnel.linkAfter event).inflow = tunnel.link.inflow ∧
      ∃ taken, taken.flatten = event.brings ∧
        tunnel.link.fromDown = taken ++ (tunnel.linkAfter event).fromDown := by
  have nothing : ∀ link : Link, link.Running tunnel.socket ∧ link.inflow = tunnel.link.inflow ∧
      tunnel.link.fromDown = link.fromDown → link.Running tunnel.socket ∧
        link.inflow = tunnel.link.inflow ∧
          ∃ taken : List Bytes, taken.flatten = [] ∧
            tunnel.link.fromDown = taken ++ link.fromDown :=
    fun _ ⟨running, reader, slot⟩ => ⟨running, reader, [], rfl, slot⟩
  cases event with
  | chunk chunk =>
      obtain ⟨rest, slot⟩ : ∃ rest, tunnel.link.fromDown = chunk :: rest :=
        List.head?_eq_some_iff.mp (beq_iff_eq.mp allowed)
      have drained : tunnel.linkAfter (.chunk chunk) = { tunnel.link with fromDown := rest } := by
        simp [Tunnel.linkAfter, Link.drain, slot]
      rw [drained]
      exact ⟨{ running with }, rfl, [chunk], List.append_nil chunk, slot⟩
  | passed =>
      cases phase : tunnel.poller.phase with
      | passing packet released =>
          simp only [Tunnel.linkAfter, phase]
          exact nothing _ (feed_running tunnel.link tunnel.socket packet.payload running)
      | _ =>
          have same : tunnel.linkAfter .passed = tunnel.link := by
            simp only [Tunnel.linkAfter, phase]
          rw [same]
          exact nothing _ ⟨running, rfl, rfl⟩
  | _ => exact nothing _ ⟨running, rfl, rfl⟩

theorem Fluid.polled (fluid : Fluid output world past) (event : Poller.Event)
    (busy : event ≠ .idleDue) (allowed : world.tunnel.allows event = true) {poller : Poller}
    {deeds : List Poller.Deed}
    (ran : world.tunnel.poller.step (world.tunnel.moment now) event = some (poller, deeds)) :
    (∃ next, 0 < next ∧ poller.InOrder next ∧
      Consecutive next (poller.queue ++ world.tunnel.waiting) ∧
      world.upcoming = next + (poller.queue ++ world.tunnel.waiting).length) ∧
    world.step now (.poller event) = some { world with
      tunnel := { world.tunnel with poller := poller, link := world.tunnel.linkAfter event } } := by
  obtain ⟨next, positive, inOrder, lined, upcoming⟩ := fluid.poller
  have first : ∀ packet ∈ world.tunnel.poller.queue.head?, packet.serial = next := by
    intro packet head
    have front : world.ready[0]? = some packet := by
      rw [← List.head?_eq_getElem?, Standoff.ready, List.head?_append, head]
      rfl
    exact lined 0 packet front
  obtain ⟨taken, queue, goes⟩ := Poller.step_in_order inOrder positive first
    (fluid.inside event allowed busy) ran
  have ready : world.ready = taken ++ (poller.queue ++ world.tunnel.waiting) := by
    rw [Standoff.ready, queue, List.append_assoc]
  refine ⟨⟨next + taken.length, Nat.add_pos_left positive _, goes,
    Consecutive.rest taken _ (ready ▸ lined), ?_⟩, ?_⟩
  · rw [upcoming, ready, List.length_append, Nat.add_assoc]
  · simp [step, Tunnel.step, Tunnel.stepPoller, allowed, ran, goes.active]

theorem Fluid.polls (fluid : Fluid output world past) (event : Poller.Event)
    (busy : event ≠ .idleDue) (stepped : world.step now (.poller event) = some after) :
    Fluid output after (past ++ event.brings) := by
  obtain ⟨⟨tunnel, deeds⟩, went, rfl⟩ := Option.map_eq_some_iff.mp stepped
  simp only [Tunnel.step, Tunnel.stepPoller] at went
  split_ifs at went with allowed
  obtain ⟨⟨poller, own⟩, ran, _⟩ := Option.map_eq_some_iff.mp went
  obtain ⟨inOrder, same⟩ := fluid.polled event busy allowed ran
  rw [stepped] at same
  rw [Option.some.inj same]
  obtain ⟨running, reader, took, brought, slot⟩ :=
    link_after_running world.tunnel fluid.running event allowed
  have bytes : world.tunnel.link.underWay world.tunnel.socket =
      event.brings ++ (world.tunnel.linkAfter event).underWay world.tunnel.socket := by
    rw [Link.underWay, Link.underWay, reader, slot, List.flatten_append, brought]
    simp only [List.append_assoc]
  have fewer : ∀ chunk ∈ (world.tunnel.linkAfter event).chunks, chunk ≠ [] := by
    intro chunk member
    rw [Link.chunks, reader] at member
    refine fluid.solid chunk ?_
    rw [Link.chunks, slot, List.append_assoc]
    exact List.mem_append_right _ member
  refine { fluid with running := running, solid := fewer, poller := inOrder, bytes := ?_ }
  rw [fluid.bytes, bytes]
  simp only [List.append_assoc]

theorem Fluid.links (fluid : Fluid output world past) (action : Link.Action)
    (stepped : world.step now (.link action) = some after) : Fluid output after past := by
  obtain ⟨⟨tunnel, deeds⟩, went, rfl⟩ := Option.map_eq_some_iff.mp stepped
  obtain ⟨⟨link, socket⟩, moved, same⟩ := Option.map_eq_some_iff.mp went
  obtain ⟨running, bytes⟩ := Link.move_running fluid.running now socket link action moved
  have solid := Link.move_chunks now _ socket _ link action moved fluid.solid
  cases same
  refine { fluid with running := running, solid := solid, bytes := ?_ }
  rw [fluid.bytes, ← bytes]

theorem Fluid.offers (fluid : Fluid output world past) (payload : Bytes)
    (stepped : world.step now (.offer payload) = some after) : Fluid output after past := by
  obtain ⟨⟨tunnel, deeds⟩, went, rfl⟩ := Option.map_eq_some_iff.mp stepped
  obtain ⟨packet, waiting⟩ := List.length_eq_one_iff.mp fluid.one
  obtain ⟨next, positive, inOrder, lined, upcoming⟩ := fluid.poller
  simp only [Tunnel.step, Tunnel.enqueue, waiting, Poller.deliver, inOrder.accepting,
    if_true] at went
  split_ifs at went with room
  cases went
  have ready : world.ready = world.tunnel.poller.queue ++ [packet] := by
    rw [Standoff.ready, waiting]
  refine { fluid with one := rfl, poller := ⟨next, positive, ?_, ?_, ?_⟩ }
  · have more := inOrder.requeued (world.tunnel.poller.queue ++ [packet])
    rwa [inOrder.accepting] at more
  · have more := lined.more payload
    rw [← upcoming, ready] at more
    exact more
  · rw [upcoming, ready]
    simp [Standoff.ready, Tunnel.deliver, Nat.add_assoc]

theorem Fluid.sends (fluid : Fluid output world past) (count : Nat)
    (stepped : world.step now (.send count) = some after) : Fluid output after past := by
  simp only [step] at stepped
  split_ifs at stepped with fits
  cases stepped
  have running := fluid.running
  have sent : (world.tunnel.follow (.send (world.unsent.take count))).socket =
      { world.tunnel.socket with
        incoming := world.tunnel.socket.incoming ++ world.unsent.take count } := by
    simp [Tunnel.follow, Socket.follow, Socket.peerSend, running.peerEnded]
  refine { fluid with running := ?_, bytes := ?_ }
  · rw [sent]
    exact { running with }
  · rw [fluid.bytes, sent]
    simp only [Link.underWay, List.append_assoc, Tunnel.follow, List.take_append_drop]

theorem Fluid.reads (fluid : Fluid output world past)
    (stepped : world.step now .read = some after) : Fluid output after past := by
  simp only [step] at stepped
  split_ifs at stepped with said
  cases stepped
  have running := fluid.running
  have took : ∃ outgoing seen, world.tunnel.socket.resume.peerTake.2 =
      { world.tunnel.socket with peerReads := true, outgoing := outgoing, peerSawEnd := seen } := by
    unfold Socket.peerTake
    split_ifs
    · exact ⟨_, _, rfl⟩
    · exact ⟨_, _, rfl⟩
  obtain ⟨outgoing, seen, took⟩ := took
  refine { fluid with running := ?_, bytes := ?_ }
  · rw [took]
    exact { running with }
  · rw [fluid.bytes, took]
    rfl

theorem Fluid.steps (fluid : Fluid output world past) (action : Action)
    (busy : action ≠ .poller .idleDue) (stepped : world.step now action = some after) :
    Fluid output after (past ++ action.brings) := by
  have quiet : Fluid output after past → Fluid output after (past ++ []) := fun same => by
    rwa [List.append_nil]
  cases action with
  | poller event => exact fluid.polls event (fun idle => busy (congrArg Action.poller idle)) stepped
  | link action => exact quiet (fluid.links action stepped)
  | offer payload => exact quiet (fluid.offers payload stepped)
  | send count => exact quiet (fluid.sends count stepped)
  | read => exact quiet (fluid.reads stepped)

/-- Nothing is lost in a run, and nothing ends, as long as the tunnel is not given up as idle. -/
theorem run_fluid (script : List (Nat × Action))
    (busy : ∀ entry ∈ script, entry.2 ≠ .poller .idleDue) (world after : Standoff) (past : Bytes)
    (fluid : Fluid output world past) (ran : world.run script = some after) :
    Fluid output after (past ++ received script) := by
  induction script generalizing world past with
  | nil =>
      cases ran
      simpa [received] using fluid
  | cons entry script induction =>
      rcases entry with ⟨now, action⟩
      simp only [run, Option.bind_eq_some_iff] at ran
      obtain ⟨middle, stepped, rest⟩ := ran
      have here := fluid.steps action (busy _ List.mem_cons_self) stepped
      have later : ∀ entry ∈ script, entry.2 ≠ .poller .idleDue :=
        fun entry member => busy entry (.tail _ member)
      have whole := induction later middle _ here rest
      rwa [List.append_assoc] at whole

end Steps

/-- Whether the client would do an action: it offers this payload, when no request waits in the
queue. -/
def Fair (world : Standoff) (payload : Bytes) (action : Action) : Prop :=
  ∀ other, action = .offer other → other = payload ∧ world.tunnel.poller.queue = []

/-- One thing happens that takes no timer, and it changes something. -/
structure Stirs (now : Nat) (payload : Bytes) (world : Standoff) (action : Action)
    (after : Standoff) : Prop where
  silent : action.rings = false
  fair : world.Fair payload action
  stepped : world.step now action = some after
  changed : after ≠ world

/-- What can come about at one instant without any timer, and what the poller receives then. -/
inductive Reaches (now : Nat) (payload : Bytes) : Standoff → Bytes → Standoff → Prop where
  | here (world : Standoff) : Reaches now payload world [] world
  | goes (world middle after : Standoff) (action : Action) (bytes : Bytes)
      (stirs : Stirs now payload world action middle)
      (rest : Reaches now payload middle bytes after) :
      Reaches now payload world (action.brings ++ bytes) after

def distance (world : Standoff) : Nat :=
  world.tunnel.link.distance world.tunnel.socket + 4 * world.unsent.length

section Progress

variable {world : Standoff} {output past : Bytes} {now : Nat} {payload : Bytes}

theorem Reaches.trans {first second third : Standoff} {before after : Bytes}
    (reaches : Reaches now payload first before second)
    (further : Reaches now payload second after third) :
    Reaches now payload first (before ++ after) third := by
  induction reaches with
  | here world => exact further
  | goes world middle last action bytes stirs rest induction =>
      rw [List.append_assoc]
      exact .goes world middle third action _ stirs (induction further)

theorem Stirs.reaches {after : Standoff} (action : Action)
    (stirs : Stirs now payload world action after) :
    Reaches now payload world action.brings after := by
  have goes := Reaches.goes world after after action [] stirs (.here after)
  rwa [List.append_nil] at goes

theorem Fluid.reaches {after : Standoff} {bytes : Bytes} (fluid : Fluid output world past)
    (reaches : Reaches now payload world bytes after) : Fluid output after (past ++ bytes) := by
  induction reaches generalizing past with
  | here world => rwa [List.append_nil]
  | goes world middle last action bytes stirs rest induction =>
      have busy : action ≠ .poller .idleDue := by
        rintro rfl
        cases stirs.silent
      have whole := induction (fluid.steps action busy stirs.stepped)
      rwa [List.append_assoc] at whole

/-- What brings the missing bytes nearer changes something. -/
theorem nearer_stirs {after : Standoff} (action : Action) (silent : action.rings = false)
    (own : ∀ payload, action ≠ .offer payload) (stepped : world.step now action = some after)
    (near : after.distance < world.distance) :
    ∃ action after, Stirs now payload world action after ∧ after.distance < world.distance := by
  refine ⟨action, after, ⟨silent, fun other same => absurd same (own other), stepped, ?_⟩, near⟩
  rintro rfl
  exact Nat.lt_irrefl _ near

theorem Fluid.slot_moves (fluid : Fluid output world past) (hears : world.tunnel.poller.Hears)
    (now : Nat) (payload chunk : Bytes) (rest : List Bytes)
    (slot : world.tunnel.link.fromDown = chunk :: rest) :
    ∃ action after, Stirs now payload world action after ∧ after.distance < world.distance := by
  obtain ⟨next, _, inOrder, _⟩ := fluid.poller
  have filled : chunk ≠ [] := fluid.solid chunk (by simp [Link.chunks, slot])
  have allowed : world.tunnel.allows (.chunk chunk) = true := by simp [Tunnel.allows, slot]
  obtain ⟨⟨poller, deeds⟩, heard⟩ := Option.isSome_iff_exists.mp
    (hears.takes_chunks (world.tunnel.moment now) inOrder.live chunk)
  refine nearer_stirs (.poller (.chunk chunk)) rfl (by simp)
    (fluid.polled (.chunk chunk) (by simp) allowed heard).2 ?_
  have positive := List.length_pos_iff.mpr filled
  simp only [distance, Link.distance, Tunnel.linkAfter, Link.drain, slot, List.flatten_cons,
    List.length_append]
  omega

theorem Fluid.downstream_moves (fluid : Fluid output world past) (missing : past ≠ output)
    (now : Nat) (payload : Bytes)
    (waits : world.tunnel.link.underWay world.tunnel.socket = []) :
    ∃ action after, Stirs now payload world action after ∧ after.distance < world.distance := by
  have unsent : world.unsent ≠ [] := by
    rintro said
    have bytes := fluid.bytes
    rw [waits, said, List.append_nil, List.append_nil] at bytes
    exact missing bytes.symm
  have room : world.tunnel.socket.incoming = [] := by
    simp only [Link.underWay, List.append_eq_nil_iff] at waits
    exact waits.2
  have positive : 1 ≤ world.unsent.length := List.length_pos_iff.mpr unsent
  have fits : 0 + 1 ≤ world.buffer := fluid.roomy
  have stepped : world.step now (.send 1) = some { world with
      tunnel := world.tunnel.follow (.send (world.unsent.take 1))
      unsent := world.unsent.drop 1 } := by
    simp only [step, room, List.length_nil]
    exact if_pos ⟨Nat.one_pos, positive, fits⟩
  refine nearer_stirs (.send 1) rfl (by simp) stepped ?_
  simp only [distance, Link.distance, Tunnel.follow, Socket.follow, Socket.peerSend,
    fluid.running.peerEnded, Bool.false_eq_true, if_false, List.length_append, List.length_take,
    List.length_drop]
  omega

theorem Fluid.source_moves (fluid : Fluid output world past) (missing : past ≠ output)
    (hears : world.tunnel.poller.Hears) (now : Nat) (payload : Bytes) :
    ∃ action after, Stirs now payload world action after ∧ after.distance < world.distance := by
  cases slot : world.tunnel.link.fromDown with
  | cons chunk rest => exact fluid.slot_moves hears now payload chunk rest slot
  | nil =>
      by_cases waits : world.tunnel.link.underWay world.tunnel.socket = []
      · exact fluid.downstream_moves missing now payload waits
      obtain ⟨event, link, socket, silent, moved, near⟩ :=
        Link.running_nears now _ _ fluid.running fluid.solid slot waits
      have stepped : world.step now (.link (.inflow event)) = some { world with
          tunnel := { world.tunnel with link := link, socket := socket } } := by
        simp [step, Tunnel.step, moved]
      refine nearer_stirs (.link (.inflow event)) ?_ (by simp) stepped
        (Nat.add_lt_add_right near _)
      cases event <;> first | rfl | exact absurd rfl silent

theorem Fluid.request_ready (fluid : Fluid output world past) (now : Nat) (payload : Bytes) :
    ∃ middle queue, Reaches now payload world [] middle ∧ middle.distance = world.distance ∧
      middle.tunnel.poller = { world.tunnel.poller with queue := queue } ∧ queue ≠ [] := by
  by_cases empty : world.tunnel.poller.queue = []
  · obtain ⟨packet, waiting⟩ := List.length_eq_one_iff.mp fluid.one
    obtain ⟨next, _, inOrder, _⟩ := fluid.poller
    have stepped : world.step now (.offer payload) = some { world with
        tunnel := { world.tunnel with
          poller := { world.tunnel.poller with queue := [packet] }
          waiting := [request world.upcoming payload] }
        upcoming := world.upcoming + 1 } := by
      simp [step, Tunnel.step, Tunnel.enqueue, Tunnel.deliver, waiting, Poller.deliver,
        inOrder.accepting, empty, Poller.queueCapacity]
    refine ⟨_, [packet], Stirs.reaches (.offer payload) ⟨rfl, ?_, stepped, fun same => ?_⟩, rfl,
      rfl, List.cons_ne_nil _ _⟩
    · rintro other ⟨⟩
      exact ⟨rfl, empty⟩
    · exact absurd (congrArg upcoming same) (Nat.succ_ne_self _)
  · exact ⟨world, world.tunnel.poller.queue, .here world, rfl, rfl, empty⟩

theorem Fluid.request_heard (fluid : Fluid output world past)
    (declines : ¬ world.tunnel.poller.Hears) (now : Nat) (payload : Bytes) :
    ∃ after, Reaches now payload world [] after ∧ after.distance = world.distance ∧
      (after.tunnel.poller.Hears ∨
        world.tunnel.poller.pending ≠ [] ∧ after.tunnel.poller.pending = []) := by
  obtain ⟨middle, queue, ready, away, same, filled⟩ := fluid.request_ready now payload
  have fluid := fluid.reaches ready
  obtain ⟨packet, rest, queued⟩ : ∃ packet rest, middle.tunnel.poller.queue = packet :: rest := by
    rw [same]
    exact List.exists_cons_of_ne_nil filled
  obtain ⟨next, positive, inOrder, lined, _⟩ := fluid.poller
  have serial : packet.serial = next := lined 0 packet (by simp [Standoff.ready, queued])
  have shut : world.tunnel.poller.phase = .serving ∧ world.tunnel.poller.wantsChunks = false := by
    simpa [Poller.Hears] using declines
  obtain ⟨poller, deeds, ran, left, heard⟩ := inOrder.request_heard (middle.tunnel.moment now)
    (fun client => by simp [Tunnel.moment, fluid.present]) positive (same ▸ shut.1)
    (same ▸ shut.2) packet rest queued serial
  have stepped := (fluid.polled .packet (by simp) rfl ran).2
  rw [same] at heard
  refine ⟨_, ready.trans (Stirs.reaches (.poller .packet) ⟨rfl, by simp [Fair], stepped, ?_⟩),
    away, heard⟩
  intro unchanged
  have shorter := congrArg (·.tunnel.poller.queue.length) unchanged
  simp [left, queued] at shorter

/-- Two requests at most make the poller hear chunks. -/
theorem Fluid.hearing (fluid : Fluid output world past) (now : Nat) (payload : Bytes) :
    ∃ after, Reaches now payload world [] after ∧ after.distance = world.distance ∧
      after.tunnel.poller.Hears := by
  by_cases hears : world.tunnel.poller.Hears
  · exact ⟨world, .here world, rfl, hears⟩
  obtain ⟨middle, first, away, heard | ⟨_, emptied⟩⟩ := fluid.request_heard hears now payload
  · exact ⟨middle, first, away, heard⟩
  -- The first request took all that was in the buffer, so that the second one takes nothing.
  by_cases hears : middle.tunnel.poller.Hears
  · exact ⟨middle, first, away, hears⟩
  obtain ⟨after, second, farther, heard | ⟨filled, _⟩⟩ :=
    (fluid.reaches first).request_heard hears now payload
  · exact ⟨after, first.trans second, farther.trans away, heard⟩
  · exact absurd emptied filled

/-- What is missing reaches the poller at one instant. By strong induction on how far it is away:
the poller comes to hear chunks, which moves no byte, and then the bytes come nearer. -/
theorem Fluid.receives_all (fluid : Fluid output world past) (now : Nat) (payload : Bytes) :
    ∃ bytes after, Reaches now payload world bytes after ∧ past ++ bytes = output := by
  induction far : world.distance using Nat.strongRecOn generalizing world past with
  | ind far induction =>
      subst far
      by_cases missing : past = output
      · exact ⟨[], world, .here world, by rw [missing, List.append_nil]⟩
      obtain ⟨middle, heard, away, hears⟩ := fluid.hearing now payload
      have hearing := fluid.reaches heard
      rw [List.append_nil] at hearing
      obtain ⟨action, next, stirs, near⟩ := hearing.source_moves missing hears now payload
      obtain ⟨bytes, after, rest, whole⟩ := induction next.distance (away ▸ near)
        (hearing.reaches (stirs.reaches action)) rfl
      refine ⟨[] ++ (action.brings ++ bytes), after,
        heard.trans ((stirs.reaches action).trans rest), ?_⟩
      rw [List.nil_append, ← List.append_assoc, whole]

theorem Fluid.stirs (fluid : Fluid output world past) (missing : past ≠ output) (now : Nat)
    (payload : Bytes) : ∃ action after, Stirs now payload world action after := by
  obtain ⟨bytes, after, reaches, whole⟩ := fluid.receives_all now payload
  cases reaches with
  | here => exact absurd ((List.append_nil past).symm.trans whole) missing
  | goes _ middle _ action _ stirs _ => exact ⟨action, middle, stirs⟩

end Progress

/-- As long as something of what downstream says has not been received, the poller, the reader,
the writer, downstream or the client can move without a timer, and what they can do at that
instant brings the poller all the rest. -/
theorem back_pressure_never_locks (terms : Terms) (start : Nat) (output : Bytes)
    (buffer room : Nat) (payload : Bytes) (script : List (Nat × Action)) (world : Standoff)
    (roomy : 0 < buffer) (busy : ∀ entry ∈ script, entry.2 ≠ .poller .idleDue)
    (ran : (ofStart terms start output buffer room payload).run script = some world) :
    world.tunnel.closed = false ∧ received script <+: output ∧
      (received script ≠ output → ∀ now offered, ∃ action after,
        Stirs now offered world action after) ∧
      ∀ now offered, ∃ bytes after, Reaches now offered world bytes after ∧
        received script ++ bytes = output := by
  have fluid := run_fluid script busy _ world []
    (of_start_fluid terms start output buffer room payload roomy) ran
  rw [List.nil_append] at fluid
  refine ⟨?_, ?_, fun missing now offered => fluid.stirs missing now offered,
    fun now offered => fluid.receives_all now offered⟩
  · obtain ⟨next, _, inOrder, _⟩ := fluid.poller
    rw [Tunnel.closed, fluid.unasked, inOrder.active]
    rfl
  · rw [fluid.bytes, List.append_assoc]
    exact List.prefix_append ..

/-- Downstream has filled the connection, the reader holds a chunk and the slot another one, and
the writer and its queue are full, so that the poller cannot pass a payload on. -/
def allBlocked : List (Nat × Action) :=
  [(0, .offer [8]), (0, .poller .packet), (0, .poller .passed), (0, .link (.outflow (.took [7]))),
    (10, .poller .promptDue), (10, .offer [9]), (10, .poller .packet), (10, .poller .passed),
    (11, .offer []), (11, .poller .packet), (12, .send 2), (12, .link (.inflow (.received [1, 2]))),
    (12, .link (.inflow .handed)), (12, .send 2), (12, .link (.inflow (.received [3, 4]))),
    (12, .send 2)]

theorem all_blocked_goes_on : ∃ world,
    (ofStart { outflowCapacity := 1, readSize := 2 } 0 [1, 2, 3, 4, 5, 6, 7] 2 0 [7]).run
        allBlocked = some world ∧
      world.tunnel.fed = some .full ∧ world.tunnel.link.canHand = false ∧
      world.step 12 (.send 1) = none ∧ received allBlocked = [] ∧
      (∃ action after, Stirs 12 [5] world action after) ∧
      ∃ after, Reaches 12 [5] world [1, 2, 3, 4, 5, 6, 7] after := by
  have came : ∃ world, (ofStart { outflowCapacity := 1, readSize := 2 } 0 [1, 2, 3, 4, 5, 6, 7] 2 0
      [7]).run allBlocked = some world ∧ world.tunnel.fed = some .full ∧
      world.tunnel.link.canHand = false ∧ world.step 12 (.send 1) = none :=
    ⟨_, rfl, rfl, rfl, rfl⟩
  obtain ⟨world, ran, full, slot, connection⟩ := came
  obtain ⟨_, _, moves, arrives⟩ := back_pressure_never_locks _ 0 [1, 2, 3, 4, 5, 6, 7] 2 0 [7]
    allBlocked world (by decide) (by simp [allBlocked]) ran
  obtain ⟨bytes, after, reaches, whole⟩ := arrives 12 [5]
  have all : bytes = [1, 2, 3, 4, 5, 6, 7] := whole
  exact ⟨world, ran, full, slot, connection, rfl, moves (by decide) 12 [5], after, all ▸ reaches⟩

end Standoff

end HttpTunnel.Server
