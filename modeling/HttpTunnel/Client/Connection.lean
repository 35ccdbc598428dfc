import HttpTunnel.Client.Delivery
import HttpTunnel.Client.Desk
import HttpTunnel.Client.Intake
import HttpTunnel.Client.SendQueue
import HttpTunnel.Client.Terms
import HttpTunnel.Client.Trip
import HttpTunnel.Socket

/-!
One local connection carried through a tunnel. Two couriers take turns to post requests;
local bytes go out with whichever of them is home, replies go to the local writer, and
the dispatcher keeps one courier away whenever there is nothing to say.

The connection moves by actions of its parts. In an action a part looks at or changes
what the parts share: the roster, a signal, the queue, the notices, the replies. Between
two of its looks the others may act, so a run of the connection is a list of actions in
any order that the parts allow.
-/

namespace HttpTunnel.Client

namespace Connection

inductive Exit where
  /-- The connection was cancelled, or the local writer had gone. -/
  | stopped
  /-- The application closed its side and downstream went quiet. -/
  | drained
  | failed (failure : Failure)
  deriving DecidableEq, Repr

inductive Phase where
  /-- About to decide whether to leave or to stay. -/
  | deciding
  /-- About to stand in line for bytes. -/
  | staying
  /-- Home, waiting for bytes or for a signal. -/
  | waiting
  /-- Has taken a signal and not looked yet whether that is stale. -/
  | told
  /-- About to leave with whatever is there. -/
  | leaving
  /-- Holding a parcel; signals that came meanwhile are not forgotten yet. -/
  | packed (parcel : Parcel)
  /-- Leaving with a parcel; the dispatcher has not been told yet. -/
  | departing (parcel : Parcel)
  | away (serial since : Nat)
  /-- Back with a reply; the dispatcher has not been told yet. -/
  | arriving (reply : Option (Nat × Bytes)) (trip : Nat)
  /-- Holding a reply that the local writer has no room for yet. -/
  | handing (reply : Nat × Bytes) (late : Bool)
  /-- About to poll after the end of the local input. -/
  | lingering
  /-- Away with a poll after the end of the local input. -/
  | polling (serial since : Nat)
  | left (exit : Exit)
  deriving DecidableEq, Repr

inductive Action where
  | decide (courier : Courier)
  | join (courier : Courier)
  | heed (courier : Courier)
  /-- A courier that was told to leave looks at the roster whether it still may. -/
  | weigh (courier : Courier)
  | take (courier : Courier)
  | draw (courier : Courier)
  | clear (courier : Courier)
  | depart (courier : Courier)
  | answer (courier : Courier) (trip : Trip)
  | overdue (courier : Courier)
  /-- A poll after the local end stayed empty for long enough. -/
  | expire (courier : Courier)
  | arrive (courier : Courier)
  | hand (courier : Courier)
  | linger (courier : Courier)
  | halt (courier : Courier)
  | close
  | desk (event : Desk.Event)
  | intake (event : Intake.Event)
  | delivery (event : Delivery.Event)
  deriving DecidableEq, Repr

inductive Deed where
  | posted (courier : Courier) (parcel : Parcel)
  | abandoned (courier : Courier) (serial : Nat)
  | queued (chunk : Bytes)
  | write (chunk : Bytes)
  | endStream
  deriving DecidableEq, Repr

end Connection

structure Connection where
  terms : Terms
  queue : SendQueue Courier
  couriers : PerCourier Connection.Phase := ⟨.deciding, .deciding⟩
  desk : Desk
  replies : List (Nat × Bytes) := []
  intake : Intake := {}
  delivery : Delivery
  cancelled : Bool := false
  deriving DecidableEq, Repr

namespace Connection

def ofStart (terms : Terms) (now : Nat) : Connection where
  terms := terms
  queue := { capacity := Terms.queueCapacity, limit := terms.largestParcel }
  desk := { patience := terms.patience, dispatcher := { lastUse := now } }
  delivery := .ofBacklog terms.backlog

def phase (connection : Connection) (courier : Courier) : Phase := connection.couriers.get courier

def setPhase (connection : Connection) (courier : Courier) (phase : Phase) : Connection :=
  { connection with couriers := connection.couriers.set courier phase }

def hasLeft (connection : Connection) (courier : Courier) : Bool :=
  match connection.phase courier with
  | .left _ => true
  | _ => false

def deserted (connection : Connection) : Bool :=
  connection.hasLeft .alpha && connection.hasLeft .beta

def awaits (connection : Connection) (serial : Nat) (courier : Courier) : Bool :=
  match connection.phase courier with
  | .away own _ | .polling own _ => own == serial
  | _ => false

def waitingFor? (connection : Connection) (serial : Nat) : Option Courier :=
  if connection.awaits serial .alpha then some .alpha
  else if connection.awaits serial .beta then some .beta
  else none

/-- A courier leaves for good. Unless it was drained, it takes the connection with it. -/
def leave (connection : Connection) (courier : Courier) (exit : Exit) : Connection :=
  let gone := connection.setPhase courier (.left exit)
  if exit = .drained then gone else { gone with cancelled := true }

/-- Posts the next poll after the end of the local input. -/
def linger (now : Nat) (connection : Connection) (courier : Courier) : Connection × List Deed :=
  let (parcel, queue) := connection.queue.empty
  ({ connection with queue := queue }.setPhase courier (.polling parcel.serial now),
    [.posted courier parcel])

/-- Goes on with what a courier got from the queue. -/
def withDraw (connection : Connection) (courier : Courier) : SendQueue.Draw → Connection
  | .parcel parcel => connection.setPhase courier (.packed parcel)
  | .drained => connection.setPhase courier .lingering
  | .waiting => connection.setPhase courier .waiting

/-- A courier that leaves untold goes at once; the other one stands in line. -/
def decide (connection : Connection) (courier : Courier) : Connection :=
  let untold := connection.desk.dispatcher.published.leavesUntold courier
  connection.setPhase courier (if untold then .leaving else .staying)

/-- Takes a signal, and leaves the line. -/
def heed (connection : Connection) (courier : Courier) : Connection :=
  let dispatcher := (connection.desk.dispatcher.takeSignal courier).2
  { connection with
    queue := connection.queue.leave courier
    desk := { connection.desk with dispatcher := dispatcher } }.setPhase courier .told

/-- Heeds a signal, unless it came too late: then the courier decides anew. -/
def weigh (connection : Connection) (courier : Courier) : Connection :=
  let current := connection.desk.dispatcher.published.mayLeave courier
  connection.setPhase courier (if current then .leaving else .deciding)

def take (connection : Connection) (courier : Courier) : Connection :=
  let (draw, queue) := connection.queue.ready
  { connection with queue := queue }.withDraw courier draw

def draw (connection : Connection) (courier : Courier) : Option Connection :=
  match connection.queue.draw courier with
  | (.waiting, _) => none
  | (draw, queue) => some ({ connection with queue := queue }.withDraw courier draw)

/-- Forgets the signal that came while the courier took its parcel. -/
def clear (connection : Connection) (courier : Courier) (parcel : Parcel) : Connection :=
  let dispatcher := (connection.desk.dispatcher.takeSignal courier).2
  { connection with desk := { connection.desk with dispatcher := dispatcher } }.setPhase courier
    (.departing parcel)

def canNotify (connection : Connection) : Bool :=
  connection.desk.hasRoom || !connection.desk.running

def notify (connection : Connection) (notice : Notice) : Connection :=
  { connection with desk := connection.desk.send notice }

def nanosPerMilli : Nat := 1000000

def payloadLength : Option (Nat × Bytes) → Nat
  | none => 0
  | some (_, payload) => payload.length

/-- Goes on with the outcome of a round trip. -/
def withReply (now : Nat) (connection : Connection) (courier : Courier) (since : Nat)
    (lingering : Bool) : Except Failure (Option (Nat × Bytes)) → Connection
  | .error failure => connection.leave courier (.failed failure)
  | .ok reply =>
      if lingering then
        match reply with
        | none => connection.leave courier .drained
        | some reply => connection.setPhase courier (.handing reply true)
      else connection.setPhase courier (.arriving reply ((now - since) * nanosPerMilli))

/-- Hands a reply to the local writer, or stops if that has gone. -/
def hand (connection : Connection) (courier : Courier) (reply : Nat × Bytes) (late : Bool) :
    Option Connection :=
  if connection.delivery.hasEnded then some (connection.leave courier .stopped)
  else if connection.replies.length < Terms.replyCapacity then
    some ({ connection with replies := connection.replies ++ [reply] }.setPhase courier
      (if late then .lingering else .deciding))
  else none

def applyIntake (connection : Connection) : Intake.Deed → Connection
  | .enqueue chunk => { connection with queue := (connection.queue.offer chunk).2 }
  | .closeQueue => { connection with queue := connection.queue.close }
  | .cancel => { connection with cancelled := true }

/-- Whether a reader's event can come about, as far as the connection decides that. -/
def allowsIntake (connection : Connection) : Intake.Event → Bool
  | .queued => !connection.cancelled && !connection.deserted && connection.queue.hasRoom
  | .refused => connection.deserted
  | .halted => connection.cancelled
  | _ => true

def intakeDeeds (deeds : List Intake.Deed) : List Deed :=
  deeds.filterMap fun
    | .enqueue chunk => some (.queued chunk)
    | .closeQueue | .cancel => none

def stepIntake (connection : Connection) (event : Intake.Event) :
    Option (Connection × List Deed) :=
  if connection.allowsIntake event then
    (connection.intake.step event).map fun (intake, deeds) =>
      (deeds.foldl applyIntake { connection with intake := intake }, intakeDeeds deeds)
  else none

def allowsDelivery (connection : Connection) : Delivery.Event → Bool
  | .reply serial payload => connection.replies.head? == some (serial, payload)
  | .exhausted => connection.replies.isEmpty && connection.deserted
  | _ => true

def deliveryDeeds (deeds : List Delivery.Deed) : List Deed :=
  deeds.filterMap fun
    | .write chunk => some (.write chunk)
    | .endStream => some .endStream
    | .cancel => none

def stepDelivery (connection : Connection) (event : Delivery.Event) :
    Option (Connection × List Deed) :=
  if connection.allowsDelivery event then
    (connection.delivery.step event).map fun (delivery, deeds) =>
      ({ connection with
          delivery := delivery
          replies := match event with
            | .reply _ _ => connection.replies.tail
            | _ => connection.replies
          cancelled := connection.cancelled || deeds.contains .cancel }, deliveryDeeds deeds)
  else none

def allowsDesk (connection : Connection) : Desk.Event → Bool
  | .halted => connection.cancelled
  | .deserted => connection.deserted && connection.desk.notices.isEmpty
  | _ => true

def stepDesk (now : Nat) (connection : Connection) (event : Desk.Event) : Option Connection :=
  if connection.allowsDesk event then
    (connection.desk.step now event).map fun (desk, cancels) =>
      { connection with desk := desk, cancelled := connection.cancelled || cancels }
  else none

/-- One action at an instant. There is none if the part it belongs to cannot do it. -/
def step (now : Nat) (connection : Connection) : Action → Option (Connection × List Deed)
  | .decide courier =>
      match connection.phase courier with
      | .deciding => some (connection.decide courier, [])
      | _ => none
  | .join courier =>
      match connection.phase courier with
      | .staying =>
          some ({ connection with queue := connection.queue.join courier }.setPhase courier
            .waiting, [])
      | _ => none
  | .heed courier =>
      match connection.phase courier with
      | .waiting =>
          if connection.desk.dispatcher.signals.get courier then some (connection.heed courier, [])
          else none
      | _ => none
  | .weigh courier =>
      match connection.phase courier with
      | .told => some (connection.weigh courier, [])
      | _ => none
  | .take courier =>
      match connection.phase courier with
      | .leaving => some (connection.take courier, [])
      | _ => none
  | .draw courier =>
      match connection.phase courier with
      | .waiting => (connection.draw courier).map fun after => (after, [])
      | _ => none
  | .clear courier =>
      match connection.phase courier with
      | .packed parcel => some (connection.clear courier parcel, [])
      | _ => none
  | .depart courier =>
      match connection.phase courier with
      | .departing parcel =>
          if connection.canNotify then
            some ((connection.notify (.departs courier parcel.payload.length)).setPhase courier
              (.away parcel.serial now), [.posted courier parcel])
          else none
      | _ => none
  | .answer courier trip =>
      match connection.phase courier with
      | .away _ since => some (connection.withReply now courier since false trip.reply, [])
      | .polling _ since => some (connection.withReply now courier since true trip.reply, [])
      | _ => none
  | .overdue courier =>
      match connection.phase courier with
      | .away serial since | .polling serial since =>
          if since + connection.terms.tripFor ≤ now then
            some (connection.leave courier (.failed .roundTrip), [.abandoned courier serial])
          else none
      | _ => none
  | .expire courier =>
      match connection.phase courier with
      | .polling serial since =>
          if since + connection.terms.lingerFor ≤ now then
            some (connection.leave courier .drained, [.abandoned courier serial])
          else none
      | _ => none
  | .arrive courier =>
      match connection.phase courier with
      | .arriving reply trip =>
          if connection.canNotify then
            let told := connection.notify (.arrives courier (payloadLength reply) trip)
            some (match reply with
              | none => (told.setPhase courier .deciding, [])
              | some reply => (told.setPhase courier (.handing reply false), []))
          else none
      | _ => none
  | .hand courier =>
      match connection.phase courier with
      | .handing reply late => (connection.hand courier reply late).map fun after => (after, [])
      | _ => none
  | .linger courier =>
      match connection.phase courier with
      | .lingering => some (connection.linger now courier)
      | _ => none
  | .halt courier =>
      if connection.cancelled then
        match connection.phase courier with
        | .waiting =>
            some ({ connection with queue := connection.queue.leave courier }.leave courier
              .stopped, [])
        | .away serial _ | .polling serial _ =>
            some (connection.leave courier .stopped, [.abandoned courier serial])
        | _ => none
      else none
  | .close =>
      if connection.deserted ∧ ¬ connection.cancelled then
        some ({ connection with cancelled := true }, [])
      else none
  | .desk event => (connection.stepDesk now event).map fun after => (after, [])
  | .intake event => connection.stepIntake event
  | .delivery event => connection.stepDelivery event

def hasEnded (connection : Connection) : Bool :=
  connection.deserted && !connection.desk.running && connection.intake.hasEnded &&
    connection.delivery.hasEnded

def nextForCourier (now : Nat) (connection : Connection) (courier : Courier) : Option Action :=
  match connection.phase courier with
  | .deciding => some (.decide courier)
  | .staying => some (.join courier)
  | .waiting =>
      if connection.cancelled then some (.halt courier)
      else if connection.desk.dispatcher.signals.get courier then some (.heed courier)
      else if (connection.queue.draw courier).1 = .waiting then none
      else some (.draw courier)
  | .told => some (.weigh courier)
  | .leaving => some (.take courier)
  | .packed _ => some (.clear courier)
  | .departing _ => if connection.canNotify then some (.depart courier) else none
  | .away _ since =>
      if connection.cancelled then some (.halt courier)
      else if since + connection.terms.tripFor ≤ now then some (.overdue courier)
      else none
  | .arriving _ _ => if connection.canNotify then some (.arrive courier) else none
  | .handing _ _ =>
      if connection.delivery.hasEnded ∨ connection.replies.length < Terms.replyCapacity then
        some (.hand courier)
      else none
  | .lingering => some (.linger courier)
  | .polling _ since =>
      if connection.cancelled then some (.halt courier)
      else if since + connection.terms.tripFor ≤ now then some (.overdue courier)
      else if since + connection.terms.lingerFor ≤ now then some (.expire courier)
      else none
  | .left _ => none

def nextForDesk (now : Nat) (connection : Connection) : Option Action :=
  (connection.desk.nextEvent now connection.cancelled (!connection.deserted)).map .desk

def nextForIntake (socket : Socket) (connection : Connection) : Option Action :=
  match connection.intake.phase with
  | .ended => none
  | .queuing _ =>
      if connection.cancelled then some (.intake .halted)
      else if connection.deserted then some (.intake .refused)
      else if connection.queue.hasRoom then some (.intake .queued)
      else none
  | .reading =>
      if connection.cancelled then some (.intake .halted)
      else
        match socket.look connection.terms.readSize with
        | .bytes chunk => some (.intake (.received chunk))
        | .failed => some (.intake .failed)
        | .ended => some (.intake .endOfInput)
        | .nothing => none

def nextForDelivery (socket : Socket) (connection : Connection) : Option Action :=
  match connection.delivery.phase with
  | .receiving =>
      match connection.replies with
      | (serial, payload) :: _ => some (.delivery (.reply serial payload))
      | [] => if connection.deserted then some (.delivery .exhausted) else none
  | .writing rest _ =>
      if socket.peerGone then some (.delivery (.failed ⟨.brokenPipe, none⟩))
      else if 0 < socket.accepts rest.length then
        some (.delivery (.wrote (socket.accepts rest.length)))
      else none
  | .ended _ => none

/-- The action that comes next at an instant, with the local connection in a given state.
The couriers move first, then the dispatcher, then the local reader and writer. -/
def next? (now : Nat) (socket : Socket) (connection : Connection) : Option Action :=
  nextForCourier now connection .alpha <|> nextForCourier now connection .beta <|>
    (if connection.deserted ∧ ¬ connection.cancelled then some .close else none) <|>
    nextForDesk now connection <|> nextForIntake socket connection <|>
    nextForDelivery socket connection

/-- Whether an action agrees with the local connection. A read or a write may cover any
part of what the connection has or takes. -/
def agrees (socket : Socket) (connection : Connection) : Action → Bool
  | .intake (.received chunk) => chunk.isPrefixOf socket.incoming
  | .intake .endOfInput => socket.look connection.terms.readSize == .ended
  | .intake .failed => socket.look connection.terms.readSize == .failed
  | .delivery (.wrote count) =>
      match connection.delivery.phase with
      | .writing rest _ => !socket.peerGone && count ≤ socket.accepts rest.length
      | _ => false
  | .delivery (.failed _) => socket.peerGone
  | _ => true

def applyToSocket (socket : Socket) : Deed → Socket
  | .write chunk => socket.write chunk
  | .endStream => socket.finish
  | .posted _ _ | .abandoned _ _ | .queued _ => socket

def move (now : Nat) (socket : Socket) (connection : Connection) (action : Action) :
    Option (Connection × Socket × List Deed) :=
  if connection.agrees socket action then
    (connection.step now action).map fun (after, deeds) =>
      let used := match action with
        | .intake (.received chunk) => socket.consume chunk.length
        | _ => socket
      (after, deeds.foldl applyToSocket used, deeds)
  else none

def courierAlarms (terms : Terms) : Phase → List Nat
  | .away _ since => [since + terms.tripFor]
  | .polling _ since => [since + terms.tripFor, since + terms.lingerFor]
  | _ => []

/-- The instants at which a courier gives something up, or the connection is idle. -/
def alarms (connection : Connection) : List Nat :=
  courierAlarms connection.terms (connection.phase .alpha) ++
    courierAlarms connection.terms (connection.phase .beta) ++ [connection.desk.idleAt]

end Connection

end HttpTunnel.Client
