import HttpTunnel.Server.Gateway
import HttpTunnel.Service.Wire
import Std.Async.Select

/-!
The serving side on real connections. Everything that happens comes in as news, and one
loop feeds the gateway with it, carries out what the gateway does, and waits.
-/

namespace HttpTunnel.Service.Serving

open Server (Gateway HttpRequest Response Terms)
open Std.Async (Async background)

inductive News where
  | asked (client : Nat) (request : HttpRequest) (answer : IO.Promise Response)
  | left (client : Nat)
  | dialed (caller : Gateway.Caller) (outcome : Except Failure Peer)
  | moved (number : Nat) (move : Socket.PeerMove)
  | stop

instance : Inhabited News := ⟨.stop⟩

instance : Nonempty Response := ⟨⟨.badRequest, []⟩⟩

structure State where
  gateway : Gateway
  /-- The connections of the tunnels, in the order of their numbers. -/
  wires : List Wire := []
  /-- Those for whom a connection is being made. -/
  dialing : List Gateway.Caller := []
  answers : List (Nat × IO.Promise Response) := []
  /-- When to stop waiting for what is under way. -/
  deadline : Option Nat := none

def tell (news : Std.Channel News) (item : News) : IO Unit := do discard <| news.send item

def carryOut (state : State) : Gateway.Deed → IO State
  | .responded client response => do
      if let some answer := state.answers.lookup client then answer.resolve response
      return { state with answers := state.answers.filter fun entry => entry.1 != client }
  | _ => return state

def act (state : State) (action : Gateway.Action) : IO State := do
  match state.gateway.step (← IO.monoMsNow) action with
  | none => return state
  | some (gateway, deeds) => deeds.foldlM carryOut { state with gateway := gateway }

partial def settle (state : State) : IO State := do
  match state.gateway.next? (← IO.monoMsNow) with
  | none => return state
  | some action => settle (← act state action)

def freshKey : IO Key := do
  let nonce ← IO.getRandomBytes Key.partLength.toUSize
  let authKey ← IO.getRandomBytes Key.partLength.toUSize
  return Key.mint (ofArray nonce) (ofArray authKey)

def hear (news : Std.Channel News) (state : State) : News → Async State
  | .asked client request answer =>
      act { state with answers := (client, answer) :: state.answers } (.ask client request)
  | .left client => do
      if let some answer := state.answers.lookup client then answer.resolve ⟨.badRequest, []⟩
      act { state with answers := state.answers.filter fun entry => entry.1 != client }
        (.hangUp client)
  | .dialed caller outcome => do
      let state := { state with dialing := state.dialing.erase caller }
      match outcome with
      | .error failure => act state (.dialed caller (.error failure))
      | .ok peer =>
          let number := state.gateway.hosted.length
          let hosting ← act state (.dialed caller (.ok (← freshKey)))
          if hosting.gateway.hosted.length = number then return hosting
          let wire ← open_ peer fun move => tell news (.moved number move)
          return { hosting with wires := hosting.wires ++ [wire] }
  | .moved number move => do
      let wires := state.wires.modify number fun wire => wire.after move
      act { state with wires := wires } (.downstream number move)
  | .stop => do
      let closing ← act state .shutDown
      return { closing with deadline := some ((← IO.monoMsNow) + Terms.shutdownGrace) }

def startDialing (news : Std.Channel News) (state : State) : Async State := do
  let fresh := state.gateway.dialing.filter fun caller => !state.dialing.contains caller
  for caller in fresh do
    background do
      let outcome ← dial state.gateway.destination state.gateway.terms.dialFor
      tell news (.dialed caller outcome)
  return { state with dialing := state.dialing ++ fresh }

/-- Moves bytes between the connections and the sockets of the tunnels. -/
def tendAll (news : Std.Channel News) (state : State) : Async State := do
  let mut wires := []
  let mut gateway := state.gateway
  for (wire, number) in state.wires.zipIdx do
    match gateway.tunnel? number with
    | none => wires := wires ++ [wire]
    | some tunnel =>
        let (wire, socket) ← tend wire tunnel.socket fun move => tell news (.moved number move)
        wires := wires ++ [wire]
        gateway := gateway.modifyTunnel number fun tunnel => { tunnel with socket := socket }
  return { state with wires := wires, gateway := gateway }

def await (news : Std.Channel News) (state : State) : Async (Option News) := do
  let now ← IO.monoMsNow
  let alarms := (state.gateway.alarms ++ state.deadline.toList).filter fun due => decide (now < due)
  let span := (alarms.min?.getD (now + 1000)) - now
  let timer ← Std.Async.Selector.sleep (Std.Time.Millisecond.Offset.ofNat span)
  Std.Async.Selectable.one #[
    .case news.recvSelector fun item => return some item,
    .case timer fun _ => return none]

partial def run (news : Std.Channel News) (state : State) : Async Unit := do
  let state ← tendAll news (← settle (← startDialing news state))
  let now ← IO.monoMsNow
  if state.deadline.any fun deadline => state.gateway.isIdle || decide (deadline ≤ now) then
    return
  match ← await news state with
  | none => run news state
  | some item => run news (← hear news state item)

/-- Serves one HTTP connection: one request and its response. -/
def serveClient (news : Std.Channel News) (terms : Terms) (client : Nat) (peer : Peer) :
    Async Unit := do
  let refusal : Response := ⟨.badRequest, []⟩
  let response ← match ← receiveMessage peer terms.largestBody with
    | none => pure refusal
    | some (head, body, complete) =>
        match head.request? with
        | none => pure refusal
        | some (method, path) =>
            let answer ← IO.Promise.new
            tell news (.asked client ⟨method, path, body, complete⟩ answer)
            background do
              let gone ← try
                  pure (← peer.recv? 1).isNone
                catch _ => pure true
              if gone then tell news (.left client)
            Std.Async.await answer
  peer.send (toArray (Message.ofResponse response))
  peer.shutdown

partial def acceptFrom (news : Std.Channel News) (terms : Terms)
    (listener : Std.Async.TCP.Socket.Server) (client : Nat) : Async Unit := do
  let peer ← listener.accept
  background (serveClient news terms client peer)
  acceptFrom news terms listener (client + 1)

structure Handle where
  news : Std.Channel News
  done : IO.Promise Unit

/-- Serves a listener, every tunnel leading to one destination. -/
def start (listener : Std.Async.TCP.Socket.Server) (destination : Address.Endpoint)
    (terms : Terms) : Async Handle := do
  let handle : Handle := { news := ← Std.Channel.new, done := ← IO.Promise.new }
  background (acceptFrom handle.news terms listener 0)
  background do
    run handle.news { gateway := { destination := destination, terms := terms } }
    handle.done.resolve ()
  return handle

/-- Closes every tunnel and waits for what is under way. -/
def Handle.close (handle : Handle) : Async Unit := do
  tell handle.news .stop
  Std.Async.await handle.done

end HttpTunnel.Service.Serving
