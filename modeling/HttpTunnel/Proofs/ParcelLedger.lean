import HttpTunnel.Proofs.ConnectionRuns

/-!
The parcels of a connection. A courier takes a parcel from the queue under the next serial, and
what it takes it either still holds or has posted once. The payloads in the order of their serials
followed by what is still queued are the bytes that the local reader queued.
-/

namespace HttpTunnel.Client

namespace Connection

open Relay (posted queued)

def Station.takes? : Station → Station → Option Parcel
  | .home, .holding parcel => some parcel
  | .home, .out serial => some ⟨serial, []⟩
  | _, _ => none

def Station.held? : Station → Option Parcel
  | .holding parcel => some parcel
  | _ => none

/-- The parcels that couriers have taken and not posted. -/
def held (connection : Connection) : List Parcel :=
  (connection.station .alpha).held?.toList ++ (connection.station .beta).held?.toList

def takenUntil (before after : Connection) : List Parcel :=
  ((before.station .alpha).takes? (after.station .alpha)).toList ++
    ((before.station .beta).takes? (after.station .beta)).toList

theorem Station.takes_itself (station : Station) : station.takes? station = none := by
  cases station <;> rfl

theorem nothing_taken (before after : Connection)
    (stations : ∀ courier, after.station courier = before.station courier) :
    takenUntil before after = [] := by
  simp [takenUntil, stations, Station.takes_itself]

section Moved

variable {before after : Connection} {courier : Courier} {station : Station}

theorem taken_moved (stations : ∀ other, after.station other =
    if other = courier then station else before.station other) :
    takenUntil before after = ((before.station courier).takes? station).toList := by
  cases courier <;> simp [takenUntil, stations, Station.takes_itself]

theorem held_swaps (stations : ∀ other, after.station other =
    if other = courier then station else before.station other) :
    ((before.station courier).held?.toList ++ after.held).Perm
      (station.held?.toList ++ before.held) := by
  apply List.perm_iff_count.mpr
  intro parcel
  cases courier <;>
    · simp only [held, stations, List.count_append, reduceCtorEq, if_true, if_false]
      omega

end Moved

/-- An errand takes one parcel and adds nothing to the queue, or it takes none. What was taken
before and is not posted now is still held. -/
inductive Taking (before after : Connection) (trace : List Relay.Deed) : Prop where
  | one (parcel : Parcel) (taken : takenUntil before after = [parcel])
      (takes : before.queue.Takes parcel after.queue) (silent : queued trace = [])
      (shares : (posted trace ++ after.held).Perm (parcel :: before.held))
  | none (taken : takenUntil before after = [])
      (counted : after.queue.nextSerial = before.queue.nextSerial)
      (bytes : before.queue.chunks.flatten ++ queued trace = after.queue.chunks.flatten)
      (shares : (posted trace ++ after.held).Perm before.held)

section Errands

variable {before after : Connection} {action : Action} {trace : List Relay.Deed}

theorem same_goods_flatten {queue later : SendQueue Courier} (goods : queue.SameGoods later) :
    queue.chunks.flatten ++ [] = later.chunks.flatten := by
  rw [goods.chunks, List.append_nil]

theorem Errand.taking (errand : Errand before action after trace) : Taking before after trace := by
  cases errand with
  | keep _ _ _ stations stock silent =>
      have held : after.held = before.held := by simp [held, stations]
      refine .none (nothing_taken before after stations) stock.counted ?_ ?_
      · rcases (Errand.keep action after trace stations stock silent).takes_or_queues with
          ⟨parcel, takes, _⟩ | ⟨_, bytes⟩
        · have counted := takes.counted
          rw [stock.counted] at counted
          omega
        · exact bytes
      · rw [silent, held]
        exact List.Perm.refl _
  | take _ _ courier parcel home takes stations =>
      have swaps := held_swaps stations
      rw [home] at swaps
      refine .one parcel ?_ takes rfl swaps
      rw [taken_moved stations, home]
      rfl
  | poll _ _ courier parcel home takes stations empty =>
      have swaps := held_swaps stations
      rw [home] at swaps
      refine .one parcel ?_ takes rfl (swaps.cons parcel)
      have same : (⟨parcel.serial, []⟩ : Parcel) = parcel := by rw [← empty]
      rw [taken_moved stations, home]
      exact congrArg (fun parcel => [parcel]) same
  | post _ _ courier parcel holds goods stations =>
      have swaps := held_swaps stations
      rw [holds] at swaps
      refine .none ?_ goods.counted (same_goods_flatten goods) swaps
      rw [taken_moved stations, holds]
      rfl
  | back _ courier serial trip reply out read goods stations =>
      have swaps := held_swaps stations
      rw [out] at swaps
      refine .none ?_ goods.counted (same_goods_flatten goods) swaps
      rw [taken_moved stations, out]
      rfl
  | quit _ _ courier goods stations unladen =>
      have swaps := held_swaps stations
      have nothing : (before.station courier).held? = none := by
        cases place : before.station courier with
        | holding parcel => exact absurd place (unladen parcel)
        | _ => rfl
      rw [nothing] at swaps
      refine .none ?_ goods.counted (same_goods_flatten goods) swaps
      rw [taken_moved stations]
      cases before.station courier <;> rfl

end Errands

/-- The parcels that were taken so far are numbered from one on, and say where all bytes are. -/
structure Ledger (connection : Connection) (taken sent : List Parcel) (input : Bytes) : Prop where
  closed : connection.Sealed
  serials : taken.map Parcel.serial = List.range' 1 taken.length
  counted : connection.queue.nextSerial = taken.length + 1
  bytes : input = taken.flatMap Parcel.payload ++ connection.queue.chunks.flatten
  shares : (sent ++ connection.held).Perm taken

theorem Ledger.taking {before after : Connection} {trace : List Relay.Deed}
    {taken sent : List Parcel} {input : Bytes} (ledger : before.Ledger taken sent input)
    (taking : Taking before after trace) (closed : after.Sealed) :
    after.Ledger (taken ++ takenUntil before after) (sent ++ posted trace)
      (input ++ queued trace) := by
  have counted := ledger.counted
  cases taking with
  | one parcel now takes silent shares =>
      constructor
      · exact closed
      · rw [now, List.map_append, ledger.serials, List.length_append, List.length_singleton,
          List.range'_concat, List.map_singleton, takes.serial, counted]
        simp [Nat.add_comm]
      · rw [now, takes.counted, counted, List.length_append, List.length_singleton]
      · rw [now, silent, ledger.bytes, takes.bytes, List.flatMap_append]
        simp
      · rw [now, List.append_assoc]
        have moved := (shares.append_left sent).trans List.perm_middle
        have joined := ledger.shares.cons parcel
        exact moved.trans (joined.trans (List.perm_append_singleton parcel taken).symm)
  | none now same bytes shares =>
      rw [now, List.append_nil]
      constructor
      · exact closed
      · exact ledger.serials
      · rw [same, counted]
      · rw [ledger.bytes, List.append_assoc, bytes]
      · rw [List.append_assoc]
        exact (shares.append_left sent).trans ledger.shares

theorem of_start_ledger (terms : Terms) (now : Nat) : (ofStart terms now).Ledger [] [] [] := by
  constructor
  · exact fun shut => nomatch shut
  · rfl
  · rfl
  · rfl
  · exact List.Perm.refl _

end Connection

namespace Site

open Connection (Ledger takenUntil)
open Relay (posted queued)

/-- The parcels that couriers took from the queue, in the order in which they took them. -/
def taken (trace : List Stride) : List Parcel :=
  trace.flatMap fun stride => takenUntil stride.before.connection stride.after.connection

theorem taken_append (trace further : List Stride) :
    taken (trace ++ further) = taken trace ++ taken further :=
  List.flatMap_append

theorem run_ledger (terms : Terms) (start : Nat) (script : List (Nat × Happening)) (site : Site)
    (trace : List Stride) (ran : (ofStart terms start).run script = some (site, trace)) :
    site.connection.Ledger (taken trace) (posted (passed trace)) (queued (passed trace)) := by
  refine run_keeps (fun site past => site.connection.Ledger (taken past) (posted (passed past))
    (queued (passed past))) ?_ script _ site [] trace (Connection.of_start_ledger terms start) ran
  intro now before past happening after deeds ledger turn
  rw [passed_last, Relay.posted_append, Relay.queued_append, taken_append]
  have last : taken [⟨now, happening, before, after, deeds⟩] =
      takenUntil before.connection after.connection := List.flatMap_singleton ..
  rw [last]
  cases turn with
  | acts action connection socket _ allowed stepped moved =>
      have move := Connection.step_moves now before.connection connection action deeds stepped
      exact ledger.taking (Connection.move_errand now _ _ action deeds ledger.closed move).taking
        (Connection.move_sealed now _ _ action deeds ledger.closed move)
  | follows move =>
      rw [Connection.nothing_taken _ _ fun _ => rfl]
      simpa [posted, queued] using ledger
  | reads =>
      rw [Connection.nothing_taken _ _ fun _ => rfl]
      simpa [posted, queued] using ledger

end Site

end HttpTunnel.Client
