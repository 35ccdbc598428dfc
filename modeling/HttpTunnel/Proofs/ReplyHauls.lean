import HttpTunnel.Proofs.RelayRuns
import Mathlib.Data.List.Perm.Subperm

/-!
What a move of a connection means for the replies. A courier brings a reply home and hands it
to the local writer, which puts the replies in order and writes them; on the way a reply can
get lost, but none appears that no courier brought.
-/

namespace HttpTunnel.Client.Connection

open Relay (wrote)

def Phase.reply? : Phase → Option (Nat × Bytes)
  | .arriving reply _ => reply
  | .handing reply _ => some reply
  | _ => none

/-- The replies that couriers hold or that wait for the local writer. -/
def carried (connection : Connection) : List (Nat × Bytes) :=
  (connection.phase .alpha).reply?.toList ++ (connection.phase .beta).reply?.toList ++
    connection.replies

/-- What an action does to the replies on their way to the local writer. -/
inductive Haul (before : Connection) :
    Action → Connection → List Relay.Deed → Prop where
  | quiet (action : Action) (after : Connection) (trace : List Relay.Deed)
      (keeps : after.carried.Perm before.carried)
      (unread : ∀ courier trip reply, action = .answer courier trip →
        trip.reply ≠ .ok (some reply))
      (same : after.delivery = before.delivery) (silent : wrote trace = []) :
      Haul before action after trace
  | fetch (after : Connection) (courier : Courier) (trip : Trip) (reply : Option (Nat × Bytes))
      (trace : List Relay.Deed) (present : before.hasLeft courier = false)
      (read : trip.reply = .ok reply)
      (brings : after.carried.Perm (reply.toList ++ before.carried))
      (same : after.delivery = before.delivery) (silent : wrote trace = []) :
      Haul before (.answer courier trip) after trace
  /-- A reply is given up, but there is no writer for it any more. -/
  | lose (action : Action) (after : Connection) (trace : List Relay.Deed)
      (ended : before.delivery.hasEnded = true) (fewer : after.carried.Subperm before.carried)
      (unread : ∀ courier trip reply, action = .answer courier trip →
        trip.reply ≠ .ok (some reply))
      (same : after.delivery = before.delivery) (silent : wrote trace = []) :
      Haul before action after trace
  | order (event : Delivery.Event) (after : Connection) (serial : Nat) (payload : Bytes)
      (released : List Bytes) (window : SerialWindow Bytes) (trace : List Relay.Deed)
      (receiving : before.delivery.phase = .receiving)
      (takes : ((serial, payload) :: after.carried).Perm before.carried)
      (pushed : before.delivery.window.push serial payload = .ok (released, window))
      (next : after.delivery = { before.delivery with window := window }.next released)
      (silent : wrote trace = []) : Haul before (.delivery event) after trace
  | write (event : Delivery.Event) (after : Connection) (count : Nat) (rest : Bytes)
      (released : List Bytes) (trace : List Relay.Deed)
      (writing : before.delivery.phase = .writing rest released)
      (same : after.carried = before.carried)
      (next : after.delivery =
        if rest.drop count = [] then
          { before.delivery with total := before.delivery.total + count }.next released
        else
          { before.delivery with
            total := before.delivery.total + count
            phase := .writing (rest.drop count) released })
      (wrote : wrote trace = rest.take count) : Haul before (.delivery event) after trace
  | finish (event : Delivery.Event) (after : Connection) (failure : Option Failure)
      (trace : List Relay.Deed) (fewer : after.carried.Subperm before.carried)
      (running : before.delivery.hasEnded = false)
      (through : failure = none → before.delivery.phase = .receiving ∧
        before.carried = [] ∧ before.deserted = true)
      (ended : after.delivery = { before.delivery with phase := .ended failure })
      (silent : wrote trace = []) : Haul before (.delivery event) after trace

theorem set_phase_swaps (connection : Connection) (courier : Courier) (phase : Phase) :
    ((connection.phase courier).reply?.toList ++ (connection.setPhase courier phase).carried).Perm
      (phase.reply?.toList ++ connection.carried) := by
  have replies : (connection.setPhase courier phase).replies = connection.replies := rfl
  apply List.perm_iff_count.mpr
  intro entry
  cases courier <;>
    · simp only [carried, phase_set_phase, replies, List.count_append, reduceCtorEq, if_true,
        if_false]
      omega

theorem set_phase_keeps (connection : Connection) (courier : Courier) (phase : Phase)
    (same : phase.reply? = (connection.phase courier).reply?) :
    (connection.setPhase courier phase).carried.Perm connection.carried := by
  have swaps := set_phase_swaps connection courier phase
  rw [same] at swaps
  exact (List.perm_append_left_iff _).mp swaps

theorem set_phase_fetches (connection : Connection) (courier : Courier) (phase : Phase)
    (none : (connection.phase courier).reply? = none) :
    (connection.setPhase courier phase).carried.Perm
      (phase.reply?.toList ++ connection.carried) := by
  have swaps := set_phase_swaps connection courier phase
  rw [none] at swaps
  exact swaps

theorem set_phase_loses (connection : Connection) (courier : Courier) (phase : Phase)
    (none : phase.reply? = none) :
    (connection.setPhase courier phase).carried.Subperm connection.carried := by
  have swaps := set_phase_swaps connection courier phase
  rw [none] at swaps
  exact (List.sublist_append_right _ _).subperm.trans swaps.subperm

theorem hand_keeps (connection : Connection) (courier : Courier) (reply : Nat × Bytes)
    (phase : Phase) (none : phase.reply? = none)
    (holds : (connection.phase courier).reply? = some reply) :
    ({ connection with replies := connection.replies ++ [reply] }.setPhase courier
      phase).carried.Perm connection.carried := by
  have swaps := set_phase_swaps { connection with replies := connection.replies ++ [reply] }
    courier phase
  have held : ({ connection with replies := connection.replies ++ [reply] } : Connection).phase
      courier = connection.phase courier := rfl
  have queued : ({ connection with replies := connection.replies ++ [reply] } :
      Connection).carried = connection.carried ++ [reply] := (List.append_assoc ..).symm
  rw [held, holds, none, queued] at swaps
  have moved : ([reply] ++ _).Perm (connection.carried ++ [reply]) := swaps
  exact (List.perm_append_left_iff [reply]).mp (moved.trans List.perm_append_comm)

theorem deserted_carries (connection : Connection) (gone : connection.deserted = true) :
    connection.carried = connection.replies := by
  have left := (deserted_iff connection).mp gone
  obtain ⟨first, alpha⟩ := left .alpha
  obtain ⟨second, beta⟩ := left .beta
  rw [carried, alpha, beta]
  rfl

section Moves

variable (now : Nat) (before after : Connection) (action : Action) (deeds : List Deed)

theorem move_haul (move : Move now before action after deeds) :
    Haul before action after (deeds.filterMap Relay.Deed.ofClient?) := by
  cases move with
  | decide courier deciding =>
      refine .quiet _ _ _ (set_phase_keeps _ courier _ ?_) (by simp) rfl rfl
      rw [deciding]
      split_ifs <;> rfl
  | join courier staying =>
      refine .quiet _ _ _ (set_phase_keeps _ courier .waiting ?_) (by simp) rfl rfl
      exact (congrArg Phase.reply? staying).symm
  | heed courier waiting =>
      refine .quiet _ _ _ (set_phase_keeps _ courier .told ?_) (by simp) rfl rfl
      exact (congrArg Phase.reply? waiting).symm
  | weigh courier told =>
      refine .quiet _ _ _ (set_phase_keeps _ courier _ ?_) (by simp) rfl rfl
      rw [told]
      split_ifs <;> rfl
  | pack _ courier parcel queue internal ready takes =>
      refine .quiet _ _ _ (set_phase_keeps _ courier (.packed parcel) ?_) ?_ rfl rfl
      · rcases ready with leaving | waiting
        · exact (congrArg Phase.reply? leaving).symm
        · exact (congrArg Phase.reply? waiting).symm
      · exact fun other trip _ same => absurd same (internal other trip)
  | drain _ courier queue internal ready shut drained same =>
      refine .quiet _ _ _ (set_phase_keeps _ courier .lingering ?_) ?_ rfl rfl
      · rcases ready with leaving | waiting
        · exact (congrArg Phase.reply? leaving).symm
        · exact (congrArg Phase.reply? waiting).symm
      · exact fun other trip _ same => absurd same (internal other trip)
  | clear courier parcel packed =>
      refine .quiet _ _ _ (set_phase_keeps _ courier (.departing parcel) ?_) (by simp) rfl rfl
      exact (congrArg Phase.reply? packed).symm
  | linger courier parcel queue lingering takes empty =>
      refine .quiet _ _ _ (set_phase_keeps _ courier (.polling parcel.serial now) ?_) (by simp)
        rfl rfl
      exact (congrArg Phase.reply? lingering).symm
  | depart courier parcel departing =>
      refine .quiet _ _ _ (set_phase_keeps _ courier (.away parcel.serial now) ?_) (by simp) rfl rfl
      exact (congrArg Phase.reply? departing).symm
  | bring courier serial since trip reply away read =>
      refine .fetch _ courier trip reply _ ?_ read ?_ rfl rfl
      · rw [hasLeft, away]
      · exact set_phase_fetches _ courier _ (congrArg Phase.reply? away)
  | bringLate courier serial since trip reply polling read =>
      refine .fetch _ courier trip (some reply) _ ?_ read ?_ rfl rfl
      · rw [hasLeft, polling]
      · exact set_phase_fetches _ courier _ (congrArg Phase.reply? polling)
  | leave _ courier queue exit deeds same abandons unladen lingered parts unread =>
      have silent : wrote (deeds.filterMap Relay.Deed.ofClient?) = [] := by
        rcases abandons with rfl | ⟨serial, rfl⟩ <;> rfl
      have carried : ({ before with queue := queue }.leave courier exit).carried =
          ({ before with queue := queue }.setPhase courier (.left exit)).carried := by
        unfold Connection.leave
        split_ifs <;> rfl
      have delivery : ({ before with queue := queue }.leave courier exit).delivery =
          before.delivery := by
        unfold Connection.leave
        split_ifs <;> rfl
      have keeps : (before.phase courier).reply? = none →
          ({ before with queue := queue }.leave courier exit).carried.Perm before.carried := by
        intro none
        rw [carried]
        exact set_phase_keeps { before with queue := queue } courier (.left exit) none.symm
      cases parts with
      | waiting phase =>
          exact .quiet _ _ _ (keeps (congrArg Phase.reply? phase)) unread delivery silent
      | away serial since phase =>
          exact .quiet _ _ _ (keeps (congrArg Phase.reply? phase)) unread delivery silent
      | polling serial since phase =>
          exact .quiet _ _ _ (keeps (congrArg Phase.reply? phase)) unread delivery silent
      | handing reply late phase ended =>
          refine .lose _ _ _ ended ?_ unread delivery silent
          rw [carried]
          exact set_phase_loses { before with queue := queue } courier (.left exit) rfl
  | arrive courier reply trip arriving =>
      refine .quiet _ _ _ (set_phase_keeps _ courier _ ?_) (by simp) rfl rfl
      show _ = (before.phase courier).reply?
      rw [arriving]
      cases reply <;> rfl
  | hand courier reply late handing =>
      have holds : (before.phase courier).reply? = some reply := by
        rw [handing]
        rfl
      refine .quiet _ _ _ (hand_keeps before courier reply _ ?_ holds) (by simp) rfl rfl
      split_ifs <;> rfl
  | order serial payload rest released window receiving waiting pushed =>
      refine .order _ _ serial payload released window _ receiving ?_ pushed rfl rfl
      unfold carried
      rw [waiting]
      exact List.perm_middle.symm
  | write count rest released writing =>
      refine .write _ _ count rest released _ writing rfl rfl ?_
      simp [wrote, Relay.Deed.ofClient?]
  | finish event failure replies fewer running through =>
      refine .finish _ _ failure _ ?_ running ?_ rfl rfl
      · exact (List.Sublist.append_left fewer _).subperm
      · intro none
        obtain ⟨receiving, empty, gone⟩ := through none
        rw [deserted_carries before gone]
        exact ⟨receiving, empty, gone⟩
  | enqueue chunk queuing room => exact .quiet _ _ _ (List.Perm.refl _) (by simp) rfl rfl
  | _ => exact .quiet _ _ _ (List.Perm.refl _) (by simp) rfl rfl

end Moves

end HttpTunnel.Client.Connection
