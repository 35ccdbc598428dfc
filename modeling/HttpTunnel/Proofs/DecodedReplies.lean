import HttpTunnel.Proofs.ConnectionRuns
import HttpTunnel.Proofs.DownstreamOrder

/-!
No reply gets lost on its way from a courier to the application. A reply that a courier has
decoded is with the courier, waits for the local writer, waits in its window, or has been put in
order and written; it moves from one of these places to the next, also after the connection has
been cancelled. Only a writer that failed leaves replies behind.
-/

namespace HttpTunnel.Client.Connection

open Relay (Written wrote)
open SerialWindow (numbered)

/-- Where the replies are that couriers have decoded: some were put in order, the others wait in
the window or are still carried. A writer that came through has written all that it could. -/
structure Kept (connection : Connection) (decoded : List (Nat × Bytes)) (output : Bytes)
    (ordered : List Bytes) : Prop where
  next : connection.delivery.window.next = ordered.length + 1
  tidy : connection.delivery.window.Tidy
  shares : decoded.Perm
    (numbered 1 ordered ++ connection.delivery.window.early ++ connection.carried)
  written : Written connection.delivery ordered output
  through : connection.delivery.phase = .ended none →
    connection.deserted = true ∧ connection.carried = [] ∧ output = ordered.flatten

/-- The local writer gave up before it was through. -/
def Broken (connection : Connection) : Prop :=
  ∃ failure, connection.delivery.phase = .ended (some failure)

theorem next_runs (delivery : Delivery) (released : List Bytes) (failure : Option Failure) :
    (delivery.next released).phase ≠ .ended failure := by
  induction released with
  | nil => simp [Delivery.next]
  | cons payload released induction =>
      rw [Delivery.next]
      split_ifs
      · exact induction
      · simp

theorem decoded_none (action : Action) (unread : ∀ courier trip reply,
    action = .answer courier trip → trip.reply ≠ .ok (some reply)) : action.decoded? = none := by
  cases action with
  | answer courier trip =>
      cases read : trip.reply with
      | error failure => simp [Action.decoded?, read]
      | ok reply =>
          cases reply with
          | none => simp [Action.decoded?, read]
          | some reply => exact absurd read (unread courier trip reply rfl)
  | _ => rfl

section Hauls

variable {before after : Connection} {action : Action} {trace : List Relay.Deed}
variable {decoded : List (Nat × Bytes)} {output : Bytes} {ordered : List Bytes}

theorem Kept.whole (kept : before.Kept decoded output ordered) :
    ordered.take (before.delivery.window.next - 1) = ordered := by
  rw [kept.next, Nat.add_sub_cancel, List.take_length]

theorem Kept.passes (kept : before.Kept decoded output ordered) (brought : List (Nat × Bytes))
    (keeps : after.carried.Perm (brought ++ before.carried))
    (same : after.delivery = before.delivery)
    (through : before.delivery.phase = .ended none → after.deserted = true ∧ brought = []) :
    after.Kept (decoded ++ brought) output ordered := by
  have moved : (before.carried ++ brought).Perm after.carried :=
    List.perm_append_comm.trans keeps.symm
  constructor
  · rw [same]
    exact kept.next
  · rw [same]
    exact kept.tidy
  · rw [same]
    have front := kept.shares.append_right brought
    rw [List.append_assoc] at front
    exact front.trans (moved.append_left _)
  · rw [same]
    exact kept.written
  · rw [same]
    intro ended
    obtain ⟨gone, none⟩ := through ended
    obtain ⟨_, empty, all⟩ := kept.through ended
    rw [none, empty] at keeps
    exact ⟨gone, keeps.eq_nil, all⟩

theorem Kept.order (kept : before.Kept decoded output ordered) (serial : Nat) (payload : Bytes)
    (released : List Bytes) (window : SerialWindow Bytes)
    (receiving : before.delivery.phase = .receiving)
    (takes : ((serial, payload) :: after.carried).Perm before.carried)
    (pushed : before.delivery.window.push serial payload = .ok (released, window))
    (next : after.delivery = { before.delivery with window := window }.next released) :
    after.Kept decoded output (ordered ++ released) := by
  have push := SerialWindow.push_spec _ _ _ _ _ kept.tidy pushed
  have same : after.delivery.window = window := by
    rw [next]
    exact Relay.next_window _ _
  have counted : window.next = (ordered ++ released).length + 1 := by
    rw [push.next, kept.next, List.length_append]
    omega
  have run : numbered 1 (ordered ++ released) =
      numbered 1 ordered ++ numbered before.delivery.window.next released := by
    rw [SerialWindow.numbered_append, kept.next, Nat.add_comm]
  constructor
  · rw [same]
    exact counted
  · rw [same]
    exact push.tidy
  · rw [same, run]
    have taken := kept.shares.trans (takes.symm.append_left _)
    have joined : (before.delivery.window.early ++ (serial, payload) :: after.carried).Perm
        (numbered before.delivery.window.next released ++ window.early ++ after.carried) :=
      List.perm_middle.trans (push.split.symm.append_right after.carried)
    simp only [List.append_assoc] at taken joined ⊢
    exact taken.trans (joined.append_left _)
  · have progress := kept.written
    rw [Written, receiving] at progress
    simp only at progress
    rw [kept.whole] at progress
    rw [next]
    apply Relay.next_written
    show _ = ((ordered ++ released).take (window.next - 1)).flatten
    rw [progress, counted, Nat.add_sub_cancel, List.take_length, List.flatten_append]
  · rw [next]
    exact fun ended => absurd ended (next_runs _ _ _)

theorem Kept.write (kept : before.Kept decoded output ordered) (count : Nat) (rest : Bytes)
    (released : List Bytes) (writing : before.delivery.phase = .writing rest released)
    (same : after.carried = before.carried)
    (next : after.delivery =
      if rest.drop count = [] then
        { before.delivery with total := before.delivery.total + count }.next released
      else
        { before.delivery with
          total := before.delivery.total + count
          phase := .writing (rest.drop count) released }) :
    after.Kept decoded (output ++ rest.take count) ordered := by
  have window : after.delivery.window = before.delivery.window := by
    rw [next]
    split_ifs
    · exact Relay.next_window _ _
    · rfl
  have progress := kept.written
  rw [Written, writing] at progress
  simp only at progress
  have split := List.take_append_drop count rest
  constructor
  · rw [window]
    exact kept.next
  · rw [window]
    exact kept.tidy
  · rw [window, same]
    exact kept.shares
  · rw [next]
    split_ifs with done
    · apply Relay.next_written
      rw [done, List.append_nil] at split
      rw [split]
      exact progress
    · show _ ++ rest.take count ++ rest.drop count ++ released.flatten = _
      rw [List.append_assoc output, split]
      exact progress
  · rw [next]
    split_ifs
    · exact fun ended => absurd ended (next_runs _ _ _)
    · intro ended
      cases ended

/-- A writer that hears of no more replies has written all that came in order. -/
theorem Kept.finish (kept : before.Kept decoded output ordered)
    (receiving : before.delivery.phase = .receiving) (empty : before.carried = [])
    (gone : after.deserted = true) (fewer : after.carried.Subperm before.carried)
    (ended : after.delivery = { before.delivery with phase := .ended none }) :
    after.Kept decoded output ordered := by
  have none : after.carried = [] := by
    rw [empty] at fewer
    exact List.subperm_nil.mp fewer
  have progress := kept.written
  rw [Written, receiving] at progress
  simp only at progress
  rw [kept.whole] at progress
  constructor
  · rw [ended]
    exact kept.next
  · rw [ended]
    exact kept.tidy
  · rw [ended, none, ← empty]
    exact kept.shares
  · rw [ended, progress]
    exact List.prefix_rfl
  · exact fun _ => ⟨gone, none, progress⟩

/-- What couriers have decoded is kept in every move, unless the writer fails. -/
theorem Kept.haul (kept : before.Kept decoded output ordered)
    (haul : Haul before action after trace)
    (leaves : before.deserted = true → after.deserted = true) :
    after.Broken ∨ ∃ latest,
      after.Kept (decoded ++ action.decoded?.toList) (output ++ wrote trace) latest := by
  have silence : ∀ trace, wrote trace = [] → output = output ++ wrote trace := by
    intro trace silent
    rw [silent, List.append_nil]
  cases haul with
  | quiet _ _ _ keeps unread same silent =>
      refine .inr ⟨ordered, ?_⟩
      rw [decoded_none action unread, ← silence trace silent]
      exact kept.passes [] keeps same fun ended => ⟨leaves (kept.through ended).1, rfl⟩
  | fetch _ courier trip reply _ present read brings same silent =>
      refine .inr ⟨ordered, ?_⟩
      have got : (Action.answer courier trip).decoded? = reply := by simp [Action.decoded?, read]
      rw [got, ← silence trace silent]
      refine kept.passes reply.toList brings same fun ended => ?_
      obtain ⟨exit, left⟩ := (deserted_iff before).mp (kept.through ended).1 courier
      rw [(has_left_iff before courier).mpr ⟨exit, left⟩] at present
      cases present
  | lose _ _ _ ended fewer unread same silent =>
      cases phase : before.delivery.phase with
      | ended failure =>
          cases failure with
          | some failure => exact .inl ⟨failure, by rw [same, phase]⟩
          | none =>
              refine .inr ⟨ordered, ?_⟩
              obtain ⟨gone, empty, _⟩ := kept.through phase
              rw [empty] at fewer
              have none := List.subperm_nil.mp fewer
              rw [decoded_none action unread, ← silence trace silent]
              exact kept.passes [] (by rw [none, empty]; rfl) same fun _ => ⟨leaves gone, rfl⟩
      | _ => simp [Delivery.hasEnded, phase] at ended
  | order event _ serial payload released window _ receiving takes pushed next silent =>
      refine .inr ⟨ordered ++ released, ?_⟩
      rw [← silence trace silent]
      have kept := kept.order serial payload released window receiving takes pushed next
      simpa [Action.decoded?] using kept
  | write event _ count rest released _ writing same next wrote =>
      refine .inr ⟨ordered, ?_⟩
      rw [wrote]
      have kept := kept.write count rest released writing same next
      simpa [Action.decoded?] using kept
  | finish event _ failure _ fewer running through ended silent =>
      cases failure with
      | some failure => exact .inl ⟨failure, by rw [ended]⟩
      | none =>
          refine .inr ⟨ordered, ?_⟩
          obtain ⟨receiving, empty, gone⟩ := through rfl
          rw [← silence trace silent]
          have kept := kept.finish receiving empty (leaves gone) fewer ended
          simpa [Action.decoded?] using kept

theorem Broken.haul (broken : before.Broken) (haul : Haul before action after trace) :
    after.Broken := by
  obtain ⟨failure, phase⟩ := broken
  cases haul with
  | quiet _ _ _ keeps unread same silent => exact ⟨failure, by rw [same, phase]⟩
  | fetch _ courier trip reply _ present read brings same silent =>
      exact ⟨failure, by rw [same, phase]⟩
  | lose _ _ _ ended fewer unread same silent => exact ⟨failure, by rw [same, phase]⟩
  | order event _ serial payload released window _ receiving takes pushed next silent =>
      rw [phase] at receiving
      cases receiving
  | write event _ count rest released _ writing same next wrote =>
      rw [phase] at writing
      cases writing
  | finish event _ other _ fewer running through ended silent =>
      rw [Delivery.hasEnded, phase] at running
      cases running

end Hauls

end HttpTunnel.Client.Connection

namespace HttpTunnel.Client.Site

open Connection (Action Broken Kept)
open Relay (wrote)
open SerialWindow (numbered)

end HttpTunnel.Client.Site
