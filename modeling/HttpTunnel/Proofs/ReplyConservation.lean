import HttpTunnel.Proofs.ServingOrder

/-!
What a poller makes of the bytes from downstream. Every reply that a client took carries the
next serial and some bytes, and the replies together with the bytes that are still pending are
what came from downstream, whoever hung up in between. Heartbeats carry nothing, and while
packets are taken in the answers go out in the order of the requests.
-/

namespace HttpTunnel.Server.Poller

open SerialWindow (numbered)

def answersOf (deeds : List Deed) : List (Packet × Answer) :=
  deeds.filterMap fun
    | .answered packet answer => some (packet, answer)
    | _ => none

section Answers

variable (deeds : List Deed)

theorem answers_completed : ((answersOf deeds).map Prod.fst).Sublist (completed deeds) := by
  induction deeds with
  | nil => exact List.Sublist.slnil
  | cons deed deeds induction =>
      cases deed with
      | answered packet answer => exact induction.cons_cons packet
      | missed packet => exact induction.cons packet
      | dropped packet => exact induction.cons packet
      | passedDown payload => exact induction

/-- An answer is a heartbeat, which has no serial and no bytes, or one of the replies. -/
theorem answer_cases (packet : Packet) (answer : Answer)
    (answered : (packet, answer) ∈ answersOf deeds) :
    answer.reply = ⟨none, []⟩ ∨ ∃ reply ∈ dataOf deeds, answer = .data reply.1 reply.2 := by
  obtain ⟨deed, member, same⟩ := List.mem_filterMap.mp answered
  cases deed with
  | answered other given =>
      cases same
      cases answer with
      | heartbeat => exact .inl rfl
      | data serial payload =>
          apply Or.inr
          exact ⟨(serial, payload), List.mem_filterMap.mpr ⟨_, member, rfl⟩, rfl⟩
  | _ => cases same

end Answers

section Runs

variable {terms : Terms} {start : Nat}

theorem pays_of_turn {poller after : Poller} {past : List Entry} {entry : Entry}
    (pays : Pays (ofStart terms start) (deedsOf past) (received past) poller)
    (turn : Turn poller after entry) :
    Pays (ofStart terms start) (deedsOf (past ++ [entry])) (received (past ++ [entry])) after := by
  cases turn with
  | queues packet accepts =>
      rw [deeds_of_delivered, received_delivered]
      exact pays
  | turnsAway packet delivery other =>
      rw [deeds_of_delivered, received_delivered]
      exact pays
  | steps moment event _ deeds stepped =>
      rw [deeds_of_stepped, received_stepped]
      exact pays.trans (step_pays poller after deeds stepped)

theorem run_pays (script : List Happening) (poller : Poller) (trace : List Entry)
    (ran : (ofStart terms start).run script = some (poller, trace)) :
    Pays (ofStart terms start) (deedsOf trace) (received trace) poller := by
  apply run_keeps (fun poller past =>
    Pays (ofStart terms start) (deedsOf past) (received past) poller) ?_ script _ poller [] trace
    ?_ ran
  · intro before after past entry pays turn
    exact pays_of_turn pays turn
  · exact pays_nothing rfl rfl rfl

end Runs

/-- At every point of every run the replies that clients took are numbered from one on without a
gap, and the next number is the one to be given. None of them is empty, all other answers carry
neither a serial nor bytes, and the payloads followed by the pending bytes are the bytes that
came from downstream. Until the poller takes no more packets in, answered requests have ascending
serials. -/
theorem replies_conserve_bytes (terms : Terms) (start : Nat) (script : List Happening)
    (poller : Poller) (trace : List Entry)
    (ran : (ofStart terms start).run script = some (poller, trace)) :
    (dataOf (deedsOf trace)).map Prod.fst = List.range' 1 (dataOf (deedsOf trace)).length ∧
      poller.nextReply = (dataOf (deedsOf trace)).length + 1 ∧
      (∀ reply ∈ dataOf (deedsOf trace), reply.2 ≠ []) ∧
      (∀ packet answer, (packet, answer) ∈ answersOf (deedsOf trace) →
        answer.reply = ⟨none, []⟩ ∨
          ∃ reply ∈ dataOf (deedsOf trace), answer = .data reply.1 reply.2) ∧
      ((dataOf (deedsOf trace)).map Prod.snd).flatten ++ poller.pending = received trace ∧
      ((answersOf (served trace)).map fun answered => answered.1.serial).Pairwise (· < ·) := by
  obtain ⟨_, orderly⟩ := run_orderly terms start script poller trace ran
  obtain ⟨payloads, data, counted, bytes, filled⟩ := run_pays script poller trace ran
  have items : (dataOf (deedsOf trace)).map Prod.snd = payloads := by
    rw [data, SerialWindow.numbered_items]
  have count : (dataOf (deedsOf trace)).length = payloads.length := by
    rw [← items, List.length_map]
  refine ⟨?_, ?_, ?_, answer_cases (deedsOf trace), ?_, ?_⟩
  · rw [count, data]
    exact SerialWindow.numbered_serials 1 payloads
  · rw [count, counted, Nat.add_comm]
    rfl
  · intro reply member
    apply filled
    rw [← items]
    exact List.mem_map_of_mem member
  · rw [items, ← bytes]
    rfl
  · have sublist := (answers_completed (served trace)).map Packet.serial
    rw [List.map_map] at sublist
    exact orderly.ascending.sublist sublist

/-- A client hangs up before its answer, and the next one takes the bytes under the same serial. -/
def hangingUp : List Happening :=
  let away : Nat → Bool := fun client => client == 1
  [.deliver ⟨0, 1, []⟩, .event ⟨1, away⟩ .packet, .event ⟨11, away⟩ .promptDue,
    .deliver ⟨1, 2, []⟩, .event ⟨12, away⟩ .packet, .event ⟨13, away⟩ (.chunk [5, 6]),
    .deliver ⟨2, 3, []⟩, .event ⟨14, away⟩ .packet, .event ⟨15, away⟩ (.chunk [7]),
    .deliver ⟨3, 5, []⟩, .event ⟨16, away⟩ .packet, .event ⟨17, away⟩ .close]

theorem hanging_up_conserves_bytes : ∃ poller trace,
    (ofStart {} 0).run hangingUp = some (poller, trace) ∧
      dataOf (deedsOf trace) = [(1, [5, 6])] ∧
      Deed.missed ⟨1, 2, []⟩ ∈ deedsOf trace ∧
      [5, 6] ++ poller.pending = received trace := by
  refine ⟨_, _, rfl, rfl, ?_, ?_⟩
  · decide
  · exact (replies_conserve_bytes {} 0 hangingUp _ _ rfl).2.2.2.2.1

end HttpTunnel.Server.Poller
