import HttpTunnel.Proofs.SendQueueTaking

/-!
Whole histories of the queue of local bytes. Its sender sends and closes, takers take at once or
wait, and those that wait are polled and dropped in any order. Whatever happens, parcels carry the
serials from one on in the order in which they were taken, and the bytes that were sent are those
of the parcels and behind them those that are still queued.
-/

namespace HttpTunnel.Client.SendQueue

/-- A queue and the takers that were started and have neither got anything nor been dropped. One
that was never polled does not stand in the line yet. -/
structure Session (Taker : Type) where
  queue : SendQueue Taker
  underWay : List Taker := []
  deriving DecidableEq, Repr

inductive Act (Taker : Type) where
  | send (chunk : Bytes)
  /-- The sender goes away. -/
  | close
  | ready
  | empty
  | start (taker : Taker)
  | poll (taker : Taker)
  | drop (taker : Taker)
  deriving DecidableEq, Repr

inductive Entry where
  | offered (chunk : Bytes) (offer : Offer)
  | closed
  | drew (draw : Draw)
  | quiet
  deriving DecidableEq, Repr

section Trace

/-- The chunks that the queue took in. -/
def sent (trace : List Entry) : List Bytes :=
  trace.filterMap fun
    | .offered chunk .sent => some chunk
    | _ => none

/-- The parcels that were handed out, in this order. -/
def parcels (trace : List Entry) : List Parcel :=
  trace.filterMap fun
    | .drew (.parcel parcel) => some parcel
    | _ => none

def handedOut (trace : List Entry) : Bytes := (parcels trace).flatMap Parcel.payload

variable (trace further : List Entry)

@[simp] theorem sent_append : sent (trace ++ further) = sent trace ++ sent further :=
  List.filterMap_append

@[simp] theorem parcels_append : parcels (trace ++ further) = parcels trace ++ parcels further :=
  List.filterMap_append

@[simp] theorem handed_out_append :
    handedOut (trace ++ further) = handedOut trace ++ handedOut further := by
  rw [handedOut, parcels_append, List.flatMap_append]
  rfl

end Trace

variable {Taker : Type}

namespace Session

def opened (capacity limit : Nat) : Session Taker :=
  { queue := { capacity := capacity, limit := limit } }

variable [DecidableEq Taker]

/-- A taker that is polled for the first time goes to the end of the line. -/
def act (session : Session Taker) : Act Taker → Session Taker × Entry
  | .send chunk =>
      let (offer, queue) := session.queue.offer chunk
      ({ session with queue := queue }, .offered chunk offer)
  | .close => ({ session with queue := session.queue.close }, .closed)
  | .ready =>
      let (draw, queue) := session.queue.ready
      ({ session with queue := queue }, .drew draw)
  | .empty =>
      let (parcel, queue) := session.queue.empty
      ({ session with queue := queue }, .drew (.parcel parcel))
  | .start taker =>
      if taker ∈ session.underWay then (session, .quiet)
      else ({ session with underWay := taker :: session.underWay }, .quiet)
  | .poll taker =>
      if taker ∈ session.underWay then
        let lined := if taker ∈ session.queue.line then session.queue else session.queue.join taker
        let (draw, queue) := lined.draw taker
        let left := if draw = .waiting then session.underWay else session.underWay.erase taker
        (⟨queue, left⟩, .drew draw)
      else (session, .quiet)
  | .drop taker =>
      if taker ∈ session.underWay then
        (⟨session.queue.leave taker, session.underWay.erase taker⟩, .quiet)
      else (session, .quiet)

def run (session : Session Taker) : List (Act Taker) → Session Taker × List Entry
  | [] => (session, [])
  | first :: acts =>
      let (middle, entry) := session.act first
      let (after, trace) := middle.run acts
      (after, entry :: trace)

end Session

inductive Turn (queue after : SendQueue Taker) : Entry → Prop where
  | takes (chunk : Bytes) (opened : queue.closed = false)
      (counted : after.nextSerial = queue.nextSerial) (same : after.closed = queue.closed)
      (chunks : after.chunks = queue.chunks ++ [chunk]) : Turn queue after (.offered chunk .sent)
  | refuses (chunk : Bytes) (offer : Offer) (refused : offer ≠ .sent)
      (goods : queue.SameGoods after) : Turn queue after (.offered chunk offer)
  | closes (counted : after.nextSerial = queue.nextSerial) (chunks : after.chunks = queue.chunks)
      (closed : after.closed = true) : Turn queue after .closed
  | draws (draw : Draw) (drew : queue.Drew after draw) : Turn queue after (.drew draw)
  | rests (goods : queue.SameGoods after) : Turn queue after .quiet

theorem same_goods_refl (queue : SendQueue Taker) : queue.SameGoods queue := ⟨rfl, rfl, rfl⟩

theorem offer_turn (queue : SendQueue Taker) (chunk : Bytes) :
    Turn queue (queue.offer chunk).2 (.offered chunk (queue.offer chunk).1) := by
  unfold offer
  split_ifs with closed room
  · exact .refuses chunk .closed (by simp) (same_goods_refl queue)
  · exact .takes chunk (Bool.eq_false_iff.mpr closed) rfl rfl rfl
  · exact .refuses chunk .full (by simp) (same_goods_refl queue)

/-- Who stands in the line is not among the goods. -/
theorem Drew.joined {queue after : SendQueue Taker} {taker : Taker} {draw : Draw}
    (drew : (queue.join taker).Drew after draw) : queue.Drew after draw := by
  cases draw with
  | parcel parcel => exact ⟨drew.serial, drew.counted, drew.bytes, drew.closed⟩
  | drained =>
      obtain ⟨closed, empty, same⟩ := drew
      exact ⟨closed, empty, same.counted, same.chunks, same.closed⟩
  | waiting => exact ⟨drew.counted, drew.chunks, drew.closed⟩

variable [DecidableEq Taker]

theorem act_turn (session : Session Taker) (asked : Act Taker) :
    Turn session.queue (session.act asked).1.queue (session.act asked).2 := by
  cases asked with
  | send chunk => exact offer_turn session.queue chunk
  | close => exact .closes rfl rfl rfl
  | ready => exact .draws _ session.queue.ready_drew.1
  | empty => exact .draws _ session.queue.empty_takes.1
  | start taker =>
      rw [Session.act]
      split_ifs <;> exact .rests (same_goods_refl session.queue)
  | poll taker =>
      rw [Session.act]
      split_ifs with known standing
      · exact .draws _ (session.queue.draw_drew taker)
      · exact .draws _ ((session.queue.join taker).draw_drew taker).joined
      · exact .rests (same_goods_refl session.queue)
  | drop taker =>
      rw [Session.act]
      split_ifs
      · exact .rests ⟨rfl, rfl, rfl⟩
      · exact .rests (same_goods_refl session.queue)

/-- What a history of a queue tells about it. -/
structure Ledger (queue : SendQueue Taker) (past : List Entry) : Prop where
  serials : (parcels past).map Parcel.serial = List.range' 1 (parcels past).length
  counted : queue.nextSerial = (parcels past).length + 1
  bytes : handedOut past ++ queue.chunks.flatten = (sent past).flatten
  closed : queue.closed = true ↔ Entry.closed ∈ past

/-- No byte is left in the queue, and none can come any more. -/
structure Spent (queue : SendQueue Taker) : Prop where
  closed : queue.closed = true
  empty : queue.chunks.flatten = []

section Turns

variable {queue after : SendQueue Taker} {past : List Entry} {entry : Entry}

omit [DecidableEq Taker]

theorem Ledger.takes_parcel (ledger : Ledger queue past) {parcel : Parcel}
    (takes : queue.Takes parcel after) : Ledger after (past ++ [.drew (.parcel parcel)]) := by
  have one : parcels [.drew (.parcel parcel)] = [parcel] := rfl
  have out : handedOut [.drew (.parcel parcel)] = parcel.payload := List.append_nil _
  have none : sent [.drew (.parcel parcel)] = [] := rfl
  constructor
  · rw [parcels_append, one, List.map_append, ledger.serials, List.length_append,
      List.range'_append_1.symm]
    simp [takes.serial, ledger.counted, Nat.add_comm]
  · rw [takes.counted, ledger.counted, parcels_append, one, List.length_append]
    rfl
  · rw [handed_out_append, out, sent_append, none, List.append_nil, List.append_assoc,
      ← takes.bytes, ledger.bytes]
  · rw [takes.closed, ledger.closed]
    simp

theorem Ledger.unmoved (ledger : Ledger queue past) (nothing : parcels [entry] = [])
    (counted : after.nextSerial = queue.nextSerial)
    (bytes : after.chunks.flatten = queue.chunks.flatten ++ (sent [entry]).flatten)
    (closed : after.closed = true ↔ queue.closed = true ∨ entry = .closed) :
    Ledger after (past ++ [entry]) := by
  have out : handedOut [entry] = [] := by rw [handedOut, nothing, List.flatMap_nil]
  constructor
  · rw [parcels_append, nothing, List.append_nil]
    exact ledger.serials
  · rw [counted, parcels_append, nothing, List.append_nil]
    exact ledger.counted
  · rw [handed_out_append, out, List.append_nil, bytes, ← List.append_assoc, ledger.bytes,
      sent_append, List.flatten_append]
  · rw [closed, ledger.closed, List.mem_append, List.mem_singleton, eq_comm]

theorem Ledger.same (ledger : Ledger queue past) (goods : queue.SameGoods after)
    (nothing : parcels [entry] = []) (unsent : sent [entry] = []) (other : entry ≠ .closed) :
    Ledger after (past ++ [entry]) := by
  refine ledger.unmoved nothing goods.counted ?_ ?_
  · rw [goods.chunks, unsent, List.flatten_nil, List.append_nil]
  · rw [goods.closed, or_iff_left other]

theorem refused_unsent (chunk : Bytes) (offer : Offer) (refused : offer ≠ .sent) :
    sent [.offered chunk offer] = [] := by
  cases offer with
  | sent => exact absurd rfl refused
  | full => rfl
  | closed => rfl

theorem Ledger.turn (ledger : Ledger queue past) (turn : Turn queue after entry) :
    Ledger after (past ++ [entry]) := by
  cases turn with
  | takes chunk _ counted same chunks =>
      refine ledger.unmoved rfl counted ?_ ?_
      · rw [chunks, List.flatten_append]
        rfl
      · rw [same, or_iff_left (by simp)]
  | refuses chunk offer refused goods =>
      exact ledger.same goods rfl (refused_unsent chunk offer refused) (by simp)
  | closes counted chunks closed =>
      refine ledger.unmoved rfl counted ?_ ?_
      · rw [chunks]
        exact (List.append_nil _).symm
      · simp [closed]
  | draws draw drew =>
      cases draw with
      | parcel parcel => exact ledger.takes_parcel drew
      | drained => exact ledger.same drew.2.2 rfl rfl (by simp)
      | waiting => exact ledger.same drew rfl rfl (by simp)
  | rests goods => exact ledger.same goods rfl rfl (by simp)

theorem opened_ledger (capacity limit : Nat) :
    Ledger (Session.opened capacity limit : Session Taker).queue [] := by
  constructor
  · rfl
  · rfl
  · rfl
  · simp [Session.opened]

theorem Spent.same (spent : queue.Spent) (goods : queue.SameGoods after) : after.Spent :=
  ⟨goods.closed.trans spent.closed, goods.chunks ▸ spent.empty⟩

theorem Spent.turn (spent : queue.Spent) (turn : Turn queue after entry) :
    after.Spent ∧ sent [entry] = [] ∧ ∀ parcel ∈ parcels [entry], parcel.payload = [] := by
  cases turn with
  | takes chunk opened =>
      rw [spent.closed] at opened
      cases opened
  | refuses chunk offer refused goods =>
      exact ⟨spent.same goods, refused_unsent chunk offer refused, nofun⟩
  | closes counted chunks closed => exact ⟨⟨closed, chunks ▸ spent.empty⟩, rfl, nofun⟩
  | draws draw drew =>
      cases draw with
      | parcel parcel =>
          have bytes := drew.bytes
          rw [spent.empty] at bytes
          obtain ⟨payload, rest⟩ := List.append_eq_nil_iff.mp bytes.symm
          refine ⟨⟨drew.closed.trans spent.closed, rest⟩, rfl, ?_⟩
          intro taken member
          rw [List.mem_singleton.mp member, payload]
      | drained => exact ⟨spent.same drew.2.2, rfl, nofun⟩
      | waiting => exact ⟨spent.same drew, rfl, nofun⟩
  | rests goods => exact ⟨spent.same goods, rfl, nofun⟩

end Turns

section Runs

theorem run_ledger (acts : List (Act Taker)) (session : Session Taker) (past : List Entry)
    (ledger : Ledger session.queue past) :
    Ledger (session.run acts).1.queue (past ++ (session.run acts).2) := by
  induction acts generalizing session past with
  | nil =>
      rw [Session.run, List.append_nil]
      exact ledger
  | cons asked acts induction =>
      have whole := induction _ _ (ledger.turn (act_turn session asked))
      rw [List.append_assoc] at whole
      exact whole

theorem run_spent (acts : List (Act Taker)) (session : Session Taker)
    (spent : session.queue.Spent) : sent (session.run acts).2 = [] ∧
      ∀ parcel ∈ parcels (session.run acts).2, parcel.payload = [] := by
  induction acts generalizing session with
  | nil => exact ⟨rfl, nofun⟩
  | cons asked acts induction =>
      obtain ⟨still, unsent, empty⟩ := spent.turn (act_turn session asked)
      obtain ⟨never, none⟩ := induction _ still
      have front : (session.run (asked :: acts)).2 =
          [(session.act asked).2] ++ ((session.act asked).1.run acts).2 := rfl
      rw [front, sent_append, unsent, never, parcels_append]
      refine ⟨rfl, fun parcel member => ?_⟩
      rcases List.mem_append.mp member with first | later
      · exact empty parcel first
      · exact none parcel later

theorem run_split (acts : List (Act Taker)) (session : Session Taker) (before later : List Entry)
    (entry : Entry) (split : (session.run acts).2 = before ++ entry :: later) :
    ∃ earlier asked rest, acts = earlier ++ asked :: rest ∧ (session.run earlier).2 = before ∧
      ((session.run earlier).1.act asked).2 = entry ∧
      (((session.run earlier).1.act asked).1.run rest).2 = later := by
  induction acts generalizing session before with
  | nil => cases before <;> cases split
  | cons asked acts induction =>
      cases before with
      | nil =>
          obtain ⟨same, rest⟩ := List.cons.inj split
          exact ⟨[], asked, acts, rfl, rfl, same, rest⟩
      | cons first before =>
          obtain ⟨same, rest⟩ := List.cons.inj split
          obtain ⟨earlier, made, further, whole, front, is, back⟩ := induction _ before rest
          refine ⟨asked :: earlier, made, further, by rw [whole]; rfl, ?_, is, back⟩
          rw [← same, ← front]
          rfl

end Runs

section Takes

omit [DecidableEq Taker]

theorem take_waits_iff (queue : SendQueue Taker) :
    queue.take.1 = .waiting ↔ queue.closed = false ∧ queue.chunks = [] := by
  unfold take
  cases chunks : queue.chunks with
  | nil => cases queue.closed <;> simp
  | cons chunk rest => simp

theorem take_drained_iff (queue : SendQueue Taker) :
    queue.take.1 = .drained ↔ queue.closed = true ∧ queue.chunks = [] := by
  unfold take
  cases chunks : queue.chunks with
  | nil => cases queue.closed <;> simp
  | cons chunk rest => simp

theorem join_take (queue : SendQueue Taker) (taker : Taker) :
    (queue.join taker).take.1 = queue.take.1 := by
  have same : (queue.join taker).chunks = queue.chunks := rfl
  unfold take
  rw [same]
  cases queue.chunks <;> rfl

end Takes

section Answers

theorem draw_answer (queue : SendQueue Taker) (taker : Taker)
    (holds : queue.holder? = some taker) : (queue.draw taker).1 = queue.take.1 := by
  rw [draw, if_pos holds]
  generalize queue.take = taken
  rcases taken with ⟨draw, after⟩
  cases draw <;> rfl

theorem poll_answer (session : Session Taker) (taker : Taker) (known : taker ∈ session.underWay)
    (first : session.queue.line = [] ∨ session.queue.holder? = some taker) :
    (session.act (.poll taker)).2 = .drew session.queue.take.1 := by
  rw [Session.act, if_pos known]
  rcases first with nobody | holds
  · have joined : (session.queue.join taker).holder? = some taker := by
      rw [holder?, join, nobody]
      rfl
    have absent : taker ∉ session.queue.line := by simp [nobody]
    rw [if_neg absent]
    exact congrArg Entry.drew ((draw_answer _ taker joined).trans (join_take _ taker))
  · have standing : taker ∈ session.queue.line := List.mem_of_mem_head? holds
    rw [if_pos standing]
    exact congrArg Entry.drew (draw_answer _ taker holds)

end Answers

/-- Parcels are numbered from one on in the order in which they were taken, and hold in this order
the bytes that were sent, up to those that are still queued. The news that there will be no more
comes only after the sender has gone and all that it sent has been handed out; from then on no
byte is handed out. A taker that nobody stands before gets these news as soon as they are true,
and waits only for a sender that is still there. -/
theorem bytes_handed_out_once (capacity limit : Nat) (acts : List (Act Taker)) :
    ∃ (session : Session Taker) (trace : List Entry),
      (Session.opened capacity limit).run acts = (session, trace) ∧
      (parcels trace).map Parcel.serial = List.range' 1 (parcels trace).length ∧
      ((parcels trace).map Parcel.payload).flatten ++ session.queue.chunks.flatten =
        (sent trace).flatten ∧
      (∀ before later, trace = before ++ .drew .drained :: later →
        .closed ∈ before ∧
        ((parcels before).map Parcel.payload).flatten = (sent before).flatten ∧
        sent later = [] ∧ ∀ parcel ∈ parcels later, parcel.payload = []) ∧
      (∀ taker ∈ session.underWay,
        (session.queue.line = [] ∨ session.queue.holder? = some taker) →
        ((session.act (.poll taker)).2 = .drew .drained ↔
          session.queue.closed = true ∧ session.queue.chunks = []) ∧
        ((session.act (.poll taker)).2 = .drew .waiting ↔
          session.queue.closed = false ∧ session.queue.chunks = [])) := by
  have ledger := run_ledger acts (Session.opened capacity limit) [] (opened_ledger capacity limit)
  refine ⟨_, _, rfl, ledger.serials, ledger.bytes, ?_, ?_⟩
  · intro before later split
    obtain ⟨earlier, asked, rest, _, front, is, back⟩ := run_split acts _ before later _ split
    have known := run_ledger earlier (Session.opened capacity limit) []
      (opened_ledger capacity limit)
    have turn := act_turn (Session.run (Session.opened capacity limit) earlier).1 asked
    rw [List.nil_append, front] at known
    rw [is] at turn
    cases turn with
    | draws _ drew =>
        obtain ⟨closed, empty, same⟩ := drew
        have bytes := known.bytes
        rw [empty, List.flatten_nil, List.append_nil] at bytes
        have spent : (((Session.opened capacity limit).run earlier).1.act asked).1.queue.Spent :=
          Spent.same ⟨closed, by rw [empty]; rfl⟩ same
        have after := run_spent rest _ spent
        rw [back] at after
        exact ⟨known.closed.mp closed, bytes, after⟩
  · intro taker known first
    rw [poll_answer _ taker known first, Entry.drew.injEq, Entry.drew.injEq]
    exact ⟨take_drained_iff _, take_waits_iff _⟩

/-- One taker waits while another one polls and gets nothing; the bytes that come then go to the
one that waits, under a higher serial. -/
example : parcels ((Session.opened 8 1024).run [.send [65], .ready, .start 0, .poll 0, .ready,
    .send [66], .start 1, .poll 1, .poll 0, .drop 1]).2 = [⟨1, [65]⟩, ⟨2, []⟩, ⟨3, [66]⟩] := by
  decide

end HttpTunnel.Client.SendQueue
