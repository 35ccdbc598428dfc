import HttpTunnel.Proofs.ParkedRequests
import HttpTunnel.Proofs.PollerPartings
import HttpTunnel.Proofs.TunnelRuns

/-!
Where the bytes from downstream end up. Every byte that the reader read is with a client, with
the poller, in the slot, in the hand of the reader, or lost in one of two ways: it was in the
slot when the poller released the link, or in the hand of the reader when that gave up. When
downstream has ended and somebody comes for the last bytes, only the slot can be lost, and it is
empty if the poller has seen the end of what the reader handed over. A poller whose buffer is
full does not look at the slot any more once the link has stopped.
-/

namespace HttpTunnel.Server.Tunnel

/-- The reader has seen the end of the downstream connection. -/
def SawEnd (trace : List Stride) : Prop :=
  ∃ stride ∈ trace, stride.action = .link (.inflow .endOfStream)

/-- The poller has seen that the slot is empty and the reader has ended. -/
def Drained (trace : List Stride) : Prop :=
  ∃ stride ∈ trace, stride.action = .poller .downstreamEnd

/-- The poller ends, and has no bytes left or offers them to a request whose client is there. -/
def Stride.Fetches (stride : Stride) : Prop :=
  ∃ event, stride.action = .poller event ∧ stride.after.poller.hasEnded = true ∧
    (stride.before.poller.pending = [] ∨
      ∃ packet ∈ stride.before.poller.offered event, packet.client ∉ stride.before.gone)

def Fetched (trace : List Stride) : Prop := ∃ stride ∈ trace, stride.Fetches

section Marks

variable {mark : Stride → Prop} {trace further : List Stride} {stride : Stride}

theorem marked_append (marked : ∃ other ∈ trace ++ further, mark other) :
    (∃ other ∈ trace, mark other) ∨ ∃ other ∈ further, mark other := by
  obtain ⟨other, member, marks⟩ := marked
  rcases List.mem_append.mp member with early | late
  · exact .inl ⟨other, early, marks⟩
  · exact .inr ⟨other, late, marks⟩

theorem marked_last (marked : ∃ other ∈ trace ++ [stride], mark other) :
    (∃ other ∈ trace, mark other) ∨ mark stride := by
  rcases marked_append marked with early | ⟨other, late, marks⟩
  · exact .inl early
  · rw [List.mem_singleton.mp late] at marks
    exact .inr marks

end Marks

theorem link_after_slot (tunnel : Tunnel) (event : Poller.Event)
    (allowed : tunnel.allows event = true) :
    tunnel.link.fromDown.flatten = event.brings ++ (tunnel.linkAfter event).fromDown.flatten := by
  cases event with
  | chunk chunk =>
      have waiting : tunnel.link.fromDown.head? = some chunk := beq_iff_eq.mp allowed
      cases slot : tunnel.link.fromDown with
      | nil =>
          rw [slot] at waiting
          cases waiting
      | cons first rest =>
          rw [slot] at waiting
          cases waiting
          simp [Poller.Event.brings, linkAfter, Link.drain, slot]
  | passed =>
      simp only [linkAfter, Poller.Event.brings, List.nil_append]
      cases tunnel.poller.phase <;> simp only [Link.feed]
      split_ifs <;> rfl
  | _ => rfl

theorem link_after_inflow (tunnel : Tunnel) (event : Poller.Event) :
    (tunnel.linkAfter event).inflow = tunnel.link.inflow := by
  cases event with
  | chunk chunk =>
      simp only [linkAfter, Link.drain]
      cases tunnel.link.fromDown <;> rfl
  | passed =>
      simp only [linkAfter]
      cases tunnel.poller.phase <;> simp only [Link.feed]
      split_ifs <;> rfl
  | _ => rfl

/-- What is known about the bytes from downstream at every point of a run. -/
structure Flow (tunnel : Tunnel) (trace : List Stride) : Prop where
  uncrowded : tunnel.poller.Uncrowded
  balance : bytesRead trace = handed trace ++ tunnel.poller.pending ++ spilled trace ++
    tunnel.link.fromDown.flatten ++ tunnel.link.inflow.hand ++ forsaken trace
  released : tunnel.poller.hasEnded = true → tunnel.link.owned = false ∧ tunnel.link.fromDown = []
  reading : tunnel.link.inflow.hasEnded = false → forsaken trace = []
  serving : tunnel.poller.hasEnded = false → spilled trace = []
  ended : SawEnd trace → tunnel.link.inflow.hasEnded = true ∧ forsaken trace = []
  drained : Drained trace →
    tunnel.link.inflow.hasEnded = true ∧ tunnel.link.fromDown.flatten = [] ∧ spilled trace = []
  fetched : Fetched trace → tunnel.poller.hasEnded = true ∧ tunnel.poller.pending = []

theorem of_start_flow (terms : Terms) (start : Nat) : (ofStart terms start).Flow [] := by
  constructor
  · exact Poller.of_start_uncrowded terms start
  · rfl
  · intro ended
    cases ended
  · exact fun _ => rfl
  · exact fun _ => rfl
  · rintro ⟨stride, member, _⟩
    cases member
  · rintro ⟨stride, member, _⟩
    cases member
  · rintro ⟨stride, member, _⟩
    cases member

section Strides

variable (now : Nat) (before after : Tunnel)

theorem bytes_read_poller (event : Poller.Event) (deeds : List Deed) :
    bytesRead [⟨now, .poller event, before, after, deeds⟩] = [] := rfl

theorem forsaken_poller (event : Poller.Event) (deeds : List Deed) :
    forsaken [⟨now, .poller event, before, after, deeds⟩] = [] := rfl

theorem handed_poller (event : Poller.Event) (deeds : List Poller.Deed) :
    handed [⟨now, .poller event, before, after, deeds.map .poller⟩] =
      ((Poller.dataOf deeds).map Prod.snd).flatten := by
  simp [handed, pollerDeeds, List.filterMap_map]

theorem spilled_poller (event : Poller.Event) (deeds : List Deed)
    (link : after.link =
      if after.poller.hasEnded then (before.linkAfter event).release
      else before.linkAfter event) :
    spilled [⟨now, .poller event, before, after, deeds⟩] ++ after.link.fromDown.flatten =
      (before.linkAfter event).fromDown.flatten := by
  cases finished : after.poller.hasEnded with
  | true =>
      rw [link, if_pos finished]
      simp [spilled, finished, Link.release]
  | false =>
      rw [link, if_neg (by simp [finished])]
      simp [spilled, finished]

theorem bytes_read_inflow (event : Inflow.Event) :
    bytesRead [⟨now, .link (.inflow event), before, after, []⟩] = event.reads :=
  List.append_nil _

theorem forsaken_inflow (event : Inflow.Event) :
    forsaken [⟨now, .link (.inflow event), before, after, []⟩] =
      before.link.inflow.forsakes event :=
  List.append_nil _

theorem handed_link (action : Link.Action) :
    handed [⟨now, .link action, before, after, []⟩] = [] := rfl

theorem spilled_link (action : Link.Action) :
    spilled [⟨now, .link action, before, after, []⟩] = [] := rfl

end Strides

section Turns

variable {tunnel after : Tunnel} {past : List Stride}

/-- Strides that tell nothing about the bytes from downstream. -/
structure Silent (strides : List Stride) : Prop where
  read : bytesRead strides = []
  handed : handed strides = []
  spilled : spilled strides = []
  forsaken : forsaken strides = []
  elsewhere : ∀ stride ∈ strides, stride.action ≠ .link (.inflow .endOfStream) ∧
    ∀ event, stride.action ≠ .poller event

theorem Flow.still (flow : tunnel.Flow past) (strides : List Stride) (silent : Silent strides)
    (pending : after.poller.pending = tunnel.poller.pending)
    (parked : after.poller.parked = tunnel.poller.parked)
    (phase : after.poller.phase = tunnel.poller.phase)
    (inflow : after.link.inflow = tunnel.link.inflow)
    (slot : after.link.fromDown = tunnel.link.fromDown)
    (owned : after.link.owned = tunnel.link.owned) : after.Flow (past ++ strides) := by
  have finished : after.poller.hasEnded = tunnel.poller.hasEnded := by
    unfold Poller.hasEnded
    rw [phase]
  have known := flow.uncrowded
  constructor
  · constructor
    · rw [parked]
      exact known.most
    · rw [phase, parked]
      exact known.waiting
    · rw [phase, parked, pending]
      exact known.dry
    · rw [phase]
      exact known.fits
  · rw [bytes_read_append, silent.read, handed_append, silent.handed, spilled_append,
      silent.spilled, forsaken_append, silent.forsaken, pending, slot, inflow]
    simp only [List.append_nil]
    exact flow.balance
  · rw [finished, owned, slot]
    exact flow.released
  · rw [inflow, forsaken_append, silent.forsaken, List.append_nil]
    exact flow.reading
  · rw [finished, spilled_append, silent.spilled, List.append_nil]
    exact flow.serving
  · intro saw
    rw [inflow, forsaken_append, silent.forsaken, List.append_nil]
    apply flow.ended
    apply (marked_append saw).resolve_right
    rintro ⟨stride, member, same⟩
    exact (silent.elsewhere stride member).1 same
  · intro dry
    rw [inflow, slot, spilled_append, silent.spilled, List.append_nil]
    apply flow.drained
    apply (marked_append dry).resolve_right
    rintro ⟨stride, member, same⟩
    exact (silent.elsewhere stride member).2 _ same
  · intro fetched
    rw [finished, pending]
    apply flow.fetched
    apply (marked_append fetched).resolve_right
    rintro ⟨stride, member, event, same, _⟩
    exact (silent.elsewhere stride member).2 event same

theorem Flow.poller (flow : tunnel.Flow past) (now : Nat) (event : Poller.Event)
    (deeds : List Poller.Deed) (allowed : tunnel.allows event = true)
    (stepped : tunnel.poller.step (tunnel.moment now) event = some (after.poller, deeds))
    (link : after.link =
      if after.poller.hasEnded then (tunnel.linkAfter event).release
      else tunnel.linkAfter event) :
    after.Flow (past ++ [⟨now, .poller event, tunnel, after, deeds.map .poller⟩]) := by
  have active := Poller.step_active _ _ _ stepped
  have unspilled := flow.serving active
  have taken := link_after_slot tunnel event allowed
  have left := spilled_poller now tunnel after event (deeds.map .poller) link
  have inflow : after.link.inflow = tunnel.link.inflow := by
    rw [link, ← link_after_inflow tunnel event]
    split_ifs <;> rfl
  constructor
  · exact Poller.step_uncrowds _ _ _ _ _ flow.uncrowded stepped
  · obtain ⟨payloads, data, _, paid, _⟩ := Poller.step_pays _ _ _ stepped
    have given : ((Poller.dataOf deeds).map Prod.snd).flatten = payloads.flatten := by
      rw [data, SerialWindow.numbered_items]
    rw [bytes_read_append, bytes_read_poller, forsaken_append, forsaken_poller, handed_append,
      handed_poller, given, spilled_append, unspilled, inflow, flow.balance, unspilled, taken,
      ← left]
    have whole := congrArg (handed past ++ · ++ spilled [⟨now, .poller event, tunnel, after,
      deeds.map .poller⟩] ++ after.link.fromDown.flatten ++ tunnel.link.inflow.hand ++
      forsaken past) paid
    simp only [List.append_nil, List.nil_append, List.append_assoc] at whole ⊢
    exact whole
  · intro finished
    rw [link, if_pos finished]
    exact ⟨rfl, rfl⟩
  · intro active
    rw [inflow] at active
    rw [forsaken_append, forsaken_poller, List.append_nil]
    exact flow.reading active
  · intro serving
    rw [spilled_append, unspilled]
    simp [spilled, serving]
  · intro saw
    have before : SawEnd past := (marked_last saw).resolve_right (by simp)
    rw [inflow, forsaken_append, forsaken_poller, List.append_nil]
    exact flow.ended before
  · intro dry
    have empty : tunnel.link.inflow.hasEnded = true ∧ tunnel.link.fromDown.flatten = [] := by
      rcases marked_last dry with early | late
      · have known := flow.drained early
        exact ⟨known.1, known.2.1⟩
      · cases late
        have quiet := Bool.and_eq_true_iff.mp allowed
        rw [List.isEmpty_iff.mp quiet.1]
        exact ⟨quiet.2, rfl⟩
    have rest : (tunnel.linkAfter event).fromDown.flatten = [] := by
      rw [empty.2] at taken
      exact (List.append_eq_nil_iff.mp taken.symm).2
    rw [rest] at left
    have none := List.append_eq_nil_iff.mp left
    rw [inflow, spilled_append, unspilled, none.1]
    exact ⟨empty.1, none.2, rfl⟩
  · intro fetched
    rcases marked_last fetched with early | ⟨other, same, finished, fetches⟩
    · have finished := (flow.fetched early).1
      rw [active] at finished
      cases finished
    · cases same
      refine ⟨finished, ?_⟩
      apply Poller.step_fetches _ _ _ flow.uncrowded.most stepped finished
      simpa [moment] using fetches

theorem Flow.link (flow : tunnel.Flow past) (now : Nat) (action : Link.Action)
    (moved : Link.Moved tunnel.link action after.link) (poller : after.poller = tunnel.poller) :
    after.Flow (past ++ [⟨now, .link action, tunnel, after, []⟩]) := by
  have unmarked : ∀ event : Poller.Event,
      Stride.action ⟨now, .link action, tunnel, after, []⟩ ≠ .poller event := by simp
  have fetched : Fetched (past ++ [⟨now, .link action, tunnel, after, []⟩]) → Fetched past := by
    intro marks
    apply (marked_last marks).resolve_right
    rintro ⟨event, same, _⟩
    exact unmarked event same
  have drained : Drained (past ++ [⟨now, .link action, tunnel, after, []⟩]) → Drained past :=
    fun marks => (marked_last marks).resolve_right (unmarked _)
  cases moved with
  | inflow event _ forwarded carried slot owned owner =>
      -- A reader that moves has lost nothing so far, so what it holds comes last.
      have active := carried.active
      have unlost := flow.reading active
      constructor
      · rw [poller]
        exact flow.uncrowded
      · rw [bytes_read_append, bytes_read_inflow, forsaken_append, forsaken_inflow, handed_append,
          handed_link, spilled_append, spilled_link, slot, poller, unlost, flow.balance, unlost]
        have bytes := carried.bytes
        simp only [List.append_nil, List.nil_append, List.append_assoc,
          List.flatten_append] at bytes ⊢
        rw [bytes]
      · intro finished
        rw [poller] at finished
        obtain ⟨free, empty⟩ := flow.released finished
        have none : forwarded = none := by
          by_contra some
          rw [owner some] at free
          cases free
        rw [owned, slot, empty, none]
        exact ⟨free, rfl⟩
      · intro reading
        rw [forsaken_append, forsaken_inflow, unlost]
        exact carried.spared reading
      · intro serving
        rw [poller] at serving
        rw [spilled_append, spilled_link, List.append_nil]
        exact flow.serving serving
      · intro saw
        rcases marked_last saw with early | late
        · have finished := (flow.ended early).1
          rw [active] at finished
          cases finished
        · cases late
          rw [forsaken_append, forsaken_inflow, unlost]
          exact carried.ended rfl
      · intro dry
        have finished := (flow.drained (drained dry)).1
        rw [active] at finished
        cases finished
      · intro marks
        rw [poller]
        exact flow.fetched (fetched marks)
  | outflow event _ inflow slot owned =>
      have silent : Silent [⟨now, .link (.outflow event), tunnel, after, []⟩] :=
        ⟨rfl, rfl, rfl, rfl, by simp⟩
      apply flow.still _ silent
      · rw [poller]
      · rw [poller]
      · rw [poller]
      · exact inflow
      · exact slot
      · exact owned

theorem Flow.turn {strides : List Stride} (flow : tunnel.Flow past)
    (turn : Turn tunnel after strides) : after.Flow (past ++ strides) := by
  cases turn with
  | poller now event _ deeds allowed stepped link =>
      exact flow.poller now event deeds allowed stepped link
  | link now action _ moved poller => exact flow.link now action moved poller
  | enqueues now _ deeds pending parked phase link quiet =>
      have silent : Silent [⟨now, .enqueue, tunnel, after, deeds⟩] := by
        refine ⟨rfl, ?_, rfl, rfl, by simp⟩
        simp only [handed, pollerDeeds, List.flatMap_singleton, quiet]
        rfl
      apply flow.still _ silent pending parked phase
      · rw [link]
      · rw [link]
      · rw [link]
  | rests _ poller link =>
      have silent : Silent [] := ⟨rfl, rfl, rfl, rfl, by simp⟩
      apply flow.still _ silent
      · rw [poller]
      · rw [poller]
      · rw [poller]
      · rw [link]
      · rw [link]
      · rw [link]

end Turns

/-- Every byte that the reader read is in one of six places, at every point of every run. -/
theorem run_flow (terms : Terms) (start : Nat) (script : List (Nat × Happening)) (tunnel : Tunnel)
    (trace : List Stride) (ran : (ofStart terms start).run script = some (tunnel, trace)) :
    tunnel.Flow trace := by
  apply run_keeps (fun tunnel past => tunnel.Flow past) ?_ script _ tunnel [] trace ?_ ran
  · intro before after past strides flow turn
    exact flow.turn turn
  · exact of_start_flow terms start

/-- When the reader has seen the end of downstream and the poller ended with a client there to
take what was left, clients have taken all that the reader read, but for what was in the slot
when the poller let go of the link. Nothing was there if the poller has seen the slot empty after
the end of the reader. -/
theorem flush_hands_all_but_slot (terms : Terms) (start : Nat) (script : List (Nat × Happening))
    (tunnel : Tunnel) (trace : List Stride)
    (ran : (ofStart terms start).run script = some (tunnel, trace)) (saw : SawEnd trace)
    (fetched : Fetched trace) :
    bytesRead trace = handed trace ++ spilled trace ∧
      (bytesRead trace = handed trace ↔ spilled trace = []) ∧
      (Drained trace → spilled trace = []) := by
  have flow := run_flow terms start script tunnel trace ran
  obtain ⟨finished, empty⟩ := flow.fetched fetched
  obtain ⟨ended, unlost⟩ := flow.ended saw
  have all : bytesRead trace = handed trace ++ spilled trace := by
    have balance := flow.balance
    rw [empty, unlost, (flow.released finished).2, Inflow.hand_ended _ ended] at balance
    simpa using balance
  refine ⟨all, ?_, ?_⟩
  · rw [all]
    exact List.append_right_eq_self
  · exact fun dry => (flow.drained dry).2.2

def flushing : List (Nat × Happening) :=
  [(0, .downstream (.send [97, 98])), (0, .act (.link (.inflow (.received [97, 98])))),
    (0, .act (.link (.inflow .handed))), (0, .act (.poller (.chunk [97, 98]))),
    (3, .downstream .finish), (3, .act (.link (.inflow .endOfStream))),
    (3, .act (.poller .downstreamEnd)), (6, .deliver ⟨0, 1, []⟩), (6, .act .enqueue),
    (6, .act (.poller .packet))]

theorem flushing_hands_all : ∃ tunnel trace,
    (ofStart { pollFor := 50 } 0).run flushing = some (tunnel, trace) ∧
      tunnel.poller.phase = .ended (some .downstreamClosed) ∧ bytesRead trace = [97, 98] ∧
      handed trace = [97, 98] := by
  have came : ∃ tunnel trace, (ofStart { pollFor := 50 } 0).run flushing = some (tunnel, trace) ∧
      tunnel.poller.phase = .ended (some .downstreamClosed) ∧ bytesRead trace = [97, 98] ∧
      SawEnd trace ∧ Drained trace ∧ Fetched trace := by
    refine ⟨_, _, rfl, rfl, rfl, ?_, ?_, ?_⟩
    · exact ⟨_, .tail _ (.tail _ (.tail _ (.head _))), rfl⟩
    · exact ⟨_, .tail _ (.tail _ (.tail _ (.tail _ (.head _)))), rfl⟩
    · refine ⟨_, .tail _ (.tail _ (.tail _ (.tail _ (.tail _ (.tail _ (.head _)))))), .packet, rfl,
        rfl, .inr ⟨⟨0, 1, []⟩, .head _, List.not_mem_nil⟩⟩
  obtain ⟨tunnel, trace, ran, finished, read, saw, dry, fetched⟩ := came
  obtain ⟨_, whole, empty⟩ :=
    flush_hands_all_but_slot { pollFor := 50 } 0 flushing tunnel trace ran saw fetched
  have same := whole.mpr (empty dry)
  exact ⟨tunnel, trace, ran, finished, read, same.symm.trans read⟩

/-- The end of downstream comes while the buffer of the poller is full and a chunk waits in the
slot. -/
def flushingFull : List (Nat × Happening) :=
  [(0, .downstream (.send [97, 98, 99, 100, 101, 102, 103, 104])),
    (0, .act (.link (.inflow (.received [97, 98, 99, 100])))),
    (0, .act (.link (.inflow .handed))), (0, .act (.poller (.chunk [97, 98, 99, 100]))),
    (0, .act (.link (.inflow (.received [101, 102, 103, 104])))),
    (0, .act (.link (.inflow .handed))), (3, .downstream .finish),
    (3, .act (.link (.inflow .endOfStream))), (3, .act (.poller .stop)),
    (6, .deliver ⟨0, 1, []⟩), (6, .act .enqueue), (6, .act (.poller .packet))]

/-- The reader read eight bytes and saw the end of downstream, a client came for the last bytes
in time, and it was given four. -/
theorem full_buffer_leaves_slot : ∃ tunnel trace,
    (ofStart { pollFor := 50, readSize := 4 } 0).run flushingFull = some (tunnel, trace) ∧
      tunnel.poller.phase = .ended (some .downstreamClosed) ∧ tunnel.gone = [] ∧
      tunnel.closeAsked = false ∧ SawEnd trace ∧
      bytesRead trace = [97, 98, 99, 100, 101, 102, 103, 104] ∧
      pollerDeeds trace = [.answered ⟨0, 1, []⟩ (.data 1 [97, 98, 99, 100])] ∧
      handed trace = [97, 98, 99, 100] := by
  refine ⟨_, _, rfl, rfl, rfl, rfl, ?_, rfl, rfl, rfl⟩
  exact ⟨_, .tail _ (.tail _ (.tail _ (.tail _ (.tail _ (.head _))))), rfl⟩

end HttpTunnel.Server.Tunnel
