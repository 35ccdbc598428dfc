import HttpTunnel.Proofs.PollerRuns
import Mathlib.Order.Bounds.Basic

/-!
The idle clock of a poller. It was set last when the poller was made, looked at a packet with a
payload, took a chunk from downstream in, or offered bytes to a client, whether that took them or
had gone. Empty requests, early packets, requests that make place for others and heartbeats leave
it alone, so that a tunnel is idle just if none of the four happened for so long.
-/

namespace HttpTunnel.Server.Poller

variable {moment : Moment} {event : Event} {terms : Terms}

section Uses

def Event.isChunk : Event → Bool
  | .chunk _ => true
  | _ => false

def Deed.isMissed : Deed → Bool
  | .missed _ => true
  | _ => false

/-- The packets that a step looks at. At its end they are completed, parked or in hand, and their
serials are beyond those that were seen before. -/
def looked (before after : Poller) (deeds : List Deed) : List Packet :=
  (completed deeds ++ after.parked ++ after.phase.current.toList).filter fun packet =>
    decide (before.lastSeen < packet.serial)

def bringPayload (packets : List Packet) : Bool :=
  packets.any fun packet => decide (packet.payload ≠ [])

/-- Whether a reply is tried while there are so many bytes to give away: a client took some, or one
had gone. -/
def triesBytes (bytes : Bytes) (deeds : List Deed) : Bool :=
  decide (dataOf deeds ≠ []) || (decide (bytes ≠ []) && deeds.any Deed.isMissed)

def inUse (event : Event) (before after : Poller) (deeds : List Deed) : Bool :=
  event.isChunk || bringPayload (looked before after deeds) ||
    triesBytes (before.pending ++ event.brings) deeds

/-- The instants of steps of some kind that leave the poller in service. -/
def instantsOf (kind : Event → Poller → Poller → List Deed → Bool) (trace : List Entry) :
    List Nat :=
  trace.filterMap fun
    | .stepped moment event before after deeds =>
        if after.phase.live && kind event before after deeds then some moment.now else none
    | .delivered _ _ => none

def acceptances (trace : List Entry) : List Nat :=
  instantsOf (fun _ before after deeds => bringPayload (looked before after deeds)) trace

def absorptions (trace : List Entry) : List Nat :=
  instantsOf (fun event _ _ _ => event.isChunk) trace

def attempts (trace : List Entry) : List Nat :=
  instantsOf (fun event before _ deeds => triesBytes (before.pending ++ event.brings) deeds) trace

def instants (trace : List Entry) : List Nat :=
  trace.filterMap fun
    | .stepped moment _ _ _ _ => some moment.now
    | .delivered _ _ => none

/-- The instants at which a tunnel was in use. -/
def Used (start : Nat) (trace : List Entry) : Set Nat :=
  {instant | instant = start ∨ instant ∈ acceptances trace ∨ instant ∈ absorptions trace ∨
    instant ∈ attempts trace}

def looks (trace : List Entry) : List Packet :=
  trace.flatMap fun
    | .stepped _ _ before after deeds => if after.phase.live then looked before after deeds else []
    | .delivered _ _ => []

end Uses

section Acts

variable {first middle last : Work} {outcome : Outcome} {seen more : List Packet}
variable {deeds further : List Deed}

theorem bring_append (packets others : List Packet) :
    bringPayload (packets ++ others) = (bringPayload packets || bringPayload others) :=
  List.any_append

theorem tries_append (bytes : Bytes) (deeds further : List Deed) :
    triesBytes bytes (deeds ++ further) = (triesBytes bytes deeds || triesBytes bytes further) := by
  unfold triesBytes
  rw [data_of_append, List.any_append]
  cases dataOf deeds <;> cases dataOf further <;> simp [Bool.and_or_distrib_left]

/-- The packets that acts look at go to the end of the line of those that were looked at before. -/
structure Work.Looks (first : Work) (seen : List Packet) (deeds : List Deed) (last : Work) :
    Prop where
  line : first.poller.parked ++ first.current.toList ++ seen =
    completed deeds ++ last.poller.parked ++ last.current.toList
  beyond : ∀ packet ∈ seen, first.poller.lastSeen < packet.serial

structure Work.Uses (moment : Moment) (first : Work) (seen : List Packet) (deeds : List Deed)
    (last : Work) : Prop where
  pending : last.poller.pending = first.poller.pending ∨ dataOf deeds ≠ []
  clock : last.poller.lastUse =
    if bringPayload seen || triesBytes first.poller.pending deeds then moment.now
    else first.poller.lastUse

theorem Work.Looks.trans (looks : first.Looks seen deeds middle)
    (later : middle.Looks more further last)
    (grows : first.poller.lastSeen ≤ middle.poller.lastSeen) :
    first.Looks (seen ++ more) (deeds ++ further) last := by
  constructor
  · rw [← List.append_assoc, looks.line, completed_append, List.append_assoc, List.append_assoc,
      ← List.append_assoc middle.poller.parked, later.line]
    simp only [List.append_assoc]
  · intro packet member
    rcases List.mem_append.mp member with early | late
    · exact looks.beyond packet early
    · exact Int.lt_of_le_of_lt grows (later.beyond packet late)

theorem Work.Uses.trans (uses : first.Uses moment seen deeds middle)
    (later : middle.Uses moment more further last) :
    first.Uses moment (seen ++ more) (deeds ++ further) last := by
  by_cases handed : dataOf deeds = []
  · -- Nothing was given away yet, so there are as many bytes as before.
    have same := uses.pending.resolve_right (not_not.mpr handed)
    constructor
    · rw [data_of_append, handed]
      rcases later.pending with kept | given
      · exact .inl (kept.trans same)
      · exact .inr given
    · rw [later.clock, uses.clock, same, tries_append, bring_append]
      cases bringPayload seen <;> cases bringPayload more <;>
        cases triesBytes first.poller.pending deeds <;>
        cases triesBytes first.poller.pending further <;> rfl
  · have tried : triesBytes first.poller.pending deeds = true := by simp [triesBytes, handed]
    constructor
    · exact .inr (by simp [handed])
    · rw [later.clock, uses.clock, tries_append, tried]
      simp

theorem reply_oldest_clock (moment : Moment) (poller : Poller) :
    (poller.replyOldest moment).1.lastUse =
      if triesBytes poller.pending (poller.replyOldest moment).2 then moment.now
      else poller.lastUse := by
  unfold replyOldest
  cases poller.parked with
  | nil => simp [publish, triesBytes, dataOf]
  | cons oldest rest =>
      by_cases empty : poller.pending = []
      · simp only [if_pos empty]
        split_ifs <;> simp_all [publish, triesBytes, dataOf]
      · simp only [if_neg empty, offer]
        split_ifs <;> simp_all [publish, triesBytes, dataOf, Deed.isMissed]

theorem Act.looks (aligned : first.Aligned) (act : Act moment event first outcome last) :
    ∃ seen, first.Looks seen outcome.deeds last ∧
      (event.isChunk = false → first.Uses moment seen outcome.deeds last) := by
  cases act with
  | absorb _ chunk came =>
      refine ⟨[], ⟨List.append_nil _, nofun⟩, fun other => ?_⟩
      rw [came] at other
      cases other
  | reply =>
      have replied := reply_oldest_replied moment first.poller
      refine ⟨[], ⟨?_, nofun⟩, fun _ => ⟨?_, ?_⟩⟩
      · rw [List.append_nil, replied.split]
      · rcases replied.data with ⟨_, _, kept⟩ | ⟨data, _⟩
        · exact .inl kept
        · exact .inr (by simp [data])
      · exact reply_oldest_clock moment first.poller
  | see poller packet released =>
      refine ⟨[packet], ⟨?_, ?_⟩, fun _ => ⟨.inl rfl, ?_⟩⟩
      · simp [completed]
      · intro other member
        have follows : packet.serial = (poller.lastSeen.toNat + 1 : Nat) :=
          aligned.run _ (List.mem_cons_self ..)
        rw [List.mem_singleton.mp member]
        show poller.lastSeen < packet.serial
        omega
      · by_cases empty : packet.payload = [] <;> simp [empty, bringPayload, triesBytes, dataOf]
  | park poller packet released passed room paid =>
      exact ⟨[], ⟨by simp [completed], nofun⟩,
        fun _ => ⟨.inl rfl, by simp [publish, bringPayload, triesBytes, dataOf]⟩⟩
  | _ =>
      exact ⟨[], ⟨by simp [completed], nofun⟩,
        fun _ => ⟨.inl rfl, by simp [bringPayload, triesBytes, dataOf]⟩⟩

theorem Acts.looks (aligned : first.Aligned) (acts : Acts moment event first outcome last) :
    ∃ seen, first.Looks seen outcome.deeds last ∧
      (event.isChunk = false → first.Uses moment seen outcome.deeds last) := by
  induction acts with
  | none work =>
      exact ⟨[], ⟨by simp [completed], nofun⟩,
        fun _ => ⟨.inl rfl, by simp [bringPayload, triesBytes, dataOf]⟩⟩
  | more first middle last outcome further act acts induction =>
      have keeps := act.keeps aligned
      obtain ⟨seen, looks, uses⟩ := act.looks aligned
      obtain ⟨more, later, furtherUses⟩ := induction keeps.aligned
      exact ⟨seen ++ more, looks.trans later keeps.seen,
        fun other => (uses other).trans (furtherUses other)⟩

end Acts

section Steps

variable (poller after : Poller) (deeds : List Deed)

theorem tries_opening (bytes : Bytes) :
    triesBytes bytes (poller.opening event ++ deeds) = triesBytes bytes deeds := by
  have none : triesBytes bytes (poller.opening event) = false := by
    unfold opening
    split <;> simp [triesBytes, dataOf, Deed.isMissed]
  rw [tries_append, none, Bool.false_or]

/-- What was looked at before has serials up to the last one seen, so the packets beyond are those
that the step has looked at. -/
theorem looked_seen (aligned : poller.work.Aligned) (seen : List Packet)
    (looks : poller.work.Looks seen deeds after.work) : looked poller after deeds = seen := by
  have line : poller.parked ++ poller.phase.current.toList ++ seen =
    completed deeds ++ after.parked ++ after.phase.current.toList := looks.line
  rw [looked, ← line, List.filter_append]
  have none : (poller.parked ++ poller.phase.current.toList).filter
      (fun packet => decide (poller.lastSeen < packet.serial)) = [] := by
    apply List.filter_eq_nil_iff.mpr
    intro packet member
    rw [decide_eq_true_eq, not_lt]
    rcases List.mem_append.mp member with parked | current
    · exact aligned.parked packet parked
    · exact Int.le_of_eq (aligned.current packet (Option.mem_toList.mp current))
  have all : seen.filter (fun packet => decide (poller.lastSeen < packet.serial)) = seen := by
    apply List.filter_eq_self.mpr
    intro packet member
    exact decide_eq_true (looks.beyond packet member)
  rw [none, all, List.nil_append]

theorem step_looks (live : after.phase.live = true) (aligned : poller.work.Aligned)
    (stepped : poller.step moment event = some (after, deeds)) :
    poller.work.Looks (looked poller after deeds) deeds after.work ∧
      (event.isChunk = false →
        poller.work.Uses moment (looked poller after deeds) deeds after.work) := by
  obtain ⟨outcome, acts, rfl, _⟩ := step_acts poller after deeds live stepped
  obtain ⟨seen, ⟨line, beyond⟩, uses⟩ := acts.looks aligned
  have looks : poller.work.Looks seen (poller.opening event ++ outcome.deeds) after.work := by
    refine ⟨?_, beyond⟩
    rw [completed_append, completed_opening, List.nil_append, line]
  rw [looked_seen poller after _ aligned seen looks]
  refine ⟨looks, fun other => ?_⟩
  obtain ⟨pending, clock⟩ := uses other
  rw [← tries_opening poller outcome.deeds] at clock
  refine ⟨?_, clock⟩
  rwa [data_of_append, data_of_opening, List.nil_append]

theorem reply_oldest_keeps_now (now : Nat) (same : now = moment.now)
    (used : poller.lastUse = now) : (poller.replyOldest moment).1.lastUse = now := by
  rw [reply_oldest_clock, used, same]
  exact ite_self _

theorem step_chunk_clock (chunk : Bytes)
    (stepped : poller.step moment (.chunk chunk) = some (after, deeds)) :
    after.lastUse = moment.now := by
  have takes : (poller.take moment chunk).1.lastUse = moment.now := by
    unfold take
    dsimp only
    split_ifs
    · rfl
    · exact reply_oldest_keeps_now _ _ rfl rfl
  have settles : ((poller.absorb moment.now chunk).settle moment).1.lastUse = moment.now := by
    unfold settle
    dsimp only
    split_ifs
    · exact reply_oldest_keeps_now _ _ rfl rfl
    · rfl
  cases phase : poller.phase <;> simp only [step, phase] at stepped
  case serving =>
    simp only [serve] at stepped
    split_ifs at stepped
    rw [Option.some.inj stepped] at takes
    exact takes
  case passing packet released =>
    simp only [pass] at stepped
    rw [Option.some.inj stepped] at takes
    exact takes
  case prompting deadline =>
    simp only [prompt] at stepped
    rw [Option.some.inj stepped] at settles
    exact settles
  all_goals cases stepped

/-- A step that leaves the poller in service sets the clock if it is of one of the three kinds, and
leaves it alone if it is not. -/
theorem step_clock (live : after.phase.live = true) (aligned : poller.work.Aligned)
    (stepped : poller.step moment event = some (after, deeds)) :
    after.lastUse =
      if inUse event poller after deeds then moment.now else poller.lastUse := by
  unfold inUse
  cases came : event.isChunk with
  | true =>
      cases event with
      | chunk chunk => exact step_chunk_clock poller after deeds chunk stepped
      | _ => cases came
  | false =>
      have nothing : event.brings = [] := by
        cases event with
        | chunk chunk => cases came
        | _ => rfl
      rw [nothing, List.append_nil, Bool.false_or]
      exact ((step_looks poller after deeds live aligned stepped).2 came).clock

end Steps

section Instants

variable (kind other : Event → Poller → Poller → List Deed → Bool) (trace further : List Entry)

theorem instants_of_append :
    instantsOf kind (trace ++ further) = instantsOf kind trace ++ instantsOf kind further :=
  List.filterMap_append

theorem instants_of_stepped (moment : Moment) (event : Event) (before after : Poller)
    (deeds : List Deed) : instantsOf kind [.stepped moment event before after deeds] =
      if after.phase.live && kind event before after deeds then [moment.now] else [] := by
  simp only [instantsOf, List.filterMap_cons, List.filterMap_nil]
  split_ifs <;> rfl

theorem mem_instants_of (instant : Nat) : instant ∈ instantsOf kind trace ↔
    ∃ moment event before after deeds, .stepped moment event before after deeds ∈ trace ∧
      after.phase.live = true ∧ kind event before after deeds = true ∧ moment.now = instant := by
  rw [instantsOf, List.mem_filterMap]
  constructor
  · rintro ⟨entry, member, same⟩
    cases entry with
    | delivered packet delivery => cases same
    | stepped moment event before after deeds =>
        dsimp only at same
        split_ifs at same with fits
        cases same
        rw [Bool.and_eq_true] at fits
        exact ⟨moment, event, before, after, deeds, member, fits.1, fits.2, rfl⟩
  · rintro ⟨moment, event, before, after, deeds, member, live, fits, rfl⟩
    exact ⟨_, member, by simp [live, fits]⟩

theorem mem_instants_either (instant : Nat) :
    instant ∈ instantsOf (fun event before after deeds =>
        kind event before after deeds || other event before after deeds) trace ↔
      instant ∈ instantsOf kind trace ∨ instant ∈ instantsOf other trace := by
  simp only [mem_instants_of, Bool.or_eq_true]
  constructor
  · rintro ⟨moment, event, before, after, deeds, member, live, first | second, same⟩
    · exact .inl ⟨moment, event, before, after, deeds, member, live, first, same⟩
    · exact .inr ⟨moment, event, before, after, deeds, member, live, second, same⟩
  · rintro (⟨moment, event, before, after, deeds, member, live, first, same⟩ |
      ⟨moment, event, before, after, deeds, member, live, second, same⟩)
    · exact ⟨moment, event, before, after, deeds, member, live, .inl first, same⟩
    · exact ⟨moment, event, before, after, deeds, member, live, .inr second, same⟩

theorem instants_of_sublist : (instantsOf kind trace).Sublist (instants trace) := by
  induction trace with
  | nil => exact List.Sublist.slnil
  | cons entry rest induction =>
      cases entry with
      | delivered packet delivery => exact induction
      | stepped moment event before after deeds =>
          rw [← List.singleton_append, instants_of_append, instants_of_stepped]
          split_ifs
          · exact induction.cons_cons moment.now
          · exact induction.cons moment.now

def uses (trace : List Entry) : List Nat := instantsOf inUse trace

theorem mem_uses (instant : Nat) : instant ∈ uses trace ↔ instant ∈ acceptances trace ∨
    instant ∈ absorptions trace ∨ instant ∈ attempts trace := by
  unfold uses inUse
  rw [mem_instants_either, mem_instants_either]
  exact (or_congr_left or_comm).trans or_assoc

end Instants

section Runs

variable {poller later : Poller} {trace : List Entry}

theorem clock_turn {before after : Poller} {past : List Entry} {entry : Entry} (since : Nat)
    (sound : before.Sound terms) (turn : Turn before after entry)
    (known : before.phase.live = true → before.lastUse = (uses past).getLastD since)
    (live : after.phase.live = true) :
    after.lastUse = (uses (past ++ [entry])).getLastD since := by
  cases turn with
  | queues packet accepts =>
      rw [uses, instants_of_append]
      exact (known live).trans (congrArg (List.getLastD · since) (List.append_nil _).symm)
  | turnsAway packet delivery other =>
      rw [uses, instants_of_append]
      exact (known live).trans (congrArg (List.getLastD · since) (List.append_nil _).symm)
  | steps moment event _ deeds stepped =>
      have alive := step_live before after deeds stepped live
      rw [step_clock before after deeds live (sound.aligned alive) stepped, known alive]
      rw [uses, uses, instants_of_append, instants_of_stepped, live, Bool.true_and]
      split_ifs
      · rw [List.getLastD_concat]
      · rw [List.append_nil]

/-- However a run goes on from a sound poller, the clock says when it was set last. -/
theorem run_clock (script : List Happening) (sound : poller.Sound terms)
    (ran : poller.run script = some (later, trace)) (live : later.phase.live = true) :
    later.Sound terms ∧ later.lastUse = (uses trace).getLastD poller.lastUse := by
  have kept := run_keeps (fun after past => after.Sound terms ∧
    (after.phase.live = true → after.lastUse = (uses past).getLastD poller.lastUse)) ?_ script
    poller later [] trace ⟨sound, fun _ => rfl⟩ ran
  · exact ⟨kept.1, kept.2 live⟩
  · rintro before after past entry ⟨sound, known⟩ turn
    exact ⟨sound.turn turn, clock_turn poller.lastUse sound turn known⟩

theorem run_looks (start : Nat) (script : List Happening)
    (ran : (ofStart terms start).run script = some (poller, trace))
    (live : poller.phase.live = true) :
    looks trace = completed (served trace) ++ poller.parked ++ poller.phase.current.toList := by
  refine (run_sound terms start (fun poller past => poller.phase.live = true →
    looks past = completed (served past) ++ poller.parked ++ poller.phase.current.toList)
    (fun _ => rfl) ?_ script poller trace ran).2 live
  intro before after past entry sound known turn live
  have front : looks (past ++ [entry]) = looks past ++ looks [entry] := List.flatMap_append
  cases turn with
  | queues packet accepts =>
      rw [front, served_delivered]
      exact (List.append_nil _).trans (known live)
  | turnsAway packet delivery other =>
      rw [front, served_delivered]
      exact (List.append_nil _).trans (known live)
  | steps moment event _ deeds stepped =>
      have alive := step_live before after deeds stepped live
      have line := (step_looks before after deeds live (sound.aligned alive) stepped).1.line
      have own : looks [.stepped moment event before after deeds] = looked before after deeds := by
        simp [looks, live]
      simp only [work] at line
      rw [front, own, known alive, served_live _ _ _ _ _ _ live, completed_append,
        List.append_assoc (completed (served past)), List.append_assoc, line]
      simp only [List.append_assoc]

end Runs

theorem last_greatest (start : Nat) (later : List Nat)
    (forward : (start :: later).Pairwise (· ≤ ·)) :
    IsGreatest {instant | instant = start ∨ instant ∈ later} (later.getLastD start) := by
  induction later generalizing start with
  | nil =>
      refine ⟨.inl rfl, ?_⟩
      rintro instant (rfl | none)
      · exact Nat.le_refl _
      · cases none
  | cons first rest induction =>
      obtain ⟨before, after⟩ := List.pairwise_cons.mp forward
      obtain ⟨among, greatest⟩ := induction first after
      have last : (first :: rest).getLastD start = rest.getLastD first := List.getLastD_cons ..
      rw [last]
      refine ⟨.inr (List.mem_cons.mpr among), ?_⟩
      rintro instant (rfl | member)
      · exact Nat.le_trans (before first (List.mem_cons_self ..)) (greatest (.inl rfl))
      · exact greatest (List.mem_cons.mp member)

theorem used_greatest (start : Nat) (trace : List Entry)
    (forward : (start :: instants trace).Pairwise (· ≤ ·)) :
    IsGreatest (Used start trace) ((uses trace).getLastD start) := by
  have among : Used start trace = {instant | instant = start ∨ instant ∈ uses trace} := by
    ext instant
    exact or_congr_right (mem_uses trace instant).symm
  rw [among]
  apply last_greatest
  exact forward.sublist ((instants_of_sublist inUse trace).cons_cons start)

theorem idle_due_steps {poller after : Poller} {deeds : List Deed}
    (serving : poller.phase = .serving) :
    poller.step moment .idleDue = some (after, deeds) ↔
      poller.idleAt ≤ moment.now ∧ poller.conclude moment none = (after, deeds) := by
  simp only [step, serving, serve]
  split_ifs with due <;> simp [due]

/-- On a clock that does not go back, the last use of a free poller is the latest of its start, the
acceptances of payloads, the absorptions of chunks and the attempts at replies with bytes, where
the packets looked at for payloads are all that were ever accepted. So it ends for inactivity just
if all of these lie its patience back, and as long as none of them happens its deadline stays
where it is. -/
theorem last_use_latest (terms : Terms) (start : Nat) (script : List Happening) (poller : Poller)
    (trace : List Entry) (ran : (ofStart terms start).run script = some (poller, trace))
    (forward : (start :: instants trace).Pairwise (· ≤ ·)) (serving : poller.phase = .serving) :
    IsGreatest (Used start trace) poller.lastUse ∧
      looks trace = completed (served trace) ++ poller.parked ∧
      (∀ moment after deeds, poller.step moment .idleDue = some (after, deeds) ↔
        (∀ instant ∈ Used start trace, instant + terms.patience ≤ moment.now) ∧
          poller.conclude moment none = (after, deeds)) ∧
      (∀ more later rest, poller.run more = some (later, rest) →
        later.phase = .serving → acceptances rest = [] → absorptions rest = [] →
        attempts rest = [] → later.idleAt = poller.idleAt) := by
  have live : poller.phase.live = true := by
    rw [serving]
    rfl
  obtain ⟨sound, clock⟩ := run_clock script (of_start_sound terms start) ran live
  have latest : IsGreatest (Used start trace) poller.lastUse := by
    rw [clock]
    exact used_greatest start trace forward
  refine ⟨latest, ?_, ?_, ?_⟩
  · have looks := run_looks start script ran live
    rw [serving] at looks
    exact looks.trans (List.append_nil _)
  · intro moment after deeds
    rw [idle_due_steps serving, idleAt, sound.steady.terms]
    apply and_congr_left'
    constructor
    · intro due instant used
      have before := latest.2 used
      omega
    · intro old
      exact old poller.lastUse latest.1
  · intro more later rest ran serving accepts absorbs tries
    obtain ⟨kept, still⟩ := run_clock more sound ran (by rw [serving]; rfl)
    have none : uses rest = [] := by
      apply List.eq_nil_iff_forall_not_mem.mpr
      intro instant member
      rw [mem_uses, accepts, absorbs, tries] at member
      simp at member
    rw [none] at still
    rw [idleAt, idleAt, kept.steady.terms, sound.steady.terms, still]
    rfl

/-- A request waits for a prompt answer and is parked, a packet with a payload overtakes an empty
one and is accepted behind that at 30, and it evicts the first request. The client of the chunk at
50 has gone, and so has the one that comes for the bytes at 60; then another packet is early. -/
def keepingBusy : List Happening :=
  let here : Nat → Bool := fun _ => false
  let away : Nat → Bool := fun client => client == 1 || client == 3
  [.deliver ⟨0, 1, []⟩, .event ⟨1, here⟩ .packet, .event ⟨11, here⟩ .promptDue,
    .deliver ⟨1, 3, [9]⟩, .event ⟨20, here⟩ .packet,
    .deliver ⟨2, 2, []⟩, .event ⟨30, here⟩ .packet, .event ⟨40, here⟩ .passed,
    .event ⟨50, away⟩ (.chunk [5]), .deliver ⟨3, 4, []⟩, .event ⟨60, away⟩ .packet,
    .deliver ⟨4, 6, [7]⟩, .event ⟨70, away⟩ .packet]

theorem keeping_busy_latest : ∃ poller trace,
    (ofStart { patience := 100 } 0).run keepingBusy = some (poller, trace) ∧
      (0 :: instants trace).Pairwise (· ≤ ·) ∧ poller.phase = .serving ∧
      acceptances trace = [30] ∧ absorptions trace = [50] ∧ attempts trace = [50, 60] ∧
      IsGreatest (Used 0 trace) 60 ∧
      (poller.step ⟨159, fun _ => false⟩ .idleDue).isSome = false ∧
      (∀ instant ∈ Used 0 trace, instant + 100 ≤ 160) := by
  have came : ∃ poller trace,
      (ofStart { patience := 100 } 0).run keepingBusy = some (poller, trace) ∧
        (0 :: instants trace).Pairwise (· ≤ ·) ∧ poller.phase = .serving ∧
        poller.lastUse = 60 ∧ acceptances trace = [30] ∧ absorptions trace = [50] ∧
        attempts trace = [50, 60] ∧
        (poller.step ⟨159, fun _ => false⟩ .idleDue).isSome = false ∧
        ∃ after deeds, poller.step ⟨160, fun _ => false⟩ .idleDue = some (after, deeds) :=
    ⟨_, _, rfl, by decide +kernel, rfl, rfl, by decide +kernel, by decide +kernel,
      by decide +kernel, rfl, _, _, rfl⟩
  obtain ⟨poller, trace, ran, forward, serving, last, accepts, absorbs, tries, early, after,
    deeds, idles⟩ := came
  obtain ⟨latest, _, ends, _⟩ :=
    last_use_latest { patience := 100 } 0 keepingBusy poller trace ran forward serving
  rw [last] at latest
  exact ⟨poller, trace, ran, forward, serving, accepts, absorbs, tries, latest, early,
    ((ends _ after deeds).mp idles).1⟩

end HttpTunnel.Server.Poller
