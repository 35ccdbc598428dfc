import HttpTunnel.Proofs.NumberedPayloads
import HttpTunnel.Proofs.PollerActs
import HttpTunnel.Proofs.SerialWindowOrder

/-!
What the acts of a poller keep. No packet is lost or doubled, packets are looked at in the
order of their serials, replies are numbered one by one with the bytes that came from
downstream, and the bytes passed down are the payloads of the packets looked at.
-/

namespace HttpTunnel.Server.Poller

open SerialWindow (numbered)

variable {moment : Moment} {event : Event}

/-- The packets of a poller that takes packets in follow each other without a gap. -/
structure Work.Aligned (work : Work) : Prop where
  tidy : work.poller.early.Tidy
  ahead : work.poller.early.ahead = 1
  started : 0 ≤ work.poller.lastSeen
  next : work.poller.early.next = work.poller.lastSeen.toNat + 1 + work.released.length
  keyed : ∀ entry ∈ work.poller.early.early, entry.2.serial = entry.1
  run : ∀ entry ∈ numbered (work.poller.lastSeen.toNat + 1) work.released,
    entry.2.serial = entry.1
  current : ∀ packet ∈ work.current, packet.serial = work.poller.lastSeen
  parked : ∀ packet ∈ work.poller.parked, packet.serial ≤ work.poller.lastSeen

/-- How often a serial has been taken into the window or waits for it. -/
def Work.tally (work : Work) (serial : Nat) : Nat :=
  work.poller.early.taken serial +
    work.poller.queue.countP fun packet => packet.serial.toNat == serial

/-- What acts keep as long as the poller takes packets in. -/
structure Keeps (first : Work) (outcome : Outcome) (last : Work) : Prop where
  aligned : last.Aligned
  packets : first.packets.Perm (completed outcome.deeds ++ last.packets)
  seen : first.poller.lastSeen ≤ last.poller.lastSeen
  next : first.poller.early.next ≤ last.poller.early.next
  answered : ∀ packet ∈ completed outcome.deeds, packet.serial ≤ last.poller.lastSeen
  tally : ∀ serial, last.tally serial = first.tally serial
  looked : ∀ serial : Nat, first.poller.lastSeen < serial → serial ≤ last.poller.lastSeen →
    ∃ packet ∈ first.packets, packet.serial = serial

theorem of_start_aligned (terms : Terms) (now : Nat) : (ofStart terms now).work.Aligned := by
  refine ⟨SerialWindow.of_width_tidy 1 2, rfl, Int.le_refl _, rfl, ?_, ?_, ?_, ?_⟩
  · intro entry member
    cases member
  · intro entry member
    cases member
  · intro packet member
    cases member
  · intro packet member
    cases member

theorem looked_none (first : Work) (last : Int) (same : last = first.poller.lastSeen)
    (serial : Nat) (after : first.poller.lastSeen < serial) (before : serial ≤ last) :
    ∃ packet ∈ first.packets, packet.serial = serial := by
  omega

theorem Work.Aligned.order (poller : Poller) (packet : Packet) (rest released : List Packet)
    (early : SerialWindow Packet) (aligned : Work.Aligned ⟨poller, none, []⟩)
    (waiting : poller.queue = packet :: rest) (positive : 1 ≤ packet.serial)
    (pushed : poller.early.push packet.serial.toNat packet = .ok (released, early)) :
    Keeps ⟨poller, none, []⟩ {}
      ⟨{ poller with
          queue := rest
          early := early
          held := poller.heldAfter moment packet released early }, none, released⟩ := by
  have push := SerialWindow.push_spec _ _ _ _ _ aligned.tidy pushed
  have start : poller.early.next = poller.lastSeen.toNat + 1 := aligned.next
  have keyed : ∀ entry, entry ∈ numbered poller.early.next released ∨ entry ∈ early.early →
      entry.2.serial = entry.1 := by
    intro entry member
    rcases push.origin entry member with rfl | member
    · show packet.serial = (packet.serial.toNat : Int)
      omega
    · exact aligned.keyed entry member
  constructor
  · constructor
    · exact push.tidy
    · exact push.ahead.trans aligned.ahead
    · exact aligned.started
    · show early.next = poller.lastSeen.toNat + 1 + released.length
      rw [push.next, start]
    · intro entry member
      exact keyed entry (.inr member)
    · intro entry member
      exact keyed entry (.inl (start ▸ member))
    · simp
    · exact aligned.parked
  · have split := push.split.map Prod.snd
    rw [List.map_append, SerialWindow.numbered_items, List.map_cons] at split
    apply List.perm_iff_count.mpr
    intro other
    have counts := split.count_eq other
    simp only [Work.packets, waiting, completed, List.filterMap_nil, List.count_append,
      List.count_cons, List.count_nil, Option.toList_none] at counts ⊢
    omega
  · exact Int.le_refl _
  · show poller.early.next ≤ early.next
    rw [push.next]
    exact Nat.le_add_right _ _
  · simp [completed]
  · intro serial
    simp only [Work.tally, waiting, List.countP_cons, push.taken_eq, beq_iff_eq]
    omega
  · exact looked_none _ _ rfl

theorem Work.Aligned.reply (work : Work) (aligned : work.Aligned) :
    Keeps work ⟨(work.poller.replyOldest moment).2, [], []⟩
      { work with poller := (work.poller.replyOldest moment).1 } := by
  have replied := reply_oldest_replied moment work.poller
  generalize work.poller.replyOldest moment = result at replied
  rcases result with ⟨after, deeds⟩
  have parked : ∀ packet, packet ∈ completed deeds ∨ packet ∈ after.parked →
      packet.serial ≤ work.poller.lastSeen := by
    intro packet member
    apply aligned.parked
    rw [replied.split]
    exact List.mem_append.mpr member
  have early : after.early = work.poller.early := replied.early
  have seen : after.lastSeen = work.poller.lastSeen := replied.lastSeen
  have queue : after.queue = work.poller.queue := replied.queue
  constructor
  · constructor <;> dsimp only <;> simp only [early, seen]
    · exact aligned.tidy
    · exact aligned.ahead
    · exact aligned.started
    · exact aligned.next
    · exact aligned.keyed
    · exact aligned.run
    · exact aligned.current
    · exact fun packet member => parked packet (.inr member)
  · apply List.perm_iff_count.mpr
    intro other
    simp only [Work.packets, replied.split, queue, early, List.count_append]
    omega
  · exact Int.le_of_eq seen.symm
  · exact Nat.le_of_eq (congrArg SerialWindow.next early.symm)
  · intro packet member
    rw [seen]
    exact parked packet (.inl member)
  · intro serial
    simp only [Work.tally, queue, early]
  · exact looked_none _ _ seen

theorem Work.Aligned.see (poller : Poller) (packet : Packet) (released : List Packet)
    (aligned : Work.Aligned ⟨poller, none, packet :: released⟩) :
    Keeps ⟨poller, none, packet :: released⟩ {}
      ⟨{ poller with
          lastSeen := packet.serial
          lastUse := if packet.payload = [] then poller.lastUse else moment.now },
        some packet, released⟩ := by
  have started := aligned.started
  have next := aligned.next
  have follows : packet.serial = (poller.lastSeen.toNat + 1 : Nat) :=
    aligned.run _ (List.mem_cons_self ..)
  simp only [List.length_cons] at started next
  constructor
  · constructor
    · exact aligned.tidy
    · exact aligned.ahead
    · show 0 ≤ packet.serial
      omega
    · show poller.early.next = packet.serial.toNat + 1 + released.length
      omega
    · exact aligned.keyed
    · intro entry member
      apply aligned.run entry
      have same : packet.serial.toNat = poller.lastSeen.toNat + 1 := by omega
      rw [← same]
      exact List.mem_cons_of_mem _ member
    · intro other member
      cases member
      rfl
    · intro other member
      have before := aligned.parked other member
      show other.serial ≤ packet.serial
      simp only at before
      omega
  · apply List.perm_iff_count.mpr
    intro other
    simp only [Work.packets, completed, List.filterMap_nil, List.count_append, List.count_cons,
      List.count_nil, Option.toList_none, Option.toList_some]
    omega
  · show poller.lastSeen ≤ packet.serial
    omega
  · exact Nat.le_refl _
  · simp [completed]
  · intro serial
    rfl
  · intro serial after before
    simp only at after before
    exact ⟨packet, by simp [Work.packets], by omega⟩

theorem Work.Aligned.park (poller : Poller) (packet : Packet) (released : List Packet)
    (passed : Bytes) (aligned : Work.Aligned ⟨poller, some packet, released⟩) :
    Keeps ⟨poller, some packet, released⟩ ⟨[], passed, []⟩
      ⟨publish { poller with
          parked := poller.parked ++ [packet]
          pollAt := some (moment.now + poller.terms.pollFor) }, none, released⟩ := by
  constructor
  · constructor
    · exact aligned.tidy
    · exact aligned.ahead
    · exact aligned.started
    · exact aligned.next
    · exact aligned.keyed
    · exact aligned.run
    · simp
    · intro other member
      rcases List.mem_append.mp member with before | last
      · exact aligned.parked other before
      · rw [List.mem_singleton.mp last]
        exact Int.le_of_eq (aligned.current packet rfl)
  · apply List.perm_iff_count.mpr
    intro other
    simp only [Work.packets, publish, completed, List.filterMap_nil, List.count_append,
      List.count_cons, List.count_nil, Option.toList_none, Option.toList_some]
    omega
  · exact Int.le_refl _
  · exact Nat.le_refl _
  · simp [completed]
  · intro serial
    rfl
  · exact looked_none _ _ rfl

theorem Work.Aligned.rest (work : Work) (poller : Poller) (outcome : Outcome)
    (aligned : work.Aligned) (none : outcome.deeds = []) (queue : poller.queue = work.poller.queue)
    (early : poller.early = work.poller.early) (seen : poller.lastSeen = work.poller.lastSeen)
    (parked : poller.parked = work.poller.parked) :
    Keeps work outcome { work with poller := poller } := by
  constructor
  · constructor <;> dsimp only <;> simp only [early, seen, parked]
    · exact aligned.tidy
    · exact aligned.ahead
    · exact aligned.started
    · exact aligned.next
    · exact aligned.keyed
    · exact aligned.run
    · exact aligned.current
    · exact aligned.parked
  · simp only [Work.packets, none, queue, early, parked]
    exact List.Perm.refl _
  · exact Int.le_of_eq seen.symm
  · exact Nat.le_of_eq (congrArg SerialWindow.next early.symm)
  · simp [none, completed]
  · intro serial
    simp only [Work.tally, queue, early]
  · exact looked_none _ _ seen

theorem Act.keeps {first last : Work} {outcome : Outcome} (aligned : first.Aligned)
    (act : Act moment event first outcome last) : Keeps first outcome last := by
  cases act with
  | absorb chunk came => exact aligned.rest _ _ _ rfl rfl rfl rfl rfl
  | reply => exact aligned.reply
  | turn phase same => exact aligned.rest _ _ _ rfl rfl rfl rfl rfl
  | order poller packet rest released early waiting positive pushed came =>
      exact aligned.order poller packet rest released early waiting positive pushed
  | see poller packet released => exact aligned.see
  | park poller packet released passed room paid =>
      exact aligned.park poller packet released passed
  | repoll expired => exact aligned.rest _ _ _ rfl rfl rfl rfl rfl

theorem Acts.keeps {first last : Work} {outcome : Outcome} (aligned : first.Aligned)
    (acts : Acts moment event first outcome last) : Keeps first outcome last := by
  induction acts with
  | none work =>
      exact ⟨aligned, List.Perm.refl _, Int.le_refl _, Nat.le_refl _, by simp [completed],
        fun _ => rfl, looked_none _ _ rfl⟩
  | more first middle last outcome further act acts induction =>
      have before := act.keeps aligned
      have later := induction before.aligned
      refine ⟨later.aligned, ?_, Int.le_trans before.seen later.seen,
        Nat.le_trans before.next later.next, ?_, ?_, ?_⟩
      · rw [Outcome.followedBy, completed_append, List.append_assoc]
        exact before.packets.trans (later.packets.append_left _)
      · intro packet member
        rw [Outcome.followedBy, completed_append] at member
        rcases List.mem_append.mp member with early | late
        · exact Int.le_trans (before.answered packet early) later.seen
        · exact later.answered packet late
      · intro serial
        exact (later.tally serial).trans (before.tally serial)
      · intro serial beyond within
        by_cases early : serial ≤ middle.poller.lastSeen
        · exact before.looked serial beyond early
        · obtain ⟨packet, member, same⟩ := later.looked serial (by omega) within
          exact ⟨packet, before.packets.mem_iff.mpr (List.mem_append_right _ member), same⟩

section Passing

def Work.done (work : Work) : Nat := work.poller.lastSeen.toNat - work.current.toList.length

/-- The bytes that were passed down are the payloads of the packets done with, unless a
request to close came between. -/
theorem Act.passes {first last : Work} {outcome : Outcome} (sent : List Bytes)
    (unclosed : event ≠ .close) (aligned : first.Aligned)
    (carried : ∀ packet ∈ first.packets, Carries sent packet.serial.toNat packet.payload)
    (act : Act moment event first outcome last) :
    (sent.take first.done).flatten ++ outcome.passed = (sent.take last.done).flatten := by
  cases act with
  | reply =>
      have seen := (reply_oldest_replied moment first.poller).lastSeen
      simp only [Work.done, seen, List.append_nil]
  | see poller packet released =>
      have follows : packet.serial = (poller.lastSeen.toNat + 1 : Nat) :=
        aligned.run _ (List.mem_cons_self ..)
      have same : packet.serial.toNat - 1 = poller.lastSeen.toNat := by omega
      simp [Work.done, same]
  | park poller packet released passed room paid =>
      have seen : packet.serial = poller.lastSeen := aligned.current packet rfl
      have carries := carried packet (by simp [Work.packets])
      rcases paid with ⟨same, _⟩ | ⟨_, closing⟩
      · rw [same, Work.done, Work.done, ← seen]
        exact (take_carried sent _ _ carries).symm
      · exact absurd closing unclosed
  | _ => exact List.append_nil _

theorem Acts.passes {first last : Work} {outcome : Outcome} (sent : List Bytes)
    (unclosed : event ≠ .close) (aligned : first.Aligned)
    (carried : ∀ packet ∈ first.packets, Carries sent packet.serial.toNat packet.payload)
    (acts : Acts moment event first outcome last) :
    (sent.take first.done).flatten ++ outcome.passed = (sent.take last.done).flatten := by
  induction acts with
  | none work => exact List.append_nil _
  | more first middle last outcome further act acts induction =>
      have keeps := act.keeps aligned
      have before := act.passes sent unclosed aligned carried
      have later := induction keeps.aligned fun packet member =>
        carried packet (keeps.packets.mem_iff.mpr (List.mem_append_right _ member))
      rw [← later, ← before, Outcome.followedBy, List.append_assoc]

end Passing

section Paying

/-- Replies are numbered in turn, none of them is empty, and together they bring what came from
downstream. -/
def Pays (poller : Poller) (deeds : List Deed) (absorbed : Bytes) (after : Poller) : Prop :=
  ∃ payloads, dataOf deeds = numbered poller.nextReply payloads ∧
    after.nextReply = poller.nextReply + payloads.length ∧
    poller.pending ++ absorbed = payloads.flatten ++ after.pending ∧
    ∀ payload ∈ payloads, payload ≠ []

theorem pays_nothing {poller after : Poller} {deeds : List Deed} {absorbed : Bytes}
    (silent : dataOf deeds = []) (counted : after.nextReply = poller.nextReply)
    (kept : poller.pending ++ absorbed = after.pending) : Pays poller deeds absorbed after :=
  ⟨[], silent, counted, kept, fun _ none => absurd none List.not_mem_nil⟩

theorem Pays.trans {first middle last : Poller} {deeds further : List Deed}
    {absorbed more : Bytes} (pays : Pays first deeds absorbed middle)
    (later : Pays middle further more last) :
    Pays first (deeds ++ further) (absorbed ++ more) last := by
  rcases pays with ⟨payloads, data, counted, bytes, filled⟩
  rcases later with ⟨others, moreData, moreCounted, moreBytes, moreFilled⟩
  refine ⟨payloads ++ others, ?_, ?_, ?_, ?_⟩
  · rw [data_of_append, data, moreData, counted, SerialWindow.numbered_append]
  · rw [moreCounted, counted, List.length_append, Nat.add_assoc]
  · rw [← List.append_assoc, bytes, List.append_assoc, moreBytes, List.flatten_append,
      List.append_assoc]
  · intro payload member
    rcases List.mem_append.mp member with early | late
    · exact filled payload early
    · exact moreFilled payload late

theorem reply_oldest_pays (poller : Poller) :
    Pays poller (poller.replyOldest moment).2 [] (poller.replyOldest moment).1 := by
  have replied := reply_oldest_replied moment poller
  rcases replied.data with ⟨data, counted, pending⟩ | ⟨data, counted, pending⟩
  · apply pays_nothing data counted
    rw [pending, List.append_nil]
  · have filled := replied.filled
    rw [data] at filled
    refine ⟨[poller.pending], data, counted, by simp [pending], ?_⟩
    intro payload member
    rw [List.mem_singleton.mp member]
    exact filled (poller.nextReply, poller.pending) (List.mem_singleton_self _)

theorem Act.pays {first last : Work} {outcome : Outcome}
    (act : Act moment event first outcome last) :
    Pays first.poller outcome.deeds outcome.absorbed last.poller := by
  cases act with
  | absorb chunk came => exact pays_nothing rfl rfl rfl
  | reply => exact reply_oldest_pays first.poller
  | _ => exact pays_nothing rfl rfl (List.append_nil _)

theorem Acts.pays {first last : Work} {outcome : Outcome}
    (acts : Acts moment event first outcome last) :
    Pays first.poller outcome.deeds outcome.absorbed last.poller := by
  induction acts with
  | none work => exact pays_nothing rfl rfl (List.append_nil _)
  | more first middle last outcome further act acts induction =>
      exact act.pays.trans induction

end Paying

section Partings

theorem Parting.dead {last after : Poller} {deeds : List Deed}
    (parting : Parting moment last after deeds) : after.phase.live = false := by
  cases parting <;> rfl

theorem Parting.silent {last after : Poller} {deeds : List Deed}
    (parting : Parting moment last after deeds) : passedDown deeds = [] := by
  cases parting with
  | waits nobody left => rfl
  | concludes failure =>
      have replied := reply_oldest_replied moment last
      unfold conclude
      by_cases waited : last.pending ≠ [] ∧ last.parked ≠ []
      · simp only [if_pos waited, passed_down_append, passed_down_heartbeats, replied.silent,
          List.append_nil]
      · simp only [if_neg waited, List.nil_append, passed_down_heartbeats]

theorem Parting.pays {last after : Poller} {deeds : List Deed}
    (parting : Parting moment last after deeds) : Pays last deeds [] after := by
  cases parting with
  | waits nobody left => exact pays_nothing rfl rfl (List.append_nil _)
  | concludes failure =>
      unfold conclude
      by_cases waited : last.pending ≠ [] ∧ last.parked ≠ []
      · simp only [if_pos waited]
        rw [Pays, data_of_append, data_of_heartbeats, List.append_nil]
        exact reply_oldest_pays last
      · simp only [if_neg waited]
        apply pays_nothing
        · exact data_of_heartbeats moment _
        · rfl
        · exact List.append_nil _

end Partings

section Misses

/-- An answer misses only clients that have gone. -/
theorem offer_misses (gone : Nat → Bool) (answer : Answer) (parked : List Packet)
    (packet : Packet) (missed : .missed packet ∈ (offer gone answer parked).2.2) :
    gone packet.client = true := by
  induction parked with
  | nil => cases missed
  | cons oldest rest induction =>
      rw [offer] at missed
      split_ifs at missed with away
      · rcases List.mem_cons.mp missed with same | later
        · rw [Deed.missed.inj same]
          exact away
        · exact induction later
      · cases List.mem_singleton.mp missed

theorem heartbeats_misses (packets : List Packet) (packet : Packet)
    (missed : .missed packet ∈ heartbeats moment packets) : moment.gone packet.client = true := by
  obtain ⟨other, _, same⟩ := List.mem_map.mp missed
  split_ifs at same with away
  rw [← Deed.missed.inj same]
  exact away

theorem reply_oldest_misses (poller : Poller) (packet : Packet)
    (missed : .missed packet ∈ (poller.replyOldest moment).2) :
    moment.gone packet.client = true := by
  unfold replyOldest at missed
  cases parked : poller.parked with
  | nil =>
      rw [parked] at missed
      cases missed
  | cons oldest rest =>
      rw [parked] at missed
      by_cases empty : poller.pending = []
      · simp only [if_pos empty] at missed
        split_ifs at missed with away
        · rw [Deed.missed.inj (List.mem_singleton.mp missed)]
          exact away
        · cases List.mem_singleton.mp missed
      · simp only [if_neg empty] at missed
        exact offer_misses moment.gone _ _ packet missed

theorem Acts.misses {first last : Work} {outcome : Outcome}
    (acts : Acts moment event first outcome last) (packet : Packet)
    (missed : .missed packet ∈ outcome.deeds) : moment.gone packet.client = true := by
  induction acts with
  | none work => cases missed
  | more first middle last outcome further act acts induction =>
      rcases List.mem_append.mp missed with own | later
      · cases act with
        | reply => exact reply_oldest_misses first.poller packet own
        | _ => cases own
      · exact induction later

theorem Parting.misses {last after : Poller} {deeds : List Deed}
    (parting : Parting moment last after deeds) (packet : Packet)
    (missed : .missed packet ∈ deeds) : moment.gone packet.client = true := by
  cases parting with
  | waits nobody left => cases missed
  | concludes failure =>
      unfold conclude at missed
      by_cases waited : last.pending ≠ [] ∧ last.parked ≠ []
      · simp only [if_pos waited] at missed
        rcases List.mem_append.mp missed with answered | completed
        · exact reply_oldest_misses last packet answered
        · exact heartbeats_misses _ packet completed
      · simp only [if_neg waited] at missed
        exact heartbeats_misses _ packet missed

end Misses

section Steps

variable (poller after : Poller) (deeds : List Deed)

theorem data_of_opening (event : Event) : dataOf (poller.opening event) = [] := by
  unfold opening
  split <;> rfl

theorem completed_opening (event : Event) : completed (poller.opening event) = [] := by
  unfold opening
  split <;> rfl

theorem step_pays (stepped : poller.step moment event = some (after, deeds)) :
    Pays poller deeds event.brings after := by
  obtain ⟨own, rfl, comes⟩ := step_comes moment event poller after deeds stepped
  rw [Pays, data_of_append, data_of_opening]
  rcases comes with ⟨outcome, _, absorbed, ends⟩ | ⟨_, nothing, leaves⟩
  · rw [← absorbed]
    cases ends with
    | lives _ live acts => exact acts.pays
    | overflows last _ released _ _ acts crowd parting whole =>
        obtain rfl : own = _ := whole
        have both := acts.pays.trans parting.pays
        rw [Pays, data_of_append, List.append_nil] at both
        rw [data_of_append, data_of_append, data_of_dropped, List.append_nil]
        exact both
  · rw [nothing]
    cases leaves with
    | parts start _ _ _ _ _ _ _ nextReply pending parting whole =>
        obtain rfl : own = _ := whole
        rw [← nextReply, ← pending, data_of_append, data_of_dropped]
        exact parting.pays

theorem opening_cases (event : Event) : passedDown (poller.opening event) = [] ∨
    event = .passed ∧ ∃ packet released, poller.phase = .passing packet released ∧
      passedDown (poller.opening event) = packet.payload := by
  cases phase : poller.phase with
  | passing packet released =>
      cases event with
      | passed =>
          refine .inr ⟨rfl, packet, released, rfl, ?_⟩
          simp [opening, phase, passedDown]
      | _ =>
          apply Or.inl
          simp [opening, phase, passedDown]
  | _ =>
      apply Or.inl
      simp [opening, phase, passedDown]

theorem step_passed_down (stepped : poller.step moment event = some (after, deeds)) :
    passedDown deeds = passedDown (poller.opening event) := by
  obtain ⟨own, rfl, comes⟩ := step_comes moment event poller after deeds stepped
  rw [passed_down_append]
  rcases comes with ⟨outcome, _, _, ends⟩ | ⟨_, _, leaves⟩
  · cases ends with
    | lives _ live acts => rw [acts.silent, List.append_nil]
    | overflows last _ released _ _ acts crowd parting whole =>
        obtain rfl : own = _ := whole
        simp only [passed_down_append, passed_down_dropped, acts.silent, parting.silent,
          List.append_nil]
  · cases leaves with
    | parts start _ _ _ _ _ _ _ _ _ parting whole =>
        obtain rfl : own = _ := whole
        simp only [passed_down_append, passed_down_dropped, parting.silent, List.append_nil]

theorem step_acts (live : after.phase.live = true)
    (stepped : poller.step moment event = some (after, deeds)) :
    ∃ outcome, Acts moment event poller.work outcome after.work ∧
      deeds = poller.opening event ++ outcome.deeds ∧
      passedDown deeds = outcome.passed := by
  have silent := step_passed_down poller after deeds stepped
  obtain ⟨own, rfl, comes⟩ := step_comes moment event poller after deeds stepped
  rcases comes with ⟨outcome, passed, _, ends⟩ | ⟨_, _, leaves⟩
  · cases ends with
    | lives _ _ acts => exact ⟨outcome, acts, rfl, silent.trans passed.symm⟩
    | overflows last _ released _ _ acts crowd parting whole =>
        rw [parting.dead] at live
        cases live
  · cases leaves with
    | parts start _ _ _ _ _ _ _ _ _ parting whole =>
        rw [parting.dead] at live
        cases live

theorem step_misses (stepped : poller.step moment event = some (after, deeds)) (packet : Packet)
    (missed : .missed packet ∈ deeds) : moment.gone packet.client = true := by
  obtain ⟨own, rfl, comes⟩ := step_comes moment event poller after deeds stepped
  have given : ∀ packets : List Packet, .missed packet ∉ packets.map Deed.dropped := by simp
  rcases List.mem_append.mp missed with opened | done
  · unfold opening at opened
    split at opened <;> simp at opened
  rcases comes with ⟨outcome, _, _, ends⟩ | ⟨_, _, leaves⟩
  · cases ends with
    | lives _ live acts => exact acts.misses packet done
    | overflows last _ released _ _ acts crowd parting whole =>
        obtain rfl : own = _ := whole
        simp only [List.mem_append, given, or_false] at done
        rcases done with early | late
        · exact acts.misses packet early
        · exact parting.misses packet late
  · cases leaves with
    | parts start _ _ _ _ _ _ _ _ _ parting whole =>
        obtain rfl : own = _ := whole
        simp only [List.mem_append, given, false_or] at done
        exact parting.misses packet done

theorem step_live (stepped : poller.step moment event = some (after, deeds))
    (live : after.phase.live = true) : poller.phase.live = true := by
  obtain ⟨outcome, acts, _, _⟩ := step_acts poller after deeds live stepped
  exact acts.live_eq.symm.trans live

/-- What a step keeps if the poller lives on. -/
theorem step_keeps (stepped : poller.step moment event = some (after, deeds))
    (live : after.phase.live = true) (aligned : poller.work.Aligned) :
    ∃ outcome, Keeps poller.work outcome after.work ∧
      completed outcome.deeds = completed deeds := by
  obtain ⟨outcome, acts, rfl, _⟩ := step_acts poller after deeds live stepped
  refine ⟨outcome, acts.keeps aligned, ?_⟩
  rw [completed_append, completed_opening, List.nil_append]

/-- As long as nobody asks for the tunnel to close, the bytes passed down are the payloads of
the packets done with. -/
theorem step_passes (sent : List Bytes)
    (stepped : poller.step moment event = some (after, deeds)) (live : after.phase.live = true)
    (unclosed : event ≠ .close) (aligned : poller.work.Aligned)
    (carried : ∀ packet ∈ poller.work.packets, Carries sent packet.serial.toNat packet.payload) :
    (sent.take poller.work.done).flatten ++ passedDown deeds =
      (sent.take after.work.done).flatten := by
  obtain ⟨outcome, acts, _, same⟩ := step_acts poller after deeds live stepped
  rw [same]
  exact acts.passes sent unclosed aligned carried

end Steps

end HttpTunnel.Server.Poller
