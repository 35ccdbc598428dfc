import HttpTunnel.Server.Poller
import Mathlib.Data.List.Basic

/-!
A step of the poller, broken down into acts. An act takes a chunk in, answers the oldest
parked request, puts a queued packet into the window, looks at the next released packet,
or parks it. A step that leaves the poller alive is a sequence of acts and nothing else;
one that ends its service gives up the packets in hand and parts, which means that it waits
for a request to fetch the last bytes or completes all requests.
-/

namespace HttpTunnel.Server.Poller

def Phase.live : Phase → Bool
  | .serving | .passing _ _ | .prompting _ => true
  | .flushing _ | .ended _ => false

def Phase.current : Phase → Option Packet
  | .passing packet _ => some packet
  | _ => none

def Phase.released : Phase → List Packet
  | .passing _ released => released
  | _ => []

/-- A poller in the middle of a step, with the packet that it looks at and the packets
that it has not looked at yet. -/
structure Work where
  poller : Poller
  current : Option Packet
  released : List Packet

def work (poller : Poller) : Work := ⟨poller, poller.phase.current, poller.phase.released⟩

def Work.packets (work : Work) : List Packet :=
  work.poller.queue ++ work.poller.early.early.map Prod.snd ++ work.current.toList ++
    work.released ++ work.poller.parked

/-- What a sequence of acts does: its deeds, the bytes that the downstream writer took, and
the bytes that came from downstream. -/
structure Outcome where
  deeds : List Deed := []
  passed : Bytes := []
  absorbed : Bytes := []

def Outcome.followedBy (first second : Outcome) : Outcome :=
  ⟨first.deeds ++ second.deeds, first.passed ++ second.passed,
    first.absorbed ++ second.absorbed⟩

def dataOf (deeds : List Deed) : List (Nat × Bytes) :=
  deeds.filterMap fun
    | .answered _ (.data serial payload) => some (serial, payload)
    | _ => none

def passedDown (deeds : List Deed) : Bytes :=
  deeds.flatMap fun
    | .passedDown payload => payload
    | _ => []

/-- The packets whose requests are over. -/
def completed (deeds : List Deed) : List Packet :=
  deeds.filterMap fun
    | .answered packet _ | .missed packet | .dropped packet => some packet
    | .passedDown _ => none

/-- How the payload of a packet may be done with: the downstream writer took it, there was
none, or a request to close left it where it was. -/
def Paid (event : Event) (payload passed : Bytes) : Prop :=
  (passed = payload ∧ (payload = [] ∨ event = .passed)) ∨ (passed = [] ∧ event = .close)

/-- When the early packets are given up, once a packet has come to the window. -/
def heldAfter (moment : Moment) (poller : Poller) (packet : Packet) (released : List Packet)
    (early : SerialWindow Packet) : Option (Nat × Int) :=
  if released = [] then
    some (poller.held.getD (moment.now + poller.terms.pollFor, packet.serial))
  else if early.backlog = 0 then none
  else poller.held

inductive Act (moment : Moment) (event : Event) : Work → Outcome → Work → Prop where
  | absorb (work : Work) (chunk : Bytes) (came : event = .chunk chunk) :
      Act moment event work ⟨[], [], chunk⟩
        { work with poller := work.poller.absorb moment.now chunk }
  | reply (work : Work) :
      Act moment event work ⟨(work.poller.replyOldest moment).2, [], []⟩
        { work with poller := (work.poller.replyOldest moment).1 }
  | turn (work : Work) (phase : Phase) (same : phase.live = work.poller.phase.live) :
      Act moment event work {} { work with poller := { work.poller with phase := phase } }
  | order (poller : Poller) (packet : Packet) (rest released : List Packet)
      (early : SerialWindow Packet) (waiting : poller.queue = packet :: rest)
      (positive : 1 ≤ packet.serial)
      (pushed : poller.early.push packet.serial.toNat packet = .ok (released, early))
      (came : event = .packet) :
      Act moment event ⟨poller, none, []⟩ {}
        ⟨{ poller with
            queue := rest
            early := early
            held := poller.heldAfter moment packet released early }, none, released⟩
  | see (poller : Poller) (packet : Packet) (released : List Packet) :
      Act moment event ⟨poller, none, packet :: released⟩ {}
        ⟨{ poller with
            lastSeen := packet.serial
            lastUse := if packet.payload = [] then poller.lastUse else moment.now },
          some packet, released⟩
  /-- There is always a place: the oldest request has been answered if there was none. -/
  | park (poller : Poller) (packet : Packet) (released : List Packet) (passed : Bytes)
      (room : poller.parked.length ≠ mostParked) (paid : Paid event packet.payload passed) :
      Act moment event ⟨poller, some packet, released⟩ ⟨[], passed, []⟩
        ⟨publish { poller with
            parked := poller.parked ++ [packet]
            pollAt := some (moment.now + poller.terms.pollFor) }, none, released⟩
  /-- The time of a poll is over, and the next one begins if somebody is parked. -/
  | repoll (work : Work) (expired : event = .pollDue) :
      Act moment event work {}
        { work with poller := { work.poller with
            pollAt := if work.poller.parked = [] then work.poller.pollAt
              else some (moment.now + work.poller.terms.pollFor) } }

inductive Acts (moment : Moment) (event : Event) : Work → Outcome → Work → Prop where
  | none (work : Work) : Acts moment event work {} work
  | more (first middle last : Work) (outcome further : Outcome)
      (act : Act moment event first outcome middle)
      (acts : Acts moment event middle further last) :
      Acts moment event first (outcome.followedBy further) last

/-- What a poller does when its service is over. -/
inductive Parting (moment : Moment) (last : Poller) : Poller → List Deed → Prop where
  | waits (nobody : last.parked = []) (left : last.pending ≠ []) :
      Parting moment last
        { last with phase := .flushing (moment.now + last.terms.pollFor) } []
  | concludes (failure : Option Failure) :
      Parting moment last (last.conclude moment failure).1 (last.conclude moment failure).2

inductive Ends (moment : Moment) (event : Event) (start : Work) (outcome : Outcome) :
    Poller → List Deed → Prop where
  | lives (after : Poller) (live : after.phase.live = true)
      (acts : Acts moment event start outcome after.work) :
      Ends moment event start outcome after outcome.deeds
  | overflows (last after : Poller) (released : List Packet) (rest deeds : List Deed)
      (acts : Acts moment event start outcome ⟨last, none, released⟩)
      (crowd : mostParked < last.parked.length) (parting : Parting moment last after rest)
      (whole : deeds = outcome.deeds ++ released.map .dropped ++ rest) :
      Ends moment event start outcome after deeds

def Comes (moment : Moment) (event : Event) (start : Work) (passed absorbed : Bytes)
    (result : Poller × List Deed) : Prop :=
  ∃ outcome, outcome.passed = passed ∧ outcome.absorbed = absorbed ∧
    Ends moment event start outcome result.1 result.2

def opening (poller : Poller) (event : Event) : List Deed :=
  match poller.phase, event with
  | .passing packet _, .passed => [.passedDown packet.payload]
  | _, _ => []

/-- What comes from downstream with an event. -/
def Event.brings : Event → Bytes
  | .chunk bytes => bytes
  | _ => []

def offered (poller : Poller) (event : Event) : List Packet :=
  match poller.phase, event with
  | .flushing _, .packet => poller.parked ++ poller.queue.take 1
  | _, _ => poller.parked

/-- The poller gives up the packets in hand and parts. A packet taken from the queue is then
in hand, or parked. -/
inductive Leaves (moment : Moment) (event : Event) (poller : Poller) :
    Poller → List Deed → Prop where
  | parts (start : Work) (after : Poller) (rest deeds : List Deed)
      (packets : poller.work.packets.Perm start.packets)
      (terms : start.poller.terms = poller.terms)
      (parked : start.poller.parked = poller.offered event)
      (published : poller.published = poller.parked.length →
        start.poller.published = start.poller.parked.length)
      (nextReply : start.poller.nextReply = poller.nextReply)
      (pending : start.poller.pending = poller.pending)
      (parting : Parting moment start.poller after rest)
      (whole : deeds = (start.current.toList ++ start.released).map .dropped ++ rest)
      (early : start.poller.early = poller.early) (held : start.poller.held = poller.held) :
      Leaves moment event poller after deeds

/-- A result that a poller comes to in a step. -/
def ComesFrom (moment : Moment) (event : Event) (poller : Poller) (passed : Bytes)
    (result : Poller × List Deed) : Prop :=
  Comes moment event poller.work passed event.brings result ∨
    (passed = [] ∧ event.brings = [] ∧ Leaves moment event poller result.1 result.2)

@[simp] theorem publish_parked (poller : Poller) : poller.publish.parked = poller.parked := rfl

section Deeds

variable (deeds further : List Deed)

@[simp] theorem data_of_append :
    dataOf (deeds ++ further) = dataOf deeds ++ dataOf further :=
  List.filterMap_append

@[simp] theorem passed_down_append :
    passedDown (deeds ++ further) = passedDown deeds ++ passedDown further :=
  List.flatMap_append

@[simp] theorem completed_append :
    completed (deeds ++ further) = completed deeds ++ completed further :=
  List.filterMap_append

theorem data_of_dropped (packets : List Packet) : dataOf (packets.map .dropped) = [] := by
  simp [dataOf]

theorem passed_down_dropped (packets : List Packet) :
    passedDown (packets.map .dropped) = [] := by
  simp [passedDown]

theorem data_of_heartbeats (moment : Moment) (packets : List Packet) :
    dataOf (heartbeats moment packets) = [] := by
  unfold dataOf heartbeats
  rw [List.filterMap_map, List.filterMap_eq_nil_iff]
  intro packet _
  dsimp only [Function.comp]
  split_ifs <;> rfl

theorem passed_down_heartbeats (moment : Moment) (packets : List Packet) :
    passedDown (heartbeats moment packets) = [] := by
  unfold passedDown heartbeats
  rw [List.flatMap_eq_nil_iff]
  intro deed member
  obtain ⟨packet, _, same⟩ := List.mem_map.mp member
  split_ifs at same <;> subst same <;> rfl

end Deeds

section Replies

variable (moment : Moment)

theorem offer_spec (gone : Nat → Bool) (serial : Nat) (payload : Bytes) (parked : List Packet) :
    let (took, left, deeds) := offer gone (.data serial payload) parked
    parked = completed deeds ++ left ∧
      dataOf deeds = (if took then [(serial, payload)] else []) ∧ passedDown deeds = [] ∧
      left.length ≤ parked.length - 1 ∧ (took = false → left = []) ∧
      (took = true ↔ ∃ packet ∈ parked, gone packet.client = false) := by
  induction parked with
  | nil => exact ⟨rfl, rfl, rfl, Nat.le_refl _, fun _ => rfl, by simp⟩
  | cons packet rest induction =>
      rw [offer]
      split_ifs with away
      · rcases induction with ⟨split, data, silent, shrinks, emptied, present⟩
        refine ⟨congrArg (packet :: ·) split, data, silent,
          Nat.le_trans shrinks (Nat.sub_le _ _), emptied, present.trans ?_⟩
        simp [away]
      · exact ⟨rfl, rfl, rfl, Nat.le_refl _, by simp, by simp [away]⟩

structure Replied (poller : Poller) (after : Poller) (deeds : List Deed) : Prop where
  split : poller.parked = completed deeds ++ after.parked
  shrinks : after.parked.length ≤ poller.parked.length - 1
  silent : passedDown deeds = []
  terms : after.terms = poller.terms
  phase : after.phase = poller.phase
  queue : after.queue = poller.queue
  early : after.early = poller.early
  lastSeen : after.lastSeen = poller.lastSeen
  pollAt : after.pollAt = if after.parked = [] then none else poller.pollAt
  published : after.published = after.parked.length
  data : (dataOf deeds = [] ∧ after.nextReply = poller.nextReply ∧
      after.pending = poller.pending) ∨
    (dataOf deeds = [(poller.nextReply, poller.pending)] ∧
      after.nextReply = poller.nextReply + 1 ∧ after.pending = [])
  filled : ∀ entry ∈ dataOf deeds, entry.2 ≠ []
  emptied : after.parked = [] ∨ after.pending = []
  fetched : (∃ packet ∈ poller.parked, moment.gone packet.client = false) → after.pending = []
  held : after.held = poller.held

theorem reply_oldest_replied (poller : Poller) :
    Replied moment poller (poller.replyOldest moment).1 (poller.replyOldest moment).2 := by
  unfold replyOldest
  cases parked : poller.parked with
  | nil =>
      exact ⟨parked, Nat.zero_le _, rfl, rfl, rfl, rfl, rfl, rfl, rfl, rfl,
        .inl ⟨rfl, rfl, rfl⟩, by simp [dataOf], .inl rfl, by simp [parked], rfl⟩
  | cons oldest rest =>
      by_cases empty : poller.pending = []
      · simp only [if_pos empty]
        by_cases gone : moment.gone oldest.client = true
        · simp only [if_pos gone]
          exact ⟨parked, Nat.le_of_eq (by simp [publish, parked]), rfl, rfl, rfl, rfl, rfl, rfl,
            by simp [publish], rfl, .inl ⟨rfl, rfl, rfl⟩, by simp [dataOf], .inr empty,
            fun _ => empty, rfl⟩
        · simp only [if_neg gone]
          exact ⟨parked, Nat.le_of_eq (by simp [publish, parked]), rfl, rfl, rfl, rfl, rfl, rfl,
            by simp [publish], rfl, .inl ⟨rfl, rfl, rfl⟩, by simp [dataOf], .inr empty,
            fun _ => empty, rfl⟩
      · simp only [if_neg empty]
        have offered := offer_spec moment.gone poller.nextReply poller.pending (oldest :: rest)
        generalize offer moment.gone (.data poller.nextReply poller.pending) (oldest :: rest) =
          answer at offered
        rcases answer with ⟨took, left, deeds⟩
        rcases offered with ⟨split, data, silent, shrinks, emptied, present⟩
        have taker := fun some => present.mpr (parked ▸ some)
        cases took with
        | false =>
            refine ⟨parked.trans split, parked ▸ shrinks, silent, rfl, rfl, rfl, rfl, rfl,
              by simp [publish], rfl, .inl ⟨data, rfl, rfl⟩, ?_, .inl (emptied rfl), fun some => ?_,
              rfl⟩
            · simp [data]
            · cases taker some
        | true =>
            refine ⟨parked.trans split, parked ▸ shrinks, silent, rfl, rfl, rfl, rfl, rfl,
              by simp [publish], rfl, .inr ⟨data, rfl, rfl⟩, ?_, .inr rfl, fun _ => rfl, rfl⟩
            simpa [data] using empty

end Replies

section Composition

variable {moment : Moment} {event : Event}

theorem Outcome.followed_by_none (outcome : Outcome) : outcome.followedBy {} = outcome := by
  simp [Outcome.followedBy]

theorem Outcome.followed_by_assoc (first second third : Outcome) :
    (first.followedBy second).followedBy third = first.followedBy (second.followedBy third) := by
  simp [Outcome.followedBy]

theorem Act.acts {first last : Work} {outcome : Outcome}
    (act : Act moment event first outcome last) : Acts moment event first outcome last := by
  have acts := Acts.more first last last outcome {} act (.none last)
  rwa [Outcome.followed_by_none] at acts

theorem Acts.trans {first middle last : Work} {outcome further : Outcome}
    (acts : Acts moment event first outcome middle)
    (later : Acts moment event middle further last) :
    Acts moment event first (outcome.followedBy further) last := by
  induction acts with
  | none work => exact later
  | more first middle last outcome more act acts induction =>
      rw [Outcome.followed_by_assoc]
      exact .more _ _ _ _ _ act (induction later)

theorem Act.live_eq {first last : Work} {outcome : Outcome}
    (act : Act moment event first outcome last) :
    last.poller.phase.live = first.poller.phase.live := by
  cases act with
  | reply => exact congrArg Phase.live (reply_oldest_replied moment first.poller).phase
  | turn _ _ same => exact same
  | _ => rfl

theorem Acts.live_eq {first last : Work} {outcome : Outcome}
    (acts : Acts moment event first outcome last) :
    last.poller.phase.live = first.poller.phase.live := by
  induction acts with
  | none work => rfl
  | more first middle last outcome further act acts induction =>
      exact induction.trans act.live_eq

theorem Acts.silent {first last : Work} {outcome : Outcome}
    (acts : Acts moment event first outcome last) : passedDown outcome.deeds = [] := by
  induction acts with
  | none work => rfl
  | more first middle last outcome further act acts induction =>
      have own : passedDown outcome.deeds = [] := by
        cases act with
        | reply => exact (reply_oldest_replied moment first.poller).silent
        | _ => rfl
      rw [Outcome.followedBy, passed_down_append, own, induction]
      rfl

theorem Acts.ends {first middle : Work} {outcome further : Outcome} {after : Poller}
    {deeds : List Deed} (acts : Acts moment event first outcome middle)
    (ends : Ends moment event middle further after deeds) :
    Ends moment event first (outcome.followedBy further) after (outcome.deeds ++ deeds) := by
  cases ends with
  | lives _ live later => exact .lives after live (acts.trans later)
  | overflows last _ released rest _ later crowd parting whole =>
      refine .overflows last after released rest _ (acts.trans later) crowd parting ?_
      rw [whole, Outcome.followedBy, List.append_assoc, List.append_assoc, List.append_assoc]

theorem Acts.comes {first middle : Work} {outcome : Outcome} {passed absorbed : Bytes}
    {result : Poller × List Deed} (acts : Acts moment event first outcome middle)
    (comes : Comes moment event middle passed absorbed result) :
    Comes moment event first (outcome.passed ++ passed) (outcome.absorbed ++ absorbed)
      (result.1, outcome.deeds ++ result.2) := by
  rcases comes with ⟨further, rfl, rfl, ends⟩
  exact ⟨outcome.followedBy further, rfl, rfl, acts.ends ends⟩

theorem Acts.comes_live {first last : Work} {outcome : Outcome} (result : Poller × List Deed)
    (acts : Acts moment event first outcome last) (same : last = result.1.work)
    (live : result.1.phase.live = true) (deeds : result.2 = outcome.deeds) :
    Comes moment event first outcome.passed outcome.absorbed result := by
  refine ⟨outcome, rfl, rfl, ?_⟩
  rw [deeds]
  exact .lives result.1 live (same ▸ acts)

end Composition

section Functions

variable (moment : Moment) (event : Event)

theorem fail_parts (poller : Poller) (failure : Failure) :
    Parting moment poller (poller.fail moment failure).1 (poller.fail moment failure).2 := by
  unfold fail
  split_ifs with late
  · exact .waits late.2.2 late.2.1
  · exact .concludes (some failure)

theorem park_acts (poller : Poller) (packet : Packet) (released : List Packet) (passed : Bytes)
    (paid : Paid event packet.payload passed) :
    Acts moment event ⟨poller, some packet, released⟩
      ⟨(poller.park moment packet).2, passed, []⟩
      ⟨(poller.park moment packet).1, none, released⟩ := by
  unfold park
  by_cases full : poller.parked.length = mostParked
  · simp only [if_pos full]
    have replied : Act moment event ⟨poller, some packet, released⟩ _ _ := .reply _
    have shrinks := (reply_oldest_replied moment poller).shrinks
    have room : (poller.replyOldest moment).1.parked.length ≠ mostParked := by
      unfold mostParked at full ⊢
      omega
    have both := replied.acts.trans (Act.park _ packet released passed room paid).acts
    simpa only [Outcome.followedBy, List.append_nil, List.nil_append] using both
  · simp only [if_neg full]
    exact (Act.park poller packet released passed full paid).acts

theorem work_of_phase (poller : Poller) (phase : Phase) (same : poller.phase = phase) :
    poller.work = ⟨poller, phase.current, phase.released⟩ := by
  rw [work, same]

theorem settle_comes (poller : Poller) (live : poller.phase.live = true) :
    Comes moment event ⟨poller, none, []⟩ [] [] (poller.settle moment) := by
  have turned : Act moment event ⟨poller, none, []⟩ _ _ := .turn _ .serving live.symm
  unfold settle
  dsimp only
  split_ifs
  · have replied := turned.acts.trans (Act.reply _).acts
    have phase := (reply_oldest_replied moment { poller with phase := .serving }).phase
    refine replied.comes_live _ ?_ ?_ rfl
    · exact (work_of_phase _ .serving phase).symm
    · rw [phase]
      rfl
  · exact turned.acts.comes_live _ rfl rfl rfl

theorem decide_reply_comes (poller : Poller) (live : poller.phase.live = true) :
    Comes moment event ⟨poller, none, []⟩ [] [] (poller.decideReply moment) := by
  unfold decideReply
  split_ifs
  · have turned : Act moment event ⟨poller, none, []⟩ _ _ :=
      .turn _ (.prompting (moment.now + poller.terms.promptFor)) live.symm
    exact turned.acts.comes_live _ rfl rfl rfl
  · exact settle_comes moment event poller live

theorem resume_comes (poller : Poller) (packet : Packet) (released : List Packet)
    (passed : Bytes) (live : poller.phase.live = true)
    (paid : Paid event packet.payload passed)
    (further : ∀ other : Poller, other.phase.live = true →
      Comes moment event ⟨other, none, released⟩ [] [] (other.takeIn moment released)) :
    Comes moment event ⟨poller, some packet, released⟩ passed []
      (poller.resume moment packet released) := by
  have parks := park_acts moment event poller packet released passed paid
  have alive := parks.live_eq.trans live
  unfold resume
  generalize poller.park moment packet = parked at parks alive
  rcases parked with ⟨parked, deeds⟩
  dsimp only at parks alive ⊢
  split_ifs with full
  · have parting := fail_parts moment parked (.tooManyParked parked.parked.length)
    exact ⟨_, rfl, rfl, .overflows parked _ released _ _ parks full parting rfl⟩
  · have comes := parks.comes (further parked alive)
    simpa only [List.append_nil] using comes

/-- Packets without payload are parked on the spot; the first one with a payload stays. -/
theorem take_in_comes (released : List Packet) (poller : Poller)
    (live : poller.phase.live = true) :
    Comes moment event ⟨poller, none, released⟩ [] [] (poller.takeIn moment released) := by
  induction released generalizing poller with
  | nil => exact decide_reply_comes moment event poller live
  | cons packet released induction =>
      have seen : Act moment event ⟨poller, none, packet :: released⟩ _ _ :=
        .see poller packet released
      by_cases empty : packet.payload = []
      · have resumed := resume_comes moment event { poller with lastSeen := packet.serial } packet
          released [] live (.inl ⟨empty.symm, .inl empty⟩) induction
        rw [if_pos empty] at seen
        rw [takeIn, if_pos empty]
        exact seen.acts.comes resumed
      · rw [if_neg empty] at seen
        have turned : Act moment event
            ⟨{ poller with lastSeen := packet.serial, lastUse := moment.now }, some packet,
              released⟩ _ _ := .turn _ (.passing packet released) live.symm
        rw [takeIn, if_neg empty]
        exact (seen.acts.trans turned.acts).comes_live _ rfl rfl rfl

theorem Comes.from_work {poller : Poller} {passed : Bytes} {result : Poller × List Deed}
    (comes : Comes moment event poller.work passed event.brings result) :
    ComesFrom moment event poller passed result := .inl comes

theorem Parting.comes_from {poller after : Poller} {deeds : List Deed}
    (parting : Parting moment poller after deeds) (idle : poller.work = ⟨poller, none, []⟩)
    (offers : poller.offered event = poller.parked) (nothing : event.brings = []) :
    ComesFrom moment event poller [] (after, deeds) := by
  have packets : poller.work.packets.Perm (Work.mk poller none []).packets := by rw [idle]
  exact .inr ⟨rfl, nothing, .parts ⟨poller, none, []⟩ after deeds deeds packets rfl offers.symm id
    rfl rfl parting rfl rfl rfl⟩

/-- A queued packet is refused, kept, or releases itself and what waited for it. -/
theorem receive_comes (poller : Poller) (packet : Packet) (rest : List Packet)
    (serving : poller.phase = .serving) (waiting : poller.queue = packet :: rest)
    (came : event = .packet) :
    ComesFrom moment event poller [] ({ poller with queue := rest }.receive moment packet) := by
  have nothing : event.brings = [] := by
    rw [came]
    rfl
  have here : poller.work = ⟨poller, none, []⟩ := work_of_phase poller .serving serving
  have refuses : ∀ failure, ComesFrom moment event poller []
      (({ poller with queue := rest }.fail moment failure).1,
        .dropped packet :: ({ poller with queue := rest }.fail moment failure).2) := by
    intro failure
    refine .inr ⟨rfl, nothing, ?_⟩
    refine .parts ⟨{ poller with queue := rest }, some packet, []⟩ _ _ _ ?_ rfl ?_ id rfl rfl
      (fail_parts moment _ failure) rfl rfl rfl
    · rw [here]
      apply List.perm_iff_count.mpr
      intro other
      simp only [Work.packets, waiting, List.count_append, List.count_cons, List.count_nil,
        Option.toList_none, Option.toList_some]
      omega
    · simp [offered, serving]
  unfold receive
  dsimp only
  split_ifs with negative
  · exact refuses _
  · cases pushed : poller.early.push packet.serial.toNat packet with
    | error refusal => exact refuses _
    | ok result =>
        rcases result with ⟨released, early⟩
        have ordered : Act moment event ⟨poller, none, []⟩ _ _ :=
          .order poller packet rest released early waiting (by omega) pushed came
        apply Comes.from_work
        rw [here, nothing]
        cases released with
        | nil =>
            generalize held : poller.heldAfter moment packet [] early = kept at ordered
            rw [heldAfter, if_pos rfl] at held
            dsimp only
            rw [held]
            have still := work_of_phase
              { poller with queue := rest, early := early, held := kept } .serving serving
            exact ordered.acts.comes_live (_, []) still.symm (by rw [serving]; rfl) rfl
        | cons first released =>
            rw [heldAfter, if_neg (List.cons_ne_nil _ _)] at ordered
            exact ordered.acts.comes (take_in_comes moment event (first :: released) _
              (by rw [serving]; rfl))

theorem take_comes (poller : Poller) (chunk : Bytes) (came : event = .chunk chunk)
    (live : poller.phase.live = true) :
    ComesFrom moment event poller [] (poller.take moment chunk) := by
  have absorbed : Act moment event poller.work _ _ := .absorb poller.work chunk came
  have brought : event.brings = chunk := by
    rw [came]
    rfl
  apply Comes.from_work
  rw [brought]
  unfold take
  dsimp only
  split_ifs
  · exact absorbed.acts.comes_live (poller.absorb moment.now chunk, []) rfl live rfl
  · have replied := absorbed.acts.trans (Act.reply _).acts
    have phase := (reply_oldest_replied moment (poller.absorb moment.now chunk)).phase
    have comes := replied.comes_live ((poller.absorb moment.now chunk).replyOldest moment)
      (work_of_phase _ poller.phase phase).symm (by rw [phase]; exact live) rfl
    simpa only [Outcome.followedBy, List.append_nil] using comes

theorem repoll_comes (poller : Poller) (live : poller.phase.live = true)
    (expired : event = .pollDue) :
    ComesFrom moment event poller []
      ({ (poller.replyOldest moment).1 with
          pollAt := if (poller.replyOldest moment).1.parked = [] then
              (poller.replyOldest moment).1.pollAt
            else some (moment.now + poller.terms.pollFor) },
        (poller.replyOldest moment).2) := by
  have replies := reply_oldest_replied moment poller
  have still : ∀ pollAt, ({ (poller.replyOldest moment).1 with pollAt := pollAt } : Poller).work =
      ⟨{ (poller.replyOldest moment).1 with pollAt := pollAt }, poller.work.current,
        poller.work.released⟩ :=
    fun pollAt => work_of_phase _ poller.phase replies.phase
  have replied : Act moment event poller.work _ _ := .reply poller.work
  have both := replied.acts.trans (Act.repoll _ expired).acts
  apply Comes.from_work
  rw [expired, ← replies.terms] at *
  exact both.comes_live (_, (poller.replyOldest moment).2) (still _).symm
    (by rw [replies.phase]; exact live) (List.append_nil _).symm

theorem serve_comes (poller after : Poller) (deeds : List Deed) (serving : poller.phase = .serving)
    (served : poller.serve moment event = some (after, deeds)) :
    ComesFrom moment event poller [] (after, deeds) := by
  have here : poller.work = ⟨poller, none, []⟩ := work_of_phase poller .serving serving
  have live : poller.phase.live = true := by
    rw [serving]
    rfl
  have offers : poller.offered event = poller.parked := by simp [offered, serving]
  have concludes : ∀ failure, event.brings = [] → ComesFrom moment event poller []
      (poller.conclude moment failure) :=
    fun failure => (Parting.concludes failure).comes_from moment event here offers
  have fails : ∀ failure, event.brings = [] → ComesFrom moment event poller []
      (poller.fail moment failure) :=
    fun failure => (fail_parts moment poller failure).comes_from moment event here offers
  cases event with
  | close =>
      cases served
      exact concludes none rfl
  | stop =>
      simp only [serve] at served
      split_ifs at served
      rw [← Option.some.inj served]
      exact fails .downstreamClosed rfl
  | chunk chunk =>
      simp only [serve] at served
      split_ifs at served
      rw [← Option.some.inj served]
      exact take_comes moment _ poller chunk rfl live
  | downstreamEnd =>
      simp only [serve] at served
      split_ifs at served
      rw [← Option.some.inj served]
      exact fails .downstreamClosed rfl
  | packet =>
      cases waiting : poller.queue <;> simp only [serve, waiting] at served
      case cons packet rest =>
        rw [← Option.some.inj served]
        exact receive_comes moment _ poller packet rest serving waiting rfl
      all_goals cases served
  | packetsEnd =>
      simp only [serve] at served
      split_ifs at served
      cases served
      exact concludes none rfl
  | pollDue =>
      simp only [serve] at served
      by_cases due : due moment poller.pollAt = true
      · rw [if_pos due] at served
        rw [← Option.some.inj served]
        exact repoll_comes moment _ poller live rfl
      · rw [if_neg due] at served
        cases served
  | heldDue =>
      cases held : poller.held <;> simp only [serve, held] at served
      case some due =>
        split_ifs at served
        rw [← Option.some.inj served]
        exact fails (.serialMismatch poller.lastSeen due.2) rfl
      all_goals cases served
  | idleDue =>
      simp only [serve] at served
      split_ifs at served
      cases served
      exact concludes none rfl
  | promptDue => cases served
  | flushDue => cases served
  | passed => cases served
  | refused => cases served

theorem pass_comes (poller after : Poller) (packet : Packet) (released : List Packet)
    (deeds : List Deed) (passing : poller.phase = .passing packet released)
    (moved : poller.pass moment packet released event = some (after, deeds)) :
    ∃ own, deeds = poller.opening event ++ own ∧
      ComesFrom moment event poller (passedDown (poller.opening event)) (after, own) := by
  have live : poller.phase.live = true := by
    rw [passing]
    rfl
  have here : poller.work = ⟨poller, some packet, released⟩ :=
    work_of_phase poller (.passing packet released) passing
  have abandons : event.brings = [] → ComesFrom moment event poller []
      (poller.abandon moment packet released) := by
    intro nothing
    refine .inr ⟨rfl, nothing, ?_⟩
    have packets : poller.work.packets.Perm
        (Work.mk poller (some packet) released).packets := by rw [here]
    exact .parts ⟨poller, some packet, released⟩ _ _ _ packets rfl (by simp [offered, passing]) id
      rfl rfl (fail_parts moment poller .downstreamClosed) rfl rfl rfl
  have resumes := fun passed paid => resume_comes moment event poller packet released passed live
    paid (take_in_comes moment event released)
  rw [← here] at resumes
  have opened : ∀ other, other ≠ .passed → poller.opening other = [] := by
    intro other different
    unfold opening
    rw [passing]
    cases other with
    | passed => exact absurd rfl different
    | _ => rfl
  cases event with
  | close =>
      rw [opened _ (by simp)]
      refine ⟨deeds, rfl, ?_⟩
      rw [← Option.some.inj moved]
      exact (resumes [] (.inr ⟨rfl, rfl⟩)).from_work
  | passed =>
      have passes : poller.opening .passed = [.passedDown packet.payload] := by
        unfold opening
        rw [passing]
      cases moved
      rw [passes]
      refine ⟨_, rfl, ?_⟩
      have comes := resumes packet.payload (.inl ⟨rfl, .inr rfl⟩)
      have bytes : passedDown [.passedDown packet.payload] = packet.payload := by
        simp [passedDown]
      rw [bytes]
      exact comes.from_work
  | refused =>
      rw [opened _ (by simp)]
      refine ⟨deeds, rfl, ?_⟩
      rw [← Option.some.inj moved]
      exact abandons rfl
  | downstreamEnd =>
      rw [opened _ (by simp)]
      refine ⟨deeds, rfl, ?_⟩
      rw [← Option.some.inj moved]
      exact abandons rfl
  | chunk chunk =>
      rw [opened _ (by simp)]
      refine ⟨deeds, rfl, ?_⟩
      rw [← Option.some.inj moved]
      exact take_comes moment _ poller chunk rfl live
  | _ => cases moved

theorem prompt_comes (poller after : Poller) (deadline : Nat) (deeds : List Deed)
    (prompting : poller.phase = .prompting deadline)
    (moved : poller.prompt moment deadline event = some (after, deeds)) :
    ComesFrom moment event poller [] (after, deeds) := by
  have live : poller.phase.live = true := by
    rw [prompting]
    rfl
  have here : poller.work = ⟨poller, none, []⟩ :=
    work_of_phase poller (.prompting deadline) prompting
  have settles := settle_comes moment event poller live
  rw [← here] at settles
  cases event with
  | chunk chunk =>
      rw [← Option.some.inj moved]
      have absorbed : Act moment (.chunk chunk) poller.work _ _ := .absorb poller.work chunk rfl
      rw [here] at absorbed
      have comes := absorbed.acts.comes
        (settle_comes moment _ (poller.absorb moment.now chunk) live)
      rw [← here] at comes
      simp only [List.append_nil, List.nil_append] at comes
      apply Comes.from_work
      exact comes
  | downstreamEnd =>
      rw [← Option.some.inj moved]
      exact settles.from_work
  | promptDue =>
      simp only [prompt] at moved
      split_ifs at moved
      rw [← Option.some.inj moved]
      exact settles.from_work
  | _ => cases moved

theorem flush_comes (poller after : Poller) (deadline : Nat) (deeds : List Deed)
    (flushing : poller.phase = .flushing deadline)
    (moved : poller.flush moment deadline event = some (after, deeds)) :
    ComesFrom moment event poller [] (after, deeds) := by
  have here : poller.work = ⟨poller, none, []⟩ :=
    work_of_phase poller (.flushing deadline) flushing
  have concludes : event ≠ .packet → event.brings = [] → ComesFrom moment event poller []
      (poller.conclude moment (some .downstreamClosed)) :=
    fun other => (Parting.concludes _).comes_from moment event here (by simp [offered, other])
  cases event with
  | close =>
      rw [← Option.some.inj moved]
      exact concludes (by simp) rfl
  | packet =>
      cases waiting : poller.queue <;> simp only [flush, waiting] at moved
      case cons packet rest =>
        rw [← Option.some.inj moved]
        refine .inr ⟨rfl, rfl, ?_⟩
        refine .parts ⟨publish { poller with
          queue := rest
          parked := poller.parked ++ [packet] }, none, []⟩ _ _ _ ?_ rfl ?_ (fun _ => rfl) rfl rfl
          (.concludes _) rfl rfl rfl
        · rw [here]
          apply List.perm_iff_count.mpr
          intro other
          simp only [Work.packets, publish, waiting, List.count_append, List.count_cons,
            List.count_nil, Option.toList_none]
          omega
        · simp [offered, flushing, waiting, publish]
      all_goals cases moved
  | packetsEnd =>
      simp only [flush] at moved
      split_ifs at moved
      rw [← Option.some.inj moved]
      exact concludes (by simp) rfl
  | flushDue =>
      simp only [flush] at moved
      split_ifs at moved
      rw [← Option.some.inj moved]
      exact concludes (by simp) rfl
  | _ => cases moved

/-- Every step of a poller is a sequence of acts or a parting, after the downstream writer took
a payload if it did. -/
theorem step_comes (poller after : Poller) (deeds : List Deed)
    (stepped : poller.step moment event = some (after, deeds)) :
    ∃ own, deeds = poller.opening event ++ own ∧
      ComesFrom moment event poller (passedDown (poller.opening event)) (after, own) := by
  have opened : (∀ packet released, poller.phase ≠ .passing packet released) →
      poller.opening event = [] := by
    intro elsewhere
    unfold opening
    cases phase : poller.phase with
    | passing packet released => exact absurd phase (elsewhere packet released)
    | _ => rfl
  cases phase : poller.phase <;> simp only [step, phase] at stepped
  case serving =>
    rw [opened (by simp [phase])]
    exact ⟨deeds, rfl, serve_comes moment event poller after deeds phase stepped⟩
  case passing packet released =>
    exact pass_comes moment event poller after packet released deeds phase stepped
  case prompting deadline =>
    rw [opened (by simp [phase])]
    exact ⟨deeds, rfl, prompt_comes moment event poller after deadline deeds phase stepped⟩
  case flushing deadline =>
    rw [opened (by simp [phase])]
    exact ⟨deeds, rfl, flush_comes moment event poller after deadline deeds phase stepped⟩
  all_goals cases stepped

end Functions

end HttpTunnel.Server.Poller
