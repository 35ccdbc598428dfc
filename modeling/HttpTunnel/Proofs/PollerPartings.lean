import HttpTunnel.Proofs.PollerLaws

/-!
How a poller goes out of service. Since parking always finds a place, a step either leaves the
poller alive or gives up the packets in hand and parts. Either way each packet that the poller
had is with it afterwards or has been completed, and a poller that has ended has none.
-/

namespace HttpTunnel.Server.Poller

variable {moment : Moment} {event : Event}

section Places

theorem Act.most {first last : Work} {outcome : Outcome}
    (act : Act moment event first outcome last)
    (most : first.poller.parked.length ≤ mostParked) :
    last.poller.parked.length ≤ mostParked := by
  cases act with
  | reply =>
      have shrinks := (reply_oldest_replied moment first.poller).shrinks
      apply Nat.le_trans shrinks
      omega
  | park poller packet released passed room paid =>
      simp only [publish_parked, List.length_append, List.length_singleton] at most ⊢
      omega
  | _ => exact most

theorem Acts.most {first last : Work} {outcome : Outcome}
    (acts : Acts moment event first outcome last)
    (most : first.poller.parked.length ≤ mostParked) :
    last.poller.parked.length ≤ mostParked := by
  induction acts with
  | none work => exact most
  | more first middle last outcome further act acts induction => exact induction (act.most most)

/-- A step of a poller that has no more requests parked than it may have goes on by acts or
leaves. -/
theorem step_cases (poller after : Poller) (deeds : List Deed)
    (most : poller.parked.length ≤ mostParked)
    (stepped : poller.step moment event = some (after, deeds)) :
    (after.phase.live = true ∧ ∃ outcome, Acts moment event poller.work outcome after.work ∧
      deeds = poller.opening event ++ outcome.deeds) ∨
    (after.phase.live = false ∧ ∃ own, deeds = poller.opening event ++ own ∧
      Leaves moment event poller after own) := by
  obtain ⟨own, same, comes⟩ := step_comes moment event poller after deeds stepped
  rcases comes with ⟨outcome, _, _, ends⟩ | ⟨_, _, leaves⟩
  · apply Or.inl
    cases ends with
    | lives _ live acts => exact ⟨live, outcome, acts, same⟩
    | overflows last _ released _ _ acts crowd parting whole =>
        -- Acts keep the bound, so that no crowd comes about.
        have fits := acts.most most
        dsimp only at fits
        omega
  · apply Or.inr
    refine ⟨?_, own, same, leaves⟩
    cases leaves with
    | parts start _ _ _ _ _ _ _ _ _ parting whole => exact parting.dead

end Places

section Accounts

theorem completed_dropped (packets : List Packet) :
    completed (packets.map .dropped) = packets := by
  unfold completed
  rw [List.filterMap_map]
  exact List.filterMap_some

theorem completed_heartbeats (packets : List Packet) :
    completed (heartbeats moment packets) = packets := by
  induction packets with
  | nil => rfl
  | cons packet packets induction =>
      have first : completed (heartbeats moment (packet :: packets)) =
          packet :: completed (heartbeats moment packets) := by
        simp only [completed, heartbeats, List.map_cons, List.filterMap_cons]
        split_ifs <;> rfl
      rw [first, induction]

def idle (poller : Poller) : Work := ⟨poller, none, []⟩

theorem conclude_accounts (poller : Poller) (failure : Option Failure) :
    poller.idle.packets.Perm (completed (poller.conclude moment failure).2) := by
  have replied := reply_oldest_replied moment poller
  apply List.perm_iff_count.mpr
  intro other
  have parked := congrArg (List.count other) replied.split
  rw [List.count_append] at parked
  unfold conclude
  by_cases waited : poller.pending ≠ [] ∧ poller.parked ≠ []
  · simp only [if_pos waited, completed_append, completed_heartbeats, SerialWindow.drain,
      replied.early, replied.queue, Work.packets, idle, List.count_append, Option.toList_none,
      List.count_nil]
    omega
  · simp only [if_neg waited, List.nil_append, completed_heartbeats, SerialWindow.drain,
      Work.packets, idle, List.count_append, Option.toList_none, List.count_nil]
    omega

/-- Nothing is left to a poller that has ended, and nothing more is accepted. -/
structure AtRest (poller : Poller) : Prop where
  refuses : poller.accepting = false
  queue : poller.queue = []
  early : poller.early.early = []
  parked : poller.parked = []

theorem ended_phase (poller : Poller) (ended : poller.hasEnded = true) :
    ∃ failure, poller.phase = .ended failure := by
  unfold hasEnded at ended
  cases phase : poller.phase with
  | ended failure => exact ⟨failure, rfl⟩
  | _ =>
      rw [phase] at ended
      cases ended

theorem AtRest.packets {poller : Poller} (rests : poller.AtRest)
    (ended : poller.hasEnded = true) : poller.work.packets = [] := by
  obtain ⟨failure, phase⟩ := ended_phase poller ended
  simp only [Work.packets, work, phase, Phase.current, Phase.released, rests.queue, rests.early,
    rests.parked, List.map_nil, List.append_nil, Option.toList_none]

theorem conclude_rests (poller : Poller) (failure : Option Failure) :
    (poller.conclude moment failure).1.AtRest := by
  exact ⟨rfl, rfl, rfl, rfl⟩

theorem Parting.accounts {last after : Poller} {deeds : List Deed}
    (parting : Parting moment last after deeds) :
    last.idle.packets.Perm (completed deeds ++ after.work.packets) := by
  cases parting with
  | waits nobody left => exact List.Perm.refl _
  | concludes failure =>
      rw [(conclude_rests last failure).packets rfl, List.append_nil]
      exact conclude_accounts last failure

theorem Leaves.accounts {poller after : Poller} {deeds : List Deed}
    (leaves : Leaves moment event poller after deeds) :
    poller.work.packets.Perm (completed deeds ++ after.work.packets) := by
  cases leaves with
  | parts start _ rest _ packets _ _ _ _ _ parting whole =>
      obtain rfl : deeds = _ := whole
      have given : start.packets.Perm
          (start.current.toList ++ start.released ++ start.poller.idle.packets) := by
        apply List.perm_iff_count.mpr
        intro other
        simp only [Work.packets, idle, List.count_append, Option.toList_none, List.count_nil]
        omega
      rw [completed_append, completed_dropped, List.append_assoc]
      exact (packets.trans given).trans (parting.accounts.append_left _)

/-- Every packet that a poller had before a step is with it after the step, or the step has
completed it. -/
theorem step_accounts (poller after : Poller) (deeds : List Deed)
    (most : poller.parked.length ≤ mostParked)
    (aligned : poller.phase.live = true → poller.work.Aligned)
    (stepped : poller.step moment event = some (after, deeds)) :
    poller.work.packets.Perm (completed deeds ++ after.work.packets) := by
  rcases step_cases poller after deeds most stepped with
    ⟨live, outcome, acts, rfl⟩ | ⟨_, own, rfl, leaves⟩
  · have before := aligned (step_live _ _ _ stepped live)
    rw [completed_append, completed_opening]
    exact (acts.keeps before).packets
  · rw [completed_append, completed_opening]
    exact leaves.accounts

end Accounts

section Afterwards

variable (poller after : Poller) (deeds : List Deed)

theorem Parting.rests {last after : Poller} {deeds : List Deed}
    (parting : Parting moment last after deeds) (ended : after.hasEnded = true) :
    after.AtRest := by
  cases parting with
  | waits nobody left => cases ended
  | concludes failure => exact conclude_rests last failure

theorem step_leaves (most : poller.parked.length ≤ mostParked)
    (stepped : poller.step moment event = some (after, deeds)) (ended : after.hasEnded = true) :
    ∃ own, deeds = poller.opening event ++ own ∧ Leaves moment event poller after own := by
  rcases step_cases poller after deeds most stepped with ⟨live, _⟩ | ⟨_, leaves⟩
  · obtain ⟨failure, phase⟩ := ended_phase after ended
    rw [phase] at live
    cases live
  · exact leaves

theorem step_rests (most : poller.parked.length ≤ mostParked)
    (stepped : poller.step moment event = some (after, deeds)) (ended : after.hasEnded = true) :
    after.AtRest := by
  obtain ⟨own, _, leaves⟩ := step_leaves poller after deeds most stepped ended
  cases leaves with
  | parts start _ _ _ _ _ _ _ _ _ parting whole => exact parting.rests ended

/-- A poller that parts sends bytes at most once, and only when it ends. -/
theorem Parting.lone {last after : Poller} {deeds : List Deed}
    (parting : Parting moment last after deeds) :
    dataOf deeds = [] ∨ after.hasEnded = true ∧ (dataOf deeds).length ≤ 1 := by
  cases parting with
  | waits nobody left => exact .inl rfl
  | concludes failure =>
      refine .inr ⟨rfl, ?_⟩
      have replied := reply_oldest_replied moment last
      unfold conclude
      by_cases waited : last.pending ≠ [] ∧ last.parked ≠ []
      · simp only [if_pos waited, data_of_append, data_of_heartbeats, List.append_nil]
        rcases replied.data with ⟨data, _⟩ | ⟨data, _⟩
        · rw [data]
          exact Nat.zero_le _
        · rw [data]
          exact Nat.le_refl _
      · simp only [if_neg waited, List.nil_append, data_of_heartbeats]
        exact Nat.zero_le _

/-- The step out of service sends bytes at most once, and only if it ends the poller. -/
theorem step_lone (most : poller.parked.length ≤ mostParked)
    (stepped : poller.step moment event = some (after, deeds))
    (dead : after.phase.live = false) :
    dataOf deeds = [] ∨ after.hasEnded = true ∧ (dataOf deeds).length ≤ 1 := by
  rcases step_cases poller after deeds most stepped with ⟨live, _⟩ | ⟨_, own, rfl, leaves⟩
  · rw [dead] at live
    cases live
  · rw [data_of_append, data_of_opening, List.nil_append]
    cases leaves with
    | parts start _ _ _ _ _ _ _ _ _ parting whole =>
        obtain rfl : own = _ := whole
        rw [data_of_append, data_of_dropped, List.nil_append]
        exact parting.lone

theorem conclude_fetches (failure : Option Failure)
    (fetches : poller.pending = [] ∨
      ∃ packet ∈ poller.parked, moment.gone packet.client = false) :
    (poller.conclude moment failure).1.pending = [] := by
  have replied := reply_oldest_replied moment poller
  unfold conclude
  by_cases waited : poller.pending ≠ [] ∧ poller.parked ≠ []
  · simp only [if_pos waited]
    apply replied.fetched
    exact fetches.resolve_left waited.1
  · simp only [if_neg waited]
    rcases fetches with empty | ⟨packet, among, _⟩
    · exact empty
    · by_contra left
      exact waited ⟨left, List.ne_nil_of_mem among⟩

/-- A poller that ends has handed out all bytes if the client of a request that they were offered
to is there. -/
theorem step_fetches (most : poller.parked.length ≤ mostParked)
    (stepped : poller.step moment event = some (after, deeds)) (ended : after.hasEnded = true)
    (fetches : poller.pending = [] ∨
      ∃ packet ∈ poller.offered event, moment.gone packet.client = false) :
    after.pending = [] := by
  obtain ⟨own, _, leaves⟩ := step_leaves poller after deeds most stepped ended
  cases leaves with
  | parts start _ _ _ _ _ parked _ _ pending parting whole =>
      cases parting with
      | waits nobody left => cases ended
      | concludes failure =>
          apply conclude_fetches
          rw [pending, parked]
          exact fetches

theorem step_active (stepped : poller.step moment event = some (after, deeds)) :
    poller.hasEnded = false := by
  apply Bool.eq_false_iff.mpr
  intro ended
  obtain ⟨failure, phase⟩ := ended_phase poller ended
  rw [step, phase] at stepped
  cases stepped

end Afterwards

section Fixtures

/-- What is true throughout: the terms stay, and others see how many requests are parked. -/
structure Steady (terms : Terms) (poller : Poller) : Prop where
  terms : poller.terms = terms
  published : poller.published = poller.parked.length

variable {terms : Terms}

theorem Act.steady {first last : Work} {outcome : Outcome}
    (act : Act moment event first outcome last) (steady : first.poller.Steady terms) :
    last.poller.Steady terms := by
  cases act with
  | reply =>
      have replied := reply_oldest_replied moment first.poller
      exact ⟨replied.terms.trans steady.terms, replied.published⟩
  | park poller packet released passed room paid => exact ⟨steady.terms, rfl⟩
  | _ => exact ⟨steady.terms, steady.published⟩

theorem Acts.steady {first last : Work} {outcome : Outcome}
    (acts : Acts moment event first outcome last) (steady : first.poller.Steady terms) :
    last.poller.Steady terms := by
  induction acts with
  | none work => exact steady
  | more first middle last outcome further act acts induction =>
      exact induction (act.steady steady)

theorem Parting.steady {last after : Poller} {deeds : List Deed}
    (parting : Parting moment last after deeds) (steady : last.Steady terms) :
    after.Steady terms := by
  cases parting with
  | waits nobody left => exact ⟨steady.terms, steady.published⟩
  | concludes failure =>
      have replied := reply_oldest_replied moment last
      refine ⟨?_, rfl⟩
      unfold conclude
      by_cases waited : last.pending ≠ [] ∧ last.parked ≠ []
      · simp only [if_pos waited]
        exact replied.terms.trans steady.terms
      · simp only [if_neg waited]
        exact steady.terms

theorem step_steady (poller after : Poller) (deeds : List Deed)
    (most : poller.parked.length ≤ mostParked) (steady : poller.Steady terms)
    (stepped : poller.step moment event = some (after, deeds)) : after.Steady terms := by
  rcases step_cases poller after deeds most stepped with
    ⟨_, outcome, acts, _⟩ | ⟨_, own, _, leaves⟩
  · exact acts.steady steady
  · cases leaves with
    | parts start _ _ _ _ same _ published _ _ parting whole =>
        exact parting.steady ⟨same.trans steady.terms, published steady.published⟩

end Fixtures

end HttpTunnel.Server.Poller
