import HttpTunnel.Proofs.PollerRuns
import HttpTunnel.Server.Tunnel

/-!
Every request comes to its end. A packet that the poller accepted is with it until a deed
completes it, and a poller that has ended has no packets, whichever way it ended. On its way out
it sends bytes to one client at most, and from then on it returns every packet.
-/

namespace HttpTunnel.Server.Poller

variable {terms : Terms}

/-- An answer failed only if the client of the request had gone by then. -/
def Excused (trace : List Entry) : Prop :=
  ∀ moment event before after deeds, .stepped moment event before after deeds ∈ trace →
    ∀ packet, .missed packet ∈ deeds → moment.gone packet.client = true

/-- What a run has made of the requests so far. -/
structure Accounted (poller : Poller) (trace : List Entry) : Prop where
  balance : (accepted trace).Perm (completed (deedsOf trace) ++ poller.work.packets)
  excused : Excused trace
  lone : dataOf (closing trace) = [] ∨
    poller.hasEnded = true ∧ (dataOf (closing trace)).length ≤ 1

theorem of_start_accounted (start : Nat) : (ofStart terms start).Accounted [] := by
  constructor
  · exact List.Perm.refl _
  · intro moment event before after deeds member
    cases member
  · exact .inl rfl

section Turns

variable {poller after : Poller} {past : List Entry}

theorem Excused.delivered (excused : Excused past) (packet : Packet) (delivery : Delivery) :
    Excused (past ++ [.delivered packet delivery]) := by
  intro moment event before after deeds member
  rcases List.mem_append.mp member with early | late
  · exact excused moment event before after deeds early
  · cases List.mem_singleton.mp late

theorem Excused.stepped {moment : Moment} {event : Event} {deeds : List Deed}
    (excused : Excused past) (stepped : poller.step moment event = some (after, deeds)) :
    Excused (past ++ [.stepped moment event poller after deeds]) := by
  intro instant other before later own member
  rcases List.mem_append.mp member with early | late
  · exact excused instant other before later own early
  · cases List.mem_singleton.mp late
    exact step_misses poller after deeds stepped

theorem Accounted.queues (accounted : poller.Accounted past) (packet : Packet) :
    Accounted { poller with queue := poller.queue ++ [packet] }
      (past ++ [.delivered packet .queued]) := by
  constructor
  · rw [deeds_of_delivered, accepted_append]
    apply List.perm_iff_count.mpr
    intro other
    have counts := accounted.balance.count_eq other
    simp only [Work.packets, work, accepted, List.filterMap_cons, List.filterMap_nil,
      List.count_append, List.count_cons, List.count_nil] at counts ⊢
    omega
  · exact accounted.excused.delivered packet .queued
  · rw [closing_delivered]
    exact accounted.lone

theorem Accounted.turnsAway (accounted : poller.Accounted past) (packet : Packet)
    (delivery : Delivery) (other : delivery ≠ .queued) :
    poller.Accounted (past ++ [.delivered packet delivery]) := by
  constructor
  · rw [deeds_of_delivered, accepted_other _ _ _ other]
    exact accounted.balance
  · exact accounted.excused.delivered packet delivery
  · rw [closing_delivered]
    exact accounted.lone

theorem Accounted.steps {moment : Moment} {event : Event} {deeds : List Deed}
    (sound : poller.Sound terms) (accounted : poller.Accounted past)
    (stepped : poller.step moment event = some (after, deeds)) :
    after.Accounted (past ++ [.stepped moment event poller after deeds]) := by
  have most := sound.uncrowded.most
  constructor
  · have accounts := step_accounts poller after deeds most sound.aligned stepped
    rw [accepted_stepped, deeds_of_stepped, completed_append, List.append_assoc]
    exact accounted.balance.trans (accounts.append_left _)
  · exact accounted.excused.stepped stepped
  · have active := step_active poller after deeds stepped
    have silent : dataOf (closing past) = [] := by
      apply accounted.lone.resolve_right
      rintro ⟨ended, _⟩
      rw [active] at ended
      cases ended
    cases life : after.phase.live with
    | true =>
        rw [closing_live _ _ _ _ _ _ life]
        exact .inl silent
    | false =>
        rw [closing_dead _ _ _ _ _ _ life, data_of_append, silent, List.nil_append]
        exact step_lone poller after deeds most stepped life

end Turns

theorem run_accounted (start : Nat) (script : List Happening) (poller : Poller)
    (trace : List Entry) (ran : (ofStart terms start).run script = some (poller, trace)) :
    poller.Sound terms ∧ poller.Accounted trace := by
  apply run_sound terms start (fun poller past => poller.Accounted past) ?_ ?_ script poller trace
    ran
  · exact of_start_accounted start
  · intro before after past entry sound accounted turn
    cases turn with
    | queues packet accepts => exact accounted.queues packet
    | turnsAway packet delivery other => exact accounted.turnsAway packet delivery other
    | steps moment event _ deeds stepped => exact accounted.steps sound stepped

theorem ended_run (poller after : Poller) (script : List Happening) (trace : List Entry)
    (ended : poller.hasEnded = true) (refuses : poller.accepting = false)
    (ran : poller.run script = some (after, trace)) :
    after = poller ∧ accepted trace = [] ∧ deedsOf trace = [] := by
  apply run_keeps (fun last past => last = poller ∧ accepted past = [] ∧ deedsOf past = []) ?_
    script poller after [] trace ⟨rfl, rfl, rfl⟩ ran
  rintro before last past entry ⟨rfl, none, silent⟩ turn
  cases turn with
  | queues packet accepts =>
      rw [refuses] at accepts
      cases accepts
  | turnsAway packet delivery other =>
      rw [accepted_other _ _ _ other, deeds_of_delivered]
      exact ⟨rfl, none, silent⟩
  | steps moment event _ deeds stepped =>
      rw [step_active before last deeds stepped] at ended
      cases ended

/-- The packets that a poller accepted are those that it has completed and those that it still
has, so none is lost and none completed twice. An answer fails only if its client has gone, and
a packet that is dropped reads as an empty response. After its service a poller sends bytes once
at most. When it has ended it has no packet left, all accepted ones are completed, and whatever
happens then it stays as it is and returns what is delivered. -/
theorem every_request_completed_once (terms : Terms) (start : Nat) (script : List Happening)
    (poller : Poller) (trace : List Entry)
    (ran : (ofStart terms start).run script = some (poller, trace)) :
    (accepted trace).Perm (completed (deedsOf trace) ++ poller.work.packets) ∧
      ((accepted trace).Nodup → (completed (deedsOf trace)).Nodup) ∧
      Excused trace ∧
      (∀ packet, (Tunnel.Deed.poller (.dropped packet)).response? =
        some (packet.client, ⟨.ok, []⟩)) ∧
      (dataOf (closing trace)).length ≤ 1 ∧
      ∀ failure, poller.phase = .ended failure →
        poller.parked = [] ∧ poller.early.early = [] ∧ poller.queue = [] ∧
          (accepted trace).Perm (completed (deedsOf trace)) ∧
          ∀ further after later, poller.run further = some (after, later) →
            after = poller ∧ accepted later = [] ∧ deedsOf later = [] ∧
              ∀ packet, after.deliver packet = (.refused, after) := by
  obtain ⟨sound, accounted⟩ := run_accounted start script poller trace ran
  refine ⟨accounted.balance, ?_, accounted.excused, fun _ => rfl, ?_, ?_⟩
  · intro distinct
    have all := (accounted.balance.nodup_iff).mp distinct
    exact (List.nodup_append.mp all).1
  · rcases accounted.lone with silent | ⟨_, once⟩
    · rw [silent]
      exact Nat.zero_le _
    · exact once
  · intro failure phase
    have ended : poller.hasEnded = true := by
      unfold hasEnded
      rw [phase]
    have rests := sound.rests ended
    refine ⟨rests.parked, rests.early, rests.queue, ?_, ?_⟩
    · have balance := accounted.balance
      rw [rests.packets ended, List.append_nil] at balance
      exact balance
    · intro further after later went
      obtain ⟨rfl, none, silent⟩ := ended_run poller after further later ended rests.refuses went
      refine ⟨rfl, none, silent, ?_⟩
      intro packet
      simp [deliver, rests.refuses]

/-- The downstream writer fails in the middle of two packets that were released together. -/
def failingWrite : List Happening :=
  [.deliver ⟨0, 2, [2]⟩, .event ⟨1, fun _ => false⟩ .packet, .deliver ⟨1, 1, [1]⟩,
    .event ⟨2, fun _ => false⟩ .packet, .deliver ⟨2, 3, []⟩,
    .event ⟨3, fun _ => false⟩ .refused]

theorem failing_write_completes_requests : ∃ poller trace,
    (ofStart {} 0).run failingWrite = some (poller, trace) ∧
      poller.phase = .ended (some .downstreamClosed) ∧
      accepted trace = [⟨0, 2, [2]⟩, ⟨1, 1, [1]⟩, ⟨2, 3, []⟩] ∧
      (accepted trace).Perm (completed (deedsOf trace)) := by
  have came : ∃ poller trace, (ofStart {} 0).run failingWrite = some (poller, trace) ∧
      poller.phase = .ended (some .downstreamClosed) ∧
      accepted trace = [⟨0, 2, [2]⟩, ⟨1, 1, [1]⟩, ⟨2, 3, []⟩] := ⟨_, _, rfl, rfl, rfl⟩
  obtain ⟨poller, trace, ran, ended, took⟩ := came
  have completes := every_request_completed_once {} 0 failingWrite poller trace ran
  have afterwards := completes.2.2.2.2.2 (some .downstreamClosed) ended
  exact ⟨poller, trace, ran, ended, took, afterwards.2.2.2.1⟩

end HttpTunnel.Server.Poller
