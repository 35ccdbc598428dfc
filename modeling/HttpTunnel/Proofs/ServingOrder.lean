import HttpTunnel.Proofs.PollerRuns

/-!
The order in which a poller completes requests. The requests that it has completed, those that
it has parked and the one in hand stand in a line: together they are the requests that it has
looked at, one for each serial from the first. Parking and answering only move the borders
between the three, so requests are completed in the order of their serials.
-/

namespace HttpTunnel.Server.Poller

variable {moment : Moment} {event : Event}

/-- The completed requests, the parked ones and the one in hand have the serials that the poller
has looked at, in order. -/
def Work.Lined (completed : List Packet) (work : Work) : Prop :=
  (completed ++ work.poller.parked ++ work.current.toList).map Packet.serial =
    (List.range' 1 work.poller.lastSeen.toNat).map Int.ofNat

section Line

variable {done : List Packet}

theorem Work.Lined.ascending {work : Work} (lined : work.Lined done) :
    ((done ++ work.poller.parked ++ work.current.toList).map Packet.serial).Pairwise (· < ·) := by
  unfold Work.Lined at lined
  rw [lined]
  apply List.pairwise_map.mpr
  apply List.Pairwise.imp _ List.pairwise_lt_range'
  intro first second before
  exact Int.ofNat_lt.mpr before

theorem Work.Lined.distinct {work : Work} (lined : work.Lined done) :
    (done ++ work.poller.parked ++ work.current.toList).Nodup := by
  have ascending := List.pairwise_map.mp lined.ascending
  apply List.Pairwise.imp _ ascending
  rintro first second before rfl
  exact Int.lt_irrefl _ before

theorem Act.lines {first last : Work} {outcome : Outcome} (aligned : first.Aligned)
    (lined : first.Lined done) (act : Act moment event first outcome last) :
    last.Lined (done ++ completed outcome.deeds) := by
  unfold Work.Lined at lined ⊢
  cases act with
  | reply =>
      have replied := reply_oldest_replied moment first.poller
      rw [replied.split] at lined
      rw [replied.lastSeen, ← lined]
      simp only [List.append_assoc]
  | see poller packet released =>
      -- The next released packet has the next serial, so the line grows by one at its end.
      have follows : packet.serial = (poller.lastSeen.toNat + 1 : Nat) :=
        aligned.run _ (List.mem_cons_self ..)
      have upto : packet.serial.toNat = poller.lastSeen.toNat + 1 := by omega
      simp only [Option.toList_none, List.append_nil] at lined
      show ((done ++ [] ++ poller.parked) ++ [packet]).map Packet.serial = _
      rw [List.append_nil, List.map_append, lined]
      show _ = (List.range' 1 packet.serial.toNat).map Int.ofNat
      rw [upto, List.range'_concat, List.map_append]
      simp [follows, Nat.add_comm]
  | park poller packet released passed room paid =>
      show (done ++ [] ++ (poller.parked ++ [packet]) ++ []).map Packet.serial = _
      rw [List.append_nil, List.append_nil, ← List.append_assoc]
      exact lined
  | _ =>
      show (done ++ [] ++ _ ++ _).map Packet.serial = _
      rw [List.append_nil]
      exact lined

theorem Acts.lines {first last : Work} {outcome : Outcome} (aligned : first.Aligned)
    (lined : first.Lined done) (acts : Acts moment event first outcome last) :
    last.Lined (done ++ completed outcome.deeds) := by
  induction acts generalizing done with
  | none work =>
      rw [show completed ({} : Outcome).deeds = [] from rfl, List.append_nil]
      exact lined
  | more first middle last outcome further act acts induction =>
      have later := induction (act.keeps aligned).aligned (act.lines aligned lined)
      rwa [List.append_assoc, ← completed_append] at later

theorem Act.lengthens {first last : Work} {outcome : Outcome}
    (act : Act moment event first outcome last) :
    first.poller.parked <+: completed outcome.deeds ++ last.poller.parked := by
  cases act with
  | reply =>
      have replied := reply_oldest_replied moment first.poller
      refine ⟨[], ?_⟩
      rw [List.append_nil]
      exact replied.split
  | park poller packet released passed room paid => exact List.prefix_append _ [packet]
  | _ => exact List.prefix_refl _

theorem Acts.lengthens {first last : Work} {outcome : Outcome}
    (acts : Acts moment event first outcome last) :
    first.poller.parked <+: completed outcome.deeds ++ last.poller.parked := by
  induction acts with
  | none work => exact List.prefix_refl _
  | more first middle last outcome further act acts induction =>
      apply act.lengthens.trans
      rw [Outcome.followedBy, completed_append, List.append_assoc]
      exact (List.prefix_append_right_inj _).mpr induction

end Line

theorem step_lines (poller after : Poller) (deeds : List Deed) (done : List Packet)
    (aligned : poller.work.Aligned) (lined : poller.work.Lined done)
    (stepped : poller.step moment event = some (after, deeds))
    (live : after.phase.live = true) : after.work.Lined (done ++ completed deeds) := by
  obtain ⟨outcome, acts, rfl, _⟩ := step_acts poller after deeds live stepped
  rw [completed_append, completed_opening, List.nil_append]
  exact acts.lines aligned lined

/-- The requests that a poller completed while it took packets in. -/
structure Orderly (poller : Poller) (trace : List Entry) : Prop where
  lined : poller.phase.live = true → poller.work.Lined (completed (served trace))
  ascending : ((completed (served trace)).map Packet.serial).Pairwise (· < ·)

theorem of_start_orderly (terms : Terms) (start : Nat) : (ofStart terms start).Orderly [] :=
  ⟨fun _ => rfl, List.Pairwise.nil⟩

theorem Orderly.delivers {poller : Poller} {past : List Entry} (orderly : poller.Orderly past)
    (packet : Packet) (delivery : Delivery) :
    poller.Orderly (past ++ [.delivered packet delivery]) := by
  constructor
  · rw [served_delivered]
    exact orderly.lined
  · rw [served_delivered]
    exact orderly.ascending

theorem Orderly.turn {terms : Terms} {poller after : Poller} {past : List Entry} {entry : Entry}
    (sound : poller.Sound terms) (orderly : poller.Orderly past)
    (turn : Turn poller after entry) : after.Orderly (past ++ [entry]) := by
  cases turn with
  | queues packet accepts =>
      have known := orderly.delivers packet .queued
      exact ⟨known.lined, known.ascending⟩
  | turnsAway packet delivery other => exact orderly.delivers packet delivery
  | steps moment event _ deeds stepped =>
      cases life : after.phase.live with
      | true =>
          have before := step_live poller after deeds stepped life
          have lined := step_lines poller after deeds _ (sound.aligned before)
            (orderly.lined before) stepped life
          rw [← completed_append] at lined
          constructor
          · intro _
            rw [served_live _ _ _ _ _ _ life]
            exact lined
          · rw [served_live _ _ _ _ _ _ life]
            apply List.Pairwise.sublist _ lined.ascending
            rw [List.append_assoc]
            exact (List.sublist_append_left _ _).map Packet.serial
      | false =>
          constructor
          · intro live
            rw [life] at live
            cases live
          · rw [served_dead _ _ _ _ _ _ life]
            exact orderly.ascending

theorem run_orderly (terms : Terms) (start : Nat) (script : List Happening) (poller : Poller)
    (trace : List Entry) (ran : (ofStart terms start).run script = some (poller, trace)) :
    poller.Sound terms ∧ poller.Orderly trace := by
  apply run_sound terms start (fun poller past => poller.Orderly past) ?_ ?_ script poller trace ran
  · exact of_start_orderly terms start
  · intro before after past entry sound orderly turn
    exact orderly.turn sound turn

end HttpTunnel.Server.Poller
