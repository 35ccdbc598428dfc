import HttpTunnel.Proofs.RegisteredKeys

/-!
The end of a gateway. A shutdown empties the register, and every tunnel that was made before it
stays closed. It does not end the dialing that is under way, and more may be begun: a tunnel whose
dialing ends later is registered and open.
-/

namespace HttpTunnel.Server

theorem Registry.find_numbers (registry : Registry) (key : Key) (number : Nat)
    (found : registry.find? key = some number) : number ∈ registry.numbers := by
  obtain ⟨before, after, split, _⟩ := List.lookup_eq_some_iff.mp found
  simp [numbers, split]

namespace Tunnel

theorem step_close_asked (now : Nat) (tunnel after : Tunnel) (action : Action) (deeds : List Deed)
    (stepped : tunnel.step now action = some (after, deeds)) :
    after.closeAsked = tunnel.closeAsked := by
  cases action with
  | poller event =>
      simp only [step, stepPoller] at stepped
      split_ifs at stepped
      obtain ⟨⟨poller, own⟩, _, same⟩ := Option.map_eq_some_iff.mp stepped
      cases ended : poller.hasEnded <;> simp only [ended] at same <;> cases same <;> rfl
  | link action =>
      obtain ⟨_, _, same⟩ := Option.map_eq_some_iff.mp stepped
      cases same
      rfl
  | enqueue =>
      cases waiting : tunnel.waiting <;> simp only [step, enqueue, waiting] at stepped
      case cons packet rest =>
        unfold Poller.deliver at stepped
        split_ifs at stepped <;> cases stepped <;> rfl
      all_goals cases stepped

theorem outcome_closed (now : Nat) (tunnel : Tunnel) (done : (tunnel.outcome? now).isSome = true) :
    tunnel.closed = true := by
  unfold outcome? at done
  cases phase : tunnel.poller.phase <;> simp [phase] at done
  simp [closed, Poller.hasEnded, phase]

end Tunnel

namespace Gateway

theorem closed_lasts : Lasting (·.closed = true) where
  steps now tunnel action after deeds closed stepped := by
    rw [Tunnel.closed, Bool.or_eq_true] at closed ⊢
    rcases closed with asked | ended
    · exact .inl ((Tunnel.step_close_asked now tunnel after action deeds stepped).trans asked)
    · exact .inr (ended_lasts.steps now tunnel action after deeds ended stepped)
  delivers _ _ := id
  hangsUp _ _ := id
  closes tunnel closed := by simp [Tunnel.closed, Tunnel.close]
  follows _ _ := id
  reads _ := id

/-- Every key that was made leads to its tunnel, or the tunnel has closed. -/
def Settled (gateway : Gateway) : Prop :=
  ∀ number key, gateway.keys[number]? = some key →
    gateway.registry.find? key = some number ∨ gateway.Hosts number (·.closed = true)

section Turns

variable {now : Nat} {gateway after : Gateway} {happening : Happening} {deeds : List Deed}
  {past : List Stride}

theorem Booked.leaves_closed (booked : gateway.Booked past)
    (turn : Turn now gateway happening after deeds)
    (fresh : Fresh (past ++ [⟨now, happening, gateway, after, deeds⟩])) (number : Nat) (key : Key)
    (found : gateway.registry.find? key = some number)
    (gone : after.registry.find? key ≠ some number) : after.Hosts number (·.closed = true) := by
  have named := booked.leads key number found
  obtain ⟨hosted, known, own⟩ : ∃ hosted, gateway.hosted[number]? = some hosted ∧
      hosted.key = key := by
    rw [Gateway.keys, List.getElem?_map] at named
    exact Option.map_eq_some_iff.mp named
  cases turn with
  | answers | dials | refuses | delivers | dialsForOwner | fails | leaves | hangsUp | closesNothing
  | moves | follows | reads => exact absurd found gone
  | hosts caller made dialing =>
      have apart : key ≠ made := by
        rintro rfl
        exact fresh.unmade key rfl (booked.keys ▸ List.mem_of_getElem? named)
      exact absurd ((Registry.find_insert_other _ _ _ _ apart).trans found) gone
  | closes closed place leads =>
      by_cases same : key = closed
      · subst same
        cases leads.symm.trans found
        refine ⟨hosted.tunnel.close, ?_, by simp [Tunnel.closed, Tunnel.close]⟩
        rw [tunnel?, modify_tunnel_hosted, known]
        simp
      · exact absurd ((Registry.find_erase_other _ _ _ same).trans found) gone
  | shutsDown =>
      obtain ⟨shut, same, each⟩ := gateway.shut_down_closes
      have place := each number
      rw [known, Option.map_some, if_pos (gateway.registry.find_numbers key number found)] at place
      refine ⟨hosted.tunnel.close, ?_, by simp [Tunnel.closed, Tunnel.close]⟩
      rw [same, tunnel?, place]
      rfl
  | retires place retiring there done =>
      by_cases same : key = retiring.key
      · subst same
        have leads : gateway.registry.find? retiring.key = some place := by
          by_contra other
          rw [Registry.find_release_self, if_neg other] at gone
          exact gone found
        cases leads.symm.trans found
        have finished : (retiring.tunnel.outcome? now).isSome = true := by
          simp only [canRetire, Bool.and_eq_true] at done
          exact done.2
        refine ⟨retiring.tunnel, ?_, Tunnel.outcome_closed now _ finished⟩
        rw [tunnel?, List.getElem?_modify_eq, there]
        rfl
      · exact absurd ((Registry.find_release_other _ _ _ _ same).trans found) gone

theorem Settled.turn (settled : gateway.Settled) (booked : gateway.Booked past)
    (turn : Turn now gateway happening after deeds)
    (fresh : Fresh (past ++ [⟨now, happening, gateway, after, deeds⟩])) : after.Settled := by
  intro number key named
  have next := booked.turn turn fresh
  by_cases bound : number < gateway.keys.length
  · have before : gateway.keys[number]? = some key := by
      rwa [next.keys, created_append, ← booked.keys, List.getElem?_append_left bound] at named
    rcases settled number key before with found | closed
    · by_cases stays : after.registry.find? key = some number
      · exact .inl stays
      · exact .inr (booked.leaves_closed turn fresh number key found stays)
    · exact .inr (turn.lasts closed_lasts number closed)
  · rw [next.keys, created_append, ← booked.keys,
      List.getElem?_append_right (Nat.le_of_not_lt bound)] at named
    cases turn with
    | hosts caller made dialing =>
        have single : created [⟨now, .act (.dialed caller (.ok made)), gateway,
          { gateway with dialing := gateway.dialing.erase caller }.host now made,
          [tell gateway.hosted.length caller (.ok made)]⟩] = [made] := rfl
        rw [single, List.getElem?_singleton] at named
        split_ifs at named with last
        cases named
        have place : number = gateway.hosted.length := by
          rw [Gateway.keys, List.length_map] at bound last
          omega
        exact .inl (place ▸ Registry.find_insert_self gateway.registry key _)
    | _ => simp [created] at named

theorem shutdown_empties (turn : Turn now gateway (.act .shutDown) after deeds) :
    after.registry = {} := by
  cases turn with
  | shutsDown =>
      obtain ⟨hosted, same, _⟩ := gateway.shut_down_closes
      rw [same]

end Turns

/-- What is so once a shutdown is over: no key is registered but those made after it, and every
tunnel made before it has closed. -/
theorem shutdown_closes_what_was_made (destination : Address.Endpoint) (terms : Terms)
    (fallback : Fallback) (script : List (Nat × Happening)) (gateway : Gateway)
    (trace : List Stride)
    (ran : Gateway.run { destination := destination, terms := terms, fallback := fallback }
      script = some (gateway, trace)) (fresh : Fresh trace) (earlier later : List Stride)
    (stride : Stride) (split : trace = earlier ++ stride :: later)
    (shuts : stride.happening = .act .shutDown) :
    stride.after.registry = {} ∧
      (∀ number < stride.before.hosted.length, gateway.Hosts number (·.closed = true)) ∧
      ∀ key, gateway.registry.contains key = true ↔
        Since (Stride.Makes key) (Stride.Frees key) later := by
  obtain ⟨booked, turn, next, further, goesOn⟩ := run_at ran fresh earlier later stride split
  have empty : stride.after.registry = {} := shutdown_empties (shuts ▸ turn)
  refine ⟨empty, fun number bound => ?_, fun key => ?_⟩
  · have whole : Fresh ((earlier ++ [stride]) ++ later) := by simpa [split] using fresh
    obtain ⟨first, _, reached, _⟩ := run_splits earlier later stride script _ gateway
      (split ▸ ran)
    have settled := (run_booked destination terms fallback (fun gateway _ => gateway.Settled)
      (fun _ _ named => by simp [Gateway.keys] at named)
      (fun _ _ _ _ _ _ booked settled turn fresh => settled.turn booked turn fresh)
      first stride.before earlier reached whole.begins.begins).2.turn booked turn whole.begins
    have known : number < stride.after.keys.length := by
      rw [next.keys, created_append, ← booked.keys, List.length_append, Gateway.keys,
        List.length_map]
      omega
    rcases settled number _ (List.getElem?_eq_getElem known) with found | closed
    · rw [empty] at found
      cases found
    · exact run_lasts closed_lasts number further stride.after gateway later closed goesOn
  · rw [registered_since ran fresh key, split]
    refine since_after _ _ earlier later stride (.inr (.inr shuts)) ?_
    rintro ⟨caller, makes⟩
    rw [shuts] at makes
    cases makes

/-- One tunnel is made before the gateway shuts down. Another one is being dialed then, and a third
is asked for after that. -/
def slippingIn : List (Nat × Happening) :=
  [(0, .act .create), (1, .act (.dialed .owner (.ok (minted 1)))),
    (2, .act (.ask 1 ⟨"POST", createPath, createMarker, true⟩)), (3, .act .shutDown),
    (4, .act (.dialed (.client 1) (.ok (minted 2)))), (5, .act .create),
    (6, .act (.dialed .owner (.ok (minted 3))))]

set_option maxRecDepth 10000 in
theorem slipping_in_runs : ∃ gateway trace earlier stride later,
    toLocalhost.run slippingIn = some (gateway, trace) ∧ Fresh trace ∧
      trace = earlier ++ stride :: later ∧ stride.happening = .act .shutDown ∧
      stride.before.hosted.length = 1 ∧
      gateway.open? (minted 2) = some 1 ∧ gateway.open? (minted 3) = some 2 := by
  have came : (toLocalhost.run slippingIn).any fun whole =>
      created whole.2 = [minted 1, minted 2, minted 3] ∧
      [minted 1, minted 2, minted 3].Nodup ∧ (asks whole.2).map Prod.fst = [1] ∧
      whole.2[3]?.map (·.before.hosted.length) = some 1 ∧
      whole.1.open? (minted 2) = some 1 ∧ whole.1.open? (minted 3) = some 2 := by
    decide +kernel
  obtain ⟨⟨gateway, trace⟩, ran, facts⟩ := (Option.any_eq_true _ _).mp came
  obtain ⟨made, apart, asked, one, second, third⟩ := of_decide_eq_true facts
  have fresh : Fresh trace := ⟨by rwa [made], by simp [asked]⟩
  obtain ⟨earlier, rest, rfl, before, shut⟩ := List.map_eq_append_iff.mp
    ((run_happenings slippingIn _ gateway trace ran).trans
      (List.take_append_drop 3 (slippingIn.map Prod.snd)).symm)
  obtain ⟨stride, later, rfl, shuts, _⟩ := List.map_eq_cons_iff.mp shut
  have place : earlier.length = 3 := by simpa [slippingIn] using congrArg List.length before
  refine ⟨gateway, _, earlier, stride, later, ran, fresh, rfl, shuts, ?_, second, third⟩
  simpa [← place] using one

/-- Two of the tunnels are registered and open in the end, and nobody will close them. -/
theorem dialing_outlives_shutdown : ∃ gateway trace earlier stride later,
    toLocalhost.run slippingIn = some (gateway, trace) ∧ Fresh trace ∧
      trace = earlier ++ stride :: later ∧ stride.happening = .act .shutDown ∧
      gateway.open? (minted 2) = some 1 ∧ gateway.open? (minted 3) = some 2 := by
  obtain ⟨gateway, trace, earlier, stride, later, ran, fresh, split, shuts, _, slipped⟩ :=
    slipping_in_runs
  exact ⟨gateway, trace, earlier, stride, later, ran, fresh, split, shuts, slipped⟩

/-- The first has closed and is not registered. -/
theorem shutdown_closes_first : ∃ gateway trace earlier stride later,
    toLocalhost.run slippingIn = some (gateway, trace) ∧ Fresh trace ∧
      trace = earlier ++ stride :: later ∧ stride.happening = .act .shutDown ∧
      stride.after.registry = {} ∧ gateway.Hosts 0 (·.closed = true) ∧
      Since (Stride.Makes (minted 2)) (Stride.Frees (minted 2)) later := by
  obtain ⟨gateway, trace, earlier, stride, later, ran, fresh, split, shuts, one, opened, _⟩ :=
    slipping_in_runs
  obtain ⟨empty, closed, registered⟩ := shutdown_closes_what_was_made _ _ _ slippingIn gateway
    trace ran fresh earlier later stride split shuts
  refine ⟨gateway, trace, earlier, stride, later, ran, fresh, split, shuts, empty,
    closed 0 (one ▸ Nat.one_pos), (registered _).mp ?_⟩
  by_contra free
  rw [free_shuts (by simpa using free)] at opened
  cases opened

end Gateway

end HttpTunnel.Server
