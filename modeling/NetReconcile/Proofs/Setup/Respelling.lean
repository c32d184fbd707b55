import NetReconcile.Proofs.Derivation.Respelling
import NetReconcile.Setup

/-!
# Setting up networks that are spelled otherwise

How the literals of networks are spelled has no part in what a setup does. On any kind of host the
same is bound, derived, written and announced for both spellings, step by step, so that the host is
left in the same state. Where nothing can be derived the errors may differ, since they quote the
literal or say that it is missing.

## Main definitions

* `Networks.Respelled`: the same networks with their literals spelled otherwise.
* `SetUpAlike`: networks that come to the same in all that is done with networks.

## Main statements

* `configsFor_eq_or_of_respelled`: detecting and deriving come to the same, or both fail to derive.
* `setUpAlike_of_respelled`: how literals are spelled has no part in anything.
-/

namespace NetReconcile

/-- The same networks with their literals spelled otherwise. -/
def Networks.Respelled (networks networks' : Networks) : Prop :=
  NetworksCorrespond NetworkSpec.Respelled networks.entries networks'.entries

/-- What came of two setups is the same, but for the errors of derivations that fail. -/
structure SetupOutcome.Alike (out out' : SetupOutcome) : Prop where
  result : out'.result = out.result ∨
    ∃ e e', out.result = .error (.derivation e) ∧ out'.result = .error (.derivation e')
  delivered_eq : out'.delivered = out.delivered

/-- Networks that come to the same in all that is done with networks. -/
structure SetUpAlike (networks networks' : Networks) : Prop where
  /-- The same networks are bound to the same interfaces, or fail to be bound with the same error,
  and the same networks are skipped. -/
  bindings : ∀ table events,
    EndsAlike (List.Forall₂ (Binding.Corresponds NetworkSpec.Respelled))
      (resolveBindings networks table events) (resolveBindings networks' table events)
  /-- The same configurations are derived from the bindings, or none from either. -/
  configs : ∀ table events bindings bindings' skipped skipped',
    resolveBindings networks table events = .ok bindings skipped →
    resolveBindings networks' table events = .ok bindings' skipped' →
    ∀ r, deriveConfigs bindings' = .ok r ↔ deriveConfigs bindings = .ok r
  /-- Setups leave any host in the same state. -/
  setup : ∀ {σ : Type} [Host σ] (m : NetworkManager) (completion : Completion) (s : σ),
    (m.setup networks completion s).1.Alike (m.setup networks' completion s).1 ∧
      (m.setup networks' completion s).2 = (m.setup networks completion s).2

variable {networks networks' : Networks}

/-- The same interfaces are bound to the same networks, spelled in either way. -/
theorem Networks.Respelled.bindings (h : networks.Respelled networks') (table : MacTable)
    (events : List Event) :
    EndsAlike (List.Forall₂ (Binding.Corresponds NetworkSpec.Respelled))
      (resolveBindings networks table events) (resolveBindings networks' table events) :=
  endsAlike_resolveBindings keepsHardware_respelled h table events

/-- The same configurations are derived from either spelling. -/
theorem Networks.Respelled.configs (h : networks.Respelled networks') {table : MacTable}
    {events skipped skipped' : List Event} {bindings bindings' : List Binding}
    (hr : resolveBindings networks table events = .ok bindings skipped)
    (hr' : resolveBindings networks' table events = .ok bindings' skipped')
    (r : InterfaceConfigs) : deriveConfigs bindings' = .ok r ↔ deriveConfigs bindings = .ok r := by
  have hbindings := h.bindings table events
  rw [hr, hr'] at hbindings
  cases hbindings with
  | ok _ hcorrespond => exact deriveConfigs_eq_ok_iff_of_respelled hcorrespond r

section

variable {σ : Type} [Host σ] {s t : σ}

/-- Detecting and deriving come to the same, or end with an error of derivation in the same
state. -/
theorem configsFor_eq_or_of_respelled (h : networks.Respelled networks') (s : σ) :
    (configsFor networks' s : EStateM.Result NetworkError σ InterfaceConfigs) =
        configsFor networks s ∨
      ∃ e e' t, configsFor networks s = .error (.derivation e) t ∧
        configsFor networks' s = .error (.derivation e') t := by
  cases hd : (stage .discovery detectHardware : EStateM NetworkError σ MacTable) s with
  | error e t => exact .inl ((bind_of_error hd).trans (bind_of_error hd).symm)
  | ok table t =>
    have hbindings := h.bindings table []
    rw [configsFor, configsFor, bind_of_ok hd, bind_of_ok hd]
    generalize hr : resolveBindings networks table [] = r,
      hr' : resolveBindings networks' table [] = r' at hbindings
    cases hbindings with
    | error e events =>
      have hb : bindNetworks networks table t = .error (.derivation e) (reportAll events t) := by
        rw [bindNetworks, hr]
      have hb' : bindNetworks networks' table t = .error (.derivation e) (reportAll events t) := by
        rw [bindNetworks, hr']
      exact .inl ((bind_of_error hb').trans (bind_of_error hb).symm)
    | @ok bindings bindings' events hcorrespond =>
      have hb : bindNetworks networks table t = .ok bindings (reportAll events t) := by
        rw [bindNetworks, hr]
      have hb' : bindNetworks networks' table t = .ok bindings' (reportAll events t) := by
        rw [bindNetworks, hr']
      rw [bind_of_ok hb, bind_of_ok hb']
      have hderive := deriveConfigs_eq_ok_iff_of_respelled hcorrespond
      unfold derive
      cases hc : deriveConfigs bindings with
      | ok cs =>
        rw [(hderive cs).2 hc]
        exact .inl rfl
      | error e =>
        cases hc' : deriveConfigs bindings' with
        | ok cs => cases hc.symm.trans ((hderive cs).1 hc')
        -- errors of deriving show the literal as it is spelled, so the two need not be the same
        | error e' => exact .inr ⟨e, e', _, rfl, rfl⟩

/-- A setup leaves the same host, with the same result unless nothing can be derived. -/
theorem setup_alike_of_respelled (h : networks.Respelled networks') (m : NetworkManager)
    (completion : Completion) (s : σ) :
    (m.setup networks completion s).1.Alike (m.setup networks' completion s).1 ∧
      (m.setup networks' completion s).2 = (m.setup networks completion s).2 := by
  rcases configsFor_eq_or_of_respelled h s with heq | ⟨e, e', t, he, he'⟩
  · have hreconcile : m.reconcile networks' s = m.reconcile networks s := by
      rw [NetworkManager.reconcile, NetworkManager.reconcile]
      cases hc : (configsFor networks s : EStateM.Result NetworkError σ InterfaceConfigs) with
      | ok cs t => rw [bind_of_ok hc, bind_of_ok (heq.trans hc)]
      | error e t => rw [bind_of_error hc, bind_of_error (heq.trans hc)]
    have hsetup : m.setup networks' completion s = m.setup networks completion s := by
      rw [NetworkManager.setup, hreconcile, NetworkManager.setup]
    rw [hsetup]
    exact ⟨⟨.inl rfl, rfl⟩, rfl⟩
  · have hreconcile : m.reconcile networks s = .error (.derivation e) t := bind_of_error he
    have hreconcile' : m.reconcile networks' s = .error (.derivation e') t := bind_of_error he'
    rw [NetworkManager.setup, hreconcile, NetworkManager.setup, hreconcile']
    exact ⟨⟨.inr ⟨e, e', rfl, rfl⟩, rfl⟩, rfl⟩

end

/-- How the literals of networks are spelled has no part in what is done with the networks. -/
theorem setUpAlike_of_respelled (h : networks.Respelled networks') :
    SetUpAlike networks networks' where
  bindings := h.bindings
  configs _ _ _ _ _ _ hr hr' := h.configs hr hr'
  setup := setup_alike_of_respelled h

/-- A network that is bound by its hardware address, and lends its nameserver to others. -/
def carefullySpelled : Networks :=
  .ofList [("lan", {
    ip := some "10.0.0.5", netmask := some "255.255.255.0", gateway := some "",
    dns := ["10.0.0.1"], mac := some "52:54:00:aB:cD:eF", default := [.dns] })]

/-- The same network. An empty gateway has become a blank one, which cannot be read either. -/
def carelesslySpelled : Networks :=
  .ofList [("lan", {
    ip := some " 10.0.0.5", netmask := some "255.255.255.0\u00a0", gateway := some "\t",
    dns := ["\u300010.0.0.1\n"], mac := some " 52:54:00:Ab:Cd:Ef", default := [.dns] })]

theorem setUpAlike_carefullySpelled :
    carefullySpelled.Respelled carelesslySpelled ∧
      SetUpAlike carefullySpelled carelesslySpelled := by
  have hrespelled : carefullySpelled.Respelled carelesslySpelled := by
    refine .cons ⟨rfl, rfl, rfl, ?_, ?_, ?_, ?_, ?_⟩ .nil
    · exact .some ⟨[' '], [], List.forall_mem_singleton.2 rfl, nofun, by decide⟩
    · exact .some ⟨[], ['\u00a0'], nofun, List.forall_mem_singleton.2 rfl, by decide⟩
    · exact .some ⟨['\t'], [], List.forall_mem_singleton.2 rfl, nofun, by decide⟩
    · exact .cons ⟨['\u3000'], ['\n'], List.forall_mem_singleton.2 rfl,
        List.forall_mem_singleton.2 rfl, by decide⟩ .nil
    · exact .some ⟨"52:54:00:Ab:Cd:Ef", by decide, [' '], [], List.forall_mem_singleton.2 rfl,
        nofun, by decide⟩
  exact ⟨hrespelled, setUpAlike_of_respelled hrespelled⟩

end NetReconcile
