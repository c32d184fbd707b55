import Mathlib.Data.List.Forall2
import NetReconcile.Proofs.Binding.Resolution

/-!
# Networks that are bound alike

Binding looks at little of what a network says: whether it is a virtual address, and which hardware
address it names. Networks of the same names that agree on both are bound to the same interfaces,
or fail with the same error, and the same networks are skipped. What else they say is carried along
into the bindings.

## Main definitions

* `KeepsHardware`: a relation of networks that says the same of what binding looks at.
* `NetworksCorrespond`, `Binding.Corresponds`: related networks of one name, unbound and bound.
* `EndsAlike`: results that are the same but for related answers.

## Main statements

* `endsAlike_claimAll`: one network after the other is dealt with alike.
* `endsAlike_resolveBindings`: networks that correspond are bound alike.
-/

namespace NetReconcile

variable {R : NetworkSpec → NetworkSpec → Prop}

/-- Related networks say the same of what binding looks at. -/
structure KeepsHardware (R : NetworkSpec → NetworkSpec → Prop) : Prop where
  isVip_eq : ∀ {spec spec'}, R spec spec' → spec'.isVip = spec.isVip
  macAddress?_eq : ∀ {spec spec'}, R spec spec' → spec'.macAddress? = spec.macAddress?

/-- Networks of the same names, in the same order, each related to the other of its name. -/
def NetworksCorrespond (R : NetworkSpec → NetworkSpec → Prop) :
    List (String × NetworkSpec) → List (String × NetworkSpec) → Prop :=
  List.Forall₂ fun network network' ↦ network'.1 = network.1 ∧ R network.2 network'.2

/-- Two bindings of one network to one interface, in which the network is described by related
specifications. -/
structure Binding.Corresponds (R : NetworkSpec → NetworkSpec → Prop) (b b' : Binding) : Prop where
  network_eq : b'.network = b.network
  device_eq : b'.device = b.device
  spec : R b.spec b'.spec

/-- Claims of the same networks to the same interfaces. -/
structure Claims.Correspond (R : NetworkSpec → NetworkSpec → Prop) (claims claims' : Claims) :
    Prop where
  bound : List.Forall₂ (Binding.Corresponds R) claims.bound claims'.bound
  unnamed : NetworksCorrespond R claims.unnamed claims'.unnamed

/-- Results with related answers or the same error, and with the same state. -/
inductive EndsAlike {ε σ α : Type} (P : α → α → Prop) :
    EStateM.Result ε σ α → EStateM.Result ε σ α → Prop
  | ok {a a' : α} (s : σ) (h : P a a') : EndsAlike P (.ok a s) (.ok a' s)
  | error (e : ε) (s : σ) : EndsAlike P (.error e s) (.error e s)

theorem NetworksCorrespond.map_fst_eq {networks networks' : List (String × NetworkSpec)}
    (h : NetworksCorrespond R networks networks') : networks'.map (·.1) = networks.map (·.1) := by
  induction h with
  | nil => rfl
  | cons hname _ ih => rw [List.map_cons, List.map_cons, hname.1, ih]

/-! ### Claims -/

section

variable {claims claims' : Claims} {table : MacTable}

/-- Whose network has an interface can be told from the names of networks and interfaces. -/
theorem Claims.claimant?_eq (claims : Claims) (device : String) :
    claims.claimant? device =
      ((claims.bound.map fun b ↦ (b.network, b.device)).find? (·.2 = device)).map (·.1) := by
  rw [claimant?, List.find?_map, Option.map_map]
  rfl

/-- Bindings that correspond are of the same networks to the same interfaces. -/
theorem map_names_eq {bs bs' : List Binding} (h : List.Forall₂ (Binding.Corresponds R) bs bs') :
    (bs'.map fun b ↦ (b.network, b.device)) = bs.map fun b ↦ (b.network, b.device) := by
  induction h with
  | nil => rfl
  | cons hb _ ih => rw [List.map_cons, List.map_cons, hb.network_eq, hb.device_eq, ih]

theorem Claims.Correspond.claimant?_eq (h : claims.Correspond R claims') :
    claims'.claimant? = claims.claimant? := by
  funext device
  rw [Claims.claimant?_eq, Claims.claimant?_eq, map_names_eq h.bound]

/-- What has been claimed still corresponds when the same network is bound on both sides. -/
theorem Claims.Correspond.bind (h : claims.Correspond R claims') {b b' : Binding}
    (hb : b.Corresponds R b') :
    Claims.Correspond R { claims with bound := claims.bound ++ [b] }
      { claims' with bound := claims'.bound ++ [b'] } :=
  ⟨List.rel_append h.bound (.cons hb .nil), h.unnamed⟩

/-- What has been claimed still corresponds when the same network is kept on both sides. -/
theorem Claims.Correspond.keep (h : claims.Correspond R claims')
    {network network' : String × NetworkSpec}
    (hn : network'.1 = network.1 ∧ R network.2 network'.2) :
    Claims.Correspond R { claims with unnamed := claims.unnamed ++ [network] }
      { claims' with unnamed := claims'.unnamed ++ [network'] } :=
  ⟨h.bound, List.rel_append h.unnamed (.cons hn .nil)⟩

/-- One network after the other is dealt with alike. -/
theorem endsAlike_claimAll (hR : KeepsHardware R) (table : MacTable)
    {networks networks' : List (String × NetworkSpec)}
    (hn : NetworksCorrespond R networks networks') (hclaims : claims.Correspond R claims')
    (events : List Event) :
    EndsAlike (Claims.Correspond R) (claimAll table claims networks events)
      (claimAll table claims' networks' events) := by
  induction hn generalizing claims claims' events with
  | nil => exact .ok events hclaims
  | @cons network network' networks networks' hnetwork _ ih =>
    obtain ⟨name, spec⟩ := network
    obtain ⟨name', spec'⟩ := network'
    obtain ⟨hname, hspec⟩ : name' = name ∧ R spec spec' := hnetwork
    subst hname
    have hvip' := hR.isVip_eq hspec
    have hmac' := hR.macAddress?_eq hspec
    -- the other network has the same turn, because it keeps the hardware and what was claimed
    cases claims.turn table spec with
    | virtual hvip =>
      rw [claimAll_of_isVip hvip, claimAll_of_isVip (hvip'.trans hvip)]
      exact ih hclaims events
    | unnamed hvip hmac =>
      rw [claimAll_of_unnamed hvip hmac,
        claimAll_of_unnamed (hvip'.trans hvip) (hmac'.trans hmac)]
      have hnetwork : name' = name' ∧ R spec spec' := ⟨rfl, hspec⟩
      exact ih (hclaims.keep hnetwork) events
    | absent mac hvip hmac hdevice =>
      rw [claimAll_of_absent hvip hmac hdevice,
        claimAll_of_absent (hvip'.trans hvip) (hmac'.trans hmac) hdevice]
      exact ih hclaims _
    | claimed mac device a hvip hmac hdevice hfind =>
      have hclaimant := congrFun hclaims.claimant?_eq device
      rw [Claims.claimant?, Claims.claimant?, hfind, Option.map_some,
        Option.map_eq_some_iff] at hclaimant
      obtain ⟨a', hfind', hnetwork⟩ := hclaimant
      rw [claimAll_of_claimed hvip hmac hdevice hfind,
        claimAll_of_claimed (hvip'.trans hvip) (hmac'.trans hmac) hdevice hfind', hnetwork]
      exact .error _ events
    | free mac device hvip hmac hdevice hfind =>
      have hclaimant := congrFun hclaims.claimant?_eq device
      rw [Claims.claimant?, Claims.claimant?, hfind, Option.map_none,
        Option.map_eq_none_iff] at hclaimant
      rw [claimAll_of_free hvip hmac hdevice hfind,
        claimAll_of_free (hvip'.trans hvip) (hmac'.trans hmac) hdevice hclaimant]
      have hb : Binding.Corresponds R ⟨name', spec, device⟩ ⟨name', spec', device⟩ :=
        ⟨rfl, rfl, hspec⟩
      exact ih (hclaims.bind hb) events

/-! ### Binding -/

theorem unclaimed_eq_of_correspond (table : MacTable) (h : claims.Correspond R claims') :
    unclaimed table claims' = unclaimed table claims := by
  rw [unclaimed, unclaimed, h.claimant?_eq]

/-- The network that names no hardware is bound alike, or fails alike. -/
theorem endsAlike_bindUnnamed (table : MacTable) (h : claims.Correspond R claims') :
    (∃ bindings bindings', bindUnnamed table claims = .ok bindings ∧
      bindUnnamed table claims' = .ok bindings' ∧
      List.Forall₂ (Binding.Corresponds R) bindings bindings') ∨
    ∃ e, bindUnnamed table claims = .error e ∧ bindUnnamed table claims' = .error e := by
  have hunclaimed := unclaimed_eq_of_correspond table h
  obtain ⟨hbound, hunnamed⟩ := h
  rw [bindUnnamed, bindUnnamed, hunclaimed]
  generalize claims.unnamed = unnamed, claims'.unnamed = unnamed' at hunnamed
  cases hunnamed with
  | nil => exact .inl ⟨_, _, rfl, rfl, hbound⟩
  | @cons n n' rest rest' hnetwork hrest =>
    cases hrest with
    | nil =>
      obtain ⟨name, spec⟩ := n
      obtain ⟨name', spec'⟩ := n'
      obtain ⟨hname, hspec⟩ : name' = name ∧ R spec spec' := hnetwork
      subst hname
      -- the one network that names no hardware address gets the one interface that is left
      rcases unclaimed table claims with _ | ⟨device, _ | _⟩
      · exact .inr ⟨_, rfl, rfl⟩
      · exact .inl ⟨_, _, rfl, rfl, List.rel_append hbound (.cons ⟨rfl, rfl, hspec⟩ .nil)⟩
      · exact .inr ⟨_, rfl, rfl⟩
    | @cons m m' rest rest' hnetwork' hrest =>
      have hnames : (n' :: m' :: rest').map (·.1) = (n :: m :: rest).map (·.1) :=
        NetworksCorrespond.map_fst_eq (.cons hnetwork (.cons hnetwork' hrest))
      refine .inr ⟨.ambiguousBinding ((n :: m :: rest).map (·.1)), rfl, ?_⟩
      rw [← hnames]

/-- Networks that correspond are bound alike. -/
theorem endsAlike_resolveBindings (hR : KeepsHardware R) {networks networks' : Networks}
    (hn : NetworksCorrespond R networks.entries networks'.entries) (table : MacTable)
    (events : List Event) :
    EndsAlike (List.Forall₂ (Binding.Corresponds R)) (resolveBindings networks table events)
      (resolveBindings networks' table events) := by
  have hnone : Claims.Correspond R {} {} := ⟨.nil, .nil⟩
  have hclaimed := endsAlike_claimAll hR table hn hnone events
  rw [resolveBindings, resolveBindings]
  generalize hr : claimAll table {} networks.entries events = r,
    hr' : claimAll table {} networks'.entries events = r' at hclaimed
  cases hclaimed with
  | error e s =>
    rw [bind_of_error hr, bind_of_error hr']
    exact .error e s
  | ok s hclaims =>
    rw [bind_of_ok hr, bind_of_ok hr']
    obtain ⟨bindings, bindings', hb, hb', hcorrespond⟩ | ⟨e, he, he'⟩ :=
      endsAlike_bindUnnamed table hclaims
    · rw [hb, hb']
      exact .ok s hcorrespond
    · rw [he, he']
      exact .error e s

end

end NetReconcile
