import Mathlib.Data.List.Nodup
import NetReconcile.Binding
import NetReconcile.Proofs.HostM

/-!
# What binding networks comes to

Networks are looked at one after the other, and what has been claimed so far decides about the next
one. What that comes to can be said without the order of events, from two lists: the networks whose
hardware address is that of an interface, with these interfaces, and the networks that name no
hardware address.

## Main definitions

* `namedBindings`, `unnamedNetworks`: the two lists.
* `freeEntries`: the entries of a table whose interface is left over.
* `Claims.Turn`: the ways in which a network is dealt with when its turn comes.
* `skipEvents`: what is reported of the networks that are skipped.
* `firstClash?`: the first binding whose interface an earlier one has, with that earlier one.
* `Resolution`: what binding networks has to come to.

## Main statements

* `exists_claimAll_eq`: looking at all networks finds the first clash, or both lists.
* `bindingResult_eq_ok_iff`: when binding succeeds, and with what.
* `resolution_resolveBindings`: binding networks comes to what `Resolution` says.

## How the loop is described

`claimAll` carries a state along, the claims that were made so far, and a network that comes later
can fail because of one that came earlier. `Claims.Turn` has one case for each thing that can happen
to a network, and there is one equation of `claimAll` for each of these cases. The induction over
the networks uses nothing else. What it shows is that the bindings at the end are the list
`namedBindings`, up to the first clash, and that list does not mention the state. So the rest of the
module is about lists.
-/

namespace NetReconcile

/-! ### Named and unnamed networks -/

/-- The binding of a network that is not a virtual address and whose hardware address is that of an
interface. -/
def namedBinding? (table : MacTable) : String × NetworkSpec → Option Binding
  | (name, spec) =>
    if spec.isVip then none
    else (spec.macAddress?.bind table.device?).map fun device ↦ ⟨name, spec, device⟩

/-- The bindings of all networks whose hardware address is that of an interface, in the order of
their names. -/
def namedBindings (table : MacTable) (networks : List (String × NetworkSpec)) : List Binding :=
  networks.filterMap (namedBinding? table)

/-- The networks that are no virtual addresses and name no hardware address, in the order of their
names. -/
def unnamedNetworks (networks : List (String × NetworkSpec)) : List (String × NetworkSpec) :=
  networks.filter fun network ↦ !network.2.isVip && network.2.macAddress?.isNone

/-- The entries of a table whose interface no binding has. -/
def freeEntries (table : MacTable) (bindings : List Binding) : MacTable :=
  table.filter fun entry ↦ entry.2 ∉ bindings.map (·.device)

/-! ### The first clash -/

/-- The first of some bindings whose interface an earlier one has, after that earlier one. `seen`
are bindings that come before all of them. -/
def firstClash? : List Binding → List Binding → Option (Binding × Binding)
  | _, [] => none
  | seen, b :: bs =>
    match seen.find? (·.device = b.device) with
    | some a => some (a, b)
    | none => firstClash? (seen ++ [b]) bs

section

variable {seen bs : List Binding} {a b : Binding}

/-- A binding whose interface is still free can be added. -/
theorem nodup_concat_of_find?_eq_none (hs : (seen.map (·.device)).Nodup)
    (hfind : seen.find? (·.device = b.device) = none) :
    ((seen ++ [b]).map (·.device)).Nodup := by
  rw [List.map_append, List.map_singleton]
  refine hs.append (List.nodup_singleton _) ?_
  intro device hmem hsingle
  obtain ⟨a, ha, rfl⟩ := List.mem_map.1 hmem
  have hne := List.find?_eq_none.1 hfind a ha
  rw [List.mem_singleton.1 hsingle] at hne
  simp at hne

/-- Without a clash all interfaces are different. -/
theorem nodup_of_firstClash?_eq_none (hs : (seen.map (·.device)).Nodup)
    (h : firstClash? seen bs = none) : ((seen ++ bs).map (·.device)).Nodup := by
  induction bs generalizing seen with
  | nil => rwa [List.append_nil]
  | cons b bs ih =>
    rw [firstClash?] at h
    cases hfind : seen.find? (·.device = b.device) with
    | some a =>
      rw [hfind] at h
      cases h
    | none =>
      rw [hfind] at h
      have hrest := ih (nodup_concat_of_find?_eq_none hs hfind) h
      rwa [List.append_assoc, List.singleton_append] at hrest

/-- Before the first clash all interfaces are different. -/
theorem exists_append_of_firstClash?_eq_some (hs : (seen.map (·.device)).Nodup)
    (h : firstClash? seen bs = some (a, b)) :
    ∃ before after, bs = before ++ b :: after ∧ ((seen ++ before).map (·.device)).Nodup ∧
      a ∈ seen ++ before ∧ a.device = b.device := by
  induction bs generalizing seen with
  | nil => cases h
  | cons c bs ih =>
    rw [firstClash?] at h
    cases hfind : seen.find? (·.device = c.device) with
    | some a' =>
      rw [hfind] at h
      obtain ⟨rfl, rfl⟩ : a' = a ∧ c = b := by simpa using h
      refine ⟨[], bs, rfl, by rwa [List.append_nil], ?_, by simpa using List.find?_some hfind⟩
      rw [List.append_nil]
      exact List.mem_of_find?_eq_some hfind
    | none =>
      rw [hfind] at h
      obtain ⟨before, after, rfl, hnodup, hmem, hdevice⟩ :=
        ih (nodup_concat_of_find?_eq_none hs hfind) h
      rw [List.append_assoc, List.singleton_append] at hnodup hmem
      exact ⟨c :: before, after, rfl, hnodup, hmem, hdevice⟩

/-- Where there is a clash, all bindings before it are for different interfaces. -/
theorem exists_append_of_firstClash?_nil_eq_some (h : firstClash? [] bs = some (a, b)) :
    ∃ before after, bs = before ++ b :: after ∧ (before.map (·.device)).Nodup ∧
      a ∈ before ∧ a.device = b.device := by
  have hnil : (([] : List Binding).map (·.device)).Nodup := List.nodup_nil
  exact exists_append_of_firstClash?_eq_some hnil h

/-- There is no clash exactly if all interfaces are different. -/
theorem firstClash?_eq_none_iff : firstClash? [] bs = none ↔ (bs.map (·.device)).Nodup := by
  constructor
  · exact nodup_of_firstClash?_eq_none List.nodup_nil
  · intro hnodup
    cases hclash : firstClash? [] bs with
    | none => rfl
    | some clash =>
      obtain ⟨before, after, rfl, -, ha, hdevice⟩ :=
        exists_append_of_firstClash?_nil_eq_some hclash
      rw [List.map_append] at hnodup
      have hne := (List.nodup_append.1 hnodup).2.2 _ (List.mem_map_of_mem ha) clash.2.device
        (List.mem_map_of_mem List.mem_cons_self)
      exact absurd hdevice hne

/-- Where bindings are in the order of their networks, the first clash is that of the smallest
network whose interface a smaller one has. -/
theorem clash_of_firstClash?_eq_some (hsorted : bs.Pairwise fun a b ↦ a.network < b.network)
    (h : firstClash? [] bs = some (a, b)) :
    a ∈ bs ∧ b ∈ bs ∧ a.network < b.network ∧ a.device = b.device ∧
      ∀ d ∈ bs, ∀ c ∈ bs, c.network < d.network → c.device = d.device → b.network ≤ d.network := by
  obtain ⟨before, after, rfl, hnodup, ha, hdevice⟩ :=
    exists_append_of_firstClash?_nil_eq_some h
  obtain ⟨-, hafter, hbefore⟩ := List.pairwise_append.1 hsorted
  have hlater := (List.pairwise_cons.1 hafter).1
  -- only what comes before `b` has a smaller network
  have hsmaller : ∀ c ∈ before ++ b :: after, c.network < b.network → c ∈ before := by
    intro c hc hlt
    rcases List.mem_append.1 hc with hc | hc
    · exact hc
    · rcases List.mem_cons.1 hc with rfl | hc
      · exact absurd hlt (String.lt_irrefl _)
      · exact absurd (String.lt_trans hlt (hlater c hc)) (String.lt_irrefl _)
  refine ⟨List.mem_append_left _ ha, List.mem_append_right _ List.mem_cons_self,
    hbefore a ha b List.mem_cons_self, hdevice, ?_⟩
  intro d hd c hc hlt hsame
  by_contra hle
  have hdb : d.network < b.network := String.not_le.1 hle
  have hceq : c = d := List.inj_on_of_nodup_map hnodup
    (hsmaller c hc (String.lt_trans hlt hdb)) (hsmaller d hd hdb) hsame
  rw [hceq] at hlt
  exact String.lt_irrefl _ hlt

end

/-! ### Looking at all networks -/

section

variable {table : MacTable} {name : String} {spec : NetworkSpec}
  {networks : List (String × NetworkSpec)}

theorem namedBindings_cons_of_eq_none (h : namedBinding? table (name, spec) = none) :
    namedBindings table ((name, spec) :: networks) = namedBindings table networks :=
  List.filterMap_cons_none h

theorem namedBindings_cons_of_eq_some {b : Binding}
    (h : namedBinding? table (name, spec) = some b) :
    namedBindings table ((name, spec) :: networks) = b :: namedBindings table networks :=
  List.filterMap_cons_some h

theorem namedBinding?_eq_some {mac device : String} (hvip : spec.isVip = false)
    (hmac : spec.macAddress? = some mac) (hdevice : table.device? mac = some device) :
    namedBinding? table (name, spec) = some ⟨name, spec, device⟩ := by
  simp [namedBinding?, hvip, hmac, hdevice]

theorem unnamedNetworks_cons_of_named (h : spec.isVip = true ∨ spec.macAddress? ≠ none) :
    unnamedNetworks ((name, spec) :: networks) = unnamedNetworks networks := by
  refine List.filter_cons_of_neg ?_
  rcases h with h | h
  · simp [h]
  · simp [h]

/-- The ways in which a network is dealt with when its turn comes. -/
inductive Claims.Turn (claims : Claims) (table : MacTable) (spec : NetworkSpec) : Prop
  /-- A virtual address is bound to nothing. -/
  | virtual (hvip : spec.isVip = true)
  /-- A network without a hardware address is kept for later. -/
  | unnamed (hvip : spec.isVip = false) (hmac : spec.macAddress? = none)
  /-- A network whose hardware address no interface has is skipped. -/
  | absent (mac : String) (hvip : spec.isVip = false) (hmac : spec.macAddress? = some mac)
      (hdevice : table.device? mac = none)
  /-- The interface has been claimed by a network before. -/
  | claimed (mac device : String) (a : Binding) (hvip : spec.isVip = false)
      (hmac : spec.macAddress? = some mac) (hdevice : table.device? mac = some device)
      (hfind : claims.bound.find? (·.device = device) = some a)
  /-- The network is bound to its interface. -/
  | free (mac device : String) (hvip : spec.isVip = false) (hmac : spec.macAddress? = some mac)
      (hdevice : table.device? mac = some device)
      (hfind : claims.bound.find? (·.device = device) = none)

/-- Every network is dealt with in one of these ways. -/
theorem Claims.turn (claims : Claims) (table : MacTable) (spec : NetworkSpec) :
    claims.Turn table spec := by
  cases hvip : spec.isVip with
  | true => exact .virtual hvip
  | false =>
    cases hmac : spec.macAddress? with
    | none => exact .unnamed hvip hmac
    | some mac =>
      cases hdevice : table.device? mac with
      | none => exact .absent mac hvip hmac hdevice
      | some device =>
        cases hfind : claims.bound.find? (·.device = device) with
        | none => exact .free mac device hvip hmac hdevice hfind
        | some a => exact .claimed mac device a hvip hmac hdevice hfind

/-! One equation for each way in which the first network is dealt with. -/

section

variable {claims : Claims} {mac device : String} {a : Binding} {events : List Event}

theorem claimAll_of_isVip (hvip : spec.isVip = true) :
    claimAll table claims ((name, spec) :: networks) = claimAll table claims networks := by
  simp only [claimAll, hvip, if_true]

/-- A network that names no hardware address is kept, and nothing else changes. -/
theorem claimAll_of_unnamed (hvip : spec.isVip = false) (hmac : spec.macAddress? = none) :
    claimAll table claims ((name, spec) :: networks) =
      claimAll table { claims with unnamed := claims.unnamed ++ [(name, spec)] } networks := by
  simp only [claimAll, hvip, hmac, Bool.false_eq_true, if_false]

/-- The skipped network is reported and has no part in the rest. -/
theorem claimAll_of_absent (hvip : spec.isVip = false) (hmac : spec.macAddress? = some mac)
    (hdevice : table.device? mac = none) :
    claimAll table claims ((name, spec) :: networks) events =
      claimAll table claims networks (events ++ [.networkSkipped mac name]) := by
  simp only [claimAll, hvip, hmac, hdevice, Bool.false_eq_true, if_false]
  exact bind_of_ok rfl

/-- An interface that is claimed a second time ends the search, with both networks in the error. -/
theorem claimAll_of_claimed (hvip : spec.isVip = false) (hmac : spec.macAddress? = some mac)
    (hdevice : table.device? mac = some device)
    (hfind : claims.bound.find? (·.device = device) = some a) :
    claimAll table claims ((name, spec) :: networks) events =
      .error (.interfaceClaimedTwice device a.network name) events := by
  simp only [claimAll, hvip, hmac, hdevice, Claims.claimant?, hfind, Option.map_some,
    Bool.false_eq_true, if_false]
  rfl

theorem claimAll_of_free (hvip : spec.isVip = false) (hmac : spec.macAddress? = some mac)
    (hdevice : table.device? mac = some device)
    (hfind : claims.bound.find? (·.device = device) = none) :
    claimAll table claims ((name, spec) :: networks) =
      claimAll table { claims with bound := claims.bound ++ [⟨name, spec, device⟩] } networks := by
  simp only [claimAll, hvip, hmac, hdevice, Claims.claimant?, hfind, Option.map_none,
    Bool.false_eq_true, if_false]

end

/-- The reports of networks that are skipped, each with the hardware address that it names. -/
def skipEvents (skips : List (String × String)) : List Event :=
  skips.map fun skip ↦ .networkSkipped skip.1 skip.2

/-- Looking at all networks finds the first clash, or binds all that name an interface and keeps all
that name no hardware address. Nothing is reported but networks that are skipped. -/
theorem exists_claimAll_eq (table : MacTable) (claims : Claims)
    (networks : List (String × NetworkSpec)) (events : List Event) :
    ∃ skips, claimAll table claims networks events =
      match firstClash? claims.bound (namedBindings table networks) with
      | some (a, b) =>
        .error (.interfaceClaimedTwice b.device a.network b.network) (events ++ skipEvents skips)
      | none => .ok ⟨claims.bound ++ namedBindings table networks,
          claims.unnamed ++ unnamedNetworks networks⟩ (events ++ skipEvents skips) := by
  induction networks generalizing claims events with
  | nil =>
    refine ⟨[], ?_⟩
    simp only [namedBindings, unnamedNetworks, List.filterMap_nil, List.filter_nil, firstClash?,
      skipEvents, List.map_nil, List.append_nil]
    rfl
  | cons network networks ih =>
    obtain ⟨name, spec⟩ := network
    cases claims.turn table spec with
    | virtual hvip =>
      rw [claimAll_of_isVip hvip,
        namedBindings_cons_of_eq_none (by simp [namedBinding?, hvip]),
        unnamedNetworks_cons_of_named (.inl hvip)]
      exact ih claims events
    | unnamed hvip hmac =>
      have hunnamed : unnamedNetworks ((name, spec) :: networks) =
          (name, spec) :: unnamedNetworks networks :=
        List.filter_cons_of_pos (by simp [hvip, hmac])
      obtain ⟨skips, hrest⟩ :=
        ih { claims with unnamed := claims.unnamed ++ [(name, spec)] } events
      rw [claimAll_of_unnamed hvip hmac,
        namedBindings_cons_of_eq_none (by simp [namedBinding?, hmac]), hunnamed]
      refine ⟨skips, hrest.trans ?_⟩
      rw [List.append_assoc, List.singleton_append]
    | absent mac hvip hmac hdevice =>
      rw [unnamedNetworks_cons_of_named (.inr (by simp [hmac])),
        claimAll_of_absent hvip hmac hdevice,
        namedBindings_cons_of_eq_none (by simp [namedBinding?, hmac, hdevice])]
      obtain ⟨skips, hrest⟩ := ih claims (events ++ [.networkSkipped mac name])
      refine ⟨(mac, name) :: skips, hrest.trans ?_⟩
      rw [List.append_assoc]
      rfl
    | claimed mac device a hvip hmac hdevice hfind =>
      -- looking ends at this network, and nothing has been reported for it
      refine ⟨[], (claimAll_of_claimed hvip hmac hdevice hfind).trans ?_⟩
      rw [namedBindings_cons_of_eq_some (namedBinding?_eq_some hvip hmac hdevice), firstClash?,
        hfind, skipEvents, List.map_nil, List.append_nil]
    | free mac device hvip hmac hdevice hfind =>
      rw [unnamedNetworks_cons_of_named (.inr (by simp [hmac])),
        namedBindings_cons_of_eq_some (namedBinding?_eq_some hvip hmac hdevice), firstClash?,
        hfind, claimAll_of_free hvip hmac hdevice hfind]
      obtain ⟨skips, hrest⟩ :=
        ih { claims with bound := claims.bound ++ [⟨name, spec, device⟩] } events
      refine ⟨skips, hrest.trans ?_⟩
      rw [List.append_assoc, List.singleton_append]

end

/-! ### Specification -/

/-- What binding networks comes to: bindings or an error. Of the events, which are reported either
way, nothing is said. -/
def bindingResult (networks : Networks) (table : MacTable) (events : List Event) :
    Except DerivationError (List Binding) :=
  match resolveBindings networks table events with
  | .ok bindings _ => .ok bindings
  | .error e _ => .error e

/-- `bindings` are those of the networks that name an interface, followed by that of the network
that names no hardware address, if there is one. There is at most one, and it has the one interface
that is left over. -/
def Completes (networks : List (String × NetworkSpec)) (table : MacTable)
    (bindings : List Binding) : Prop :=
  unnamedNetworks networks = [] ∧ bindings = namedBindings table networks ∨
    ∃ name spec mac device, unnamedNetworks networks = [(name, spec)] ∧
      freeEntries table (namedBindings table networks) = [(mac, device)] ∧
      bindings = namedBindings table networks ++ [⟨name, spec, device⟩]

/-- `result` is what binding `networks` has to come to. -/
structure Resolution (networks : List (String × NetworkSpec)) (table : MacTable)
    (result : Except DerivationError (List Binding)) : Prop where
  /-- Both lists are in the order of the names of networks. -/
  named_sorted : (namedBindings table networks).Pairwise fun a b ↦ a.network < b.network
  unnamed_sorted : (unnamedNetworks networks).Pairwise fun a b ↦ a.1 < b.1
  ok_iff : ∀ bindings, result = .ok bindings ↔
    ((namedBindings table networks).map (·.device)).Nodup ∧ Completes networks table bindings
  /-- Every binding is for a declared network that is no virtual address. -/
  network_mem : ∀ bindings, result = .ok bindings →
    ∀ b ∈ bindings, (b.network, b.spec) ∈ networks ∧ b.spec.isVip = false
  /-- Every binding has an interface of the table, and no two have the same. -/
  device_mem : ∀ bindings, result = .ok bindings → ∀ b ∈ bindings, b.device ∈ table.map (·.2)
  device_unique : ∀ bindings, result = .ok bindings → (bindings.map (·.device)).Nodup
  /-- Two networks that name one interface come before all other errors. The second one that is
  reported is the smallest whose interface a smaller one has. -/
  claimed_twice : ¬((namedBindings table networks).map (·.device)).Nodup →
    ∃ first ∈ namedBindings table networks, ∃ second ∈ namedBindings table networks,
      first.network < second.network ∧ first.device = second.device ∧
      (∀ b ∈ namedBindings table networks, ∀ a ∈ namedBindings table networks,
        a.network < b.network → a.device = b.device → second.network ≤ b.network) ∧
      result = .error (.interfaceClaimedTwice second.device first.network second.network)
  /-- Several networks without a hardware address are all reported. -/
  ambiguous : ((namedBindings table networks).map (·.device)).Nodup →
    2 ≤ (unnamedNetworks networks).length →
    result = .error (.ambiguousBinding ((unnamedNetworks networks).map (·.1)))
  /-- A single network without a hardware address is reported, with the number of entries that it
  could have the interface of. -/
  unavailable : ((namedBindings table networks).map (·.device)).Nodup →
    ∀ name spec, unnamedNetworks networks = [(name, spec)] →
    (freeEntries table (namedBindings table networks)).length ≠ 1 →
    result = .error (.noInterfaceAvailable name
      (freeEntries table (namedBindings table networks)).length)

/-! ### The bindings of named networks -/

section

variable {table : MacTable} {networks : List (String × NetworkSpec)} {b : Binding}

theorem namedBinding?_eq_some_iff {network : String × NetworkSpec} :
    namedBinding? table network = some b ↔ network = (b.network, b.spec) ∧
      b.spec.isVip = false ∧ ∃ mac, b.spec.macAddress? = some mac ∧
        table.device? mac = some b.device := by
  obtain ⟨name, spec⟩ := network
  constructor
  · intro h
    rw [namedBinding?] at h
    cases hvip : spec.isVip with
    | true => simp [hvip] at h
    | false =>
      rw [hvip, if_neg Bool.false_ne_true] at h
      obtain ⟨device, hdevice, rfl⟩ := Option.map_eq_some_iff.1 h
      exact ⟨rfl, hvip, Option.bind_eq_some_iff.1 hdevice⟩
  · rintro ⟨h, hvip, mac, hmac, hdevice⟩
    obtain ⟨rfl, rfl⟩ := Prod.mk.inj h
    exact namedBinding?_eq_some hvip hmac hdevice

/-- Networks are bound by name that are no virtual address and name an interface that there is. -/
theorem mem_namedBindings_iff : b ∈ namedBindings table networks ↔
    (b.network, b.spec) ∈ networks ∧ b.spec.isVip = false ∧
      ∃ mac, b.spec.macAddress? = some mac ∧ table.device? mac = some b.device := by
  rw [namedBindings, List.mem_filterMap]
  constructor
  · rintro ⟨network, hmem, h⟩
    obtain ⟨rfl, hspec⟩ := namedBinding?_eq_some_iff.1 h
    exact ⟨hmem, hspec⟩
  · rintro ⟨hmem, h⟩
    exact ⟨_, hmem, namedBinding?_eq_some_iff.2 ⟨rfl, h⟩⟩

/-- Bindings by name stand in the order of their names, as the networks do. -/
theorem pairwise_namedBindings (hsorted : networks.Pairwise fun a b ↦ a.1 < b.1) :
    (namedBindings table networks).Pairwise fun a b ↦ a.network < b.network := by
  refine hsorted.filterMap _ fun n n' hlt a ha b hb ↦ ?_
  obtain ⟨rfl, -⟩ := namedBinding?_eq_some_iff.1 ha
  obtain ⟨rfl, -⟩ := namedBinding?_eq_some_iff.1 hb
  exact hlt

theorem mem_of_device?_eq_some {mac device : String} (h : table.device? mac = some device) :
    device ∈ table.map (·.2) := by
  obtain ⟨entry, hfind, rfl⟩ := Option.map_eq_some_iff.1 h
  exact List.mem_map_of_mem (List.mem_of_find?_eq_some hfind)

/-! ### The network without a hardware address -/

theorem unclaimed_eq (table : MacTable) (claims : Claims) :
    unclaimed table claims = (freeEntries table claims.bound).map (·.2) := by
  have hfree : ∀ device, (claims.claimant? device).isNone =
      decide (device ∉ claims.bound.map (·.device)) := by
    intro device
    rw [Bool.eq_iff_iff, decide_eq_true_iff, Claims.claimant?, Option.isNone_map,
      Option.isNone_iff_eq_none, List.find?_eq_none]
    simp
  rw [unclaimed, freeEntries, List.filter_map]
  congr 2
  funext entry
  exact hfree entry.2

/-- A lone network without a hardware address takes the one interface that is left, and more than
one of them cannot be told apart. -/
theorem bindUnnamed_eq_ok_iff {bindings : List Binding} :
    bindUnnamed table ⟨namedBindings table networks, unnamedNetworks networks⟩ = .ok bindings ↔
      Completes networks table bindings := by
  rw [bindUnnamed, unclaimed_eq, Completes]
  dsimp only
  match unnamedNetworks networks with
  | [] => simp [eq_comm]
  | [(name, spec)] =>
    match freeEntries table (namedBindings table networks) with
    | [] => simp
    | [(mac, device)] => simp [eq_comm]
    | _ :: _ :: _ => simp
  | _ :: _ :: _ => simp

/-- Two networks without a hardware address are ambiguous, whatever interfaces are left. -/
theorem bindUnnamed_of_two_le (h : 2 ≤ (unnamedNetworks networks).length) :
    bindUnnamed table ⟨namedBindings table networks, unnamedNetworks networks⟩ =
      .error (.ambiguousBinding ((unnamedNetworks networks).map (·.1))) := by
  rw [bindUnnamed]
  match hunnamed : unnamedNetworks networks with
  | [] => simp [hunnamed] at h
  | [_] => simp [hunnamed] at h
  | _ :: _ :: _ => rfl

/-- A lone one needs exactly one interface to be left, and the error says how many there are. -/
theorem bindUnnamed_of_length_ne_one {name : String} {spec : NetworkSpec}
    (hunnamed : unnamedNetworks networks = [(name, spec)])
    (h : (freeEntries table (namedBindings table networks)).length ≠ 1) :
    bindUnnamed table ⟨namedBindings table networks, unnamedNetworks networks⟩ =
      .error (.noInterfaceAvailable name
        (freeEntries table (namedBindings table networks)).length) := by
  rw [bindUnnamed, unclaimed_eq, hunnamed]
  dsimp only
  match hfree : freeEntries table (namedBindings table networks) with
  | [] => rfl
  | [_] => simp [hfree] at h
  | _ :: _ :: _ => simp

/-- What completes the bindings of named networks binds declared networks to interfaces of the
table, no two to the same. -/
theorem Completes.sound {bindings : List Binding} (hc : Completes networks table bindings)
    (hnodup : ((namedBindings table networks).map (·.device)).Nodup) :
    (∀ b ∈ bindings, (b.network, b.spec) ∈ networks ∧ b.spec.isVip = false ∧
      b.device ∈ table.map (·.2)) ∧ (bindings.map (·.device)).Nodup := by
  have hnamed : ∀ b ∈ namedBindings table networks, (b.network, b.spec) ∈ networks ∧
      b.spec.isVip = false ∧ b.device ∈ table.map (·.2) := by
    intro b hb
    obtain ⟨hmem, hvip, mac, -, hdevice⟩ := mem_namedBindings_iff.1 hb
    exact ⟨hmem, hvip, mem_of_device?_eq_some hdevice⟩
  rcases hc with ⟨-, rfl⟩ | ⟨name, spec, mac, device, hunnamed, hfree, rfl⟩
  · exact ⟨hnamed, hnodup⟩
  · have hlast : (name, spec) ∈ unnamedNetworks networks := by
      rw [hunnamed]
      exact List.mem_singleton_self _
    obtain ⟨hmem, hkind⟩ := List.mem_filter.1 hlast
    have hentry : (mac, device) ∈ freeEntries table (namedBindings table networks) := by
      rw [hfree]
      exact List.mem_singleton_self _
    obtain ⟨htable, hunclaimed⟩ := List.mem_filter.1 hentry
    rw [decide_eq_true_iff] at hunclaimed
    constructor
    · intro b hb
      rcases List.mem_append.1 hb with hb | hb
      · exact hnamed b hb
      · obtain rfl := List.mem_singleton.1 hb
        rw [Bool.and_eq_true, Bool.not_eq_true'] at hkind
        exact ⟨hmem, hkind.1, List.mem_map_of_mem htable⟩
    · rw [List.map_append, List.map_singleton]
      refine hnodup.append (List.nodup_singleton _) ?_
      intro d hd hsingle
      rw [List.mem_singleton.1 hsingle] at hd
      exact hunclaimed hd

end

/-! ### Binding -/

/-- Binding networks reports skipped networks, and comes to what the two lists say. -/
theorem exists_resolveBindings_eq (networks : Networks) (table : MacTable) (events : List Event) :
    ∃ skips, resolveBindings networks table events =
      match firstClash? [] (namedBindings table networks.entries) with
      | some (a, b) =>
        .error (.interfaceClaimedTwice b.device a.network b.network) (events ++ skipEvents skips)
      | none =>
        match bindUnnamed table
          ⟨namedBindings table networks.entries, unnamedNetworks networks.entries⟩ with
        | .ok bindings => .ok bindings (events ++ skipEvents skips)
        | .error e => .error e (events ++ skipEvents skips) := by
  obtain ⟨skips, hclaim⟩ := exists_claimAll_eq table {} networks.entries events
  refine ⟨skips, ?_⟩
  rw [resolveBindings]
  cases hclash : firstClash? [] (namedBindings table networks.entries) with
  | some clash =>
    rw [hclash] at hclaim
    exact bind_of_error hclaim
  | none =>
    rw [hclash, List.nil_append, List.nil_append] at hclaim
    rw [bind_of_ok hclaim]
    cases bindUnnamed table
      ⟨namedBindings table networks.entries, unnamedNetworks networks.entries⟩ with
    | ok bindings => rfl
    | error e => rfl

/-- A clash takes precedence over anything that is wrong with networks without a hardware address.
-/
theorem bindingResult_eq (networks : Networks) (table : MacTable) (events : List Event) :
    bindingResult networks table events =
      match firstClash? [] (namedBindings table networks.entries) with
      | some (a, b) => .error (.interfaceClaimedTwice b.device a.network b.network)
      | none => bindUnnamed table
          ⟨namedBindings table networks.entries, unnamedNetworks networks.entries⟩ := by
  obtain ⟨skips, hresolve⟩ := exists_resolveBindings_eq networks table events
  rw [bindingResult, hresolve]
  cases firstClash? [] (namedBindings table networks.entries) with
  | some clash => rfl
  | none =>
    dsimp only
    cases bindUnnamed table
      ⟨namedBindings table networks.entries, unnamedNetworks networks.entries⟩ with
    | ok bindings => rfl
    | error e => rfl

/-- Binding succeeds where no two networks name one interface and the last one has its own. -/
theorem bindingResult_eq_ok_iff {networks : Networks} {table : MacTable} {events : List Event}
    {bindings : List Binding} : bindingResult networks table events = .ok bindings ↔
      ((namedBindings table networks.entries).map (·.device)).Nodup ∧
        Completes networks.entries table bindings := by
  rw [bindingResult_eq]
  cases hclash : firstClash? [] (namedBindings table networks.entries) with
  | some clash =>
    refine ⟨nofun, fun ⟨hnodup, _⟩ ↦ ?_⟩
    cases hclash.symm.trans (firstClash?_eq_none_iff.2 hnodup)
  | none =>
    have hnodup := firstClash?_eq_none_iff.1 hclash
    exact bindUnnamed_eq_ok_iff.trans (and_iff_right hnodup).symm

/-- Binding networks comes to what it has to come to, whatever has been reported before. -/
theorem resolution_resolveBindings (networks : Networks) (table : MacTable)
    (events : List Event) :
    Resolution networks.entries table (bindingResult networks table events) := by
  have heq := bindingResult_eq networks table events
  have hnamed : (namedBindings table networks.entries).Pairwise fun a b ↦ a.network < b.network :=
    pairwise_namedBindings networks.sorted
  have hunnamed : (unnamedNetworks networks.entries).Pairwise fun a b ↦ a.1 < b.1 :=
    networks.sorted.filter _
  cases hclash : firstClash? [] (namedBindings table networks.entries) with
  | some clash =>
    obtain ⟨a, b⟩ := clash
    rw [hclash] at heq
    dsimp only at heq
    have hdouble : ¬((namedBindings table networks.entries).map (·.device)).Nodup := by
      rw [← firstClash?_eq_none_iff, hclash]
      exact Option.some_ne_none _
    obtain ⟨ha, hb, hlt, hsame, hleast⟩ :=
      clash_of_firstClash?_eq_some hnamed hclash
    rw [heq]
    exact {
      named_sorted := hnamed
      unnamed_sorted := hunnamed
      ok_iff := fun _ ↦ ⟨nofun, fun h ↦ absurd h.1 hdouble⟩
      network_mem := nofun
      device_mem := nofun
      device_unique := nofun
      claimed_twice := fun _ ↦ ⟨a, ha, b, hb, hlt, hsame, hleast, rfl⟩
      ambiguous := fun hnodup ↦ absurd hnodup hdouble
      unavailable := fun hnodup ↦ absurd hnodup hdouble }
  | none =>
    rw [hclash] at heq
    dsimp only at heq
    have hnodup := firstClash?_eq_none_iff.1 hclash
    rw [heq]
    exact {
      named_sorted := hnamed
      unnamed_sorted := hunnamed
      ok_iff := fun _ ↦ bindUnnamed_eq_ok_iff.trans (and_iff_right hnodup).symm
      network_mem := fun _ hok b hb ↦ by
        obtain ⟨hmem, hvip, -⟩ := ((bindUnnamed_eq_ok_iff.1 hok).sound hnodup).1 b hb
        exact ⟨hmem, hvip⟩
      device_mem := fun _ hok b hb ↦ (((bindUnnamed_eq_ok_iff.1 hok).sound hnodup).1 b hb).2.2
      device_unique := fun _ hok ↦ ((bindUnnamed_eq_ok_iff.1 hok).sound hnodup).2
      claimed_twice := fun hdouble ↦ absurd hnodup hdouble
      ambiguous := fun _ hlength ↦ bindUnnamed_of_two_le hlength
      unavailable := fun _ _ _ hone hlength ↦ bindUnnamed_of_length_ne_one hone hlength }

end NetReconcile
