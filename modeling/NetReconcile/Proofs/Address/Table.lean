import Mathlib.Data.List.Basic
import Mathlib.Data.List.Induction
import NetReconcile.Address.Basic

/-!
# The address table

The table is put together pair by pair, and each pair is looked for in the table before it is added.
So the table is the sequence of all pairs that the messages report, in which only the first
occurrence of each has been kept. What comes first of some kind in the sequence still comes first in
the table: a pair that was dropped had occurred before.

## Main definitions

* `occurrences`: all pairs that messages report, with their repetitions.
* `KeepsOrder`: a table of what messages report that lists each pair where it first occurs.

## Main statements

* `mem_foldl_addAddress_iff`, `pairwise_idxOf_foldl_addAddress`, `findSome?_foldl_addAddress`: what
  is in a table that pairs were added to, in which order, and what is found in it.
* `keepsOrder_collectAddresses`: the address table is such a table.
-/

namespace NetReconcile

variable {names : Nat → Option String} {messages : List AddressMessage} {interface : String}

/-- All pairs that messages report, message by message and attribute by attribute. -/
def occurrences (names : Nat → Option String) (messages : List AddressMessage) :
    List HostAddress :=
  messages.flatMap fun m ↦ m.attributes.filterMap fun
    | .address ip => (names m.index).map fun name ↦ ⟨name, ip⟩
    | _ => none

/-- The IPv4 address that an attribute gives to the interface. -/
def AddressAttribute.heldIPv4? : AddressAttribute → Option IPv4
  | .address (.v4 a) => some a
  | _ => none

/-- A table of what messages report that lists each pair once, where it first occurs, so that the
first IPv4 address of an interface is the first that a message about it has. -/
structure KeepsOrder (names : Nat → Option String) (messages : List AddressMessage)
    (table : List HostAddress) : Prop where
  nodup : table.Nodup
  mem_iff : ∀ name ip, ⟨name, ip⟩ ∈ table ↔
    ∃ m ∈ messages, names m.index = some name ∧ .address ip ∈ m.attributes
  pairwise_idxOf : table.Pairwise fun a b ↦
    (occurrences names messages).idxOf a < (occurrences names messages).idxOf b
  firstIPv4?_eq : ∀ interface, firstIPv4? table interface =
    ((messages.filter fun m ↦ names m.index = some interface).flatMap
      (·.attributes)).findSome? (·.heldIPv4?)
  firstIPv4?_eq_none_iff : ∀ interface, firstIPv4? table interface = none ↔
    ∀ m ∈ messages, names m.index = some interface → ∀ a, .address (.v4 a) ∉ m.attributes

/-! ### What messages report -/

theorem reported_eq (m : AddressMessage) :
    m.reported names = m.attributes.filterMap fun
      | .address ip => (names m.index).map fun name ↦ ⟨name, ip⟩
      | _ => none := by
  unfold AddressMessage.reported
  cases names m.index with
  | none =>
    refine (List.filterMap_eq_nil_iff.2 fun a _ ↦ ?_).symm
    cases a with
    | address | localAddress | broadcast | label => rfl
  | some name =>
    refine List.map_filterMap.trans ?_
    refine List.filterMap_congr fun a _ ↦ ?_
    cases a with
    | address | localAddress | broadcast | label => rfl

/-- The table is made of all occurrences, added one by one. -/
theorem collectAddresses_eq :
    collectAddresses names messages = (occurrences names messages).foldl addAddress [] := by
  rw [occurrences, List.foldl_flatMap, collectAddresses]
  simp only [reported_eq]

/-- A pair occurs if a message of the interface of that name reports the address. -/
theorem mem_occurrences_iff {name : String} {ip : IpAddress} :
    ⟨name, ip⟩ ∈ occurrences names messages ↔
      ∃ m ∈ messages, names m.index = some name ∧ .address ip ∈ m.attributes := by
  rw [occurrences, List.mem_flatMap]
  refine exists_congr fun m ↦ and_congr_right fun _ ↦ ?_
  rw [List.mem_filterMap]
  constructor
  · rintro ⟨a, ha, hreport⟩
    cases a with
    | address ip' =>
      obtain ⟨name', hname, heq⟩ := Option.map_eq_some_iff.1 hreport
      cases heq
      exact ⟨hname, ha⟩
    | localAddress | broadcast | label => cases hreport
  · rintro ⟨hname, hattribute⟩
    exact ⟨_, hattribute, by rw [hname]; rfl⟩

/-! ### A table that pairs were added to -/

section

variable (l : List HostAddress)

theorem foldl_addAddress_concat (a : HostAddress) :
    (l ++ [a]).foldl addAddress [] = addAddress (l.foldl addAddress []) a := by
  rw [List.foldl_append, List.foldl_cons, List.foldl_nil]

/-- A pair that is added is in the table, whether or not it was before. -/
theorem mem_addAddress_iff {table : List HostAddress} {a b : HostAddress} :
    b ∈ addAddress table a ↔ b ∈ table ∨ b = a := by
  unfold addAddress
  split
  · rename_i hmem
    exact ⟨.inl, fun h ↦ h.elim id fun heq ↦ heq ▸ hmem⟩
  · rw [List.mem_append, List.mem_singleton]

/-- The table has what was added to it. -/
theorem mem_foldl_addAddress_iff {b : HostAddress} : b ∈ l.foldl addAddress [] ↔ b ∈ l := by
  induction l using List.reverseRecOn with
  | nil => rfl
  | append_singleton l a ih =>
    rw [foldl_addAddress_concat, mem_addAddress_iff, ih, List.mem_append, List.mem_singleton]

/-- The order of the table is that of first occurrences. -/
theorem pairwise_idxOf_foldl_addAddress :
    (l.foldl addAddress []).Pairwise fun a b ↦ l.idxOf a < l.idxOf b := by
  induction l using List.reverseRecOn with
  | nil => exact .nil
  | append_singleton l a ih =>
    -- a pair that had occurred keeps its first occurrence
    have hkept : ∀ b ∈ l.foldl addAddress [], (l ++ [a]).idxOf b = l.idxOf b := fun b hb ↦
      List.idxOf_append_of_mem ((mem_foldl_addAddress_iff l).1 hb)
    have hold : (l.foldl addAddress []).Pairwise fun b c ↦
        (l ++ [a]).idxOf b < (l ++ [a]).idxOf c := by
      refine ih.imp_of_mem fun hb hc hlt ↦ ?_
      rwa [hkept _ hb, hkept _ hc]
    rw [foldl_addAddress_concat, addAddress]
    split
    · exact hold
    · rename_i hnew
      have hnew' : a ∉ l := fun h ↦ hnew ((mem_foldl_addAddress_iff l).2 h)
      refine List.pairwise_append.2 ⟨hold, List.pairwise_singleton _ _, fun b hb c hc ↦ ?_⟩
      obtain rfl := List.mem_singleton.1 hc
      have hlt : l.idxOf b < l.length :=
        List.idxOf_lt_length_of_mem ((mem_foldl_addAddress_iff l).1 hb)
      have hlast : (l ++ [c]).idxOf c = l.length := by
        rw [List.idxOf_append_of_notMem hnew', List.idxOf_cons_self, Nat.add_zero]
      rwa [hkept b hb, hlast]

/-- What is found first in the table is what comes first in all that was added. -/
theorem findSome?_foldl_addAddress {β : Type} (f : HostAddress → Option β) :
    (l.foldl addAddress []).findSome? f = l.findSome? f := by
  induction l using List.reverseRecOn with
  | nil => rfl
  | append_singleton l a ih =>
    rw [foldl_addAddress_concat, List.findSome?_append, ← ih, addAddress]
    split
    · rename_i hmem
      cases hfound : (l.foldl addAddress []).findSome? f with
      | some b => rfl
      | none => simp [List.findSome?_eq_none_iff.1 hfound a hmem]
    · rw [List.findSome?_append]

end

/-! ### The first address of an interface -/

/-- The address of an interface is the first one that the table has for it. -/
theorem firstIPv4?_eq_findSome? (table : List HostAddress) (interface : String) :
    firstIPv4? table interface =
      table.findSome? fun a ↦ if a.interface = interface then a.ip.toIPv4? else none := by
  rw [firstIPv4?, ← List.head?_filterMap, ← List.head?_filterMap, List.filterMap_filter]
  simp only [decide_eq_true_eq]

/-- Among all that is reported, the IPv4 addresses of an interface are those that the messages about
the interface have. -/
theorem filterMap_occurrences (names : Nat → Option String) (messages : List AddressMessage)
    (interface : String) :
    ((occurrences names messages).filterMap fun a ↦
        if a.interface = interface then a.ip.toIPv4? else none) =
      ((messages.filter fun m ↦ names m.index = some interface).flatMap
        (·.attributes)).filterMap (·.heldIPv4?) := by
  rw [occurrences, List.filterMap_flatMap, List.filterMap_flatMap]
  induction messages with
  | nil => rfl
  | cons m messages ih =>
    rw [List.flatMap_cons, ih, List.filterMap_filterMap]
    by_cases hname : names m.index = some interface
    · rw [List.filter_cons_of_pos (by simpa using hname), List.flatMap_cons]
      congr 1
      refine List.filterMap_congr fun a _ ↦ ?_
      cases a with
      | address ip =>
        cases ip with
        | v4 | v6 => simp [hname, AddressAttribute.heldIPv4?, IpAddress.toIPv4?]
      | localAddress | broadcast | label => rfl
    · rw [List.filter_cons_of_neg (by simpa using hname), List.filterMap_eq_nil_iff.2,
        List.nil_append]
      intro a _
      cases a with
      | address ip =>
        cases hindex : names m.index with
        | none => rfl
        | some name => simp [show name ≠ interface from fun h ↦ hname (h ▸ hindex)]
      | localAddress | broadcast | label => rfl

/-- It is the first one that a message of the interface reports, since repetitions do not come
first. -/
theorem firstIPv4?_collectAddresses (names : Nat → Option String) (messages : List AddressMessage)
    (interface : String) :
    firstIPv4? (collectAddresses names messages) interface =
      ((messages.filter fun m ↦ names m.index = some interface).flatMap
        (·.attributes)).findSome? (·.heldIPv4?) := by
  rw [firstIPv4?_eq_findSome?, collectAddresses_eq, findSome?_foldl_addAddress,
    ← List.head?_filterMap, filterMap_occurrences, List.head?_filterMap]

theorem heldIPv4?_eq_some_iff {a : AddressAttribute} {ip : IPv4} :
    a.heldIPv4? = some ip ↔ a = .address (.v4 ip) := by
  unfold AddressAttribute.heldIPv4?
  constructor
  · intro h
    split at h
    · rw [Option.some.inj h]
    · cases h
  · rintro rfl
    rfl

/-! ### The table of all messages -/

/-- The address table lists what the messages report in order of first occurrence, and nothing comes
first in it that did not come first before. -/
theorem keepsOrder_collectAddresses (names : Nat → Option String) (messages : List AddressMessage) :
    KeepsOrder names messages (collectAddresses names messages) := by
  have hpairwise : (collectAddresses names messages).Pairwise fun a b ↦
      (occurrences names messages).idxOf a < (occurrences names messages).idxOf b := by
    rw [collectAddresses_eq]
    exact pairwise_idxOf_foldl_addAddress _
  refine ⟨hpairwise.imp fun hlt heq ↦ ?_, fun name ip ↦ ?_, hpairwise,
    firstIPv4?_collectAddresses names messages, fun interface ↦ ?_⟩
  · rw [heq] at hlt
    exact Nat.lt_irrefl _ hlt
  · rw [collectAddresses_eq, mem_foldl_addAddress_iff, mem_occurrences_iff]
  · rw [firstIPv4?_collectAddresses, List.findSome?_eq_none_iff]
    constructor
    · intro hnone m hm hname ip hip
      have hmem : AddressAttribute.address (.v4 ip) ∈
          (messages.filter fun m ↦ names m.index = some interface).flatMap (·.attributes) :=
        List.mem_flatMap.2 ⟨m, List.mem_filter.2 ⟨hm, by simpa using hname⟩, hip⟩
      cases hnone _ hmem
    · intro habsent a ha
      obtain ⟨m, hm, ham⟩ := List.mem_flatMap.1 ha
      obtain ⟨hmem, hname⟩ := List.mem_filter.1 hm
      rw [Option.eq_none_iff_forall_ne_some]
      intro ip hip
      rw [heldIPv4?_eq_some_iff.1 hip] at ham
      exact habsent m hmem (by simpa using hname) ip ham

end NetReconcile
