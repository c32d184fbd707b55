import NetReconcile.Interface
import NetReconcile.Proofs.Keyed

/-!
# What is detected

The table of hardware addresses is made by going through an inventory. What is found in it can be
said without going through the inventory again: an address leads to the first physical interface
that has it. An inventory in which no two physical interfaces have the same address is detected as
it stands, and nothing is reported.

## Main statements

* `device?_detect`: an address leads to the first physical interface that has it.
* `nodup_keys_detect`: no address is entered twice.
* `exists_physical_of_mem_detect`: only physical interfaces are entered.
* `detect_eq_of_nodup`: the whole table where all addresses are different.

The table is a list, and everything here rests on how `device?` goes on when an entry is put at its
end (`device?_concat`): earlier entries win. That is why a second interface with an address is lost,
and also why the table can be treated as a finite map.
-/

namespace NetReconcile

variable {table table' : MacTable} {mac device : String} {interfaces : List Interface}

/-! ### Tables -/

namespace MacTable

theorem device?_eq_none_iff : table.device? mac = none ↔ mac ∉ table.map (·.1) := by
  simp only [device?, Option.map_eq_none_iff, List.find?_eq_none, decide_eq_true_eq, List.mem_map,
    not_exists, not_and]

/-- In a table in which no address is entered twice, what is found is what is entered. -/
theorem device?_eq_some_iff (hn : (table.map (·.1)).Nodup) :
    table.device? mac = some device ↔ (mac, device) ∈ table := by
  rw [device?, Option.map_eq_some_iff]
  simp only [find?_key_eq_some_iff hn]
  constructor
  · rintro ⟨entry, ⟨hmem, rfl⟩, rfl⟩
    exact hmem
  · intro hmem
    exact ⟨_, ⟨hmem, rfl⟩, rfl⟩

/-- The order of the entries of a table has no meaning. -/
theorem device?_perm (hperm : table.Perm table') (hn : (table.map (·.1)).Nodup) :
    table.device? = table'.device? := by
  funext mac
  rw [device?, device?, find?_key_perm hperm hn]

/-- A new entry is found only where nothing was found before. -/
theorem device?_concat (table : MacTable) (mac' device mac : String) :
    (table ++ [(mac', device)]).device? mac =
      (table.device? mac).or (if mac' = mac then some device else none) := by
  rw [device?, List.find?_append, Option.map_or, List.find?_singleton]
  by_cases h : mac' = mac
  · simp [device?, h]
  · simp [device?, h]

theorem nodup_keys_concat (hn : (table.map (·.1)).Nodup) (hfree : table.device? mac = none) :
    ((table ++ [(mac, device)]).map (·.1)).Nodup := by
  rw [List.map_append, List.map_singleton]
  refine hn.append (List.nodup_singleton _) fun key hkey hsingle ↦ ?_
  rw [List.mem_singleton.1 hsingle] at hkey
  exact device?_eq_none_iff.1 hfree hkey

end MacTable

/-! ### Going through an inventory -/

/-- What is entered into a table for an interface, if anything is. -/
def Interface.entry? (i : Interface) : Option (String × String) :=
  i.physicalMac?.map fun mac ↦ (mac, i.name)

/-- An address keeps the interface that it has; a new one gets the first interface that has it. -/
theorem device?_detectInto (table : MacTable) (interfaces : List Interface) (mac : String) :
    (detectInto table interfaces).1.device? mac =
      (table.device? mac).or ((interfaces.find? (·.physicalMac? = some mac)).map (·.name)) := by
  fun_induction detectInto table interfaces with
  | case1 table => simp
  | case2 table i is hmac ih => simp [ih, hmac]
  | case3 table i is mac' hmac hfree ih =>
    rw [ih, table.device?_concat, List.find?_cons, hmac]
    by_cases h : mac' = mac
    · subst h
      simp [hfree]
    · simp [h]
  | case4 table i is mac' hmac first hfirst detected events heq ih =>
    rw [heq] at ih
    rw [ih, List.find?_cons, hmac]
    by_cases h : mac' = mac
    · -- the address was entered for the first of its interfaces
      subst h
      simp [hfirst]
    · simp [h]

/-- An address that is there already is not entered again, so none is entered twice. -/
theorem nodup_keys_detectInto (hn : (table.map (·.1)).Nodup) (interfaces : List Interface) :
    ((detectInto table interfaces).1.map (·.1)).Nodup := by
  fun_induction detectInto table interfaces with
  | case1 table => exact hn
  | case2 table i is hmac ih => exact ih hn
  | case3 table i is mac hmac hfree ih => exact ih (MacTable.nodup_keys_concat hn hfree)
  | case4 table i is mac hmac first hfirst detected events heq ih =>
    rw [heq] at ih
    exact ih hn

/-- Addresses that are different from each other and from those in a table are all entered. -/
theorem detectInto_eq_of_nodup (hn : (interfaces.filterMap Interface.physicalMac?).Nodup)
    (hnew : ∀ mac ∈ interfaces.filterMap Interface.physicalMac?, table.device? mac = none) :
    detectInto table interfaces = (table ++ interfaces.filterMap Interface.entry?, []) := by
  induction interfaces generalizing table with
  | nil => simp [detectInto]
  | cons i is ih =>
    cases hmac : i.physicalMac? with
    | none =>
      have hentry : i.entry? = none := by rw [Interface.entry?, hmac, Option.map_none]
      rw [List.filterMap_cons_none hmac] at hn hnew
      rw [List.filterMap_cons_none hentry, detectInto, hmac]
      exact ih hn hnew
    | some mac =>
      have hentry : i.entry? = some (mac, i.name) := by rw [Interface.entry?, hmac, Option.map_some]
      rw [List.filterMap_cons_some hmac] at hn hnew
      obtain ⟨hnot, hn⟩ := List.nodup_cons.1 hn
      have hfree : table.device? mac = none := hnew mac List.mem_cons_self
      rw [List.filterMap_cons_some hentry, detectInto, hmac]
      dsimp only
      rw [hfree]
      dsimp only
      rw [ih hn, List.append_assoc, List.singleton_append]
      intro mac' hmac'
      rw [table.device?_concat, hnew mac' (List.mem_cons_of_mem _ hmac'), Option.none_or,
        if_neg (by rintro rfl; exact hnot hmac')]

/-! ### The table of an inventory -/

/-- An address leads to the first physical interface that has it. -/
theorem device?_detect (interfaces : List Interface) (mac : String) :
    (detect interfaces).1.device? mac =
      (interfaces.find? (·.physicalMac? = some mac)).map (·.name) :=
  device?_detectInto [] interfaces mac

/-- No address is entered twice. -/
theorem nodup_keys_detect (interfaces : List Interface) :
    ((detect interfaces).1.map (·.1)).Nodup :=
  have hempty : (([] : MacTable).map (·.1)).Nodup := List.nodup_nil
  nodup_keys_detectInto hempty interfaces

/-- Only physical interfaces are entered. -/
theorem exists_physical_of_mem_detect (hdevice : device ∈ (detect interfaces).1.map (·.2)) :
    ∃ i ∈ interfaces, i.isPhysical = true ∧ i.name = device := by
  obtain ⟨⟨mac, _⟩, hentry, rfl⟩ := List.mem_map.1 hdevice
  have hfound := (MacTable.device?_eq_some_iff (nodup_keys_detect interfaces)).2 hentry
  rw [device?_detect, Option.map_eq_some_iff] at hfound
  obtain ⟨i, hfind, hname⟩ := hfound
  refine ⟨i, List.mem_of_find?_eq_some hfind, ?_, hname⟩
  have hmac : i.physicalMac? = some mac := by simpa using List.find?_some hfind
  unfold Interface.physicalMac? at hmac
  split at hmac
  · assumption
  · cases hmac

/-- Where all addresses are different all of them are entered, and nothing is reported. -/
theorem detect_eq_of_nodup (hn : (interfaces.filterMap Interface.physicalMac?).Nodup) :
    detect interfaces = (interfaces.filterMap Interface.entry?, []) :=
  detectInto_eq_of_nodup hn fun _ _ ↦ rfl

end NetReconcile
