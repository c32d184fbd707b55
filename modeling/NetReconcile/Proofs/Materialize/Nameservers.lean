import NetReconcile.Proofs.Derivation.Nameservers
import NetReconcile.Proofs.Materialize.Rendering

/-!
# Files that show nameservers

Nameservers stand in the file of every static interface and in the configuration of the DHCP client,
and each of these texts determines them. So such a file holds another text exactly if there are
other nameservers.

## Main statements

* `InterfaceConfig.ifcfg_lend_eq_iff`: the file of an interface to which nameservers are lent.
* `dhclientConf_injective`: the configuration of the DHCP client.
-/

namespace NetReconcile

open Text

/-! ### Files of interfaces -/

/-- Other nameservers change the file of an interface exactly if it is static. -/
theorem InterfaceConfig.ifcfg_lend_eq_iff {c : InterfaceConfig} {dns : List IpAddress} :
    (c.lend dns).ifcfg = c.ifcfg ↔ c.isDhcp = true ∨ c.dns = dns := by
  rw [ifcfg_eq_iff]
  cases hp : c.protocol with
  | dhcp detected =>
    have hdhcp : c.isDhcp = true := by rw [isDhcp, hp]
    simp [lend_of_isDhcp hdhcp, hdhcp]
  | static a =>
    have hstatic : c.isDhcp = false := by rw [isDhcp, hp]
    simp [lend_of_static hstatic, hstatic, shown, staticAddress?, hp, eq_comm]

/-! ### The configuration of the DHCP client -/

/-- Two lists are the same before and after the first occurrence of an element. -/
theorem append_cons_inj_of_first {α : Type} {c : α} {as as' bs bs' : List α} (has : c ∉ as)
    (has' : c ∉ as') (h : as ++ c :: bs = as' ++ c :: bs') : as = as' ∧ bs = bs' := by
  -- if one list were longer, its part before `c` would reach past that of the other
  obtain ⟨xs, rfl, hrest⟩ | ⟨xs, rfl, hrest⟩ := List.append_eq_append_iff.1 h
  · cases xs with
    | nil => simpa using hrest
    | cons x xs =>
      obtain ⟨rfl, -⟩ := List.cons.inj hrest
      exact absurd (List.mem_append_right _ List.mem_cons_self) has'
  · cases xs with
    | nil => simpa [eq_comm] using hrest
    | cons x xs =>
      obtain ⟨rfl, -⟩ := List.cons.inj hrest
      exact absurd (List.mem_append_right _ List.mem_cons_self) has

/-- A list of two or more words has a blank, after its first comma. -/
theorem blank_mem_intercalate (w next : List Char) (words : List (List Char)) :
    ' ' ∈ [',', ' '].intercalate (w :: next :: words) := by
  rw [List.intercalate_cons_cons]
  simp

/-- Words without blanks, with a comma and a blank between them, are told apart. -/
theorem eq_of_intercalate_comma_eq {words words' : List (List Char)} (hblank : ∀ w ∈ words, ' ' ∉ w)
    (hblank' : ∀ w ∈ words', ' ' ∉ w) (hne : words ≠ []) (hne' : words' ≠ [])
    (h : [',', ' '].intercalate words = [',', ' '].intercalate words') : words = words' := by
  induction words generalizing words' with
  | nil => exact absurd rfl hne
  | cons w words ih =>
    obtain ⟨w', words', rfl⟩ := List.exists_cons_of_ne_nil hne'
    have hw := hblank w List.mem_cons_self
    have hw' := hblank' w' List.mem_cons_self
    match words, words' with
    | [], [] => simpa using h
    | [], next' :: rest' =>
      have hmem := blank_mem_intercalate w' next' rest'
      rw [← h, List.intercalate_singleton] at hmem
      exact absurd hmem hw
    | next :: rest, [] =>
      have hmem := blank_mem_intercalate w next rest
      rw [h, List.intercalate_singleton] at hmem
      exact absurd hmem hw'
    | next :: rest, next' :: rest' =>
      rw [List.intercalate_cons_cons, List.intercalate_cons_cons] at h
      have hsplit : (w ++ [',']) ++ ' ' :: [',', ' '].intercalate (next :: rest) =
          (w' ++ [',']) ++ ' ' :: [',', ' '].intercalate (next' :: rest') := by
        simpa using h
      obtain ⟨hfirst, hrest⟩ :=
        append_cons_inj_of_first (by simpa using hw) (by simpa using hw') hsplit
      have hlater := ih (fun v hv ↦ hblank v (List.mem_cons_of_mem _ hv))
        (fun v hv ↦ hblank' v (List.mem_cons_of_mem _ hv)) (List.cons_ne_nil _ _)
        (List.cons_ne_nil _ _) hrest
      rw [List.append_cancel_right hfirst, hlater]

theorem linesText_append (lines lines' : List String) :
    linesText (lines ++ lines') = linesText lines ++ linesText lines' := by
  rw [linesText, List.map_append, String.join_append, linesText, linesText]

/-- Addresses with a comma and a blank between them are told apart. -/
theorem eq_of_intercalate_text_eq {dns dns' : List IpAddress} (hne : dns ≠ []) (hne' : dns' ≠ [])
    (h : ", ".intercalate (dns.map (·.text)) = ", ".intercalate (dns'.map (·.text))) :
    dns = dns' := by
  have hblank : ∀ servers : List IpAddress,
      ∀ w ∈ (servers.map (·.text)).map String.toList, ' ' ∉ w := by
    intro servers w hw hmem
    rw [List.map_map] at hw
    obtain ⟨server, -, rfl⟩ := List.mem_map.1 hw
    have hfalse : isBlank ' ' = false :=
      IpAddress.isBlank_of_mem_chars (a := server) (by simpa [IpAddress.text] using hmem)
    cases hfalse
  have hwords : (dns.map (·.text)).map String.toList = (dns'.map (·.text)).map String.toList := by
    refine eq_of_intercalate_comma_eq (hblank dns) (hblank dns') (by simpa using hne)
      (by simpa using hne') ?_
    have hchars := congrArg String.toList h
    rwa [String.toList_intercalate, String.toList_intercalate] at hchars
  exact List.map_injective_iff.2 IpAddress.text_injective
    (List.map_injective_iff.2 (fun _ _ ↦ String.toList_inj.1) hwords)

/-- The configuration of the DHCP client determines the nameservers that it asks for. -/
theorem dhclientConf_injective : Function.Injective dhclientConf := by
  intro dns dns' h
  rw [dhclientConf, dhclientConf, linesText_append, linesText_append, String.append_right_inj] at h
  rcases dns with _ | ⟨server, servers⟩
  · rcases dns' with _ | ⟨server', servers'⟩
    · rfl
    · simp [linesText] at h
  · rcases dns' with _ | ⟨server', servers'⟩
    · simp [linesText] at h
    · refine eq_of_intercalate_text_eq (List.cons_ne_nil _ _) (List.cons_ne_nil _ _) ?_
      simpa [linesText, String.append_right_inj, String.append_left_inj] using h

end NetReconcile
