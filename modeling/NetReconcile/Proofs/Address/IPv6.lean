import Mathlib.Data.List.TakeWhile
import NetReconcile.Address.IPv6
import NetReconcile.Proofs.Address.IPv4

/-!
# Reading back IPv6 addresses

An address is read back from its written form. A stretch of groups with colons between them never
has two colons in a row, so the first two that do not have a group between them are those that stand
for the run of zero groups, and what is before and after them are the stretches that were written
there. That the run is the first of the longest ones does not matter for reading: any run of at
least two zero groups is put back by its length.

## Main statements

* `IPv6.groups?_groupChars`: a stretch of groups is read back.
* `IPv6.splitAtRun_groupChars_append`: a stretch of groups has no two colons in a row.
* `IPv6.exists_eq_append_replicate`: the run that is left out consists of zero groups.
* `IPv6.ofChars?_chars`: an address is read back.
* `IPv6.isBlank_of_mem_chars`, `IPv6.colon_mem_chars`: what the written form consists of.
-/

namespace NetReconcile.IPv6

open Text

/-! ### Groups -/

section

variable {g : BitVec 16} {gs : List (BitVec 16)} {c : Char} {cs : List Char}

/-- A group is read back from its digits. -/
theorem group?_toDigits (g : BitVec 16) : group? (Nat.toDigits 16 g.toNat) = some g := by
  have hlength : (Nat.toDigits 16 g.toNat).length ≤ 4 :=
    (Nat.length_toDigits_le_iff (by decide) (by decide)).2 (by omega)
  rw [group?, if_pos hlength, digits?_toDigits (by decide) (by decide), Option.map_some,
    BitVec.ofNat_toNat, BitVec.setWidth_eq]

/-- A text with anything but digits is no group. -/
theorem group?_eq_none_of_mem (hc : c ∈ cs) (hnone : hexDigit? c = none) : group? cs = none := by
  rw [group?]
  split
  · rw [digits?_eq_none_of_mem hc hnone]
    rfl
  · rfl

/-- Groups have no colons. -/
theorem colon_not_mem_of_mem_map (hcs : cs ∈ gs.map fun g ↦ Nat.toDigits 16 g.toNat) :
    ':' ∉ cs := by
  obtain ⟨g, -, rfl⟩ := List.mem_map.1 hcs
  exact not_mem_toDigits (by decide) (by decide) rfl

/-- Groups are read back from their parts. -/
theorem groupsOfParts?_map (gs : List (BitVec 16)) :
    groupsOfParts? (gs.map fun g ↦ Nat.toDigits 16 g.toNat) = some gs := by
  induction gs with
  | nil => rfl
  | cons g gs ih =>
    cases gs with
    | nil =>
      rw [List.map_singleton, groupsOfParts?, group?_toDigits]
      rfl
    | cons next gs =>
      rw [List.map_cons] at ih ⊢
      rw [List.map_cons, groupsOfParts?, group?_toDigits, ih]
      · rfl
      · simp

theorem groupChars_cons_cons (g next : BitVec 16) (gs : List (BitVec 16)) :
    groupChars (g :: next :: gs) =
      Nat.toDigits 16 g.toNat ++ ':' :: groupChars (next :: gs) := by
  rw [groupChars, List.map_cons, List.map_cons, List.intercalate_cons_cons, List.append_assoc]
  rfl

/-- A stretch of groups starts with a digit, if it has a group. -/
theorem exists_groupChars_cons_eq (g : BitVec 16) (gs : List (BitVec 16)) :
    ∃ c cs, groupChars (g :: gs) = c :: cs ∧ c ≠ ':' := by
  obtain ⟨c, ds, hdigits⟩ :=
    List.exists_cons_of_ne_nil (Nat.toDigits_ne_nil : Nat.toDigits 16 g.toNat ≠ [])
  have hcolon : c ≠ ':' := by
    rintro rfl
    have hmem : ':' ∈ Nat.toDigits 16 g.toNat := hdigits ▸ List.mem_cons_self
    exact not_mem_toDigits (by decide) (by decide) rfl hmem
  cases gs with
  | nil =>
    refine ⟨c, ds, ?_, hcolon⟩
    rw [groupChars, List.map_singleton, List.intercalate_singleton, hdigits]
  | cons next gs =>
    refine ⟨c, ds ++ ':' :: groupChars (next :: gs), ?_, hcolon⟩
    rw [groupChars_cons_cons, hdigits, List.cons_append]

/-- A stretch of groups is read back. -/
theorem groups?_groupChars (gs : List (BitVec 16)) : groups? (groupChars gs) = some gs := by
  cases gs with
  | nil => rfl
  | cons g gs =>
    have hsplit : (groupChars (g :: gs)).splitOn ':' =
        (g :: gs).map fun g ↦ Nat.toDigits 16 g.toNat :=
      List.splitOn_intercalate ':' (fun _ ↦ colon_not_mem_of_mem_map) (List.cons_ne_nil _ _)
    obtain ⟨c, cs, hcons, -⟩ := exists_groupChars_cons_eq g gs
    have hne : ¬(groupChars (g :: gs)).isEmpty := by simp [hcons]
    rw [groups?, if_neg hne, hsplit, groupsOfParts?_map]

/-- A stretch of groups has colons and digits only. -/
theorem eq_colon_or_exists_of_mem_groupChars (hc : c ∈ groupChars gs) :
    c = ':' ∨ ∃ n, c ∈ Nat.toDigits 16 n := by
  obtain rfl | ⟨part, hpart, hc⟩ := eq_or_exists_of_mem_intercalate hc
  · exact .inl rfl
  · obtain ⟨g, -, rfl⟩ := List.mem_map.1 hpart
    exact .inr ⟨g.toNat, hc⟩

theorem isBlank_of_mem_groupChars (hc : c ∈ groupChars gs) : isBlank c = false := by
  obtain rfl | ⟨n, hc⟩ := eq_colon_or_exists_of_mem_groupChars hc
  · rfl
  · exact isBlank_of_mem_toDigits (by decide) (by decide) hc

/-- No stretch of groups has a dot, so none is taken for an address that ends in octets. -/
theorem hasDot_groupChars (gs : List (BitVec 16)) : hasDot (groupChars gs) = false := by
  rw [hasDot, List.any_eq_false]
  intro c hc
  rw [decide_eq_true_iff]
  rintro rfl
  obtain h | ⟨n, hc⟩ := eq_colon_or_exists_of_mem_groupChars hc
  · cases h
  · exact not_mem_toDigits (by decide) (by decide) rfl hc

end

/-! ### Two colons in a row -/

section

variable {p q cs : List Char}

/-- Puts `p` before what comes before the first two colons in a row. -/
def prependTo (p : List Char) : List Char × List Char → List Char × List Char
  | (before, after) => (p ++ before, after)

theorem prependTo_nil : prependTo [] = id :=
  rfl

theorem prependTo_comp (p q : List Char) : prependTo p ∘ prependTo q = prependTo (p ++ q) := by
  funext split
  exact congrArg (·, split.2) (List.append_assoc p q split.1).symm

/-- A character other than a colon is not one of two colons in a row. -/
theorem splitAtRun_cons {c : Char} (hc : c ≠ ':') :
    splitAtRun (c :: cs) = (splitAtRun cs).map (prependTo [c]) := by
  rw [splitAtRun]
  · rfl
  · intro rest h
    exact absurd h hc

/-- A colon with anything else behind it is not one of two either. -/
theorem splitAtRun_colon_cons {c : Char} (hc : c ≠ ':') :
    splitAtRun (':' :: c :: cs) = (splitAtRun (c :: cs)).map (prependTo [':']) := by
  rw [splitAtRun]
  · rfl
  · intro rest _ h
    exact hc (List.cons.inj h).1

/-- What has no colon is passed when the run is looked for. -/
theorem splitAtRun_append (hp : ':' ∉ p) :
    splitAtRun (p ++ cs) = (splitAtRun cs).map (prependTo p) := by
  induction p with
  | nil => rw [List.nil_append, prependTo_nil, Option.map_id, id]
  | cons c p ih =>
    rw [List.mem_cons, not_or] at hp
    rw [List.cons_append, splitAtRun_cons (Ne.symm hp.1), ih hp.2, Option.map_map, prependTo_comp,
      List.singleton_append]

/-- A stretch of groups has no two colons in a row, and does not end in a colon. -/
theorem splitAtRun_groupChars_append (gs : List (BitVec 16)) (cs : List Char) :
    splitAtRun (groupChars gs ++ cs) = (splitAtRun cs).map (prependTo (groupChars gs)) := by
  induction gs with
  | nil => exact splitAtRun_append List.not_mem_nil
  | cons g gs ih =>
    have hg : ':' ∉ Nat.toDigits 16 g.toNat := not_mem_toDigits (by decide) (by decide) rfl
    cases gs with
    | nil =>
      rw [groupChars, List.map_singleton, List.intercalate_singleton]
      exact splitAtRun_append hg
    | cons next gs =>
      obtain ⟨c, rest, hcons, hc⟩ := exists_groupChars_cons_eq next gs
      have hcolon : splitAtRun (':' :: (groupChars (next :: gs) ++ cs)) =
          (splitAtRun (groupChars (next :: gs) ++ cs)).map (prependTo [':']) := by
        rw [hcons, List.cons_append]
        exact splitAtRun_colon_cons hc
      rw [groupChars_cons_cons, List.append_assoc, List.cons_append, splitAtRun_append hg, hcolon,
        ih, Option.map_map, Option.map_map, prependTo_comp, prependTo_comp, List.append_assoc,
        List.singleton_append]

/-- There is no run to be found in a stretch of groups. -/
theorem splitAtRun_groupChars (gs : List (BitVec 16)) : splitAtRun (groupChars gs) = none := by
  have hend := splitAtRun_groupChars_append gs []
  rwa [List.append_nil] at hend

/-- The first two colons in a row are those that stand for the run of zero groups. -/
theorem splitAtRun_groupChars_run (gs : List (BitVec 16)) (cs : List Char) :
    splitAtRun (groupChars gs ++ ':' :: ':' :: cs) = some (groupChars gs, cs) := by
  rw [splitAtRun_groupChars_append, splitAtRun, Option.map_some, prependTo, List.append_nil]

end

/-! ### The run of zero groups -/

/-- The zeros at the start of some groups are as many as their run says. -/
theorem takeWhile_eq_replicate (gs : List (BitVec 16)) :
    gs.takeWhile (· = 0) = List.replicate (zeroRun gs) 0 := by
  refine List.eq_replicate_of_mem fun g hg ↦ ?_
  simpa using List.mem_takeWhile_imp hg

/-- The run that is left out when an address is written consists of zero groups. -/
theorem exists_eq_append_replicate (gs : List (BitVec 16)) :
    ∃ before after, gs = before ++ (List.replicate (longestZeroRun gs).2 0 ++ after) ∧
      before.length = (longestZeroRun gs).1 := by
  induction gs with
  | nil => exact ⟨[], [], rfl, rfl⟩
  | cons g gs ih =>
    rw [longestZeroRun]
    dsimp only
    split
    · refine ⟨[], (g :: gs).dropWhile (· = 0), ?_, rfl⟩
      rw [← takeWhile_eq_replicate, List.nil_append, List.takeWhile_append_dropWhile]
    · obtain ⟨before, after, heq, hlength⟩ := ih
      refine ⟨g :: before, after, ?_, congrArg (· + 1) hlength⟩
      rw [List.cons_append, ← heq]

/-! ### Addresses -/

section

variable {x : IPv6} {v4 : IPv4} {c : Char}

/-- An address is made of its eight groups. -/
theorem ofGroups?_groups (x : IPv6) : ofGroups? x.groups = some x :=
  dif_pos x.length_groups

/-- The groups of an address that carries an IPv4 address. -/
theorem exists_groups_eq_of_mapped?_eq_some (h : x.mapped? = some v4) :
    ∃ high low, x.groups = [0, 0, 0, 0, 0, 0xffff, high, low] ∧ v4 = ⟨high ++ low⟩ := by
  rw [mapped?] at h
  split at h
  · rename_i a b d e f g high low hgroups
    split at h
    · rename_i hzero
      simp only [Bool.and_eq_true, decide_eq_true_iff, List.cons.injEq, and_true] at hzero
      obtain ⟨⟨rfl, rfl, rfl, rfl, rfl⟩, rfl⟩ := hzero
      exact ⟨high, low, hgroups, (Option.some.inj h).symm⟩
    · cases h
  · cases h

theorem groupsOfIPv4_append (high low : BitVec 16) : groupsOfIPv4 ⟨high ++ low⟩ = [high, low] := by
  rw [groupsOfIPv4, BitVec.extractLsb'_append_eq_left, BitVec.extractLsb'_append_eq_right]

/-- An IPv4 address after a group is read as two more groups. -/
theorem groups?_ffff_append (v4 : IPv4) :
    groups? ("ffff:".toList ++ v4.chars) = some (0xffff :: groupsOfIPv4 v4) := by
  have hsplit : ("ffff:".toList ++ v4.chars).splitOn ':' = ["ffff".toList, v4.chars] := by
    have hparts : ∀ part ∈ ["ffff".toList, v4.chars], ':' ∉ part := by
      intro part hpart
      rcases List.mem_cons.1 hpart with rfl | hpart
      · decide
      · rw [List.mem_singleton.1 hpart]
        exact IPv4.colon_not_mem_chars
    have hchars : "ffff:".toList ++ v4.chars = [':'].intercalate ["ffff".toList, v4.chars] := by
      rw [List.intercalate_cons_cons, List.intercalate_singleton]
      rfl
    rw [hchars, List.splitOn_intercalate ':' hparts (List.cons_ne_nil _ _)]
  -- a group is tried first, and the dots of the address are no digits
  have hgroup : group? v4.chars = none := group?_eq_none_of_mem IPv4.dot_mem_chars rfl
  have hlast : groupsOfParts? [v4.chars] = some (groupsOfIPv4 v4) := by
    rw [groupsOfParts?, hgroup, IPv4.ofChars?_chars]
    rfl
  have hfirst : group? "ffff".toList = some 0xffff := by decide
  rw [groups?, if_neg (by simp), hsplit, groupsOfParts?, hfirst, hlast]
  · rfl
  · simp

/-- An address that carries an IPv4 address is read back. -/
theorem ofChars?_of_mapped?_eq_some (h : x.mapped? = some v4) : ofChars? x.chars = some x := by
  obtain ⟨high, low, hgroups, rfl⟩ := exists_groups_eq_of_mapped?_eq_some h
  have hchars : x.chars = ':' :: ':' :: ("ffff:".toList ++ IPv4.chars ⟨high ++ low⟩) := by
    rw [chars, h]
    rfl
  have hread : ofGroups? [0, 0, 0, 0, 0, 0xffff, high, low] = some x := by
    rw [← hgroups, ofGroups?_groups]
  rw [ofChars?, hchars, splitAtRun]
  dsimp only
  rw [groups?_ffff_append, groupsOfIPv4_append]
  exact hread

/-- An address whose run of zero groups is left out is read back. -/
theorem ofChars?_run {before after : List (BitVec 16)} {size : Nat} (hsize : 2 ≤ size)
    (hgroups : x.groups = before ++ (List.replicate size 0 ++ after)) :
    ofChars? (groupChars before ++ ':' :: ':' :: groupChars after) = some x := by
  -- the run is as long as what the two stretches lack to eight groups
  have hlength : before.length + (size + after.length) = 8 := by
    rw [← x.length_groups, hgroups, List.length_append, List.length_append, List.length_replicate]
  have hfill : 8 - (before.length + after.length) = size := by omega
  have hread : ofGroups? (before ++ List.replicate size 0 ++ after) = some x := by
    rw [List.append_assoc, ← hgroups, ofGroups?_groups]
  rw [ofChars?, splitAtRun_groupChars_run]
  dsimp only
  rw [hasDot_groupChars, groups?_groupChars, groups?_groupChars]
  simp only [Bool.false_eq_true, if_false, Option.bind_eq_bind, Option.bind_some]
  rw [if_pos (by omega), hfill, hread]

/-- An address is read back from its written form. -/
theorem ofChars?_chars (x : IPv6) : ofChars? x.chars = some x := by
  cases hmapped : x.mapped? with
  | some v4 => exact ofChars?_of_mapped?_eq_some hmapped
  | none =>
    rw [chars, hmapped]
    obtain ⟨before, after, hgroups, hstart⟩ := exists_eq_append_replicate x.groups
    generalize longestZeroRun x.groups = run at hgroups hstart ⊢
    obtain ⟨start, size⟩ := run
    dsimp only at hgroups hstart ⊢
    split
    · rename_i hsize
      have hbefore : x.groups.take start = before := by
        rw [← hstart, hgroups, List.take_left]
      have hafter : x.groups.drop (start + size) = after := by
        rw [← List.drop_drop, ← hstart, hgroups, List.drop_left, List.drop_left' (by simp)]
      rw [hbefore, hafter, List.append_assoc]
      exact ofChars?_run hsize hgroups
    · rw [ofChars?, splitAtRun_groupChars, groups?_groupChars]
      exact x.ofGroups?_groups

/-! ### The characters of the written form -/

/-- No address has a blank in it. -/
theorem isBlank_of_mem_chars (hc : c ∈ x.chars) : isBlank c = false := by
  rw [chars] at hc
  split at hc
  · rcases List.mem_append.1 hc with hc | hc
    · have hall : "::ffff:".toList.all (!isBlank ·) = true := by decide
      simpa using List.all_eq_true.1 hall c hc
    · exact IPv4.isBlank_of_mem_chars hc
  · dsimp only at hc
    split at hc
    · simp only [List.mem_append, List.mem_cons, List.not_mem_nil, or_false] at hc
      rcases hc with (hc | rfl | rfl) | hc
      · exact isBlank_of_mem_groupChars hc
      · rfl
      · rfl
      · exact isBlank_of_mem_groupChars hc
    · exact isBlank_of_mem_groupChars hc

/-- Every address has a colon, so none is taken for one of four octets. -/
theorem colon_mem_chars (x : IPv6) : ':' ∈ x.chars := by
  rw [chars]
  split
  · exact List.mem_append_left _ (by decide)
  · dsimp only
    split
    · exact List.mem_append_left _ (List.mem_append_right _ List.mem_cons_self)
    · exact separator_mem_intercalate (by simp [x.length_groups])

end

end NetReconcile.IPv6
