import NetReconcile.Proofs.Binding.Detection
import NetReconcile.Proofs.Binding.Resolution

/-!
# The order of a table has no part in binding networks

Networks are looked up in the table of hardware addresses, and at the end the interfaces that are
left over are counted. Neither depends on the order of the entries: an address is entered once, and
a network that names none is bound only where a single interface is left.

## Main statements

* `resolveBindings_perm`: networks are bound alike to the entries of a table in any order.
-/

namespace NetReconcile

variable {table table' : MacTable}

/-- Claims are made by looking up addresses alone. -/
theorem claimAll_congr (hdevice : table.device? = table'.device?) :
    claimAll table = claimAll table' := by
  funext claims networks
  induction networks generalizing claims with
  | nil => rfl
  | cons network networks ih =>
    obtain ⟨name, spec⟩ := network
    simp only [claimAll, hdevice, ih]

/-- At the end a single interface that is left over is all that counts, or how many there are. -/
theorem bindUnnamed_perm (hperm : table.Perm table') (claims : Claims) :
    bindUnnamed table claims = bindUnnamed table' claims := by
  have hunclaimed : (unclaimed table claims).Perm (unclaimed table' claims) :=
    (hperm.map _).filter _
  unfold bindUnnamed
  revert hunclaimed
  generalize unclaimed table claims = free
  generalize unclaimed table' claims = free'
  intro hunclaimed
  have hlength := hunclaimed.length_eq
  match free, free' with
  | [], _ => rw [hunclaimed.nil_eq]
  | [device], _ => rw [hunclaimed.singleton_eq]
  | _ :: _ :: _, [] => cases hlength
  | _ :: _ :: _, [_] => cases hlength
  | _ :: _ :: _, _ :: _ :: _ =>
    dsimp only
    rw [hlength]

/-- Networks are bound alike to the entries of a table in any order, and the same is reported. -/
theorem resolveBindings_perm (hperm : table.Perm table') (hn : (table.map (·.1)).Nodup)
    (networks : Networks) : resolveBindings networks table = resolveBindings networks table' := by
  rw [resolveBindings, resolveBindings, claimAll_congr (MacTable.device?_perm hperm hn)]
  simp only [bindUnnamed_perm hperm]

end NetReconcile
