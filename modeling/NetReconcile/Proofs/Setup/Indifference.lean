import NetReconcile.Proofs.Announce.Indifference
import NetReconcile.Proofs.Materialize.Steps
import NetReconcile.Setup

/-!
# Hosts that a setup cannot tell apart

A setup learns of a host only through the operations of the host. So if none of these can tell
related hosts apart, and all of them leave related hosts, then no stage can tell them apart either,
and related hosts are set up alike. This holds of any kind of host and of any relation. The
announcements ask for other things than the stages before them, and are dealt with apart.

Only the first stage asks for the inventory of a host. What comes after it is dealt with first, so
that it can be used of hosts with different inventories.

## Main definitions

* `IndifferentInstalling`: a relation of hosts that installing and checking configurations cannot
  tell apart.
* `Indifferent`: a relation of hosts that the stages before the announcements cannot tell apart.

## Main statements

* `IndifferentInstalling.alike_reconcile`: where the same is derived, hosts are reconciled alike.
* `IndifferentInstalling.sameAnswer_setup`: hosts that are reconciled alike are set up alike.
* `Indifferent.reconcile`: all stages before the announcements respect such a relation.

For a relation of one's own there are then only primitives to look at: reading, writing, linking,
running, reporting, and the two questions for the inventory and the addresses. Everything that is
put together from these comes for free, and when a stage of a setup is changed, the lemma for that
stage is the one to change here.
-/

namespace NetReconcile

variable {σ : Type} {R : σ → σ → Prop}

/-- Deriving does not ask the host for anything. -/
theorem respects_derive (bindings : List Binding) :
    Respects R (derive bindings : EStateM NetworkError σ InterfaceConfigs) := by
  unfold derive
  cases deriveConfigs bindings with
  | ok cs => exact respects_pure cs
  | error e => exact respects_throw _

variable [Host σ]

/-- A restart is tried on both hosts, and if it fails it fails on both. -/
theorem IndifferentAnnouncing.restart (hR : IndifferentAnnouncing R) (m : NetworkManager) {s t : σ}
    (h : R s t) : R (m.restart s) (m.restart t) := by
  have hresult := hR.run m.restartCommand _ _ (hR.report (.restarting m.restartCommand) s t h)
  unfold NetworkManager.restart
  revert hresult
  generalize Station.run m.restartCommand (Station.report (.restarting m.restartCommand) s) = r
  generalize Station.run m.restartCommand (Station.report (.restarting m.restartCommand) t) = r'
  rintro (⟨u, h'⟩ | ⟨e, h'⟩)
  · exact h'
  · exact hR.report _ _ _ h'

/-- What installing and checking configurations asks for cannot tell related hosts apart. Of a
restart it is asked only that it leaves related hosts, whether it succeeds or fails on them. -/
structure IndifferentInstalling (R : σ → σ → Prop) : Prop where
  addresses : Respects R (Host.addresses : HostM σ (List HostAddress))
  read : ∀ path, Respects R (FileStore.read path : HostM σ (Option String))
  write : ∀ path contents, Respects R (FileStore.write path contents : HostM σ Unit)
  link : ∀ target path, Respects R (FileStore.link target path : HostM σ Unit)
  report : ∀ e s t, R s t → R (Station.report e s) (Station.report e t)
  restart : ∀ (m : NetworkManager) s t, R s t → R (m.restart s) (m.restart t)

/-- What the stages before the announcements ask for cannot tell related hosts apart. -/
structure Indifferent (R : σ → σ → Prop) : Prop extends IndifferentInstalling R where
  interfaces : Respects R (Host.interfaces : HostM σ (List Interface))

namespace IndifferentInstalling

variable (hR : IndifferentInstalling R)

include hR

theorem reportAll (events : List Event) {s t : σ} (h : R s t) :
    R (reportAll events s) (reportAll events t) := by
  induction events generalizing s t with
  | nil => exact h
  | cons e events ih => exact ih (hR.report e s t h)

/-- What is bound hangs on the table alone, and so does what is reported. -/
theorem bindNetworks (networks : Networks) (table : MacTable) :
    Respects R (bindNetworks networks table : EStateM NetworkError σ (List Binding)) := by
  intro s t h
  unfold NetReconcile.bindNetworks
  cases resolveBindings networks table [] with
  | ok bindings events => exact .ok _ (hR.reportAll _ h)
  | error e events => exact .error _ (hR.reportAll _ h)

/-! ### Writing and restarting -/

/-- Making a file hold its text asks what is there, and writes. -/
theorem converge (path : FilePath) (contents : String) :
    Respects R (converge path contents : HostM σ Bool) := by
  refine (hR.read path).adaptExcept.bind fun current ↦ ?_
  split
  · exact respects_pure false
  · exact (hR.write path contents).bind fun _ ↦ respects_pure true

theorem take (s : WriteStep) : Respects R (s.take : HostM σ Bool) := by
  cases s with
  | link target path => exact (hR.link target path).adaptExcept.bind fun _ ↦ respects_pure _
  | converge file =>
    refine (hR.converge file.path file.contents).adaptExcept.bind fun changed ↦ ?_
    cases changed with
    | false => exact respects_pure _
    | true => exact (respects_modify (hR.report _)).bind fun _ ↦ respects_pure _

/-- Steps in sequence respect what each of them does. -/
theorem takeAll (ss : List WriteStep) : Respects R (WriteStep.takeAll ss : HostM σ Bool) := by
  induction ss with
  | nil => exact respects_pure false
  | cons s ss ih =>
    exact (hR.take s).bind fun changed ↦ ih.bind fun rest ↦ respects_pure (changed || rest)

theorem write_configs (paths : ConfigPaths) (cs : InterfaceConfigs) :
    Respects R (paths.write cs : HostM σ Bool) := by
  rw [paths.write_eq_takeAll]
  exact hR.takeAll (paths.writeSteps cs)

/-- Files are made to hold the same texts on both, and a restart is tried on both or on neither. -/
theorem install (m : NetworkManager) (cs : InterfaceConfigs) :
    Respects R (m.install cs : EStateM NetworkError σ Unit) := by
  refine (hR.write_configs m.paths cs).adaptExcept.bind fun changed ↦ respects_modify fun s t h ↦ ?_
  -- the answer of writing is the same on both, and it alone decides
  cases changed with
  | false => exact hR.report .unchanged s t h
  | true => exact hR.restart m s t h

/-! ### Checking -/

theorem checkAddresses (cs : InterfaceConfigs) :
    Respects R (checkAddresses cs : HostM σ Unit) := by
  unfold NetReconcile.checkAddresses
  split
  · exact respects_pure _
  · refine hR.addresses.adaptExcept.bind fun table ↦ ?_
    split
    · exact respects_pure _
    · exact respects_throw _

theorem checkNameservers (resolvConf : FilePath) (expected : List IpAddress) :
    Respects R (checkNameservers resolvConf expected : HostM σ Unit) := by
  unfold NetReconcile.checkNameservers
  split
  · exact respects_pure _
  · refine (hR.read resolvConf).adaptExcept.bind fun contents? ↦ ?_
    split
    · exact respects_throw _
    · split
      · exact respects_pure _
      · exact respects_throw _

theorem check (m : NetworkManager) (cs : InterfaceConfigs) :
    Respects R (m.check cs : EStateM NetworkError σ Unit) :=
  (hR.checkAddresses cs).adaptExcept.bind fun _ ↦
    (hR.checkNameservers m.paths.resolvConf cs.dns).adaptExcept

/-! ### All that comes after deriving -/

/-- What comes after deriving configurations. -/
theorem install_check (m : NetworkManager) (cs : InterfaceConfigs) :
    Respects R (do m.install cs; m.check cs; return cs.announcements :
      EStateM NetworkError σ (List AddressBinding)) :=
  (hR.install m cs).bind fun _ ↦ (hR.check m cs).bind fun _ ↦ respects_pure cs.announcements

/-- Networks from which the same configurations are derived are reconciled alike. -/
theorem alike_reconcile (m : NetworkManager) {networks networks' : Networks} {s t : σ}
    (h : Alike R (NetReconcile.configsFor networks s) (NetReconcile.configsFor networks' t)) :
    Alike R (m.reconcile networks s) (m.reconcile networks' t) :=
  h.bind (hR.install_check m)

/-- What is delivered is the same, and so is what is reported instead. -/
theorem announceAfter (hbroadcast : ∀ bs, Respects R (Host.broadcast bs : HostM σ Unit))
    (bs : List AddressBinding) (completion : Completion) {s t : σ} (h : R s t) :
    SameAnswer R (NetworkManager.announceAfter bs completion s)
      (NetworkManager.announceAfter bs completion t) := by
  have hresult : Alike R (stage .broadcast (Host.broadcast bs) s)
      (stage .broadcast (Host.broadcast bs) t) := (hbroadcast bs).adaptExcept s t h
  unfold NetworkManager.announceAfter
  revert hresult
  generalize stage .broadcast (Host.broadcast bs) s = r
  generalize stage .broadcast (Host.broadcast bs) t = r'
  rintro (⟨u, h'⟩ | ⟨e, h'⟩)
  · cases completion with
    | awaited => exact .intro _ h'
    | unrequested => exact .intro _ h'
    | abandoned => exact .intro _ (hR.report _ _ _ h')
  · cases completion with
    | awaited => exact .intro _ h'
    | unrequested => exact .intro _ (hR.report _ _ _ h')
    | abandoned => exact .intro _ (hR.report _ _ _ h')

/-- Networks that are reconciled alike are set up alike. -/
theorem sameAnswer_setup (hbroadcast : ∀ bs, Respects R (Host.broadcast bs : HostM σ Unit))
    (m : NetworkManager) {networks networks' : Networks} (completion : Completion) {s t : σ}
    (h : Alike R (m.reconcile networks s) (m.reconcile networks' t)) :
    SameAnswer R (m.setup networks completion s) (m.setup networks' completion t) := by
  unfold NetworkManager.setup
  revert h
  generalize m.reconcile networks s = r
  generalize m.reconcile networks' t = r'
  rintro (@⟨bindings, s', t', h'⟩ | ⟨e, h'⟩)
  · have hafter := hR.announceAfter hbroadcast bindings completion h'
    dsimp only
    revert hafter
    generalize NetworkManager.announceAfter bindings completion s' = x
    generalize NetworkManager.announceAfter bindings completion t' = y
    rintro ⟨delivered, h''⟩
    exact .intro _ h''
  · exact .intro _ h'

end IndifferentInstalling

namespace Indifferent

variable (hR : Indifferent R)

include hR

/-! ### Detecting and deriving -/

/-- Detecting asks for the inventory, and reports. -/
theorem detectHardware : Respects R (detectHardware : HostM σ MacTable) := by
  refine hR.interfaces.bind fun interfaces ↦ ?_
  exact (respects_modify fun s t h ↦ hR.reportAll _ h).bind fun _ ↦ respects_pure _

theorem configsFor (networks : Networks) :
    Respects R (configsFor networks : EStateM NetworkError σ InterfaceConfigs) := by
  refine hR.detectHardware.adaptExcept.bind fun table ↦ ?_
  exact (hR.bindNetworks networks table).bind respects_derive

theorem reconcile (m : NetworkManager) (networks : Networks) :
    Respects R (m.reconcile networks : EStateM NetworkError σ (List AddressBinding)) :=
  (hR.configsFor networks).bind (hR.install_check m)

end Indifferent

end NetReconcile
