import NetReconcile.Setup

/-!
# Running operations

An operation on a host either answers or fails, and leaves a state in both cases. These lemmas run a
sequence of operations one operation at a time, from what its first operation comes to, so that no
proof has to look into how sequences are built.

An operation respects a relation on states if it cannot tell related states apart: it gives the same
answer on both, or fails on both with the same error, and leaves related states. Sequences of such
operations are such operations, so for a program only its primitives have to be looked at.

## Main definitions

* `Alike`: results with the same answer or error, and with related states.
* `Respects`: the operation cannot tell related states apart.
* `SameAnswer`: the same for operations that cannot fail.

## How they are used

A run of a program is put together by `bind_of_ok` and `bind_of_error` from facts of the form
`op s = .ok a s'` and `op s = .error e s'`, one for every operation. There is a second lemma of each
kind for everything that programs put around operations, so a proof goes through a program in the
order in which it is written. Where two runs are compared, `Respects` does the same for both at
once.
-/

namespace NetReconcile

variable {ε ε' σ α β : Type} {op : EStateM ε σ α} {next : α → EStateM ε σ β} {s s' : σ} {a : α}
  {e : ε}

/-! ### Sequences -/

/-- A sequence whose first operation answers goes on from what that leaves. -/
theorem bind_of_ok (h : op s = .ok a s') : (op >>= next) s = next a s' := by
  show EStateM.bind op next s = _
  rw [EStateM.bind, h]

theorem bind_of_error (h : op s = .error e s') : (op >>= next) s = .error e s' := by
  show EStateM.bind op next s = _
  rw [EStateM.bind, h]

theorem adaptExcept_of_ok {f : ε → ε'} (h : op s = .ok a s') :
    EStateM.adaptExcept f op s = .ok a s' := by
  rw [EStateM.adaptExcept, h]

theorem adaptExcept_of_error {f : ε → ε'} (h : op s = .error e s') :
    EStateM.adaptExcept f op s = .error (f e) s' := by
  rw [EStateM.adaptExcept, h]

theorem discard_of_ok (h : op s = .ok a s') : discard op s = .ok () s' := by
  show EStateM.map _ op s = _
  rw [EStateM.map, h]

theorem discard_of_error (h : op s = .error e s') : discard op s = .error e s' := by
  show EStateM.map _ op s = _
  rw [EStateM.map, h]

/-! ### Activities and stages -/

section

variable {op : HostM σ α} {e : HostError}

theorem within_of_ok {activity : Activity} (h : op s = .ok a s') :
    within activity op s = .ok a s' :=
  adaptExcept_of_ok h

/-- The activity in which an operation failed is put around its error. -/
theorem within_of_error {activity : Activity} (h : op s = .error e s') :
    within activity op s = .error (.during activity e) s' :=
  adaptExcept_of_error h

theorem stage_of_ok {wrap : HostError → NetworkError} (h : op s = .ok a s') :
    stage wrap op s = .ok a s' :=
  adaptExcept_of_ok h

/-- An error that ends a stage is wrapped as an error of the whole. -/
theorem stage_of_error {wrap : HostError → NetworkError} (h : op s = .error e s') :
    stage wrap op s = .error (wrap e) s' :=
  adaptExcept_of_error h

end

/-! ### Operations that respect a relation on states -/

/-- Results with the same answer or error, and with related states. -/
inductive Alike (R : σ → σ → Prop) : EStateM.Result ε σ α → EStateM.Result ε σ α → Prop
  | ok (a : α) {s t : σ} (h : R s t) : Alike R (.ok a s) (.ok a t)
  | error (e : ε) {s t : σ} (h : R s t) : Alike R (.error e s) (.error e t)

/-- An operation that cannot tell related states apart. -/
def Respects (R : σ → σ → Prop) (op : EStateM ε σ α) : Prop :=
  ∀ s t, R s t → Alike R (op s) (op t)

section

variable {R : σ → σ → Prop}

theorem respects_pure (a : α) : Respects R (pure a : EStateM ε σ α) :=
  fun _ _ h ↦ .ok a h

theorem respects_throw (e : ε) : Respects R (throw e : EStateM ε σ α) :=
  fun _ _ h ↦ .error e h

/-- A change keeps related states related if it does so as a function. -/
theorem respects_modify {f : σ → σ} (hf : ∀ s t, R s t → R (f s) (f t)) :
    Respects R (modify f : EStateM ε σ PUnit) :=
  fun s t h ↦ Alike.ok PUnit.unit (hf s t h)

/-- Sequences go on alike if they start alike, also if they start with different operations. -/
theorem Alike.bind {op' : EStateM ε σ α} {t : σ} (hop : Alike R (op s) (op' t))
    (hnext : ∀ a, Respects R (next a)) : Alike R ((op >>= next) s) ((op' >>= next) t) := by
  generalize hs : op s = r, ht : op' t = r' at hop
  cases hop with
  | ok a h =>
    rw [bind_of_ok hs, bind_of_ok ht]
    exact hnext a _ _ h
  | error e h =>
    rw [bind_of_error hs, bind_of_error ht]
    exact .error e h

/-- Sequences are alike if their parts are, whatever the answer with which they go on. -/
theorem Respects.bind (hop : Respects R op) (hnext : ∀ a, Respects R (next a)) :
    Respects R (op >>= next) :=
  fun s t h ↦ (hop s t h).bind hnext

/-- Errors that are the same are the same when they are wrapped. -/
theorem Respects.adaptExcept {f : ε → ε'} (hop : Respects R op) :
    Respects R (EStateM.adaptExcept f op) := by
  intro s t h
  have hresult := hop s t h
  generalize hs : op s = r, ht : op t = r' at hresult
  cases hresult with
  | ok a h' =>
    rw [adaptExcept_of_ok hs, adaptExcept_of_ok ht]
    exact .ok a h'
  | error e h' =>
    rw [adaptExcept_of_error hs, adaptExcept_of_error ht]
    exact .error (f e) h'

/-- An operation that answers unless a failure is arranged for respects a relation if related states
have the same failure and the same answer, and stay related. -/
theorem respects_of_fault {op : HostM σ α} {fault : σ → Option String} {answer : σ → α}
    {after : σ → σ}
    (hop : ∀ s, op s = match fault s with
      | some message => .error (.reported message) s
      | none => .ok (answer s) (after s))
    (hR : ∀ s t, R s t → fault t = fault s ∧ answer t = answer s ∧ R (after s) (after t)) :
    Respects R op := by
  intro s t h
  obtain ⟨hfault, hanswer, hafter⟩ := hR s t h
  rw [hop, hop, hfault, hanswer]
  cases fault s with
  | some message => exact .error _ h
  | none => exact .ok _ hafter

end

/-! ### Answers without failure -/

/-- The same answer, with related states. -/
inductive SameAnswer (R : σ → σ → Prop) : α × σ → α × σ → Prop
  | intro (a : α) {s t : σ} (h : R s t) : SameAnswer R (a, s) (a, t)

theorem SameAnswer.fst_eq {R : σ → σ → Prop} {x y : α × σ} (h : SameAnswer R x y) : y.1 = x.1 := by
  cases h
  rfl

theorem SameAnswer.snd {R : σ → σ → Prop} {x y : α × σ} (h : SameAnswer R x y) : R x.2 y.2 := by
  cases h with
  | intro a h => exact h

end NetReconcile
