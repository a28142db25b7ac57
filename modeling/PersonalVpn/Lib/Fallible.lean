import Mathlib.Data.List.Basic

/-! Computations that may throw and then leave the state they have reached, with rules of pre- and
postconditions for them. -/

/-- A computation on a state, whose changes stay when it throws. -/
abbrev Fallible (ε σ : Type) : Type → Type := ExceptT ε (StateM σ)

namespace Fallible

/-- A computation that does not touch the state. -/
def ofExcept {ε σ α : Type} (r : Except ε α) : Fallible ε σ α := fun s => (r, s)

variable {ε σ α β : Type} {P R : σ → Prop} {Q : α → σ → Prop} {E : ε → σ → Prop}

theorem bind_ok {x : Fallible ε σ β} {f : β → Fallible ε σ α} {s s' : σ} {b : β}
    (h : x s = (.ok b, s')) : (x >>= f) s = f b s' := by
  simp only [bind, ExceptT.bind, ExceptT.mk, StateT.bind, h, ExceptT.bindCont]

theorem bind_error {x : Fallible ε σ β} {f : β → Fallible ε σ α} {s s' : σ} {e : ε}
    (h : x s = (.error e, s')) : (x >>= f) s = (.error e, s') := by
  simp only [bind, ExceptT.bind, ExceptT.mk, StateT.bind, h, ExceptT.bindCont]
  rfl

theorem tryCatch_ok {x : Fallible ε σ α} {f : ε → Fallible ε σ α} {s s' : σ} {a : α}
    (h : x s = (.ok a, s')) : tryCatch x f s = (.ok a, s') := by
  simp only [tryCatch, tryCatchThe, MonadExceptOf.tryCatch, ExceptT.tryCatch, ExceptT.mk, bind,
    StateT.bind, h]
  rfl

theorem tryCatch_error {x : Fallible ε σ α} {f : ε → Fallible ε σ α} {s s' : σ} {e : ε}
    (h : x s = (.error e, s')) : tryCatch x f s = f e s' := by
  simp only [tryCatch, tryCatchThe, MonadExceptOf.tryCatch, ExceptT.tryCatch, ExceptT.mk, bind,
    StateT.bind, h]

/-- From a state in `P` the computation returns with `Q` or throws with `E`. -/
structure Holds (P : σ → Prop) (x : Fallible ε σ α) (Q : α → σ → Prop) (E : ε → σ → Prop) :
    Prop where
  ok : ∀ {s s' a}, P s → x s = (.ok a, s') → Q a s'
  error : ∀ {s s' e}, P s → x s = (.error e, s') → E e s'

/-- A fact about no state leaves the precondition. -/
theorem holds_of_fact {x : Fallible ε σ α} {fact : Prop} (h : fact → Holds P x Q E) :
    Holds (fun s => P s ∧ fact) x Q E where
  ok hs := (h hs.2).ok hs.1
  error hs := (h hs.2).error hs.1

theorem holds_exists {ι : Sort*} {P : ι → σ → Prop} {x : Fallible ε σ α}
    (h : ∀ i, Holds (P i) x Q E) : Holds (fun s => ∃ i, P i s) x Q E where
  ok hs hrun := by
    obtain ⟨i, hi⟩ := hs
    exact (h i).ok hi hrun
  error hs hrun := by
    obtain ⟨i, hi⟩ := hs
    exact (h i).error hi hrun

theorem holds_modify {f : σ → σ} (h : ∀ s, P s → R (f s)) :
    Holds P (modify f : Fallible ε σ PUnit) (fun _ => R) E where
  ok := by
    intro s s' a hs hrun
    cases hrun
    exact h s hs
  error := by
    intro s s' e hs hrun
    cases hrun

theorem holds_pure {a : α} (h : ∀ s, P s → Q a s) : Holds P (pure a : Fallible ε σ α) Q E := by
  constructor
  · intro s s' b hs hrun
    cases hrun
    exact h s hs
  · intro s s' e hs hrun
    cases hrun

theorem holds_throw {e : ε} (h : ∀ s, P s → E e s) : Holds P (throw e : Fallible ε σ α) Q E := by
  constructor
  · intro s s' a hs hrun
    cases hrun
  · intro s s' e' hs hrun
    cases hrun
    exact h s hs

theorem holds_get : Holds P (get : Fallible ε σ σ) (fun _ => P) E := by
  constructor
  · intro s s' a hs hrun
    cases hrun
    exact hs
  · intro s s' e hs hrun
    cases hrun

theorem holds_ofExcept {r : Except ε α} :
    Holds P (ofExcept r : Fallible ε σ α) (fun _ => P) (fun _ => P) := by
  constructor
  · intro s s' a hs hrun
    cases hrun
    exact hs
  · intro s s' e hs hrun
    cases hrun
    exact hs

theorem Holds.weaken {x : Fallible ε σ α} {Q' : α → σ → Prop} (hx : Holds P x Q' E)
    (hQ : ∀ a s, Q' a s → Q a s) : Holds P x Q E where
  ok hs hrun := hQ _ _ (hx.ok hs hrun)
  error := hx.error

/-- The rule of consequence. -/
theorem Holds.mono {x : Fallible ε σ α} {P' : σ → Prop} {Q' : α → σ → Prop} {E' : ε → σ → Prop}
    (hx : Holds P' x Q' E') (hP : ∀ s, P s → P' s) (hQ : ∀ a s, Q' a s → Q a s)
    (hE : ∀ e s, E' e s → E e s) : Holds P x Q E where
  ok hs hrun := hQ _ _ (hx.ok (hP _ hs) hrun)
  error hs hrun := hE _ _ (hx.error (hP _ hs) hrun)

theorem Holds.bind {x : Fallible ε σ β} {f : β → Fallible ε σ α} {M : β → σ → Prop}
    (hx : Holds P x M E) (hf : ∀ b, Holds (M b) (f b) Q E) : Holds P (x >>= f) Q E := by
  constructor
  · intro s s' a hs hrun
    rcases hr : x s with ⟨r, t⟩
    cases r with
    | ok b => exact (hf b).ok (hx.ok hs hr) (by rwa [bind_ok hr] at hrun)
    | error e =>
      rw [bind_error hr] at hrun
      cases hrun
  · intro s s' e hs hrun
    rcases hr : x s with ⟨r, t⟩
    cases r with
    | ok b => exact (hf b).error (hx.ok hs hr) (by rwa [bind_ok hr] at hrun)
    | error e =>
      rw [bind_error hr] at hrun
      cases hrun
      exact hx.error hs hr

/-- The rule for a loop over a list. -/
theorem holds_forM {f : β → Fallible ε σ PUnit} (h : ∀ b, Holds P (f b) (fun _ => P) E)
    (bs : List β) : Holds P (bs.forM f) (fun _ => P) E := by
  induction bs with
  | nil => exact holds_modify fun _ hs => hs
  | cons b bs ih => exact (h b).bind fun _ => ih

/-- The rule for a loop whose invariant speaks of the elements that have had their turn. -/
theorem holds_forM_done {P : List β → σ → Prop} {f : β → Fallible ε σ PUnit} (bs : List β)
    (h : ∀ done, ∀ b ∈ bs, Holds (P done) (f b) (fun _ => P (done ++ [b])) E) (done : List β) :
    Holds (P done) (bs.forM f) (fun _ => P (done ++ bs)) E := by
  induction bs generalizing done with
  | nil =>
    rw [List.append_nil]
    exact holds_modify fun _ hs => hs
  | cons b bs ih =>
    have hrest := ih (fun done b hb => h done b (List.mem_cons_of_mem _ hb)) (done ++ [b])
    rw [List.append_assoc, List.singleton_append] at hrest
    exact (h done b List.mem_cons_self).bind fun _ => hrest

/-- The rule for an error that is passed on after cleaning up. -/
theorem Holds.tryCatch_throw {x : Fallible ε σ α} {f : ε → Fallible ε σ β} {M : ε → σ → Prop}
    (hx : Holds P x Q M) (hf : ∀ e, Holds (M e) (f e) (fun _ => E e) E) :
    Holds P (tryCatch x fun e => f e >>= fun _ => throw e) Q E := by
  have hthrow (e : ε) : Holds (M e) (f e >>= fun _ => (throw e : Fallible ε σ α))
      (fun _ _ => False) E := by
    apply (hf e).bind
    intro _
    constructor
    · intro s s' a hs hrun
      cases hrun
    · intro s s' e' hs hrun
      cases hrun
      exact hs
  constructor
  · intro s s' a hs hrun
    rcases hr : x s with ⟨r, t⟩
    cases r with
    | ok b =>
      rw [tryCatch_ok hr] at hrun
      cases hrun
      exact hx.ok hs hr
    | error e =>
      rw [tryCatch_error hr] at hrun
      exact ((hthrow e).ok (hx.error hs hr) hrun).elim
  · intro s s' e' hs hrun
    rcases hr : x s with ⟨r, t⟩
    cases r with
    | ok b =>
      rw [tryCatch_ok hr] at hrun
      cases hrun
    | error e =>
      rw [tryCatch_error hr] at hrun
      exact (hthrow e).error (hx.error hs hr) hrun

/-- A run in `P` stays there; one that returns has put `ws` behind what `out` shows. -/
def Emits {ω : Type} (out : σ → List ω) (P : σ → Prop) (x : Fallible ε σ α) (ws : List ω) : Prop :=
  ∀ o, Holds (fun s => P s ∧ out s = o) x (fun _ s => P s ∧ out s = o ++ ws) fun _ => P

variable {ω : Type} {out : σ → List ω} {vs ws : List ω}

/-- What keeps what `out` shows emits nothing. -/
theorem emits_nil {x : Fallible ε σ α}
    (hx : ∀ o, Holds (fun s => P s ∧ out s = o) x (fun _ s => P s ∧ out s = o) fun _ => P) :
    Emits out P x [] := by
  intro o
  simpa using hx o

theorem emits_pure (a : α) : Emits out P (pure a : Fallible ε σ α) [] :=
  emits_nil fun _ => holds_pure fun _ hs => hs

theorem emits_throw (e : ε) : Emits out P (throw e : Fallible ε σ α) ws := by
  intro o
  constructor
  · intro s s' b hs hrun
    cases hrun
  · intro s s' e' hs hrun
    cases hrun
    exact hs.1

theorem Emits.bind {x : Fallible ε σ β} {f : β → Fallible ε σ α} (hx : Emits out P x vs)
    (hf : ∀ b, Emits out P (f b) ws) : Emits out P (x >>= f) (vs ++ ws) := by
  intro o
  apply (hx o).bind
  intro b
  rw [← List.append_assoc]
  exact hf b (o ++ vs)

theorem Emits.tryCatch_throw {x : Fallible ε σ α} {f : ε → Fallible ε σ β}
    (hx : Emits out P x ws) (hf : ∀ e, Holds P (f e) (fun _ => P) fun _ => P) :
    Emits out P (tryCatch x fun e => f e >>= fun _ => throw e) ws :=
  fun o => (hx o).tryCatch_throw hf

theorem emits_forM {f : β → Fallible ε σ PUnit} {g : β → List ω}
    (h : ∀ b, Emits out P (f b) (g b)) (bs : List β) : Emits out P (bs.forM f) (bs.flatMap g) := by
  induction bs with
  | nil => exact emits_pure _
  | cons b bs ih => exact (h b).bind fun _ => ih

end Fallible
