import PersonalVpn.Lib.Run

/-! Progress of finite runs: steps that a run takes in a given order, and a rank that they lower to
zero whatever else happens between them. -/

namespace Run

variable {σ ε : Type*} {step : σ → ε → σ}

/-- The run takes steps of these kinds in this order, with any others before, between and after. -/
def Visits (step : σ → ε → σ) : List (σ → ε → Prop) → σ → List ε → Prop
  | [], _, _ => True
  | _ :: _, _, [] => False
  | kind :: kinds, s, e :: es =>
    (kind s e ∧ Visits step kinds (step s e) es) ∨ Visits step (kind :: kinds) (step s e) es

/-- Each kind of step lowers the rank from the number of kinds that are left, itself included. -/
def Lowers (step : σ → ε → σ) (P : σ → Prop) (rank : σ → Nat) : List (σ → ε → Prop) → Prop
  | [] => True
  | kind :: kinds => (∀ s e, P s → kind s e → rank s = kinds.length + 1 →
      rank (step s e) ≤ kinds.length) ∧ Lowers step P rank kinds

/-- A rank that no step raises stays zero. -/
theorem rank_stays_zero {P : σ → Prop} {rank : σ → Nat}
    (hstep : ∀ s e, P s → P (step s e) ∧ rank (step s e) ≤ rank s) {s : σ} (h₀ : P s)
    (hzero : rank s = 0) (es : List ε) : rank (run step s es) = 0 := by
  have hkept (s : σ) (e : ε) (h : P s ∧ rank s = 0) : P (step s e) ∧ rank (step s e) = 0 := by
    obtain ⟨hp, hle⟩ := hstep s e h.1
    exact ⟨hp, by omega⟩
  have hend : P (run step s es) ∧ rank (run step s es) = 0 :=
    invariant (P := fun s => P s ∧ rank s = 0) hkept ⟨h₀, hzero⟩ es
  exact hend.2

/-- A rank that no step raises is zero after steps that lower it in turn. -/
theorem rank_eq_zero {P : σ → Prop} {rank : σ → Nat}
    (hstep : ∀ s e, P s → P (step s e) ∧ rank (step s e) ≤ rank s) {kinds : List (σ → ε → Prop)}
    (hkinds : Lowers step P rank kinds) {s : σ} (h₀ : P s) (hrank : rank s ≤ kinds.length)
    {es : List ε} (hes : Visits step kinds s es) : rank (run step s es) = 0 := by
  induction es generalizing kinds s with
  | nil =>
    cases kinds with
    | nil => exact Nat.le_zero.mp hrank
    | cons kind kinds => exact absurd hes (by simp [Visits])
  | cons e es ih =>
    obtain ⟨hp, hle⟩ := hstep s e h₀
    cases kinds with
    | nil => exact rank_stays_zero hstep h₀ (Nat.le_zero.mp hrank) (e :: es)
    | cons kind kinds =>
      rw [List.length_cons] at hrank
      obtain ⟨hkind, hrest⟩ | hrest := hes
      · refine ih hkinds.2 hp ?_ hrest
        by_cases htop : rank s = kinds.length + 1
        · exact hkinds.1 s e h₀ hkind htop
        · omega
      · exact ih hkinds hp (by rw [List.length_cons]; omega) hrest

/-- What a step brings about, and no step undoes, holds at the end of a run that takes it. -/
theorem holds_of_mem {P Q : σ → Prop} (hstep : ∀ s e, P s → P (step s e))
    (hkept : ∀ s e, P s → Q s → Q (step s e)) {e : ε} (hends : ∀ s, P s → Q (step s e)) {s : σ}
    (h₀ : P s) {es : List ε} (he : e ∈ es) : Q (run step s es) := by
  obtain ⟨before, after, hes⟩ := List.append_of_mem he
  rw [hes, run_append, run_cons]
  have hbefore : P (run step s before) := invariant hstep h₀ before
  have hboth (s : σ) (e : ε) (h : P s ∧ Q s) : P (step s e) ∧ Q (step s e) :=
    ⟨hstep s e h.1, hkept s e h.1 h.2⟩
  have hend : P (run step (step (run step s before) e) after) ∧
      Q (run step (step (run step s before) e) after) :=
    invariant (P := fun s => P s ∧ Q s) hboth ⟨hstep _ e hbefore, hends _ hbefore⟩ after
  exact hend.2

/-- The steps that lower a rank of a part lower it in the whole. -/
theorem Lowers.whole {τ δ : Type*} {step' : τ → δ → τ} {part : τ → σ} {event : ε → δ}
    {P : σ → Prop} {Q : τ → Prop} {rank : σ → Nat} (hQ : ∀ t, Q t → P (part t))
    (hpart : ∀ t e, part (step' t (event e)) = step (part t) e) {kinds : List (σ → ε → Prop)}
    (h : Lowers step P rank kinds) : Lowers step' Q (fun t => rank (part t))
      (kinds.map fun kind t d => ∃ e, d = event e ∧ kind (part t) e) := by
  induction kinds with
  | nil => trivial
  | cons kind kinds ih =>
    refine ⟨?_, ih h.2⟩
    intro t d ht hkind hrank
    obtain ⟨e, hd, hkind⟩ := hkind
    rw [List.length_map] at hrank ⊢
    change rank (part (step' t d)) ≤ kinds.length
    rw [hd, hpart]
    exact h.1 (part t) e (hQ t ht) hkind hrank

/-- What every step leaves alone or clears is clear after a step that clears it. -/
theorem eq_none_of_mem {α : Type*} {part : σ → Option α} {P : σ → Prop}
    (hstep : ∀ s e, P s → P (step s e) ∧ (part (step s e) = part s ∨ part (step s e) = none))
    {e : ε} (hclear : ∀ s, P s → part (step s e) = none) {s : σ} (h₀ : P s) {es : List ε}
    (he : e ∈ es) : part (run step s es) = none := by
  refine holds_of_mem (Q := fun s => part s = none) (fun s e h => (hstep s e h).1) ?_ hclear h₀ he
  intro s e h hnone
  obtain hsame | hcleared := (hstep s e h).2
  · exact hsame.trans hnone
  · exact hcleared

end Run
