import Mathlib.Data.List.Basic

/-! Finite runs of a deterministic system: a step function folded over a list of events. -/

namespace Run

variable {σ ε : Type*} {step : σ → ε → σ}

/-- The state a run ends in. -/
def run (step : σ → ε → σ) (s : σ) (es : List ε) : σ := es.foldl step s

@[simp] theorem run_nil (s : σ) : run step s [] = s := rfl

@[simp] theorem run_cons (s : σ) (e : ε) (es : List ε) :
    run step s (e :: es) = run step (step s e) es := rfl

theorem run_append (s : σ) (es es' : List ε) :
    run step s (es ++ es') = run step (run step s es) es' := List.foldl_append

/-- Every step of the run is taken in a state that admits it. -/
def Along (step : σ → ε → σ) (G : σ → ε → Prop) : σ → List ε → Prop
  | _, [] => True
  | s, e :: es => G s e ∧ Along step G (step s e) es

theorem along_append {G : σ → ε → Prop} (s : σ) (es es' : List ε) :
    Along step G s (es ++ es') ↔ Along step G s es ∧ Along step G (run step s es) es' := by
  induction es generalizing s with
  | nil => simp [Along]
  | cons e es ih => simp [Along, ih, and_assoc]

/-- A guard that reads the events only. -/
theorem along_of_forall {E : ε → Prop} (s : σ) {es : List ε} (hes : ∀ e ∈ es, E e) :
    Along step (fun _ => E) s es := by
  induction es generalizing s with
  | nil => trivial
  | cons e es ih =>
    exact ⟨hes e List.mem_cons_self, ih _ fun e he => hes e (List.mem_cons_of_mem _ he)⟩

/-- What the start satisfies and every admitted step preserves holds at the end. -/
theorem along_invariant {G : σ → ε → Prop} {P : σ → Prop}
    (hstep : ∀ s e, P s → G s e → P (step s e)) {s : σ} (h₀ : P s) {es : List ε}
    (hes : Along step G s es) : P (run step s es) := by
  induction es generalizing s with
  | nil => exact h₀
  | cons e es ih => exact ih (hstep s e h₀ hes.1) hes.2

/-- What a guarded invariant and the guard together give holds at every step of the run. -/
theorem along_of_guarded {G Q : σ → ε → Prop} {P : σ → Prop}
    (hstep : ∀ s e, P s → G s e → P (step s e) ∧ Q s e) {s : σ} (h₀ : P s) {es : List ε}
    (hes : Along step G s es) : Along step Q s es := by
  induction es generalizing s with
  | nil => trivial
  | cons e es ih =>
    obtain ⟨hp, hq⟩ := hstep s e h₀ hes.1
    exact ⟨hq, ih hp hes.2⟩

/-- The rule for an invariant that needs no guard. -/
theorem along_of_invariant {G Q : σ → ε → Prop} {P : σ → Prop}
    (hstep : ∀ s e, P s → P (step s e)) (hG : ∀ s e, P s → G s e → Q s e) {s : σ} (h₀ : P s)
    {es : List ε} (hes : Along step G s es) : Along step Q s es :=
  along_of_guarded (fun s e hp hg => ⟨hstep s e hp, hG s e hp hg⟩) h₀ hes

/-- Where the guard is exactly what keeps a property, the property holds throughout a run if and only
if every step of it is admitted. -/
theorem forall_take_iff_along {G : σ → ε → Prop} {E : ε → Prop} {P Q : σ → Prop}
    (hstep : ∀ s e, E e → P s → P (step s e) ∧ (Q s → (Q (step s e) ↔ G s e))) {s : σ} (h₀ : P s)
    (hq : Q s) {es : List ε} (hes : ∀ e ∈ es, E e) :
    (∀ n, Q (run step s (es.take n))) ↔ Along step G s es := by
  induction es generalizing s with
  | nil => simp [Along, hq]
  | cons e es ih =>
    obtain ⟨hp', hiff⟩ := hstep s e (hes e List.mem_cons_self) h₀
    have htail := fun e he => hes e (List.mem_cons_of_mem _ he)
    constructor
    · intro h
      have hq' : Q (step s e) := h 1
      exact ⟨(hiff hq).mp hq', (ih hp' hq' htail).mp fun n => h (n + 1)⟩
    · intro h n
      have hq' := (hiff hq).mpr h.1
      cases n with
      | zero => exact hq
      | succ n => exact (ih hp' hq' htail).mpr h.2 n

/-- The rule without a guard. -/
theorem invariant {P : σ → Prop} (hstep : ∀ s e, P s → P (step s e)) {s : σ} (h₀ : P s)
    (es : List ε) : P (run step s es) := by
  induction es generalizing s with
  | nil => exact h₀
  | cons e es ih => exact ih (hstep s e h₀)

/-- From a state in which every step leaves a quiet entry behind, a run leaves only such entries. -/
theorem run_logs {β : Type*} (log : σ → List β) {entry : σ → ε → β} {P : σ → Prop} {Q : β → Prop}
    (hlog : ∀ s e, log (step s e) = log s ++ [entry s e])
    (hstep : ∀ s e, P s → P (step s e) ∧ Q (entry s e)) {s : σ} (h₀ : P s) (es : List ε) :
    P (run step s es) ∧ ∃ later, log (run step s es) = log s ++ later ∧
      later.length = es.length ∧ ∀ b ∈ later, Q b := by
  induction es generalizing s with
  | nil => exact ⟨h₀, [], by simp⟩
  | cons e es ih =>
    obtain ⟨hp, hq⟩ := hstep s e h₀
    obtain ⟨hend, later, heq, hlen, hlater⟩ := ih hp
    refine ⟨hend, entry s e :: later, ?_, ?_, ?_⟩
    · rw [run_cons, heq, hlog, List.append_assoc, List.singleton_append]
    · simp [hlen]
    · intro b hb
      obtain hfirst | hrest := List.mem_cons.mp hb
      · rw [hfirst]
        exact hq
      · exact hlater b hrest

end Run
