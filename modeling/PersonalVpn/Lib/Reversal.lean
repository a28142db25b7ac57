import PersonalVpn.Lib.Run

/-! Undo lists: calls that lead a system back to where something was set up, the last setup first. -/

namespace Reversal

variable {σ υ : Type*} {undo : σ → υ → σ} {Enabled : σ → υ → Prop} {start s : σ} {calls : List υ}

/-- Each of the calls is enabled when its turn comes, and they end in `start`. -/
structure LeadsBack (undo : σ → υ → σ) (Enabled : σ → υ → Prop) (start s : σ) (calls : List υ) :
    Prop where
  enabled : Run.Along undo Enabled s calls
  back : Run.run undo s calls = start

theorem leadsBack_nil (s : σ) : LeadsBack undo Enabled s s [] where
  enabled := trivial
  back := Run.run_nil s

/-- A setup has led from `s` to `s'`, and a call takes it back. -/
theorem LeadsBack.push (h : LeadsBack undo Enabled start s calls) {s' : σ} {u : υ}
    (hu : Enabled s' u) (hback : undo s' u = s) : LeadsBack undo Enabled start s' (u :: calls) where
  enabled := by
    refine ⟨hu, ?_⟩
    rw [hback]
    exact h.enabled
  back := by
    rw [Run.run_cons, hback]
    exact h.back

/-- A system that does on a view of its state what the enabled calls do comes back as well. -/
theorem LeadsBack.simulated {τ : Type*} {view : τ → σ} {act : τ → υ → τ}
    (hact : ∀ t u, Enabled (view t) u → view (act t u) = undo (view t) u) {t : τ}
    (h : LeadsBack undo Enabled start (view t) calls) : view (Run.run act t calls) = start := by
  induction calls generalizing t with
  | nil => exact h.back
  | cons u calls ih =>
    obtain ⟨⟨hu, hrest⟩, hback⟩ := h
    have hstep := hact t u hu
    apply ih
    rw [hstep]
    exact ⟨hrest, hback⟩

end Reversal
