import Cloud3D.Transition.Run

/-!
# Simulation of one transition function by another

Two systems take the same events. If a relation between their states gives equal answers
and is kept by every event that the second system admits, then a schedule of admitted
events is answered by both in the same way, from related states on.
-/

namespace Transition

universe u v w x

variable {σ : Type u} {τ : Type v} {ε : Type w} {ρ : Type x}
variable {step : σ → ε → σ} {step' : τ → ε → τ} {reply : σ → ε → ρ} {reply' : τ → ε → ρ}

/-- Every event is admitted in the state in which it is taken. -/
def Admitted (step : τ → ε → τ) (C : τ → ε → Prop) : τ → List ε → Prop
  | _, [] => True
  | t, e :: es => C t e ∧ Admitted step C (step t e) es

theorem log_eq_of_simulation {R : σ → τ → Prop} {C : τ → ε → Prop}
    (answers : ∀ s t e, R s t → C t e → reply s e = reply' t e)
    (keeps : ∀ s t e, R s t → C t e → R (step s e) (step' t e))
    {s : σ} {t : τ} (related : R s t) {es : List ε} (admitted : Admitted step' C t es) :
    log step reply s es = log step' reply' t es ∧ R (run step s es) (run step' t es) := by
  induction es generalizing s t with
  | nil => exact ⟨rfl, related⟩
  | cons e es ih =>
      obtain ⟨here, later⟩ := admitted
      obtain ⟨logs, last⟩ := ih (keeps s t e related here) later
      rw [log_cons, log_cons, answers s t e related here, logs]
      exact ⟨rfl, last⟩

end Transition
