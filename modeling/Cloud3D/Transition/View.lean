import Cloud3D.Transition.Run

/-!
# What one observer sees of a run

A view maps the state to the part which one observer is concerned with. If a step
that is relevant to the observer acts on the view alone, and any other step leaves
the view unchanged, then the view of a run is the run of its relevant events. Two
schedules with the same relevant events, in the same order, are then the same to
this observer: nothing the other parties do is visible through the view.
-/

namespace Transition

universe u v w x

variable {σ : Type u} {τ : Type v} {ε : Type w} {ρ : Type x}
variable {step : σ → ε → σ} {step' : τ → ε → τ} {view : σ → τ} {relevant : ε → Bool}

theorem run_view (sees : ∀ s e, relevant e = true → view (step s e) = step' (view s) e)
    (skips : ∀ s e, relevant e = false → view (step s e) = view s) (s : σ) (es : List ε) :
    view (run step s es) = run step' (view s) (es.filter relevant) := by
  induction es generalizing s with
  | nil => rfl
  | cons e es ih =>
      rw [run_cons, ih]
      cases concerned : relevant e with
      | true => rw [List.filter_cons_of_pos concerned, run_cons, sees s e concerned]
      | false =>
          rw [List.filter_cons_of_neg (by simp [concerned]), skips s e concerned]

variable (step view) in
/-- Irrelevant events are not seen. -/
theorem view_run_of_forall_not (skips : ∀ s e, relevant e = false → view (step s e) = view s)
    (s : σ) {es : List ε} (unseen : ∀ e ∈ es, ¬ relevant e = true) :
    view (run step s es) = view s :=
  run_unchanged view fun t e member => skips t e (Bool.eq_false_iff.mpr (unseen e member))

variable (step view) in
/-- The first relevant event of a schedule finds the view of the first state. -/
theorem exists_of_filter_eq_cons
    (skips : ∀ s e, relevant e = false → view (step s e) = view s) (s : σ) {es rest : List ε}
    {e : ε} (seen : es.filter relevant = e :: rest) :
    ∃ earlier later, es = earlier ++ e :: later ∧ view (run step s earlier) = view s ∧
      later.filter relevant = rest := by
  obtain ⟨earlier, later, rfl, unseen, _, rest⟩ := List.filter_eq_cons_iff.mp seen
  exact ⟨earlier, later, rfl, view_run_of_forall_not step view skips s unseen, rest⟩

/-- The answers to the observed events do not depend on the irrelevant ones either. -/
theorem log_view {reply : σ → ε → ρ} {reply' : τ → ε → ρ} {observed : ε → Bool}
    (sees : ∀ s e, relevant e = true → view (step s e) = step' (view s) e)
    (skips : ∀ s e, relevant e = false → view (step s e) = view s)
    (concerned : ∀ e, observed e = true → relevant e = true)
    (agrees : ∀ s e, observed e = true → reply s e = reply' (view s) e)
    (s : σ) (es : List ε) :
    (log step reply s es).filter (fun entry => observed entry.1) =
      (log step' reply' (view s) (es.filter relevant)).filter
        (fun entry => observed entry.1) := by
  induction es generalizing s with
  | nil => rfl
  | cons e es ih =>
      rw [log_cons]
      cases seen : relevant e with
      | true =>
          rw [List.filter_cons_of_pos seen, log_cons, List.filter_cons, List.filter_cons,
            ih, sees s e seen]
          by_cases watched : observed e = true
          · simp only [watched, if_true, agrees s e watched]
          · simp only [watched, if_false, Bool.false_eq_true]
      | false =>
          have unwatched : ¬ observed e = true := fun watched => by
            rw [concerned e watched] at seen
            cases seen
          have skipped := ih (step s e)
          rw [skips s e seen] at skipped
          simp only [List.filter_cons, unwatched, seen, if_false, Bool.false_eq_true]
          exact skipped

end Transition
