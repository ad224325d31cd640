import Mathlib.Data.List.Induction
import Mathlib.Data.List.Infix

/-!
# Runs of a deterministic transition function

A transition function is total: an event which is not enabled leaves the state
unchanged. A schedule is a finite list of events, so every interleaving of several
parties is some schedule, and a statement about all schedules is one about all
interleavings.

`run_induction` is the history-dependent invariant rule: the invariant may mention
the events already taken. `always_iff_step` characterizes the schedules along which
a property never fails by a condition on the single steps. `log` records what each
step answered, in the state in which it was taken; `ghost` is any other history variable.
-/

namespace Transition

universe u v w

variable {σ : Type u} {ε : Type v} {ρ : Type w}
variable {step : σ → ε → σ} {reply : σ → ε → ρ}

/-- The state which a schedule leads to. -/
def run (step : σ → ε → σ) (s : σ) (es : List ε) : σ := es.foldl step s

@[simp] theorem run_nil (s : σ) : run step s [] = s := rfl

@[simp] theorem run_cons (s : σ) (e : ε) (es : List ε) :
    run step s (e :: es) = run step (step s e) es := rfl

@[simp] theorem run_append (s : σ) (es fs : List ε) :
    run step s (es ++ fs) = run step (run step s es) fs := List.foldl_append

/-- The events of a run in order, each with the answer its step gave. -/
def log (step : σ → ε → σ) (reply : σ → ε → ρ) : σ → List ε → List (ε × ρ)
  | _, [] => []
  | s, e :: es => (e, reply s e) :: log step reply (step s e) es

@[simp] theorem log_nil (s : σ) : log step reply s [] = [] := rfl

@[simp] theorem log_cons (s : σ) (e : ε) (es : List ε) :
    log step reply s (e :: es) = (e, reply s e) :: log step reply (step s e) es := rfl

@[simp] theorem log_append (s : σ) (es fs : List ε) :
    log step reply s (es ++ fs) = log step reply s es ++ log step reply (run step s es) fs := by
  induction es generalizing s with
  | nil => rfl
  | cons e es ih => simp only [List.cons_append, log_cons, run_cons, ih]

@[simp] theorem log_map_fst (s : σ) (es : List ε) :
    (log step reply s es).map Prod.fst = es := by
  induction es generalizing s with
  | nil => rfl
  | cons e es ih => simp only [log_cons, List.map_cons, ih]

/-- `P` holds in every state the schedule passes through, the first one included. -/
def Always (step : σ → ε → σ) (s : σ) (es : List ε) (P : List ε → σ → Prop) : Prop :=
  ∀ done, done <+: es → P done (run step s done)

/-- History-dependent invariants are proved for one step at a time. Only the steps
of the given schedule have to be considered. -/
theorem always_of_step {s : σ} {es : List ε} {P : List ε → σ → Prop} (start : P [] s)
    (next : ∀ done e, done ++ [e] <+: es → P done (run step s done) →
      P (done ++ [e]) (step (run step s done) e)) :
    Always step s es P := by
  intro done
  induction done using List.reverseRecOn with
  | nil =>
      intro _
      exact start
  | append_singleton done e ih =>
      intro taken
      have earlier : done <+: es := (List.prefix_append done [e]).trans taken
      rw [run_append]
      exact next done e taken (ih earlier)

theorem run_induction {s : σ} {es : List ε} {P : List ε → σ → Prop} (start : P [] s)
    (next : ∀ done e, done ++ [e] <+: es → P done (run step s done) →
      P (done ++ [e]) (step (run step s done) e)) :
    P es (run step s es) :=
  always_of_step start next es (List.prefix_refl es)

/-- A property of the state alone, which the events of the schedule keep. -/
theorem run_preserves {s : σ} {es : List ε} {P : σ → Prop} (start : P s)
    (keeps : ∀ t, ∀ e ∈ es, P t → P (step t e)) : P (run step s es) :=
  run_induction (P := fun _ => P) start fun done e taken =>
    keeps _ e (taken.subset (List.mem_append_right done (List.mem_singleton_self e)))

/-- What no event of the schedule changes. -/
theorem run_unchanged (view : σ → ρ) {s : σ} {es : List ε}
    (same : ∀ t, ∀ e ∈ es, view (step t e) = view t) : view (run step s es) = view s :=
  run_preserves (P := fun t => view t = view s) rfl fun t e member kept =>
    (same t e member).trans kept

theorem Always.of_prefix {s : σ} {done es : List ε} {P : List ε → σ → Prop}
    (holds : Always step s es P) (taken : done <+: es) : Always step s done P :=
  fun earlier inside => holds earlier (inside.trans taken)

/-- When a step keeps a property that has held so far exactly under `C`, the property
never fails along a schedule exactly when every one of its steps meets `C`. -/
theorem always_iff_step {s : σ} {es : List ε} {P : List ε → σ → Prop}
    {C : List ε → σ → ε → Prop} (start : P [] s)
    (exact : ∀ done e, done ++ [e] <+: es → Always step s done P →
      (P (done ++ [e]) (step (run step s done) e) ↔ C done (run step s done) e)) :
    Always step s es P ↔ ∀ done e, done ++ [e] <+: es → C done (run step s done) e := by
  constructor
  · intro holds done e taken
    have later := holds (done ++ [e]) taken
    rw [run_append] at later
    exact (exact done e taken
      (holds.of_prefix ((List.prefix_append done [e]).trans taken))).mp later
  · intro conditions
    have prefixes : ∀ done, done <+: es → Always step s done P := by
      intro done
      induction done using List.reverseRecOn with
      | nil =>
          intro _ earlier inside
          rw [List.prefix_nil.mp inside]
          exact start
      | append_singleton done e ih =>
          intro taken earlier inside
          have before := ih ((List.prefix_append done [e]).trans taken)
          rcases List.prefix_concat_iff.mp inside with rfl | strict
          · rw [run_append]
            exact (exact done e taken before).mpr (conditions done e taken)
          · exact before earlier strict
    exact prefixes es (List.prefix_refl es)

/-! ### History variables -/

section Ghost

variable {γ : Type w} {note : σ → ε → γ → γ}

/-- A history variable: it is updated beside each step, from the state before the step,
and no step reads it. -/
def ghost (step : σ → ε → σ) (note : σ → ε → γ → γ) : σ → γ → List ε → γ
  | _, g, [] => g
  | s, g, e :: es => ghost step note (step s e) (note s e g) es

/-- An invariant which relates the state to a history variable. -/
theorem ghost_induction {P : σ → γ → Prop}
    (next : ∀ s e g, P s g → P (step s e) (note s e g)) {s : σ} {g : γ} (start : P s g)
    (es : List ε) : P (run step s es) (ghost step note s g es) := by
  induction es generalizing s g with
  | nil => exact start
  | cons e es ih => exact ih (next s e g start)

/-- The same with the events of the given schedule only. -/
theorem ghost_preserves {P : σ → γ → Prop} {s : σ} {g : γ} {es : List ε} (start : P s g)
    (keeps : ∀ t, ∀ e ∈ es, ∀ h, P t h → P (step t e) (note t e h)) :
    P (run step s es) (ghost step note s g es) := by
  induction es generalizing s g with
  | nil => exact start
  | cons e es ih =>
      have first := keeps s e List.mem_cons_self g start
      exact ih first fun t f member => keeps t f (List.mem_cons_of_mem e member)

end Ghost

end Transition
