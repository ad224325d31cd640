import Mathlib.Logic.Function.Basic
import Mathlib.Order.Notation

/-!
# Leases which are renewed by contacts and ended by sweeps

A lease table in its own terms. Keys are renewed at certain times, and a sweep ends
all leases whose latest renewal has expired by then. Nothing has to be deleted to say
which leases hold: it is determined by the latest renewal of every key and the latest
sweep. That a table which does delete behaves like this rests on the three laws of
`Expiry`, the last of which makes an ended lease stay ended until it is renewed.
-/

namespace Lease

universe u v

variable {κ : Type u} {τ : Type v}

/-- What matters of the past: the latest renewal of every key and the latest sweep. -/
@[ext] structure History (κ : Type u) (τ : Type v) where
  last : κ → Option τ
  swept : Option τ

namespace History

/-- Before any renewal and any sweep. -/
def initial : History κ τ := ⟨fun _ => none, none⟩

def renew [DecidableEq κ] (history : History κ τ) (k : κ) (t : τ) : History κ τ :=
  { history with last := Function.update history.last k (some t) }

def sweep (history : History κ τ) (t : τ) : History κ τ := { history with swept := some t }

/-- The lease of the key was renewed, and the latest sweep did not find it expired. -/
def Live (history : History κ τ) (expired : τ → τ → Prop) (k : κ) : Prop :=
  ∃ t, history.last k = some t ∧ ∀ u, history.swept = some u → ¬ expired t u

/-- Every time recorded so far is at most this one. -/
structure Until [LE τ] (history : History κ τ) (now : τ) : Prop where
  last : ∀ k t, history.last k = some t → t ≤ now
  swept : ∀ u, history.swept = some u → u ≤ now

end History

/-- `expired t u`: at time `u` a lease renewed last at time `t` has expired. -/
structure Expiry [LE τ] (expired : τ → τ → Prop) : Prop where
  fresh : ∀ t u, u ≤ t → ¬ expired t u
  older : ∀ t t' u, t ≤ t' → expired t' u → expired t u
  later : ∀ t u u', u ≤ u' → expired t u → expired t u'

namespace History

section Renewal

variable [DecidableEq κ]

@[simp] theorem renew_last_self (history : History κ τ) (k : κ) (t : τ) :
    (history.renew k t).last k = some t := by
  simp [renew]

theorem renew_last_of_ne (history : History κ τ) {k l : κ} (t : τ) (other : l ≠ k) :
    (history.renew k t).last l = history.last l := by
  simp [renew, other]

@[simp] theorem renew_swept (history : History κ τ) (k : κ) (t : τ) :
    (history.renew k t).swept = history.swept := rfl

end Renewal

@[simp] theorem sweep_last (history : History κ τ) (t : τ) :
    (history.sweep t).last = history.last := rfl

@[simp] theorem sweep_swept (history : History κ τ) (t : τ) :
    (history.sweep t).swept = some t := rfl

variable {expired : τ → τ → Prop}

/-- Right after a sweep exactly the leases renewed recently enough hold. -/
@[simp] theorem live_sweep_iff (history : History κ τ) (now : τ) (k : κ) :
    (history.sweep now).Live expired k ↔
      ∃ t, history.last k = some t ∧ ¬ expired t now := by
  simp [Live]

variable [LE τ]

/-- A renewal gives its own lease and touches no other. -/
theorem live_renew_iff [DecidableEq κ] (expiry : Expiry expired) {history : History κ τ}
    {now : τ} (past : history.Until now) (k l : κ) :
    (history.renew k now).Live expired l ↔ l = k ∨ history.Live expired l := by
  by_cases same : l = k
  · subst l
    refine iff_of_true ⟨now, renew_last_self history k now, ?_⟩ (.inl rfl)
    intro u swept
    exact expiry.fresh now u (past.swept u swept)
  · simp [Live, renew_last_of_ne history now same, same]

/-- A sweep gives back no lease which an earlier one ended. -/
theorem live_of_live_sweep (expiry : Expiry expired) {history : History κ τ} {now : τ}
    (past : history.Until now) {k : κ} (live : (history.sweep now).Live expired k) :
    history.Live expired k := by
  obtain ⟨t, last, holds⟩ := (live_sweep_iff history now k).mp live
  refine ⟨t, last, fun u swept ended => holds ?_⟩
  exact expiry.later t u now (past.swept u swept) ended

end History

end Lease
