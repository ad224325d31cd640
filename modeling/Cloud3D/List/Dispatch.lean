import Mathlib.Data.List.Basic

/-!
# Loops that dispatch on their input

One turn of the loop hands its input to the first branch which takes it; an input that no
branch takes leaves the state as it is. A branch may fail, and the loop then fails. Where
no input is taken by two branches, the loop succeeds exactly when every branch accepts
all inputs which it takes, and a part of the state that a single branch writes is in the
end what this branch made of the last input it took.
-/

namespace Dispatch

universe u v w x

variable {ε : Type u} {σ : Type v} {ι : Type w}

/-- What a bind can do: it returns normally when both of its parts do. -/
theorem bind_eq_ok_iff {α : Type v} {β : Type v} {first : Except ε α} {next : α → Except ε β}
    {b : β} : (first >>= next) = .ok b ↔ ∃ a, first = .ok a ∧ next a = .ok b := by
  cases first with
  | error e => simp [bind, Except.bind]
  | ok a => simp [bind, Except.bind]

structure Branch (ε : Type u) (σ : Type v) (ι : Type w) where
  takes : ι → Bool
  store : ι → σ → Except ε σ

/-- One turn: a chain of `else if`. -/
def turn : List (Branch ε σ ι) → σ → ι → Except ε σ
  | [], s, _ => .ok s
  | branch :: branches, s, i =>
      if branch.takes i then branch.store i s else turn branches s i

/-- No input is taken by two branches. -/
def Exclusive (branches : List (Branch ε σ ι)) : Prop :=
  branches.Pairwise fun branch other => ∀ i, branch.takes i = true → other.takes i = false

theorem turn_of_forall_not {branches : List (Branch ε σ ι)} {i : ι}
    (none_takes : ∀ branch ∈ branches, branch.takes i = false) (s : σ) :
    turn branches s i = .ok s := by
  induction branches with
  | nil => rfl
  | cons branch branches ih =>
      obtain ⟨here, later⟩ := List.forall_mem_cons.mp none_takes
      rw [turn, here]
      exact ih later

theorem turn_of_takes {branches : List (Branch ε σ ι)} (exclusive : Exclusive branches)
    {branch : Branch ε σ ι} (member : branch ∈ branches) {i : ι} (takes : branch.takes i = true)
    (s : σ) : turn branches s i = branch.store i s := by
  induction branches with
  | nil => exact absurd member List.not_mem_nil
  | cons first branches ih =>
      obtain ⟨apart, rest⟩ := List.pairwise_cons.mp exclusive
      rcases List.mem_cons.mp member with rfl | later
      · rw [turn, if_pos takes]
      · have skipped : first.takes i = false := by
          cases taken : first.takes i with
          | false => rfl
          | true => exact absurd takes (by simp [apart branch later i taken])
        rw [turn, skipped]
        exact ih rest later

/-- Two chains in a row are one chain, if no input is taken by both. -/
theorem turn_append {front back : List (Branch ε σ ι)} (exclusive : Exclusive (front ++ back))
    (s : σ) (i : ι) : turn (front ++ back) s i = (turn front s i).bind fun s => turn back s i := by
  obtain ⟨within, _, across⟩ := List.pairwise_append.mp exclusive
  by_cases skipped : ∀ branch ∈ front, branch.takes i = false
  · rw [turn_of_forall_not skipped]
    clear exclusive within across
    induction front with
    | nil => rfl
    | cons branch front ih =>
        obtain ⟨here, later⟩ := List.forall_mem_cons.mp skipped
        rw [List.cons_append, turn, here]
        exact ih later
  · obtain ⟨branch, member, takes⟩ : ∃ branch ∈ front, branch.takes i = true := by
      simpa using skipped
    have beyond : ∀ other ∈ back, other.takes i = false :=
      fun other later => across branch member other later i takes
    rw [turn_of_takes exclusive (List.mem_append_left _ member) takes,
      turn_of_takes within member takes]
    cases branch.store i s with
    | error e => rfl
    | ok next => exact (turn_of_forall_not beyond next).symm

/-! ### When the loop succeeds -/

@[simp] theorem isOk_ok {α : Type v} (a : α) : (Except.ok a : Except ε α).isOk = true := rfl

/-- A turn succeeds when the branch that takes the input does, whatever the state is. -/
theorem turn_isOk_iff {branches : List (Branch ε σ ι)} (exclusive : Exclusive branches)
    (s : σ) (i : ι) :
    (turn branches s i).isOk ↔
      ∀ branch ∈ branches, branch.takes i = true → (branch.store i s).isOk := by
  by_cases skipped : ∀ branch ∈ branches, branch.takes i = false
  · rw [turn_of_forall_not skipped]
    refine iff_of_true rfl fun branch member takes => ?_
    rw [skipped branch member] at takes
    cases takes
  · obtain ⟨branch, member, takes⟩ : ∃ branch ∈ branches, branch.takes i = true := by
      simpa using skipped
    constructor
    · intro succeeds other inside taken
      rwa [turn_of_takes exclusive inside taken] at succeeds
    · intro succeeds
      rw [turn_of_takes exclusive member takes]
      exact succeeds branch member takes

theorem foldlM_isOk_iff {step : σ → ι → Except ε σ} {good : ι → Prop}
    (steps : ∀ s i, (step s i).isOk ↔ good i) (s : σ) (inputs : List ι) :
    (inputs.foldlM step s).isOk ↔ ∀ i ∈ inputs, good i := by
  induction inputs generalizing s with
  | nil => exact iff_of_true rfl (by simp)
  | cons i inputs ih =>
      rw [List.foldlM_cons, List.forall_mem_cons, ← steps s i]
      cases step s i with
      | error e => simp [bind, Except.bind, Except.isOk, Except.toBool]
      | ok next =>
          rw [← ih next]
          exact (and_iff_right rfl).symm

/-! ### What the loop leaves behind -/

variable {β : Type x}

/-- The value of the last input taken, or the initial one if none is. -/
def LastWins (takes : ι → Bool) (value : ι → Except ε β) (inputs : List ι)
    (initial final : β) : Prop :=
  match (inputs.filter takes).getLast? with
  | none => final = initial
  | some i => value i = .ok final

theorem LastWins.unique {takes : ι → Bool} {value : ι → Except ε β} {inputs : List ι}
    {initial final final' : β} (wins : LastWins takes value inputs initial final)
    (wins' : LastWins takes value inputs initial final') : final = final' := by
  rw [LastWins] at wins wins'
  cases last : (inputs.filter takes).getLast? with
  | none =>
      rw [last] at wins wins'
      exact wins.trans wins'.symm
  | some i =>
      rw [last] at wins wins'
      exact Except.ok.inj (wins.symm.trans wins')

/-- A part of the state which inputs set when they are taken, and keep otherwise. -/
theorem lastWins_of_foldlM {step : σ → ι → Except ε σ} {takes : ι → Bool}
    {value : ι → Except ε β} {get : σ → β}
    (sets : ∀ s i next, takes i = true → step s i = .ok next → value i = .ok (get next))
    (keeps : ∀ s i next, takes i = false → step s i = .ok next → get next = get s)
    {s final : σ} {inputs : List ι} (ran : inputs.foldlM step s = .ok final) :
    LastWins takes value inputs (get s) (get final) := by
  induction inputs generalizing s with
  | nil =>
      obtain rfl : s = final := Except.ok.inj ran
      rfl
  | cons i inputs ih =>
      rw [List.foldlM_cons] at ran
      cases turned : step s i with
      | error e =>
          rw [turned] at ran
          cases ran
      | ok next =>
          rw [turned] at ran
          have later := ih ran
          rw [LastWins] at later ⊢
          cases taken : takes i with
          | false => rwa [List.filter_cons_of_neg (by simp [taken]), ← keeps s i next taken turned]
          | true =>
              rw [List.filter_cons_of_pos taken, List.getLast?_cons]
              cases last : (inputs.filter takes).getLast? with
              | none =>
                  rw [last] at later
                  rw [Option.getD_none, later]
                  exact sets s i next taken turned
              | some j =>
                  rw [last] at later
                  exact later

end Dispatch
