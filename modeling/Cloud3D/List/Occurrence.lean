import Mathlib.Data.Fintype.EquivFin
import Mathlib.Data.List.Dedup
import Mathlib.Data.List.Perm.Subperm

/-!
# Counting the entries of one list which occur in another

Counting the entries of `xs` which occur in `ys` is a cheap subset test when both
lists are free of repetitions. In general the count is off by the repetitions on
either side: `surplus xs ys` entries of `xs` are counted again, `repeats ys` entries
of `ys` have no second partner, and `missing xs ys` have none at all. The test
"count equals length" therefore says exactly that these three balance, and
`nodup_iff_sound` says for which lists it never accepts too much.
-/

namespace Occurrence

universe u

variable {α : Type u} [DecidableEq α]

/-- How many entries of a list are repetitions of an earlier one. -/
def repeats (xs : List α) : Nat := xs.length - xs.dedup.length

/-- How many different entries of `ys` do not occur in `xs`. -/
def missing (xs ys : List α) : Nat := (ys.dedup.filter (fun y => y ∉ xs)).length

/-- How many entries of `xs` repeat an earlier entry and occur in `ys`. -/
def surplus (xs ys : List α) : Nat := repeats (xs.filter (fun x => x ∈ ys))

theorem length_dedup_add_repeats (xs : List α) : xs.dedup.length + repeats xs = xs.length := by
  have shorter : xs.dedup.length ≤ xs.length := (List.dedup_sublist xs).length_le
  simp only [repeats]
  omega

@[simp] theorem repeats_eq_zero_iff (xs : List α) : repeats xs = 0 ↔ xs.Nodup := by
  have total := length_dedup_add_repeats xs
  constructor
  · intro none
    have same : xs.dedup = xs := (List.dedup_sublist xs).eq_of_length (by omega)
    rw [← same]
    exact List.nodup_dedup xs
  · intro distinct
    rw [List.dedup_eq_self.mpr distinct] at total
    omega

@[simp] theorem missing_eq_zero_iff (xs ys : List α) : missing xs ys = 0 ↔ ys ⊆ xs := by
  simp only [missing, List.length_eq_zero_iff, List.filter_eq_nil_iff, List.mem_dedup,
    decide_eq_true_eq, not_not]
  rfl

theorem surplus_eq_zero {xs : List α} (distinct : xs.Nodup) (ys : List α) :
    surplus xs ys = 0 :=
  (repeats_eq_zero_iff _).mpr (distinct.filter _)

/-- The entries counted at least once are the different entries of `ys` which are
not missing from `xs`. -/
theorem length_dedup_filter_add_missing (xs ys : List α) :
    (xs.filter (fun x => x ∈ ys)).dedup.length + missing xs ys = ys.dedup.length := by
  have found : (xs.filter (fun x => x ∈ ys)).dedup.Perm (ys.dedup.filter (fun y => y ∈ xs)) := by
    rw [List.perm_ext_iff_of_nodup (List.nodup_dedup _) ((List.nodup_dedup _).filter _)]
    intro x
    simp [and_comm]
  have split := List.length_eq_length_filter_add (l := ys.dedup) (fun y => decide (y ∈ xs))
  rw [found.length_eq, split, missing]
  simp

/-- The count, corrected by the repetitions on both sides. -/
theorem countP_mem_add (xs ys : List α) :
    xs.countP (fun x => x ∈ ys) + missing xs ys + repeats ys = ys.length + surplus xs ys := by
  have counted := length_dedup_add_repeats (xs.filter (fun x => x ∈ ys))
  have partners := length_dedup_filter_add_missing xs ys
  have total := length_dedup_add_repeats ys
  rw [List.countP_eq_length_filter]
  simp only [surplus] at *
  omega

theorem countP_mem_eq_length_iff (xs ys : List α) :
    xs.countP (fun x => x ∈ ys) = ys.length ↔ surplus xs ys = repeats ys + missing xs ys := by
  have balance := countP_mem_add xs ys
  omega

/-- Against a list without repetitions the test is sound: it accepts only sublists
without repetitions. -/
theorem nodup_and_subset_of_countP {xs ys : List α} (distinct : xs.Nodup)
    (accepted : xs.countP (fun x => x ∈ ys) = ys.length) : ys.Nodup ∧ ys ⊆ xs := by
  rw [countP_mem_eq_length_iff, surplus_eq_zero distinct] at accepted
  constructor
  · exact (repeats_eq_zero_iff ys).mp (by omega)
  · exact (missing_eq_zero_iff xs ys).mp (by omega)

/-- The lists against which the test is sound are those without repetitions: against any
other one it accepts the different entries of the list, filled up with a foreign one. -/
theorem nodup_iff_sound [Infinite α] (xs : List α) :
    xs.Nodup ↔ ∀ ys : List α, xs.countP (fun x => x ∈ ys) = ys.length → ys ⊆ xs := by
  constructor
  · exact fun distinct ys accepted => (nodup_and_subset_of_countP distinct accepted).2
  · intro sound
    by_contra repeated
    obtain ⟨foreign, outside⟩ := Infinite.exists_notMem_finset xs.toFinset
    have again : repeats xs ≠ 0 := fun none => repeated ((repeats_eq_zero_iff xs).mp none)
    have counted : xs.countP (fun x => x ∈ xs.dedup ++ List.replicate (repeats xs) foreign) =
        xs.length := by
      rw [List.countP_eq_length]
      intro x member
      simp [member]
    have accepted := sound (xs.dedup ++ List.replicate (repeats xs) foreign) (by
      rw [counted, List.length_append, List.length_replicate, length_dedup_add_repeats])
    have inside : foreign ∈ xs := accepted (by simp [again])
    exact outside (List.mem_toFinset.mpr inside)

end Occurrence
