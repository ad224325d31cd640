import Mathlib.Data.List.Range
import Mathlib.Data.List.Nodup
import Mathlib.Data.List.Perm.Subperm

/-!
# Numbering the entries of a list of blocks

`number start blocks` replaces the entries of all blocks, in order, by consecutive
numbers from `start` on, and keeps the block structure. The entries of one block
then form an interval, different blocks have disjoint intervals, and the numbering
depends on the lengths of the blocks alone.

`entry blocks i j` reads the `j`-th entry of the `i`-th block. A list of blocks reads
a different value at every position exactly when its concatenation is free of
repetitions.
-/

namespace Blocks

universe u

variable {α : Type u}

/-- Consecutive numbers for the entries of all blocks. -/
def number (start : Nat) : List (List α) → List (List Nat)
  | [] => []
  | block :: blocks => List.range' start block.length :: number (start + block.length) blocks

@[simp] theorem number_nil (start : Nat) : number start ([] : List (List α)) = [] := rfl

@[simp] theorem number_cons (start : Nat) (block : List α) (blocks : List (List α)) :
    number start (block :: blocks) =
      List.range' start block.length :: number (start + block.length) blocks := rfl

theorem flatten_number (start : Nat) (blocks : List (List α)) :
    (number start blocks).flatten = List.range' start blocks.flatten.length := by
  induction blocks generalizing start with
  | nil => rfl
  | cons block blocks ih =>
      rw [number_cons, List.flatten_cons, ih, List.flatten_cons, List.length_append,
        List.range'_append_1]

/-- Numbering keeps the shape: the same number of blocks, of the same lengths. -/
theorem map_length_number (start : Nat) (blocks : List (List α)) :
    (number start blocks).map List.length = blocks.map List.length := by
  induction blocks generalizing start with
  | nil => rfl
  | cons block blocks ih => simp [ih]

/-- The numbers depend on the lengths of the blocks alone. -/
theorem number_congr {β : Type u} {xs : List (List α)} {ys : List (List β)}
    (shape : xs.map List.length = ys.map List.length) (start : Nat) :
    number start xs = number start ys := by
  induction xs generalizing ys start with
  | nil =>
      obtain rfl : ys = [] := by simpa using shape.symm
      rfl
  | cons x xs ih =>
      obtain ⟨y, ys, rfl⟩ : ∃ y zs, ys = y :: zs :=
        List.exists_cons_of_ne_nil fun none => by simp [none] at shape
      obtain ⟨same, rest⟩ : x.length = y.length ∧ xs.map List.length = ys.map List.length := by
        simpa using shape
      rw [number_cons, number_cons, same, ih rest]

theorem nodup_flatten_number (start : Nat) (blocks : List (List α)) :
    (number start blocks).flatten.Nodup := by
  rw [flatten_number]
  exact List.nodup_range'

/-- The entry at a position, if the position exists. -/
def entry (blocks : List (List α)) (i j : Nat) : Option α :=
  blocks[i]?.bind fun block => block[j]?

@[simp] theorem entry_cons_zero (block : List α) (blocks : List (List α)) (j : Nat) :
    entry (block :: blocks) 0 j = block[j]? := by
  simp [entry]

@[simp] theorem entry_cons_succ (block : List α) (blocks : List (List α)) (i j : Nat) :
    entry (block :: blocks) (i + 1) j = entry blocks i j := by
  simp [entry]

theorem mem_flatten_of_entry {blocks : List (List α)} {i j : Nat} {x : α}
    (read : entry blocks i j = some x) : x ∈ blocks.flatten := by
  obtain ⟨block, found, inside⟩ := Option.bind_eq_some_iff.mp read
  exact List.mem_flatten.mpr
    ⟨block, List.mem_of_getElem? found, List.mem_of_getElem? inside⟩

theorem exists_entry_of_mem_flatten {blocks : List (List α)} {x : α}
    (member : x ∈ blocks.flatten) : ∃ i j, entry blocks i j = some x := by
  obtain ⟨block, found, inside⟩ := List.mem_flatten.mp member
  obtain ⟨i, at_i⟩ := List.mem_iff_getElem?.mp found
  obtain ⟨j, at_j⟩ := List.mem_iff_getElem?.mp inside
  exact ⟨i, j, by simp [entry, at_i, at_j]⟩

/-- Which positions exist depends on the lengths of the blocks alone. -/
theorem entry_isSome_congr {β : Type u} {xs : List (List α)} {ys : List (List β)}
    (shape : xs.map List.length = ys.map List.length) (i j : Nat) :
    (entry xs i j).isSome = (entry ys i j).isSome := by
  induction xs generalizing ys i with
  | nil =>
      obtain rfl : ys = [] := by simpa using shape.symm
      rfl
  | cons x xs ih =>
      obtain ⟨y, ys, rfl⟩ : ∃ y zs, ys = y :: zs :=
        List.exists_cons_of_ne_nil fun none => by simp [none] at shape
      obtain ⟨same, rest⟩ : x.length = y.length ∧ xs.map List.length = ys.map List.length := by
        simpa using shape
      cases i with
      | zero =>
          rw [entry_cons_zero, entry_cons_zero]
          by_cases bound : j < y.length
          · simp [bound, same]
          · simp [Nat.le_of_not_lt bound, same]
      | succ i => simpa using ih rest i

/-- No value is read at two positions exactly when the concatenation repeats none. -/
theorem nodup_flatten_iff (blocks : List (List α)) :
    blocks.flatten.Nodup ↔ ∀ i j k l x, entry blocks i j = some x →
      entry blocks k l = some x → i = k ∧ j = l := by
  induction blocks with
  | nil => simp [entry]
  | cons block blocks ih =>
      rw [List.flatten_cons, List.nodup_append', ih]
      constructor
      · rintro ⟨inside, later, apart⟩ i j k l x first second
        cases i with
        | zero =>
            rw [entry_cons_zero] at first
            cases k with
            | zero =>
                rw [entry_cons_zero] at second
                have bound := (List.getElem?_eq_some_iff.mp first).1
                exact ⟨rfl, (List.getElem?_inj bound inside).mp (first.trans second.symm)⟩
            | succ k =>
                rw [entry_cons_succ] at second
                exact absurd (mem_flatten_of_entry second)
                  (apart (List.mem_of_getElem? first))
        | succ i =>
            rw [entry_cons_succ] at first
            cases k with
            | zero =>
                rw [entry_cons_zero] at second
                exact absurd (mem_flatten_of_entry first)
                  (apart (List.mem_of_getElem? second))
            | succ k =>
                rw [entry_cons_succ] at second
                obtain ⟨rfl, rfl⟩ := later i j k l x first second
                exact ⟨rfl, rfl⟩
      · intro injective
        refine ⟨?_, ?_, ?_⟩
        · apply List.nodup_iff_injective_getElem.mpr
          intro ⟨j, hj⟩ ⟨l, hl⟩ same
          have read := injective 0 j 0 l block[j] (by simp [hj])
            (by simpa [hl] using same.symm)
          exact Fin.ext read.2
        · intro i j k l x first second
          have same := injective (i + 1) j (k + 1) l x (by simpa using first)
            (by simpa using second)
          exact ⟨Nat.succ.inj same.1, same.2⟩
        · intro x here there
          obtain ⟨j, first⟩ := List.mem_iff_getElem?.mp here
          obtain ⟨k, l, second⟩ := exists_entry_of_mem_flatten there
          have same := injective 0 j (k + 1) l x (by simpa using first) (by simpa using second)
          exact absurd same.1 (by simp)

/-- A list of `n` different numbers below `n` contains each of them once. -/
theorem nodup_and_length_iff_count {xs : List Nat} {n : Nat} (below : ∀ x ∈ xs, x < n) :
    xs.Nodup ∧ xs.length = n ↔ ∀ x < n, xs.count x = 1 := by
  constructor
  · rintro ⟨distinct, full⟩
    have subset : xs ⊆ List.range n := fun x member => List.mem_range.mpr (below x member)
    have same : xs.Perm (List.range n) :=
      (distinct.subperm subset).perm_of_length_le (by simp [full])
    intro x bound
    exact List.count_eq_one_of_mem distinct (same.mem_iff.mpr (List.mem_range.mpr bound))
  · intro once
    have same : xs.Perm (List.range n) := by
      rw [List.perm_iff_count]
      intro x
      by_cases bound : x < n
      · rw [once x bound, List.count_eq_one_of_mem List.nodup_range (List.mem_range.mpr bound)]
      · rw [List.count_eq_zero_of_not_mem fun member => bound (below x member),
          List.count_eq_zero_of_not_mem fun member => bound (List.mem_range.mp member)]
    exact ⟨same.nodup_iff.mpr List.nodup_range, by simpa using same.length_eq⟩

end Blocks
