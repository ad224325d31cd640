import Cloud3D.List.Blocks

/-!
# Reading a table by index

`row table indices` reads the entries of a table in the order of the indices, and
`read table rows` does so for several rows. Reading succeeds exactly when every index is
inside the table, keeps the shape of the rows, and commutes with a change of the entries.
A table which is the concatenation of its rows is read by numbering them.
-/

namespace Table

universe u v

variable {α : Type u} {β : Type v}

/-- A traversal succeeds exactly when every element does. -/
theorem mapM_isSome_iff (f : α → Option β) (xs : List α) :
    (xs.mapM f).isSome ↔ ∀ x ∈ xs, (f x).isSome := by
  induction xs with
  | nil => simp
  | cons x xs ih =>
      rw [List.mapM_cons, List.forall_mem_cons, ← ih]
      cases f x with
      | none => simp
      | some y => cases xs.mapM f <;> simp

/-- A traversal that succeeds has one result for each element, in order. -/
theorem mapM_eq_some_iff (f : α → Option β) (xs : List α) (ys : List β) :
    xs.mapM f = some ys ↔ xs.map f = ys.map some := by
  induction xs generalizing ys with
  | nil => cases ys <;> simp
  | cons x xs ih =>
      simp only [List.mapM_cons, Option.bind_eq_bind, Option.bind_eq_some_iff, Option.pure_def,
        Option.some.injEq, ih]
      cases ys with
      | nil => simp
      | cons y ys =>
          rw [List.map_cons, List.map_cons, List.cons.injEq]
          constructor
          · rintro ⟨y', here, ys', later, same⟩
            obtain ⟨rfl, rfl⟩ := List.cons.inj same
            exact ⟨here, later⟩
          · rintro ⟨here, later⟩
            exact ⟨y, here, ys, later, rfl⟩

/-- The entries with the given indices. -/
def row (table : List α) (indices : List Nat) : Option (List α) :=
  indices.mapM fun index => table[index]?

/-- The rows with the given indices. -/
def read (table : List α) (rows : List (List Nat)) : Option (List (List α)) :=
  rows.mapM (row table)

theorem row_isSome_iff (table : List α) (indices : List Nat) :
    (row table indices).isSome ↔ ∀ index ∈ indices, index < table.length := by
  simp [row, mapM_isSome_iff]

theorem read_isSome_iff (table : List α) (rows : List (List Nat)) :
    (read table rows).isSome ↔ ∀ row ∈ rows, ∀ index ∈ row, index < table.length := by
  simp only [read, mapM_isSome_iff, row_isSome_iff]

theorem length_of_row {table : List α} {indices : List Nat} {entries : List α}
    (found : row table indices = some entries) : entries.length = indices.length := by
  have same := congrArg List.length ((mapM_eq_some_iff _ _ _).mp found)
  simpa using same.symm

theorem shape_of_read {table : List α} {rows : List (List Nat)} {blocks : List (List α)}
    (found : read table rows = some blocks) :
    blocks.map List.length = rows.map List.length := by
  induction rows generalizing blocks with
  | nil =>
      obtain rfl : blocks = [] := by simpa [read] using found.symm
      rfl
  | cons indices rows ih =>
      simp only [read, List.mapM_cons, Option.bind_eq_bind, Option.bind_eq_some_iff,
        Option.pure_def, Option.some.injEq] at found
      obtain ⟨entries, here, rest, later, rfl⟩ := found
      rw [List.map_cons, List.map_cons, length_of_row here, ih later]

theorem row_map (f : α → β) (table : List α) (indices : List Nat) :
    row (table.map f) indices = (row table indices).map (List.map f) := by
  induction indices with
  | nil => rfl
  | cons index indices ih =>
      simp only [row, List.mapM_cons, List.getElem?_map] at ih ⊢
      rw [ih]
      cases table[index]? with
      | none => rfl
      | some entry => cases indices.mapM fun index => table[index]? <;> rfl

theorem read_map (f : α → β) (table : List α) (rows : List (List Nat)) :
    read (table.map f) rows = (read table rows).map (List.map (List.map f)) := by
  induction rows with
  | nil => rfl
  | cons indices rows ih =>
      simp only [read, List.mapM_cons, row_map] at ih ⊢
      rw [ih]
      cases row table indices with
      | none => rfl
      | some entries => cases rows.mapM (row table) <;> rfl

/-- Consecutive indices read the entries which stand there. -/
theorem row_range' (front block back : List α) :
    row (front ++ block ++ back) (List.range' front.length block.length) = some block := by
  apply (mapM_eq_some_iff _ _ _).mpr
  apply List.ext_getElem
  · simp
  · intro i bound _
    have inside : i < block.length := by simpa using bound
    simp [List.getElem_range', List.getElem?_append, inside]

/-- The concatenation of blocks is read, block by block, by numbering them. -/
theorem read_number (front : List α) (blocks : List (List α)) :
    read (front ++ blocks.flatten) (Blocks.number front.length blocks) = some blocks := by
  induction blocks generalizing front with
  | nil => rfl
  | cons block blocks ih =>
      have here := row_range' front block blocks.flatten
      have later := ih (front ++ block)
      rw [List.length_append, read] at later
      rw [read, Blocks.number_cons, List.flatten_cons, ← List.append_assoc, List.mapM_cons, here,
        later]
      rfl

end Table
