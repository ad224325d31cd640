import Mathlib.Data.List.MinMax

/-!
# Collecting the least elements of a list in one pass

The loop keeps the least key seen so far and the elements which have it, in the
order in which they were met. A smaller key discards everything collected before.
`visit_spec` is the loop invariant; `mem_ties_iff` is what a caller needs: starting
with the key of any element of the list, the elements collected at the end are
exactly those with minimal key, wherever they stand and however often they tie.
-/

namespace Least

universe u v

variable {α : Type u} {κ : Type v} [LinearOrder κ]

theorem exists_least (key : α → κ) {xs : List α} (nonempty : xs ≠ []) :
    ∃ x ∈ xs, ∀ y ∈ xs, key x ≤ key y := by
  obtain ⟨x, least⟩ := Option.ne_none_iff_exists'.mp
    (mt (List.argmin_eq_none (f := key)).mp nonempty)
  exact ⟨x, List.argmin_mem least, fun y member => List.le_of_mem_argmin member least⟩

/-- One turn of the loop. -/
def visit (key : α → κ) (best : κ × List α) (x : α) : κ × List α :=
  if key x < best.1 then (key x, [x])
  else if key x = best.1 then (best.1, best.2 ++ [x])
  else best

/-- What the loop has found after the elements `xs`, from a bound and the elements
collected for it. -/
structure Scanned (key : α → κ) (bound : κ) (ties xs : List α) (best : κ × List α) :
    Prop where
  le_bound : best.1 ≤ bound
  le_key : ∀ x ∈ xs, best.1 ≤ key x
  attained : best.1 = bound ∨ ∃ x ∈ xs, key x = best.1
  collected : best.2 =
    (if best.1 = bound then ties else []) ++ xs.filter (fun x => key x = best.1)

theorem visit_spec (key : α → κ) (bound : κ) (ties xs : List α) :
    Scanned key bound ties xs (xs.foldl (visit key) (bound, ties)) := by
  induction xs generalizing bound ties with
  | nil => exact ⟨le_refl bound, by simp, .inl rfl, by simp⟩
  | cons x xs ih =>
      rw [List.foldl_cons]
      rcases lt_trichotomy (key x) bound with smaller | equal | larger
      · have turn : visit key (bound, ties) x = (key x, [x]) := by simp [visit, smaller]
        rw [turn]
        obtain ⟨le_key_x, le_key, attained, collected⟩ := ih (key x) [x]
        generalize xs.foldl (visit key) (key x, [x]) = best at le_key_x le_key attained collected ⊢
        have below : best.1 ≠ bound := (lt_of_le_of_lt le_key_x smaller).ne
        refine ⟨le_key_x.trans smaller.le, by simpa using ⟨le_key_x, le_key⟩, .inr ?_, ?_⟩
        · rcases attained with first | ⟨y, member, attains⟩
          · exact ⟨x, by simp, first.symm⟩
          · exact ⟨y, by simp [member], attains⟩
        · rw [collected, if_neg below, List.filter_cons]
          by_cases first : best.1 = key x
          · simp [first]
          · simp [first, Ne.symm first]
      · have turn : visit key (bound, ties) x = (bound, ties ++ [x]) := by
          simp [visit, equal]
        rw [turn]
        obtain ⟨le_bound, le_key, attained, collected⟩ := ih bound (ties ++ [x])
        generalize xs.foldl (visit key) (bound, ties ++ [x]) = best
          at le_bound le_key attained collected ⊢
        refine ⟨le_bound, by simpa [equal] using ⟨le_bound, le_key⟩, ?_, ?_⟩
        · exact attained.imp_right fun ⟨y, member, attains⟩ => ⟨y, by simp [member], attains⟩
        · rw [collected, List.filter_cons]
          by_cases kept : best.1 = bound
          · simp [kept, equal]
          · simp [kept, equal, Ne.symm kept]
      · have turn : visit key (bound, ties) x = (bound, ties) := by
          simp [visit, not_lt_of_gt larger, larger.ne']
        rw [turn]
        obtain ⟨le_bound, le_key, attained, collected⟩ := ih bound ties
        generalize xs.foldl (visit key) (bound, ties) = best at le_bound le_key attained collected ⊢
        have above : best.1 < key x := lt_of_le_of_lt le_bound larger
        refine ⟨le_bound, by simpa using ⟨above.le, le_key⟩, ?_, ?_⟩
        · exact attained.imp_right fun ⟨y, member, attains⟩ => ⟨y, by simp [member], attains⟩
        · rw [collected, List.filter_cons]
          simp [above.ne']

/-- Starting from the key of an element of the list, nothing but the elements of
minimal key is collected, and all of them are. -/
theorem mem_ties_iff (key : α → κ) {start : α} {xs : List α} (member : start ∈ xs) (x : α) :
    x ∈ (xs.foldl (visit key) (key start, [])).2 ↔ x ∈ xs ∧ ∀ y ∈ xs, key x ≤ key y := by
  obtain ⟨_, le_key, attained, collected⟩ := visit_spec key (key start) [] xs
  generalize xs.foldl (visit key) (key start, []) = best at le_key attained collected ⊢
  have ties : best.2 = xs.filter (fun x => key x = best.1) := by simpa using collected
  have least : ∃ y ∈ xs, key y = best.1 := by
    rcases attained with first | found
    · exact ⟨start, member, first.symm⟩
    · exact found
  rw [ties, List.mem_filter, decide_eq_true_eq]
  refine and_congr_right fun _ => ⟨?_, ?_⟩
  · intro attains y other
    rw [attains]
    exact le_key y other
  · intro minimal
    obtain ⟨y, other, attains⟩ := least
    exact le_antisymm (attains ▸ minimal y other) (le_key x ‹_›)

/-- Nothing but elements of the list is collected, in its order. -/
theorem ties_sublist (key : α → κ) (bound : κ) (xs : List α) :
    (xs.foldl (visit key) (bound, [])).2.Sublist xs := by
  have collected := (visit_spec key bound [] xs).collected
  simp only [ite_self, List.nil_append] at collected
  rw [collected]
  exact List.filter_sublist

end Least
