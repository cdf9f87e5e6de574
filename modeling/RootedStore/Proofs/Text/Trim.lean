import Mathlib.Data.List.DropRight
import RootedStore.Text.Blank

/-!
# Trimmed texts

Trimming takes what satisfies a predicate from both ends, and leaves a text alone that has nothing of that kind
there. What lies behind an element that is not taken is trimmed as if nothing were before it.
-/
namespace RootedStore.Text

/-- Nothing at either end satisfies `p`. -/
structure IsTrimmed {α : Type} (p : α → Bool) (s : List α) : Prop where
  head : ∀ a, s.head? = some a → p a = false
  last : ∀ a, s.getLast? = some a → p a = false

variable {α : Type} {p : α → Bool} {s : List α}

theorem trimBoth_eq (p : α → Bool) (s : List α) : trimBoth p s = (s.dropWhile p).rdropWhile p := rfl

theorem rdropWhile_eq_self_iff_getLast? : s.rdropWhile p = s ↔ ∀ a, s.getLast? = some a → p a = false := by
  rw [List.rdropWhile_eq_self_iff]
  constructor
  · intro h a ha
    have hne : s ≠ [] := by
      rintro rfl
      cases ha
    rw [List.getLast?_eq_some_getLast hne] at ha
    rw [← Option.some.inj ha]
    simpa using h hne
  · intro h hne
    simpa using h _ (List.getLast?_eq_some_getLast hne)

theorem dropWhile_eq_self_of_head? (h : ∀ a, s.head? = some a → p a = false) : s.dropWhile p = s := by
  cases s with
  | nil => rfl
  | cons a s => exact List.dropWhile_cons_of_neg (by simp [h a rfl])

/-- Nothing is taken from a text that is trimmed. -/
theorem trimBoth_eq_self (h : IsTrimmed p s) : trimBoth p s = s := by
  rw [trimBoth_eq, dropWhile_eq_self_of_head? h.head, rdropWhile_eq_self_iff_getLast?.mpr h.last]

/-- What is trimmed has nothing at its ends that could be taken. -/
theorem isTrimmed_trimBoth (p : α → Bool) (s : List α) : IsTrimmed p (trimBoth p s) := by
  rw [trimBoth_eq]
  constructor
  · intro a ha
    have hhead : (s.dropWhile p).head? = some a := by
      obtain ⟨taken, htaken⟩ := List.rdropWhile_prefix p (s.dropWhile p)
      rw [← htaken, List.head?_append, ha]
      rfl
    have hnot := List.head?_dropWhile_not p s
    rw [hhead] at hnot
    exact hnot
  · exact rdropWhile_eq_self_iff_getLast?.mp (List.rdropWhile_idempotent p _)

/-- Nothing is left exactly if all of it could be taken. -/
theorem trimBoth_eq_nil_iff : trimBoth p s = [] ↔ ∀ a ∈ s, p a = true := by
  rw [trimBoth_eq, List.rdropWhile_eq_nil_iff]
  constructor
  · intro h
    by_contra hne
    have hdrop : s.dropWhile p ≠ [] := fun he => hne (List.dropWhile_eq_nil_iff.mp he)
    have hnot := List.head?_dropWhile_not p s
    rw [List.head?_eq_some_head hdrop] at hnot
    exact absurd (h _ (List.head_mem hdrop)) (by simp [hnot])
  · intro h a ha
    exact h a ((List.dropWhile_suffix p).subset ha)

/-- What is taken from the end does not reach beyond an element that is not. -/
theorem rdropWhile_append_cons {a : α} (ha : p a = false) (before after : List α) :
    (before ++ a :: after).rdropWhile p = before ++ a :: after.rdropWhile p := by
  induction after using List.reverseRecOn with
  | nil => exact List.rdropWhile_concat_neg p before a (by simp [ha])
  | append_singleton after b ih =>
    have hassoc : before ++ a :: (after ++ [b]) = (before ++ a :: after) ++ [b] := by simp
    rw [hassoc, List.rdropWhile_concat, List.rdropWhile_concat]
    split
    · exact ih
    · simp

theorem trim_eq_self {t : String} (h : IsTrimmed isBlank t.toList) : trim t = t := by
  rw [trim, trimBoth_eq_self h, String.ofList_toList]

theorem isTrimmed_trim (t : String) : IsTrimmed isBlank (trim t).toList := by
  rw [trim, String.toList_ofList]
  exact isTrimmed_trimBoth _ _

/-- A text is blank exactly if nothing is left of it. -/
theorem trim_isEmpty_iff {t : String} : (trim t).isEmpty = true ↔ isAllBlank t = true := by
  rw [trim, String.isEmpty_iff, String.ofList_eq_empty_iff, trimBoth_eq_nil_iff, isAllBlank, List.all_eq_true]

end RootedStore.Text
