import Mathlib.Data.List.Induction
import RootedStore.Proofs.Path.Child

/-!
# Evaluating paths

A path is evaluated component by component, and what is left of the components is told here by rules for
one more component at the end. The rules leave exactly one list of names, which normalising spells. A path
may be normalised in part first: what is joined to a directory is evaluated on top of what the directory
leaves, and several joins one after the other are a single one.
-/
namespace RootedStore.Path

/-- What components leave, read from the first to the last. -/
inductive Leaves : List (List Char) → List (List Char) → Prop where
  | nothing : Leaves [] []
  | skips {ws vs : List (List Char)} {w : List Char} (before : Leaves ws vs) (skipped : w = [] ∨ w = ['.']) :
      Leaves (ws ++ [w]) vs
  | drops {ws vs : List (List Char)} {v : List Char} (before : Leaves ws (vs ++ [v])) :
      Leaves (ws ++ [['.', '.']]) vs
  | stays {ws : List (List Char)} (before : Leaves ws []) : Leaves (ws ++ [['.', '.']]) []
  | keeps {ws vs : List (List Char)} {w : List Char} (before : Leaves ws vs)
      (kept : w ≠ [] ∧ w ≠ ['.'] ∧ w ≠ ['.', '.']) : Leaves (ws ++ [w]) (vs ++ [w])

theorem resolve_concat (ws : List (List Char)) (w : List Char) :
    resolve (ws ++ [w]) = (push (resolve ws).reverse w).reverse := by
  simp [resolve]

theorem resolve_concat_skipped (ws : List (List Char)) {w : List Char} (h : w = [] ∨ w = here) :
    resolve (ws ++ [w]) = resolve ws := by
  simp [resolve_concat, push, h]

theorem resolve_concat_above (ws : List (List Char)) : resolve (ws ++ [above]) = (resolve ws).dropLast := by
  simp [resolve_concat, push, above, here]

theorem resolve_concat_kept (ws : List (List Char)) {w : List Char} (h : w ≠ [] ∧ w ≠ here ∧ w ≠ above) :
    resolve (ws ++ [w]) = resolve ws ++ [w] := by
  simp [resolve_concat, push, h]

theorem leaves_resolve (ws : List (List Char)) : Leaves ws (resolve ws) := by
  induction ws using List.reverseRecOn with
  | nil => exact .nothing
  | append_singleton ws w ih =>
    by_cases hskip : w = [] ∨ w = here
    · rw [resolve_concat_skipped ws hskip]
      exact .skips ih hskip
    · have ⟨hnil, hhere⟩ := not_or.mp hskip
      by_cases habove : w = above
      · rw [habove, resolve_concat_above]
        rcases List.eq_nil_or_concat (resolve ws) with hr | ⟨vs, v, hr⟩
        · rw [hr] at ih ⊢
          exact .stays ih
        · rw [hr, List.concat_eq_append] at ih
          rw [hr, List.concat_eq_append, List.dropLast_concat]
          exact .drops ih
      · rw [resolve_concat_kept ws ⟨hnil, hhere, habove⟩]
        exact .keeps ih ⟨hnil, hhere, habove⟩

/-- The rules leave nothing else than the stack does. -/
theorem leaves_iff {ws vs : List (List Char)} : Leaves ws vs ↔ vs = resolve ws := by
  constructor
  · intro h
    induction h with
    | nothing => rfl
    | skips _ skipped ih => rw [resolve_concat_skipped _ skipped, ih]
    | drops _ ih =>
      refine Eq.trans ?_ (resolve_concat_above _).symm
      rw [← ih, List.dropLast_concat]
    | stays _ ih =>
      refine Eq.trans ?_ (resolve_concat_above _).symm
      rw [← ih, List.dropLast_nil]
    | keeps _ kept ih => rw [resolve_concat_kept _ kept, ih]
  · rintro rfl
    exact leaves_resolve ws

theorem pieces_eq_splitOnP (sep : Char → Bool) (s : List Char) : pieces sep s = s.splitOnP sep := by
  induction s with
  | nil => rfl
  | cons c s ih =>
    rw [pieces, List.splitOnP_cons_eq_if_modifyHead, ih]
    cases hs : s.splitOnP sep with
    | nil => exact absurd (ih.trans hs) (pieces_ne_nil s)
    | cons w ws => rfl

/-- Names with slashes between them, behind another slash. -/
theorem render_eq_intercalate (ws : List (List Char)) : render ws = '/' :: ['/'].intercalate ws := by
  have hspell : ∀ (w : List Char) (vs : List (List Char)), spell (w :: vs) = '/' :: ['/'].intercalate (w :: vs) := by
    intro w vs
    induction vs generalizing w with
    | nil => simp
    | cons v vs ih => simp [spell_cons w, ih v]
  cases ws with
  | nil => rfl
  | cons w ws => exact hspell w ws

theorem join_eq (dir name : String) :
    join dir name = ofNames ((components name).foldl push (names dir).reverse).reverse := by
  rw [← names_join, ← normalize_eq, normalize_join]

/-- Only what a directory leaves counts for what is joined to it. -/
theorem join_normalize (dir name : String) : join (normalize dir) name = join dir name := by
  rw [join_eq, names_normalize, ← join_eq]

theorem join_join (a b c : String) : join (join a b) c = join a (b ++ "/" ++ c) := by
  rw [join_eq (join a b), names_join, List.reverse_reverse, join_eq, components_append, List.foldl_append]

/-- Every path is evaluated to exactly one list of names, and its canonical path is these names with slashes
between them behind a slash. That is canonical, so it stays as it is when it is normalised again. The part of a
path in front of a slash can be normalised first, and so can the directory of a join; two joins are one. -/
theorem normalize_evaluates (path : String) :
    (∃ ws, (∀ vs, Leaves (path.toList.splitOnP fun c => c = '/' || c = '\\') vs ↔ vs = ws) ∧
      (normalize path).toList = '/' :: ['/'].intercalate ws) ∧
    IsCanonical (normalize path) ∧
    normalize (normalize path) = normalize path ∧
    (∀ rest, normalize (path ++ "/" ++ rest) = normalize (normalize path ++ "/" ++ rest)) ∧
    (∀ name, join (normalize path) name = join path name) ∧
    ∀ b c, join (join path b) c = join path (b ++ "/" ++ c) := by
  refine ⟨⟨names path, ?_, ?_⟩, isCanonical_iff.mpr (normalize_normalize path), normalize_normalize path, ?_,
    join_normalize path, join_join path⟩
  · intro vs
    have hcomponents : components path = path.toList.splitOnP fun c => c = '/' || c = '\\' :=
      pieces_eq_splitOnP _ _
    rw [← hcomponents, leaves_iff]
    rfl
  · rw [normalize_eq, toList_ofNames, render_eq_intercalate]
  · intro rest
    exact (join_normalize path rest).symm

end RootedStore.Path
