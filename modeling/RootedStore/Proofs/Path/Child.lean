import RootedStore.Proofs.Path.Order

/-!
# Directories and the names in them

A canonical path other than the root falls apart into its parent and its base name, and joining these gives the path
back. The other way round, what is joined to a directory has that directory as its parent and that name as its base
name if the name is a single one. The base name of a canonical path is always a single name.
-/
namespace RootedStore.Path

theorem IsName.components_eq {name : String} (h : IsName name.toList) : components name = [name.toList] :=
  pieces_unbroken h.unbroken

theorem IsName.push_eq {w : List Char} (h : IsName w) (stack : List (List Char)) : push stack w = w :: stack := by
  rw [push, if_neg (not_or.mpr ⟨h.ne_nil, h.ne_here⟩), if_neg h.ne_above]

theorem names_join (dir name : String) :
    names (join dir name) = ((components name).foldl push (names dir).reverse).reverse := by
  rw [join, names_normalize, names, components_append, resolve_append]
  rfl

@[simp] theorem normalize_join (dir name : String) : normalize (join dir name) = join dir name :=
  normalize_normalize _

/-- A single name is put behind those of the directory. -/
theorem names_join_of_isName (dir : String) {name : String} (h : IsName name.toList) :
    names (join dir name) = names dir ++ [name.toList] := by
  simp [names_join, h.components_eq, h.push_eq]

theorem join_of_isName (dir : String) {name : String} (h : IsName name.toList) :
    join dir name = ofNames (names dir ++ [name.toList]) := by
  rw [← names_join_of_isName dir h, ← normalize_eq, normalize_join]

/-- The base name of a path is its last name. -/
theorem baseName_ofNames_concat {base : List (List Char)} {w : List Char} (h : IsName w) :
    baseName (ofNames (base ++ [w])) = String.ofList w := by
  obtain ⟨c, cs, hc⟩ := List.exists_cons_of_ne_nil (List.reverse_ne_nil_iff.mpr h.ne_nil)
  have hslash : ∀ d ∈ w.reverse, d ≠ '/' := by
    rintro d hd rfl
    exact h.slash_not_mem (List.mem_reverse.mp hd)
  have htext : (ofNames (base ++ [w])).toList.reverse = w.reverse ++ '/' :: (spell base).reverse := by
    rw [toList_ofNames, render_of_ne_nil (by simp), spell_append]
    simp
  have hlast : c ≠ '/' := hslash c (hc ▸ List.mem_cons_self)
  have htrim : (w.reverse ++ '/' :: (spell base).reverse).dropWhile (· = '/') =
      w.reverse ++ '/' :: (spell base).reverse := by
    rw [hc, List.cons_append, List.dropWhile_cons_of_neg (by simpa using hlast)]
  rw [baseName, htext, htrim, List.takeWhile_append_of_pos (by simpa using hslash),
    List.takeWhile_cons_of_neg (by simp), List.append_nil, List.reverse_reverse]

theorem baseName_join {name : String} (dir : String) (h : IsName name.toList) : baseName (join dir name) = name := by
  rw [join_of_isName dir h, baseName_ofNames_concat h, String.ofList_toList]

theorem parent_join {dir name : String} (hd : normalize dir = dir) (h : IsName name.toList) :
    parent (join dir name) = dir := by
  rw [parent_eq, names_join_of_isName dir h, List.dropLast_concat]
  exact hd

/-- What is joined to a directory under a single name lies below it. -/
theorem isAncestor_join {dir name : String} (hd : normalize dir = dir) (h : IsName name.toList) :
    IsAncestor dir (join dir name) := by
  rw [IsAncestor, names_join_of_isName dir h]
  exact ⟨hd, List.prefix_append _ _, by simp⟩

section canonical

variable {path : String} (hp : normalize path = path) (hne : path ≠ "/")
include hp hne

/-- A path other than the root has a last name. -/
theorem exists_names_concat : ∃ base w, names path = base ++ [w] ∧ IsName w := by
  rcases List.eq_nil_or_concat (names path) with h | ⟨base, w, h⟩
  · exact absurd ((names_eq_nil_iff hp).mp h) hne
  · rw [List.concat_eq_append] at h
    exact ⟨base, w, h, isName_of_mem_names (h ▸ List.mem_append_right base List.mem_cons_self)⟩

/-- The names of a path are those of its parent with the base name behind them. -/
theorem names_eq_parent_concat : names path = names (parent path) ++ [(baseName path).toList] := by
  obtain ⟨base, w, h, hw⟩ := exists_names_concat hp hne
  have hbase : baseName path = String.ofList w := by
    rw [← hp, normalize_eq, h, baseName_ofNames_concat hw]
  rw [names_parent, hbase, h, List.dropLast_concat, String.toList_ofList]

theorem isName_baseName : IsName (baseName path).toList :=
  isName_of_mem_names (names_eq_parent_concat hp hne ▸ List.mem_append_right _ List.mem_cons_self)

theorem join_parent_baseName : join (parent path) (baseName path) = path := by
  rw [join_of_isName _ (isName_baseName hp hne), ← names_eq_parent_concat hp hne, ← normalize_eq, hp]

/-- A path lies below its parent. -/
theorem parent_ne : parent path ≠ path := (isAncestor_parent hp hne).ne

end canonical

/-- On the way from a directory to what lies below it is something directly in the directory. -/
theorem Within.exists_child {dir path : String} (h : Within dir path) (hd : normalize dir = dir) (hne : path ≠ dir) :
    ∃ c, Within c path ∧ normalize c = c ∧ c ≠ "/" ∧ parent c = dir := by
  obtain ⟨us, hus, rfl⟩ := h.exists_append
  cases us with
  | nil => exact absurd (by rw [List.append_nil, ← normalize_eq, hd]) hne
  | cons w us =>
    have hw : IsName w := hus w List.mem_cons_self
    have hnames : names (ofNames (names dir ++ [w])) = names dir ++ [w] := names_ofNames_append (by simpa using hw)
    have hc : normalize (ofNames (names dir ++ [w])) = ofNames (names dir ++ [w]) := by rw [normalize_eq, hnames]
    have hrest : ∀ v ∈ us, IsName v := fun v hv => hus v (List.mem_cons_of_mem _ hv)
    have hwithin := within_ofNames_append (a := ofNames (names dir ++ [w])) hrest
    refine ⟨ofNames (names dir ++ [w]), ?_, hc, ?_, ?_⟩
    · simpa [hnames] using hwithin
    · rw [ne_eq, ← names_eq_nil_iff hc, hnames]
      simp
    · rw [parent_eq, hnames, List.dropLast_concat, ← normalize_eq, hd]

/-- A path lies below only one of the paths that are directly in a directory. -/
theorem eq_of_parent_eq {a b path : String} (ha : normalize a = a) (hb : normalize b = b) (ha' : a ≠ "/")
    (hb' : b ≠ "/") (hparent : parent a = parent b) (hwa : Within a path) (hwb : Within b path) : a = b := by
  have hlength : (names a).length = (names b).length := by
    rw [names_eq_parent_concat ha ha', names_eq_parent_concat hb hb', hparent]
    simp
  have hlead : names a <+: names b := List.prefix_of_prefix_length_le hwa.2 hwb.2 (Nat.le_of_eq hlength)
  exact eq_of_names_eq ha hb (hlead.eq_of_length hlength)

end RootedStore.Path
