import RootedStore.Proofs.Path.Canonical

/-!
# The order of paths

Canonical paths are ordered by their names: a path lies within another one if the names of that one are
a prefix of its own. The test that the library makes on texts is this order. The parent drops the last
name, and the lineage of a path lists what lies between the root and the path.
-/
namespace RootedStore.Path

/-- A canonical path that is `root` or lies below it. -/
def Within (root path : String) : Prop := normalize path = path ∧ names root <+: names path

/-- A canonical path that `path` lies below. -/
def IsAncestor (a path : String) : Prop :=
  normalize a = a ∧ names a <+: names path ∧ names a ≠ names path

theorem Within.canonical {root path : String} (h : Within root path) : normalize path = path := h.1

theorem Within.refl {path : String} (h : normalize path = path) : Within path path :=
  ⟨h, List.prefix_rfl⟩

theorem Within.trans {root mid path : String} (h : Within root mid) (h' : Within mid path) :
    Within root path :=
  ⟨h'.1, h.2.trans h'.2⟩

theorem Within.antisymm {a b : String} (h : Within a b) (h' : Within b a) : a = b :=
  eq_of_names_eq h'.canonical h.canonical (h.2.eq_of_length_le h'.2.length_le)

theorem isName_names_append {a : String} {us : List (List Char)} (h : ∀ w ∈ us, IsName w) :
    ∀ w ∈ names a ++ us, IsName w := by
  intro w hw
  rcases List.mem_append.mp hw with hw | hw
  · exact isName_of_mem_names hw
  · exact h w hw

theorem names_ofNames_append {a : String} {us : List (List Char)} (h : ∀ w ∈ us, IsName w) :
    names (ofNames (names a ++ us)) = names a ++ us := names_ofNames (isName_names_append h)

/-- The paths within a path are those that go on from it with further names. -/
theorem within_ofNames_append {a : String} {us : List (List Char)} (h : ∀ w ∈ us, IsName w) :
    Within a (ofNames (names a ++ us)) := by
  have hn : names (ofNames (names a ++ us)) = names a ++ us := names_ofNames_append h
  refine ⟨by rw [normalize_eq, hn], ?_⟩
  rw [hn]
  exact List.prefix_append _ _

theorem Within.exists_append {a path : String} (h : Within a path) :
    ∃ us, (∀ w ∈ us, IsName w) ∧ path = ofNames (names a ++ us) := by
  obtain ⟨us, hus⟩ := h.2
  refine ⟨us, ?_, ?_⟩
  · intro w hw
    exact isName_of_mem_names (hus ▸ List.mem_append_right _ hw)
  · rw [hus, ← normalize_eq, h.1]

/-- A prefix that is not the whole list is a prefix without the last entry as well. -/
theorem prefix_dropLast {α : Type} {s v : List α} (h : s <+: v) (hne : s ≠ v) : s <+: v.dropLast := by
  obtain ⟨u, rfl⟩ := h
  have hu : u ≠ [] := by
    rintro rfl
    exact hne (by simp)
  rw [List.dropLast_append_of_ne_nil hu]
  exact List.prefix_append _ _

/-- What a canonical path loses with the slashes at its end is the lone slash of the root. -/
theorem dropTrailingSlashes_render {ws : List (List Char)} (h : ∀ w ∈ ws, IsName w) :
    dropTrailingSlashes (render ws) = spell ws := by
  by_cases hne : ws = []
  · subst hne
    rfl
  · rw [render_of_ne_nil hne, dropTrailingSlashes]
    have hlast := getLast?_spell h
    rw [← List.head?_reverse] at hlast
    cases hr : (spell ws).reverse with
    | nil => simpa using congrArg List.reverse hr.symm
    | cons c cs =>
      have hc : c ≠ '/' := by simpa [hr] using hlast
      have hkeep : (c :: cs).dropWhile (· = '/') = c :: cs := by simp [hc]
      rw [hkeep, ← hr, List.reverse_reverse]

theorem after?_eq_some {lead s rest : List Char} : after? lead s = some rest ↔ s = lead ++ rest := by
  rw [after?]
  split
  · rename_i h
    obtain ⟨t, rfl⟩ := List.isPrefixOf_iff_prefix.mp h
    simp [eq_comm]
  · rename_i h
    constructor
    · intro hn
      cases hn
    · rintro rfl
      exact absurd (List.isPrefixOf_iff_prefix.mpr (List.prefix_append _ _)) h

/-- The test on texts finds the names of the directory spelled at the start of the path, with nothing
or a slash behind them. -/
theorem isUnder_iff_text {ws : List (List Char)} (h : ∀ w ∈ ws, IsName w) {path : String} :
    isUnder path (ofNames ws) = true ↔
      ∃ rest, path.toList = spell ws ++ rest ∧ (rest = [] ∧ ws ≠ [] ∨ rest.head? = some '/') := by
  rw [isUnder, toList_ofNames, dropTrailingSlashes_render h]
  cases hs : spell ws with
  | nil => simp [spell_eq_nil hs]
  | cons c cs =>
    have hne : ws ≠ [] := by
      rintro rfl
      simp at hs
    dsimp only
    cases ha : after? (c :: cs) path.toList with
    | none =>
      simp only [Bool.false_eq_true, false_iff, not_exists, not_and]
      intro rest he
      simp [after?_eq_some.mpr he] at ha
    | some rest =>
      have he := after?_eq_some.mp ha
      cases rest with
      | nil => exact ⟨fun _ => ⟨[], he, .inl ⟨rfl, hne⟩⟩, fun _ => rfl⟩
      | cons d rest =>
        simp only [he, List.append_cancel_left_eq, exists_eq_left']
        simp

/-- A path that lies under a directory as written starts with the names of the directory. -/
theorem components_of_isUnder {ws : List (List Char)} (h : ∀ w ∈ ws, IsName w) {path : String}
    (hu : isUnder path (ofNames ws) = true) :
    ∃ vs, components path = [] :: ws ++ vs := by
  obtain ⟨rest, hp, hrest⟩ := (isUnder_iff_text h).mp hu
  have hpieces : pieces isSeparator (spell ws) = [] :: ws :=
    pieces_spell isSeparator_slash (fun w hw => (h w hw).unbroken) (v := []) (by simp)
  rcases hrest with ⟨rfl, _⟩ | hrest
  · exact ⟨[], by simpa [components, hp] using hpieces⟩
  · obtain ⟨tail, rfl⟩ := List.head?_eq_some_iff.mp hrest
    exact ⟨pieces isSeparator tail, by rw [components, hp, pieces_append isSeparator_slash, hpieces]⟩

theorem names_eq_of_components {path : String} {ws vs : List (List Char)} (h : ∀ w ∈ ws, IsName w)
    (hc : components path = [] :: ws ++ vs) : names path = (vs.foldl push ws.reverse).reverse := by
  rw [names, hc, resolve_append, resolve_names h]

/-- The root itself lies under nothing but the root. -/
theorem eq_nil_of_isUnder_root {ws : List (List Char)} (h : ∀ w ∈ ws, IsName w)
    (hu : isUnder "/" (ofNames ws) = true) : ws = [] := by
  obtain ⟨vs, hc⟩ := components_of_isUnder h hu
  cases ws with
  | nil => rfl
  | cons w ws =>
    have hempty : components "/" = [[], []] := rfl
    rw [hempty] at hc
    have hw : [] = w := by simpa using (List.cons.inj (List.cons.inj hc).2).1
    exact absurd hw.symm (h w List.mem_cons_self).ne_nil

/-- Of canonical paths, the test on texts is the order of names. -/
theorem isUnder_iff {path root : String} (hp : normalize path = path) (hr : normalize root = root) :
    isUnder path root = true ↔ names root <+: names path := by
  have hn : ∀ w ∈ names root, IsName w := fun _ hw => isName_of_mem_names hw
  have hm : ∀ w ∈ names path, IsName w := fun _ hw => isName_of_mem_names hw
  rw [← hr, normalize_eq, names_ofNames hn]
  constructor
  · intro hu
    by_cases hpn : names path = []
    · rw [← hp, normalize_eq, hpn] at hu
      rw [eq_nil_of_isUnder_root hn hu]
      exact List.nil_prefix
    · obtain ⟨vs, hc⟩ := components_of_isUnder hn hu
      rw [← hp, normalize_eq, components_ofNames hpn hm] at hc
      exact ⟨vs, by simpa using hc.symm⟩
  · rintro ⟨vs, hv⟩
    refine (isUnder_iff_text hn).mpr ⟨(render (names root ++ vs)).drop (spell (names root)).length, ?_⟩
    rw [← hp, normalize_eq, toList_ofNames, ← hv]
    cases hvs : vs with
    | nil =>
      by_cases hrn : names root = []
      · simp [hrn, render]
      · simp [render_of_ne_nil hrn, hrn]
    | cons v us =>
      have hne : names root ++ v :: us ≠ [] := by simp
      simp [render_of_ne_nil hne]

theorem isUnder_iff_within {path root : String} (hp : normalize path = path)
    (hr : normalize root = root) : isUnder path root = true ↔ Within root path := by
  rw [isUnder_iff hp hr, Within, and_iff_right hp]

@[simp] theorem names_parent (path : String) : names (parent path) = (names path).dropLast :=
  names_ofNames fun _ hw => isName_of_mem_names (List.dropLast_subset _ hw)

@[simp] theorem normalize_parent (path : String) : normalize (parent path) = parent path :=
  normalize_ofNames fun _ hw => isName_of_mem_names (List.dropLast_subset _ hw)

theorem names_eq_nil_iff {path : String} (hp : normalize path = path) : names path = [] ↔ path = "/" := by
  constructor
  · intro h
    rw [← hp, normalize_eq, h]
    rfl
  · rintro rfl
    rfl

theorem not_within_root {path : String} (hne : names path ≠ []) : ¬ Within path "/" :=
  fun hw => hne (List.prefix_nil.mp hw.2)

theorem isAncestor_of_within {a path : String} (ha : normalize a = a) (h : Within a path)
    (hne : a ≠ path) : IsAncestor a path :=
  ⟨ha, h.2, fun he => hne (eq_of_names_eq ha h.1 he)⟩

theorem IsAncestor.within {a path : String} (h : IsAncestor a path) (hp : normalize path = path) :
    Within a path :=
  ⟨hp, h.2.1⟩

theorem IsAncestor.ne {a path : String} (h : IsAncestor a path) : a ≠ path :=
  fun he => h.2.2 (he ▸ rfl)

theorem IsAncestor.not_within {a path : String} (h : IsAncestor a path) : ¬ Within path a := by
  intro hw
  exact h.2.2 (h.2.1.eq_of_length_le hw.2.length_le)

/-- What has its parent within a path is within it. -/
theorem Within.of_parent {path key : String} (hk : normalize key = key) (hw : Within path (parent key)) :
    Within path key := by
  refine ⟨hk, hw.2.trans ?_⟩
  rw [names_parent]
  exact List.dropLast_prefix _

/-- Every path but the root has its parent above it. -/
theorem isAncestor_parent {path : String} (hp : normalize path = path) (hne : path ≠ "/") :
    IsAncestor (parent path) path := by
  refine ⟨normalize_parent path, ?_, ?_⟩
  · rw [names_parent]
    exact List.dropLast_prefix _
  · intro he
    have hlen := congrArg List.length he
    have hpos : 0 < (names path).length :=
      List.length_pos_iff.mpr fun h => hne ((names_eq_nil_iff hp).mp h)
    rw [names_parent, List.length_dropLast] at hlen
    omega

/-- What lies above a path is its parent or lies above its parent. -/
theorem IsAncestor.eq_or_parent {a path : String} (h : IsAncestor a path) :
    a = parent path ∨ IsAncestor a (parent path) := by
  have hpre : names a <+: names (parent path) := by
    rw [names_parent]
    exact prefix_dropLast h.2.1 h.2.2
  by_cases he : names a = names (parent path)
  · exact .inl (eq_of_names_eq h.1 (normalize_parent path) he)
  · exact .inr ⟨h.1, hpre, he⟩

theorem parent_ofNames_concat {base : List (List Char)} {w : List Char}
    (h : ∀ v ∈ base ++ [w], IsName v) : Path.parent (ofNames (base ++ [w])) = ofNames base := by
  rw [parent_eq, names_ofNames h, List.dropLast_concat]

/-- The paths that are passed on the way from a directory along a list of names. -/
def climb (base : List (List Char)) : List (List Char) → List String
  | [] => []
  | w :: ws => ofNames (base ++ [w]) :: climb (base ++ [w]) ws

theorem climb_eq_map (base ws : List (List Char)) :
    climb base ws = (List.range ws.length).map fun n => ofNames (base ++ ws.take (n + 1)) := by
  induction ws generalizing base with
  | nil => rfl
  | cons w ws ih =>
    rw [climb, ih, List.length_cons, List.range_succ_eq_map]
    simp

theorem lineage_eq_climb (path : String) : lineage path = climb [] (names path) := by
  rw [climb_eq_map]
  rfl

theorem mem_climb {base ws : List (List Char)} {q : String} :
    q ∈ climb base ws ↔ ∃ us, us ≠ [] ∧ us <+: ws ∧ q = ofNames (base ++ us) := by
  induction ws generalizing base with
  | nil =>
    constructor
    · intro h
      cases h
    · rintro ⟨us, hne, hp, _⟩
      exact absurd (List.prefix_nil.mp hp) hne
  | cons w ws ih =>
    rw [climb, List.mem_cons, ih]
    constructor
    · rintro (rfl | ⟨us, _, hp, rfl⟩)
      · exact ⟨[w], by simp, by simp, rfl⟩
      · exact ⟨w :: us, by simp, by simpa using hp, by simp⟩
    · rintro ⟨us, hne, hp, rfl⟩
      cases us with
      | nil => exact absurd rfl hne
      | cons u us =>
        obtain ⟨rfl, hp'⟩ := List.cons_prefix_cons.mp hp
        cases us with
        | nil => exact .inl rfl
        | cons v us => exact .inr ⟨v :: us, by simp, hp', by simp⟩

/-- The lineage of a path is what is passed on the way from the root down to it. -/
theorem mem_lineage {path key : String} :
    key ∈ lineage path ↔ normalize key = key ∧ names key <+: names path ∧ key ≠ "/" := by
  rw [lineage_eq_climb, mem_climb]
  constructor
  · rintro ⟨us, hne, hp, rfl⟩
    have hn : names (ofNames us) = us := names_ofNames fun w hw => isName_of_mem_names (hp.subset hw)
    have hc : normalize (ofNames us) = ofNames us := by rw [normalize_eq, hn]
    rw [List.nil_append]
    refine ⟨hc, by rwa [hn], ?_⟩
    rw [ne_eq, ← names_eq_nil_iff hc, hn]
    exact hne
  · rintro ⟨hc, hp, hne⟩
    exact ⟨names key, fun h => hne ((names_eq_nil_iff hc).mp h), hp, hc.symm⟩

/-- The lineage of the parent is what lies above a path, the root aside. -/
theorem mem_lineage_parent {path key : String} :
    key ∈ lineage (parent path) ↔ IsAncestor key path ∧ key ≠ "/" := by
  rw [mem_lineage, names_parent]
  constructor
  · rintro ⟨hc, hp, hne⟩
    refine ⟨⟨hc, hp.trans (List.dropLast_prefix _), ?_⟩, hne⟩
    intro he
    have hlen := hp.length_le
    have hpos : 0 < (names key).length :=
      List.length_pos_iff.mpr fun h => hne ((names_eq_nil_iff hc).mp h)
    rw [← he, List.length_dropLast] at hlen
    omega
  · rintro ⟨ha, hne⟩
    exact ⟨ha.1, prefix_dropLast ha.2.1 ha.2.2, hne⟩

end RootedStore.Path
