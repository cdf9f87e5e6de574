import RootedStore.Proofs.Namespace.Change
import RootedStore.Proofs.Path.Order

/-!
# Namespaces are trees

The root is a directory, every key is a canonical path, and the parent of every other key is a directory.
So all that lies above a key is there, and nothing lies below a file or below what is missing. Every
change that a call makes keeps the tree, provided that new names are canonical.
-/
namespace RootedStore

open RootedStore.Path (Within IsAncestor normalize)

namespace Namespace

/-- The tree invariant of a table of nodes. -/
structure IsTree (nodes : Table Node) : Prop where
  root : IsDirAt nodes "/"
  canonical : ∀ key node, nodes.find? key = some node → normalize key = key
  parent : ∀ key node, nodes.find? key = some node → key ≠ "/" → IsDirAt nodes (Path.parent key)

variable {nodes nodes' : Table Node}

theorem IsTree.isDirAt_of_isAncestor (h : IsTree nodes) {a key : String} {node : Node}
    (hk : nodes.find? key = some node) (ha : IsAncestor a key) : IsDirAt nodes a := by
  -- induction on how many names there are: the parent has one less
  induction hn : (Path.names key).length generalizing key node with
  | zero =>
    have hnil : Path.names key = [] := List.length_eq_zero_iff.mp hn
    have hpre : Path.names a <+: [] := hnil ▸ ha.2.1
    exact absurd ((List.prefix_nil.mp hpre).trans hnil.symm) ha.2.2
  | succ n ih =>
    have hne : key ≠ "/" := by
      rintro rfl
      have hnil : Path.names "/" = [] := rfl
      simp [hnil] at hn
    have hp := h.parent key node hk hne
    rcases ha.eq_or_parent with rfl | ha'
    · exact hp
    · obtain ⟨mode, modified, hf⟩ := hp
      exact ih hf ha' (by simp [hn])

theorem IsTree.find?_eq_none_of_within (h : IsTree nodes) {a key : String} (hc : normalize a = a)
    (ha : nodes.find? a = none) (hw : Within a key) : nodes.find? key = none := by
  cases hk : nodes.find? key with
  | none => rfl
  | some node =>
    by_cases he : a = key
    · simp [he, hk] at ha
    · obtain ⟨mode, modified, hd⟩ := h.isDirAt_of_isAncestor hk (Path.isAncestor_of_within hc hw he)
      simp [hd] at ha

theorem IsTree.eq_of_within_file (h : IsTree nodes) {a key : String} {file node : Node}
    (ha : nodes.find? a = some file) (hf : file.isDir = false) (hk : nodes.find? key = some node)
    (hw : Within a key) : key = a := by
  by_contra hne
  obtain ⟨mode, modified, hd⟩ :=
    h.isDirAt_of_isAncestor hk (Path.isAncestor_of_within (h.canonical a file ha) hw (Ne.symm hne))
  rw [hd] at ha
  rw [← Option.some.inj ha] at hf
  simp [Node.isDir] at hf

theorem isTree_initial : IsTree initial.nodes := by
  have hfind : ∀ key node, initial.nodes.find? key = some node → key = "/" := by
    intro key node h
    simp only [initial, Table.find?_insert, Table.find?_empty] at h
    by_contra hne
    simp [Ne.symm hne] at h
  constructor
  · exact ⟨rootMode, .present, by simp [initial, Table.find?_insert]⟩
  · intro key node h
    rw [hfind key node h]
    rfl
  · intro key node h hne
    exact absurd (hfind key node h) hne

theorem isDirAt_insert {path q : String} {node : Node} (hd : IsDirAt nodes path → node.isDir = true)
    (hq : IsDirAt nodes q) : IsDirAt (nodes.insert path node) q := by
  by_cases he : path = q
  · subst he
    cases node with
    | dir mode modified => exact ⟨mode, modified, by simp [Table.find?_insert]⟩
    | file content modified => simp [Node.isDir] at hd; exact absurd hq hd
  · simpa [IsDirAt, Table.find?_insert, he] using hq

/-- A node may be set at a canonical path in a directory, if it does not take the place of one. -/
theorem IsTree.insert (h : IsTree nodes) {path : String} {node : Node} (hc : normalize path = path)
    (hp : path ≠ "/" → IsDirAt nodes (Path.parent path)) (hd : IsDirAt nodes path → node.isDir = true) :
    IsTree (nodes.insert path node) := by
  constructor
  · exact isDirAt_insert hd h.root
  · intro key other hk
    rw [Table.find?_insert] at hk
    split at hk
    · rename_i he
      rw [← he, hc]
    · exact h.canonical key other hk
  · intro key other hk hne
    apply isDirAt_insert hd
    rw [Table.find?_insert] at hk
    split at hk
    · rename_i he
      subst he
      exact hp hne
    · exact h.parent key other hk hne

/-- Keys may be removed together with all that lies below them. -/
theorem IsTree.filterKeys (h : IsTree nodes) {p : String → Bool} (hroot : p "/" = true)
    (hp : ∀ key node, nodes.find? key = some node → key ≠ "/" → p key = true → p (Path.parent key) = true) :
    IsTree (nodes.filterKeys p) := by
  have hkeep : ∀ key node, (nodes.filterKeys p).find? key = some node →
      p key = true ∧ nodes.find? key = some node := by
    intro key node hk
    rw [Table.find?_filterKeys] at hk
    split at hk
    · rename_i hpk
      exact ⟨hpk, hk⟩
    · simp at hk
  have hdir : ∀ key, p key = true → IsDirAt nodes key → IsDirAt (nodes.filterKeys p) key := by
    intro key hpk hk
    simpa [IsDirAt, Table.find?_filterKeys, hpk] using hk
  constructor
  · exact hdir "/" hroot h.root
  · intro key node hk
    exact h.canonical key node (hkeep key node hk).2
  · intro key node hk hne
    obtain ⟨hpk, hf⟩ := hkeep key node hk
    exact hdir _ (hp key node hf hne hpk) (h.parent key node hf hne)

theorem IsTree.mem_subtree_iff (h : IsTree nodes) {path key : String} (hc : normalize path = path) :
    key ∈ subtree nodes path ↔ (∃ node, nodes.find? key = some node) ∧ Within path key := by
  rw [mem_subtree]
  constructor
  · rintro ⟨⟨node, hk⟩, hu⟩
    exact ⟨⟨node, hk⟩, (Path.isUnder_iff_within (h.canonical key node hk) hc).mp hu⟩
  · rintro ⟨hk, hw⟩
    exact ⟨hk, (Path.isUnder_iff_within hw.canonical hc).mpr hw⟩

/-- A tree in which nothing but the path itself is counted below it loses only a leaf. -/
theorem IsTree.eq_of_subtree_length (h : IsTree nodes) {path key : String}
    (hpath : ∃ node, nodes.find? path = some node) (hl : (subtree nodes path).length ≤ 1)
    (hk : ∃ node, nodes.find? key = some node) (hw : Within path key) : key = path := by
  obtain ⟨node, hn⟩ := hpath
  have hc := h.canonical path node hn
  have hs : path ∈ subtree nodes path := (h.mem_subtree_iff hc).mpr ⟨⟨node, hn⟩, Within.refl hc⟩
  have hm : key ∈ subtree nodes path := (h.mem_subtree_iff hc).mpr ⟨hk, hw⟩
  rcases hlist : subtree nodes path with _ | ⟨only, _ | ⟨second, rest⟩⟩
  · simp [hlist] at hs
  · simp only [hlist, List.mem_singleton] at hm hs
    rw [hm, hs]
  · simp [hlist] at hl

theorem IsTree.erase (h : IsTree nodes) {path : String} (hne : path ≠ "/")
    (hpath : ∃ node, nodes.find? path = some node) (hl : (subtree nodes path).length ≤ 1) :
    IsTree (nodes.erase path) := by
  refine h.filterKeys (by simpa using hne.symm) ?_
  intro key node hk _ hkeep
  -- if the parent were removed, the key would count below it
  have hparent : Path.parent key ≠ path := by
    intro he
    obtain ⟨other, hp⟩ := hpath
    have hw : Within path (Path.parent key) := by
      rw [he]
      exact Within.refl (h.canonical path other hp)
    have hkey := h.eq_of_subtree_length ⟨other, hp⟩ hl ⟨node, hk⟩ (hw.of_parent (h.canonical key node hk))
    simp [hkey] at hkeep
  simpa using hparent

/-- A path may be removed with all that lies below it. -/
theorem IsTree.prune (h : IsTree nodes) {path : String} (hc : normalize path = path) :
    IsTree (nodes.filterKeys fun key => key = "/" || !Path.isUnder key path) := by
  refine h.filterKeys (by simp) ?_
  intro key node hk hne hkeep
  have hkc := h.canonical key node hk
  have hout : ¬ Within path key := by
    intro hw
    have hu := (Path.isUnder_iff_within hkc hc).mpr hw
    simp [hne, hu] at hkeep
  have hparent : ¬ Path.isUnder (Path.parent key) path = true := by
    intro hu
    exact hout (((Path.isUnder_iff_within (Path.normalize_parent key) hc).mp hu).of_parent hkc)
  simp [hparent]

theorem IsTree.find?_prune (h : IsTree nodes) {path key : String} (hc : normalize path = path)
    (hk : ¬ Within path key) :
    (nodes.filterKeys fun key => key = "/" || !Path.isUnder key path).find? key = nodes.find? key := by
  rw [Table.find?_filterKeys]
  split
  · rfl
  · rename_i hdrop
    cases hf : nodes.find? key with
    | none => rfl
    | some node =>
      have hu : Path.isUnder key path = true := by
        by_contra hn
        simp [hn] at hdrop
      exact absurd ((Path.isUnder_iff_within (h.canonical key node hf) hc).mp hu) hk

theorem IsTree.ne_root (h : IsTree nodes) {key : String} (hk : nodes.find? key = none) : key ≠ "/" := by
  rintro rfl
  obtain ⟨mode, modified, hroot⟩ := h.root
  simp [hroot] at hk

end Namespace

end RootedStore
