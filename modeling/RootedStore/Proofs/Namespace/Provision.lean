import RootedStore.Proofs.Namespace.Tree

/-!
# Provisioning directories

Directories are provisioned along the lineage of a path, from the root down. Only missing paths of the
lineage change, and they become directories with the given mode. In a tree the way down meets a file, if
it does, before it meets a missing path: a call that fails has created nothing.
-/
namespace RootedStore

open RootedStore.Path (Within IsAncestor IsName names ofNames climb lineage normalize)

namespace Namespace

variable {nodes : Table Node} {mode : UInt32}

theorem makeEach_dir {path : String} {rest : List String} (h : IsDirAt nodes path) :
    makeEach mode nodes (path :: rest) = makeEach mode nodes rest := by
  obtain ⟨m, modified, hd⟩ := h
  simp [makeEach, hd]

theorem makeEach_missing {path : String} {rest : List String} (h : nodes.find? path = none) :
    makeEach mode nodes (path :: rest) =
      makeEach mode (nodes.insert path (.dir mode .present)) rest := by
  simp [makeEach, h]

theorem makeEach_file {path : String} {rest : List String} {content : Bytes} {modified : Timestamp}
    (h : nodes.find? path = some (.file content modified)) :
    makeEach mode nodes (path :: rest) =
      (some (.exception "ParentNotDirectoryException" ("Path is not a directory: " ++ path)), nodes) := by
  simp [makeEach, h]

/-- What was there stays as it is, and what is new is a directory of the list. -/
theorem find?_makeEach (paths : List String) (key : String) :
    (makeEach mode nodes paths).2.find? key = nodes.find? key ∨
      nodes.find? key = none ∧ key ∈ paths ∧
        (makeEach mode nodes paths).2.find? key = some (.dir mode .present) := by
  induction paths generalizing nodes with
  | nil => exact .inl rfl
  | cons path rest ih =>
    rcases hp : nodes.find? path with _ | ⟨content, modified⟩ | ⟨m, modified⟩
    case some.dir =>
      rw [makeEach_dir ⟨m, modified, hp⟩]
      rcases ih with h | ⟨hn, hm, h⟩
      · exact .inl h
      · exact .inr ⟨hn, List.mem_cons_of_mem _ hm, h⟩
    case some.file =>
      rw [makeEach_file hp]
      exact .inl rfl
    case none =>
      rw [makeEach_missing hp]
      have ih := @ih (nodes.insert path (.dir mode .present))
      rw [Table.find?_insert] at ih
      by_cases he : path = key
      · subst he
        rw [if_pos rfl] at ih
        rcases ih with h | ⟨hn, _⟩
        · exact .inr ⟨hp, List.mem_cons_self, h⟩
        · simp at hn
      · rw [if_neg he] at ih
        rcases ih with h | ⟨hn, hm, h⟩
        · exact .inl h
        · exact .inr ⟨hn, List.mem_cons_of_mem _ hm, h⟩

theorem isDirAt_makeEach {paths : List String} {key : String} (h : IsDirAt nodes key) :
    IsDirAt (makeEach mode nodes paths).2 key := by
  obtain ⟨m, modified, hd⟩ := h
  rcases find?_makeEach paths key with hf | ⟨hn, _⟩
  · exact ⟨m, modified, by rw [hf, hd]⟩
  · simp [hd] at hn

/-- Nothing but a file is in the way. -/
theorem makeEach_of_no_file {paths : List String}
    (h : ∀ key ∈ paths, ∀ node, nodes.find? key = some node → node.isDir = true) :
    (makeEach mode nodes paths).1 = none := by
  induction paths generalizing nodes with
  | nil => rfl
  | cons path rest ih =>
    have hrest : ∀ key ∈ rest, ∀ node, nodes.find? key = some node → node.isDir = true :=
      fun key hkey => h key (List.mem_cons_of_mem _ hkey)
    rcases hp : nodes.find? path with _ | ⟨content, modified⟩ | ⟨m, modified⟩
    case some.dir =>
      rw [makeEach_dir ⟨m, modified, hp⟩]
      exact ih hrest
    case some.file =>
      simpa [Node.isDir] using h path List.mem_cons_self _ hp
    case none =>
      rw [makeEach_missing hp]
      refine ih fun key hkey node hk => ?_
      rw [Table.find?_insert] at hk
      split at hk
      · rw [← Option.some.inj hk]
        rfl
      · exact hrest key hkey node hk

theorem isDirAt_of_makeEach {paths : List String} (h : (makeEach mode nodes paths).1 = none) :
    ∀ key ∈ paths, IsDirAt (makeEach mode nodes paths).2 key := by
  induction paths generalizing nodes with
  | nil => simp
  | cons path rest ih =>
    have hhead : ∀ nodes' : Table Node, IsDirAt nodes' path → (makeEach mode nodes' rest).1 = none →
        ∀ key ∈ path :: rest, IsDirAt (makeEach mode nodes' rest).2 key := by
      intro nodes' hd hnone key hkey
      rcases List.mem_cons.mp hkey with rfl | hkey
      · exact isDirAt_makeEach hd
      · exact ih hnone key hkey
    rcases hp : nodes.find? path with _ | ⟨content, modified⟩ | ⟨m, modified⟩
    case some.dir =>
      rw [makeEach_dir ⟨m, modified, hp⟩] at h ⊢
      exact hhead nodes ⟨m, modified, hp⟩ h
    case some.file =>
      rw [makeEach_file hp] at h
      simp at h
    case none =>
      rw [makeEach_missing hp] at h ⊢
      exact hhead _ ⟨mode, .present, by simp [Table.find?_insert]⟩ h

theorem makeEach_of_dirs {paths : List String} (h : ∀ key ∈ paths, IsDirAt nodes key) :
    makeEach mode nodes paths = (none, nodes) := by
  induction paths with
  | nil => rfl
  | cons path rest ih =>
    rw [makeEach_dir (h path List.mem_cons_self)]
    exact ih fun key hkey => h key (List.mem_cons_of_mem _ hkey)

theorem serve_makeDirs (nodes : Table Node) (path : String) (mode : UInt32) :
    serve (.makeDirs path mode) ⟨nodes, []⟩ =
      (((makeEach mode nodes (lineage path)).1.elim (.ok ()) .error), ⟨(makeEach mode nodes (lineage path)).2, []⟩) := by
  simp only [serve]
  split <;> rename_i h <;> rw [h] <;> rfl

/-- Provisioning goes down from a directory, so it keeps a tree. If it fails it met a file before
anything was missing. -/
theorem IsTree.makeEach_climb (h : IsTree nodes) {base ws : List (List Char)}
    (hn : ∀ w ∈ base ++ ws, IsName w) (hd : IsDirAt nodes (ofNames base)) :
    IsTree (makeEach mode nodes (climb base ws)).2 ∧
      ((makeEach mode nodes (climb base ws)).1 = none ∨
        (makeEach mode nodes (climb base ws)).2 = nodes) := by
  induction ws generalizing base nodes with
  | nil => exact ⟨h, .inl rfl⟩
  | cons w ws ih =>
    have hn' : ∀ v ∈ base ++ [w] ++ ws, IsName v := by simpa using hn
    have hw : ∀ v ∈ base ++ [w], IsName v := fun v hv => hn' v (List.mem_append_left _ hv)
    have hc : normalize (ofNames (base ++ [w])) = ofNames (base ++ [w]) := Path.normalize_ofNames hw
    rw [climb]
    rcases hp : nodes.find? (ofNames (base ++ [w])) with _ | ⟨content, modified⟩ | ⟨m, modified⟩
    case some.file =>
      rw [makeEach_file hp]
      exact ⟨h, .inr rfl⟩
    case some.dir =>
      rw [makeEach_dir ⟨m, modified, hp⟩]
      exact ih h hn' ⟨m, modified, hp⟩
    case none =>
      rw [makeEach_missing hp]
      have hinsert : IsTree (nodes.insert (ofNames (base ++ [w])) (.dir mode .present)) := by
        refine h.insert hc (fun _ => ?_) (fun _ => rfl)
        rw [Path.parent_ofNames_concat hw]
        exact hd
      refine ⟨(ih hinsert hn' ⟨mode, .present, by simp [Table.find?_insert]⟩).1, .inl ?_⟩
      -- everything further down is missing as well
      refine makeEach_of_no_file fun key hkey node hk => ?_
      obtain ⟨us, hne, hus, rfl⟩ := Path.mem_climb.mp hkey
      have hwithin : Within (ofNames (base ++ [w])) (ofNames (base ++ [w] ++ us)) := by
        have hnames : names (ofNames (base ++ [w])) = base ++ [w] := Path.names_ofNames hw
        have hv : ∀ v ∈ us, IsName v := fun v hv => hn' v (List.mem_append_right _ (hus.subset hv))
        have := Path.within_ofNames_append (a := ofNames (base ++ [w])) hv
        rwa [hnames] at this
      rw [Table.find?_insert] at hk
      split at hk
      · rw [← Option.some.inj hk]
        rfl
      · rw [h.find?_eq_none_of_within hc hp hwithin] at hk
        simp at hk

/-- The names of a path lead down from the root. -/
theorem IsTree.makeEach_lineage (h : IsTree nodes) (mode : UInt32) (path : String) :
    IsTree (makeEach mode nodes (lineage path)).2 ∧
      ((makeEach mode nodes (lineage path)).1 = none ∨
        (makeEach mode nodes (lineage path)).2 = nodes) := by
  rw [Path.lineage_eq_climb]
  exact h.makeEach_climb (fun w hw => Path.isName_of_mem_names (by simpa using hw)) h.root

/-- Above what is there, every directory is there. -/
theorem IsTree.makeEach_above (h : IsTree nodes) {path : String} {node : Node}
    (hp : nodes.find? path = some node) : makeEach mode nodes (lineage (Path.parent path)) = (none, nodes) := by
  refine makeEach_of_dirs fun key hkey => ?_
  exact h.isDirAt_of_isAncestor hp (Path.mem_lineage_parent.mp hkey).1

/-- Provisioning above a path succeeds exactly if no file is above it. -/
theorem IsTree.makeEach_above_eq_none_iff (h : IsTree nodes) {path : String} :
    (makeEach mode nodes (lineage (Path.parent path))).1 = none ↔ ∀ a, IsAncestor a path → ¬ IsFileAt nodes a := by
  constructor
  · rintro hnone a ha ⟨content, modified, hfile⟩
    by_cases hroot : a = "/"
    · obtain ⟨m, created, hd⟩ := h.root
      rw [hroot, hd] at hfile
      cases hfile
    · obtain ⟨m, created, hd⟩ := isDirAt_of_makeEach hnone a (Path.mem_lineage_parent.mpr ⟨ha, hroot⟩)
      rcases find?_makeEach (lineage (Path.parent path)) a with hf | ⟨hn, _⟩
      · rw [hf, hfile] at hd
        cases hd
      · rw [hfile] at hn
        cases hn
  · intro hclear
    refine makeEach_of_no_file fun key hkey node hk => ?_
    cases node with
    | dir m modified => rfl
    | file content modified => exact absurd ⟨content, modified, hk⟩ (hclear key (Path.mem_lineage_parent.mp hkey).1)

theorem find?_makeEach_above (path : String) :
    (makeEach mode nodes (lineage (Path.parent path))).2.find? path = nodes.find? path := by
  rcases find?_makeEach (lineage (Path.parent path)) path with h | ⟨_, hm, _⟩
  · exact h
  · exact absurd rfl (Path.mem_lineage_parent.mp hm).1.ne

/-- A path has a directory to be put in once that was provisioned. -/
theorem IsTree.isDirAt_parent_makeEach (h : IsTree nodes) {path : String} (hc : normalize path = path)
    (hnone : (makeEach mode nodes (lineage (Path.parent path))).1 = none) :
    IsDirAt (makeEach mode nodes (lineage (Path.parent path))).2 (Path.parent path) := by
  by_cases hroot : Path.parent path = "/"
  · rw [hroot]
    exact isDirAt_makeEach h.root
  · have hne : path ≠ "/" := by
      rintro rfl
      exact hroot rfl
    exact isDirAt_of_makeEach hnone _ (Path.mem_lineage_parent.mpr ⟨Path.isAncestor_parent hc hne, hroot⟩)

end Namespace

end RootedStore
