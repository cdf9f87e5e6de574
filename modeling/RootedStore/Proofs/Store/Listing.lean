import RootedStore.Proofs.Store.Delete
import RootedStore.Proofs.Store.Entries

/-!
# Listing a tree

The namenode finds what is in a directory by the parents of all keys and gives base names, which the store joins to
the path of the directory again. In a tree this gives the keys back, in the order in which they are held. Whoever
lists a directory, and then every directory that was listed, comes upon all that lies below it, and upon nothing
twice, since what lies below one path of a listing does not lie below another one.
-/
namespace RootedStore

open Namespace (IsTree IsDirAt IsFileAt serve)
open RootedStore.Path (Within normalize)

namespace Namespace

variable {nodes : Table Node} {space : Namespace} {path key : String}

/-- The keys whose parent is a path, in ascending order. The root is its own parent, but it does not lie in itself. -/
def childKeys (nodes : Table Node) (path : String) : List String :=
  nodes.keys.filter fun key => key ≠ path && Path.parent key = path

theorem pairwise_childKeys (nodes : Table Node) (path : String) : (childKeys nodes path).Pairwise (· < ·) :=
  nodes.pairwise_keys.filter _

theorem IsTree.mem_childKeys_iff (h : IsTree nodes) :
    key ∈ childKeys nodes path ↔ (∃ node, nodes.find? key = some node) ∧ key ≠ "/" ∧ Path.parent key = path := by
  simp only [childKeys, List.mem_filter, Table.mem_keys, Bool.and_eq_true, decide_eq_true_eq]
  refine and_congr_right fun ⟨node, hkey⟩ => and_congr_left fun hparent => ?_
  subst hparent
  constructor
  · rintro hne rfl
    exact hne rfl
  · exact fun hne he => Path.parent_ne (h.canonical key node hkey) hne he.symm

/-- Nothing lies within two of the paths that are in one directory. -/
theorem IsTree.eq_of_mem_childKeys (h : IsTree nodes) {a b : String} (ha : a ∈ childKeys nodes path)
    (hb : b ∈ childKeys nodes path) (hwa : Within a key) (hwb : Within b key) : a = b := by
  obtain ⟨⟨first, hfirst⟩, ha', hpa⟩ := h.mem_childKeys_iff.mp ha
  obtain ⟨⟨second, hsecond⟩, hb', hpb⟩ := h.mem_childKeys_iff.mp hb
  exact Path.eq_of_parent_eq (h.canonical a first hfirst) (h.canonical b second hsecond) ha' hb' (hpa.trans hpb.symm)
    hwa hwb

theorem IsTree.length_subtree_lt (h : IsTree nodes) {node : Node} (hkey : nodes.find? key = some node)
    (hne : key ≠ "/") : (subtree nodes key).length < (subtree nodes (Path.parent key)).length := by
  have hc := h.canonical key node hkey
  have hp := Path.normalize_parent key
  have habove := Path.isAncestor_parent hc hne
  obtain ⟨mode, modified, hdir⟩ := h.parent key node hkey hne
  have hsub : Path.parent key :: subtree nodes key ⊆ subtree nodes (Path.parent key) := by
    intro j hj
    rcases List.mem_cons.mp hj with rfl | hj
    · exact (h.mem_subtree_iff hp).mpr ⟨⟨_, hdir⟩, Within.refl hp⟩
    · obtain ⟨hnode, hw⟩ := (h.mem_subtree_iff hc).mp hj
      exact (h.mem_subtree_iff hp).mpr ⟨hnode, (habove.within hc).trans hw⟩
  have hnodup : (Path.parent key :: subtree nodes key).Nodup := by
    refine List.nodup_cons.mpr ⟨fun hm => ?_, nodup_subtree key⟩
    exact habove.not_within ((h.mem_subtree_iff hc).mp hm).2
  exact (hnodup.subperm hsub).length_le

/-- What lies below a directory is in it or below one of those in it. -/
theorem IsTree.exists_mem_childKeys_iff (h : IsTree nodes) (hc : normalize path = path) {node : Node}
    (hkey : nodes.find? key = some node) :
    (∃ c ∈ childKeys nodes path, Within c key) ↔ Within path key ∧ key ≠ path := by
  have hk := h.canonical key node hkey
  constructor
  · rintro ⟨c, hmem, hw⟩
    obtain ⟨⟨other, hother⟩, hne, rfl⟩ := h.mem_childKeys_iff.mp hmem
    have habove := Path.isAncestor_parent (h.canonical c other hother) hne
    refine ⟨(habove.within (h.canonical c other hother)).trans hw, ?_⟩
    rintro rfl
    exact habove.not_within hw
  · rintro ⟨hw, hne⟩
    obtain ⟨c, hwc, hcc, hroot, rfl⟩ := hw.exists_child hc hne
    refine ⟨c, h.mem_childKeys_iff.mpr ⟨?_, hroot, rfl⟩, hwc⟩
    by_cases he : c = key
    · exact ⟨node, he ▸ hkey⟩
    · obtain ⟨mode, modified, hdir⟩ := h.isDirAt_of_isAncestor hkey (Path.isAncestor_of_within hcc hwc he)
      exact ⟨_, hdir⟩

/-- A directory has an entry for each key in it, with its base name. -/
theorem exists_entries (hd : IsDirAt nodes path) :
    ∃ found, entries nodes path = .ok found ∧ found.map (·.name) = (childKeys nodes path).map Path.baseName := by
  obtain ⟨mode, modified, hnode⟩ := hd
  have hname : ∀ (p : String) (node : Node), (node.status p).name = Path.baseName p := by
    intro p node
    cases node <;> rfl
  refine ⟨_, by rw [entries, hnode], ?_⟩
  rw [childKeys, Table.keys, List.filter_map, List.map_map, List.map_map]
  exact List.map_congr_left fun e _ => hname e.1 e.2

end Namespace

theorem Action.alone_ok_inj {α : Type} {action : Action α} {space after after' : Namespace} {a b : α}
    (h : action.alone space = (.ok a, after)) (h' : action.alone space = (.ok b, after')) : a = b :=
  Except.ok.inj (congrArg Prod.fst (h.symm.trans h'))

namespace Store

variable {st : Store} {space : Namespace} {path full : String}

/-- The base names of the keys in a directory lead to these keys again. -/
theorem childPaths_childKeys {nodes : Table Node} (h : IsTree nodes) (full : String) :
    childPaths full ((Namespace.childKeys nodes full).map Path.baseName) = Namespace.childKeys nodes full := by
  have hjoin : (Namespace.childKeys nodes full).map (Path.join full ∘ Path.baseName) =
      Namespace.childKeys nodes full := by
    refine (List.map_congr_left fun key hkey => ?_).trans (List.map_id _)
    obtain ⟨⟨node, hnode⟩, hne, rfl⟩ := h.mem_childKeys_iff.mp hkey
    exact Path.join_parent_baseName (h.canonical key node hnode) hne
  rw [childPaths, List.map_map, hjoin]
  refine List.mergeSort_of_pairwise ((Namespace.pairwise_childKeys nodes full).imp fun hlt => ?_)
  exact decide_eq_true (Std.le_of_lt hlt)

theorem alone_list_dir (h : IsTree space.nodes) (hf : space.faults = []) (hr : st.options.resolve path = .ok full)
    (hd : IsDirAt space.nodes full) :
    (st.list path).alone space = (.ok (Namespace.childKeys space.nodes full), space) := by
  obtain ⟨found, hfound, hnames⟩ := Namespace.exists_entries hd
  have hclient : Namespace.client (.entries full) space = (.ok found, space) := by
    have hserve : Namespace.client (.entries full) space = serve (.entries full) space := Work.alone_guarded hf _
    rw [hserve, serve, hfound]
  rw [← childPaths_childKeys h full, ← hnames]
  exact run_list hr hclient

theorem alone_list_file (hf : space.faults = []) (hr : st.options.resolve path = .ok full)
    (hfile : IsFileAt space.nodes full) :
    (st.list path).alone space =
      (.error (.backend driverName (.exception "IOException" ("Not a directory: " ++ full))), space) := by
  obtain ⟨content, modified, hnode⟩ := hfile
  have hs : serve (.entries full) space = (.error (.exception "IOException" ("Not a directory: " ++ full)), space) := by
    simp only [serve, Namespace.entries, hnode]
  exact (alone_resolve hr _).trans (Action.alone_bind_ok (Action.alone_attempt hf hs) _)

/-- What a listing answers. Of a directory it gives what is in it, in strictly ascending order, so that nothing is
given twice. Each path that it gives can be used as it is. -/
structure Lists (st : Store) (space : Namespace) (path full : String) : Prop where
  directory : IsDirAt space.nodes full → ∃ found, (st.list path).alone space = (.ok found, space) ∧
    found.Pairwise (· < ·) ∧
    ∀ key, key ∈ found ↔ (∃ node, space.node? key = some node) ∧ key ≠ "/" ∧ Path.parent key = full
  missing : space.node? full = none → (st.list path).alone space = (.ok [], space)
  file : IsFileAt space.nodes full → (st.list path).alone space =
    (.error (.backend driverName (.exception "IOException" ("Not a directory: " ++ full))), space)
  again : ∀ found after, (st.list path).alone space = (.ok found, after) → ∀ c ∈ found,
    st.options.resolve c = .ok c ∧ ∃ info, (st.stat c).alone space = (.ok info, space) ∧ info.path = c

/-- The paths that are found by listing a directory and then every directory that is listed, with what is found below
a path behind it. What is a directory is told by its status. -/
inductive Explores (st : Store) (space : Namespace) : String → List String → Prop where
  | file {path : String} {info : FileInfo} (stat : (st.stat path).alone space = (.ok info, space))
      (isFile : info.isDir = false) : Explores st space path []
  | directory {path : String} {info : FileInfo} {found : List String} {below : String → List String}
      (stat : (st.stat path).alone space = (.ok info, space)) (isDir : info.isDir = true)
      (list : (st.list path).alone space = (.ok found, space)) (each : ∀ c ∈ found, Explores st space c (below c)) :
      Explores st space path (found.flatMap fun c => c :: below c)

section tree

variable {o : Options} {nodes : Table Node} {node : Node} {path full : String} {found : List String}
variable (hroot : normalize o.root = o.root) (h : IsTree nodes)
include hroot h

theorem resolve_childKeys {c : String} (hw : Within o.root full) (hc : c ∈ Namespace.childKeys nodes full) :
    ∃ node, nodes.find? c = some node ∧ Within o.root c ∧ o.resolve c = .ok c := by
  obtain ⟨⟨node, hnode⟩, _, rfl⟩ := h.mem_childKeys_iff.mp hc
  have hwithin := hw.of_parent (h.canonical c node hnode)
  exact ⟨node, hnode, hwithin, Options.resolve_of_within hroot hwithin⟩

theorem lists_of_resolve (hr : o.resolve path = .ok full) : Lists ⟨o⟩ ⟨nodes, []⟩ path full := by
  have hdirectory : IsDirAt nodes full →
      (Store.list ⟨o⟩ path).alone ⟨nodes, []⟩ = (.ok (Namespace.childKeys nodes full), ⟨nodes, []⟩) :=
    fun hd => alone_list_dir h rfl hr hd
  have hmissing : nodes.find? full = none → (Store.list ⟨o⟩ path).alone ⟨nodes, []⟩ = (.ok [], ⟨nodes, []⟩) :=
    fun hn => @alone_list_missing ⟨o⟩ ⟨nodes, []⟩ path full rfl hr hn
  constructor
  · intro hd
    exact ⟨_, hdirectory hd, Namespace.pairwise_childKeys nodes full, fun key => h.mem_childKeys_iff⟩
  · exact hmissing
  · exact alone_list_file rfl hr
  · intro found after hlist c hc
    rcases hnode : nodes.find? full with _ | ⟨content, modified⟩ | ⟨mode, modified⟩
    case none =>
      obtain rfl := Action.alone_ok_inj hlist (hmissing hnode)
      simp at hc
    case some.file =>
      rw [alone_list_file rfl hr ⟨content, modified, hnode⟩] at hlist
      cases congrArg Prod.fst hlist
    case some.dir =>
      obtain rfl := Action.alone_ok_inj hlist (hdirectory ⟨mode, modified, hnode⟩)
      obtain ⟨node, hchild, _, hresolve⟩ := resolve_childKeys hroot h (Options.within_of_resolve hroot hr) hc
      exact ⟨hresolve, _, alone_stat hresolve hchild, rfl⟩

/-- A tree can be explored to the end from anything in it, since less lies below a path than below its parent. -/
theorem exists_explores (hnode : nodes.find? path = some node) (hw : Within o.root path) :
    ∃ found, Explores ⟨o⟩ ⟨nodes, []⟩ path found := by
  induction hn : (Namespace.subtree nodes path).length using Nat.strongRecOn generalizing path node with
  | _ n ih =>
    have hr : o.resolve path = .ok path := Options.resolve_of_within hroot hw
    have hstat := @alone_stat ⟨o⟩ nodes _ _ _ hr hnode
    cases node with
    | file content modified => exact ⟨[], .file hstat rfl⟩
    | dir mode modified =>
      have hbelow : ∀ c ∈ Namespace.childKeys nodes path, ∃ found, Explores ⟨o⟩ ⟨nodes, []⟩ c found := by
        intro c hc
        obtain ⟨node, hchild, hwc, _⟩ := resolve_childKeys hroot h hw hc
        obtain ⟨_, hne, rfl⟩ := h.mem_childKeys_iff.mp hc
        exact ih _ (hn ▸ h.length_subtree_lt hchild hne) hchild hwc rfl
      choose! below hbelow using hbelow
      exact ⟨_, .directory hstat rfl (alone_list_dir h rfl hr ⟨mode, modified, hnode⟩) hbelow⟩

omit h in
theorem isDir_of_stat {info : FileInfo} (hnode : nodes.find? path = some node) (hw : Within o.root path)
    (hstat : (Store.stat ⟨o⟩ path).alone ⟨nodes, []⟩ = (.ok info, ⟨nodes, []⟩)) : node.isDir = info.isDir := by
  have hr : o.resolve path = .ok path := Options.resolve_of_within hroot hw
  obtain rfl := Action.alone_ok_inj hstat (alone_stat hr hnode)
  cases node <;> rfl

theorem found_of_directory {info : FileInfo} (hnode : nodes.find? path = some node) (hw : Within o.root path)
    (hstat : (Store.stat ⟨o⟩ path).alone ⟨nodes, []⟩ = (.ok info, ⟨nodes, []⟩)) (hdir : info.isDir = true)
    (hlist : (Store.list ⟨o⟩ path).alone ⟨nodes, []⟩ = (.ok found, ⟨nodes, []⟩)) :
    found = Namespace.childKeys nodes path := by
  have hr : o.resolve path = .ok path := Options.resolve_of_within hroot hw
  have hisDir : node.isDir = true := (isDir_of_stat hroot hnode hw hstat).trans hdir
  cases node with
  | file content modified => cases hisDir
  | dir mode modified => exact Action.alone_ok_inj hlist (alone_list_dir h rfl hr ⟨mode, modified, hnode⟩)

omit hroot in
theorem mem_cons_iff_within {below : List String} {key : String} (hnode : nodes.find? path = some node)
    (hbelow : key ∈ below ↔ (∃ node, nodes.find? key = some node) ∧ Within path key ∧ key ≠ path) :
    key ∈ path :: below ↔ (∃ node, nodes.find? key = some node) ∧ Within path key := by
  rw [List.mem_cons, hbelow]
  constructor
  · rintro (rfl | ⟨hkey, hw, _⟩)
    · exact ⟨⟨node, hnode⟩, Within.refl (h.canonical key node hnode)⟩
    · exact ⟨hkey, hw⟩
  · rintro ⟨hkey, hw⟩
    by_cases he : key = path
    · exact .inl he
    · exact .inr ⟨hkey, hw, he⟩

/-- What is found is what lies below. -/
theorem Explores.mem_iff (hfound : Explores ⟨o⟩ ⟨nodes, []⟩ path found)
    (hnode : nodes.find? path = some node) (hw : Within o.root path) (key : String) :
    key ∈ found ↔ (∃ node, nodes.find? key = some node) ∧ Within path key ∧ key ≠ path := by
  induction hfound generalizing node with
  | file stat isFile =>
    have hfile : node.isDir = false := (isDir_of_stat hroot hnode hw stat).trans isFile
    simp only [List.not_mem_nil, false_iff]
    rintro ⟨⟨other, hkey⟩, hwithin, hne⟩
    exact hne (h.eq_of_within_file hnode hfile hkey hwithin)
  | @directory path info found below stat isDir list each ih =>
    obtain rfl := found_of_directory hroot h hnode hw stat isDir list
    have hchild : ∀ c ∈ Namespace.childKeys nodes path,
        (key ∈ c :: below c ↔ (∃ node, nodes.find? key = some node) ∧ Within c key) := by
      intro c hc
      obtain ⟨other, hother, hwc, _⟩ := resolve_childKeys hroot h hw hc
      exact mem_cons_iff_within h hother (ih c hc hother hwc)
    rw [List.mem_flatMap]
    constructor
    · rintro ⟨c, hc, hmem⟩
      obtain ⟨⟨other, hkey⟩, hwc⟩ := (hchild c hc).mp hmem
      exact ⟨⟨other, hkey⟩, (h.exists_mem_childKeys_iff hw.canonical hkey).mp ⟨c, hc, hwc⟩⟩
    · rintro ⟨⟨other, hkey⟩, hbelow⟩
      obtain ⟨c, hc, hwc⟩ := (h.exists_mem_childKeys_iff hw.canonical hkey).mpr hbelow
      exact ⟨c, hc, (hchild c hc).mpr ⟨⟨other, hkey⟩, hwc⟩⟩

/-- Nothing is found twice, since nothing lies within two of the paths that are in one directory. -/
theorem Explores.nodup (hfound : Explores ⟨o⟩ ⟨nodes, []⟩ path found)
    (hnode : nodes.find? path = some node) (hw : Within o.root path) : found.Nodup := by
  induction hfound generalizing node with
  | file => exact List.nodup_nil
  | @directory path info found below stat isDir list each ih =>
    obtain rfl := found_of_directory hroot h hnode hw stat isDir list
    rw [List.nodup_flatMap]
    constructor
    · intro c hc
      obtain ⟨other, hother, hwc, _⟩ := resolve_childKeys hroot h hw hc
      refine List.nodup_cons.mpr ⟨fun hm => ?_, ih c hc hother hwc⟩
      exact (((each c hc).mem_iff hroot h hother hwc c).mp hm).2.2 rfl
    · have hwithin : ∀ c ∈ Namespace.childKeys nodes path, ∀ key ∈ c :: below c, Within c key := by
        intro c hc key hkey
        obtain ⟨other, hother, hwc, _⟩ := resolve_childKeys hroot h hw hc
        exact ((mem_cons_iff_within h hother ((each c hc).mem_iff hroot h hother hwc key)).mp hkey).2
      refine (Namespace.pairwise_childKeys nodes path).nodup.pairwise_of_forall_ne ?_
      intro a ha b hb hne key hka hkb
      exact hne (h.eq_of_mem_childKeys ha hb (hwithin a ha key hka) (hwithin b hb key hkb))

end tree

end Store

/-- On any namespace that a namenode gets to, with no failure arranged: a listing gives exactly what is in a directory,
in order, nothing at all if nothing is there, and an error if a file is there, and what it gives can be asked for
again. If the root of the store is a directory, all that lies below it is found by listing it and then every directory
that is listed, and nothing is found twice. -/
theorem Store.list_exact {v : Json.Value} {o : Options} (ho : Options.ofValue v = .ok o) {space : Namespace}
    (hs : Namespace.Reached space.nodes) (hf : space.faults = []) :
    (∀ path full, o.resolve path = .ok full → Lists ⟨o⟩ space path full) ∧
      (IsDirAt space.nodes o.root →
        (∃ found, Explores ⟨o⟩ space o.root found) ∧
          ∀ found, Explores ⟨o⟩ space o.root found → found.Nodup ∧
            ∀ key, key ∈ found ↔ (∃ node, space.node? key = some node) ∧ Within o.root key ∧ key ≠ o.root) := by
  have h : IsTree space.nodes := hs.isTree
  have hroot := Options.normalize_root ho
  obtain ⟨nodes, faults⟩ := space
  obtain rfl : faults = [] := hf
  refine ⟨fun path full hr => lists_of_resolve hroot h hr, ?_⟩
  rintro ⟨mode, modified, hdir⟩
  refine ⟨exists_explores hroot h hdir (Within.refl hroot), fun found hfound => ⟨?_, ?_⟩⟩
  · exact hfound.nodup hroot h hdir (Within.refl hroot)
  · exact hfound.mem_iff hroot h hdir (Within.refl hroot)

/-- An object in a directory below the root is found by exploring the root, and so is its directory. -/
theorem Store.list_exact_stocked :
    Options.ofValue (.object [(Options.namenodeKey, .string "nn")]) = .ok Options.sample ∧
      Namespace.Reached Namespace.stocked.nodes ∧ Namespace.stocked.faults = [] ∧
      IsDirAt Namespace.stocked.nodes Options.sample.root ∧
      ∃ found, Store.Explores ⟨Options.sample⟩ Namespace.stocked Options.sample.root found ∧ found.Nodup ∧
        "/tmp/hdfs-registry/b" ∈ found ∧ "/tmp/hdfs-registry/b/c" ∈ found := by
  have hinitial : System.Reachable ⟨Options.sample⟩ Namespace.initial := ⟨[], rfl⟩
  have hstocked : System.Reachable ⟨Options.sample⟩ Namespace.stocked :=
    hinitial.request false (.put "b/c" [7]) .good
  have hs : Namespace.Reached Namespace.stocked.nodes := hstocked.reached
  obtain ⟨hf, hdir, hinside, hobject⟩ : Namespace.stocked.faults.isEmpty = true ∧
      Namespace.stocked.node? Options.sample.root = some (.dir 0o755 .present) ∧
      Namespace.stocked.node? "/tmp/hdfs-registry/b" = some (.dir 0o755 .present) ∧
      Namespace.stocked.node? "/tmp/hdfs-registry/b/c" = some (.file [7] .present) := by decide +kernel
  have hroot : IsDirAt Namespace.stocked.nodes Options.sample.root := ⟨_, _, hdir⟩
  have hfaults : Namespace.stocked.faults = [] := List.isEmpty_iff.mp hf
  obtain ⟨⟨found, hfound⟩, hexact⟩ := (list_exact Options.ofValue_sample hs hfaults).2 hroot
  obtain ⟨hnodup, hmem⟩ := hexact found hfound
  refine ⟨Options.ofValue_sample, hs, hfaults, hroot, found, hfound, hnodup, ?_, ?_⟩
  · exact (hmem _).mpr ⟨⟨_, hinside⟩, ⟨by decide, by decide⟩, by decide⟩
  · exact (hmem _).mpr ⟨⟨_, hobject⟩, ⟨by decide, by decide⟩, by decide⟩

end RootedStore
