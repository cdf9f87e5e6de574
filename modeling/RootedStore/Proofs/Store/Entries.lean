import Mathlib.Data.List.Nodup
import Mathlib.Data.List.Perm.Subperm
import RootedStore.Proofs.Path.Child
import RootedStore.Proofs.Store.Alone
import RootedStore.Proofs.Store.Confinement

/-!
# The names of a listing

A namenode names the entries of a directory, and each name is joined to the path of the directory. That is the path
of something directly in the directory if there is no backslash in the name, which a namenode takes for a character
like any other. A name with one becomes several names or none, so one such name is enough to make a listing that
holds what is not directly in the directory, or holds a path twice.
-/
namespace RootedStore

open RootedStore.Path (Within IsName normalize)

/-- A name that an entry of a directory may have: it has no slash in it, and it is not one of the two that stand for
directories. -/
structure IsEntryName (name : String) : Prop where
  nonempty : name ≠ ""
  ne_here : name ≠ "."
  ne_above : name ≠ ".."
  noSlash : '/' ∉ name.toList

theorem isEntryName_iff {name : String} :
    IsEntryName name ↔ name ≠ "" ∧ name ≠ "." ∧ name ≠ ".." ∧ '/' ∉ name.toList :=
  ⟨fun h => ⟨h.nonempty, h.ne_here, h.ne_above, h.noSlash⟩, fun ⟨hn, hh, ha, hs⟩ => ⟨hn, hh, ha, hs⟩⟩

instance : DecidablePred IsEntryName := fun _ => decidable_of_iff' _ isEntryName_iff

/-- Without a backslash it is a single name of a path. -/
theorem IsEntryName.isName_iff {name : String} (h : IsEntryName name) : IsName name.toList ↔ '\\' ∉ name.toList := by
  have hne : ∀ other : String, name ≠ other → name.toList ≠ other.toList :=
    fun other hother he => hother (String.toList_injective he)
  constructor
  · intro hname hm
    exact absurd (hname.unbroken _ hm) (by decide)
  · intro hback
    refine ⟨hne "" h.nonempty, hne "." h.ne_here, hne ".." h.ne_above, ?_⟩
    intro c hc
    have hslash : c ≠ '/' := fun he => h.noSlash (he ▸ hc)
    have hother : c ≠ '\\' := fun he => hback (he ▸ hc)
    simp [Path.isSeparator, hslash, hother]

/-- Paths that are what directly lies in a directory under some names: one path for each name, in ascending order and
so without repetition, each below the directory, with the directory as its parent and one of the names as its base
name. -/
structure ListsDirectly (full : String) (names children : List String) : Prop where
  count : children.length = names.length
  sorted : children.Pairwise (· < ·)
  direct : ∀ c ∈ children, Within full c ∧ c ≠ full ∧ Path.parent c = full ∧ Path.baseName c ∈ names

def childPaths (full : String) (names : List String) : List String := (names.map (Path.join full)).mergeSort

section

variable {full : String} {names children : List String}

theorem childPaths_perm (full : String) (names : List String) :
    (childPaths full names).Perm (names.map (Path.join full)) := List.mergeSort_perm _ _

theorem mem_childPaths {c : String} : c ∈ childPaths full names ↔ ∃ name ∈ names, Path.join full name = c := by
  rw [(childPaths_perm full names).mem_iff, List.mem_map]

theorem length_childPaths (full : String) (names : List String) : (childPaths full names).length = names.length := by
  rw [(childPaths_perm full names).length_eq, List.length_map]

theorem pairwise_childPaths (full : String) (names : List String) : (childPaths full names).Pairwise (· ≤ ·) := by
  have htrans : ∀ a b c : String, decide (a ≤ b) = true → decide (b ≤ c) = true → decide (a ≤ c) = true := by
    simpa using fun a b c => String.le_trans
  have htotal : ∀ a b : String, (decide (a ≤ b) || decide (b ≤ a)) = true := by
    simpa using String.le_total
  rw [childPaths]
  simpa using List.pairwise_mergeSort htrans htotal (names.map (Path.join full))

/-- Names without a backslash are listed as what is directly in the directory. -/
theorem listsDirectly_of_isName (hfull : normalize full = full) (hnodup : names.Nodup)
    (h : ∀ name ∈ names, IsName name.toList) : ListsDirectly full names (childPaths full names) := by
  have hinj : ∀ a ∈ names, ∀ b ∈ names, Path.join full a = Path.join full b → a = b := by
    intro a ha b hb he
    rw [← Path.baseName_join full (h a ha), he, Path.baseName_join full (h b hb)]
  have hpaths : (childPaths full names).Nodup :=
    (childPaths_perm full names).nodup_iff.mpr (hnodup.map_on hinj)
  constructor
  · exact length_childPaths full names
  · refine ((pairwise_childPaths full names).and hpaths).imp ?_
    intro a b hab
    exact Table.lt_of_not_lt_of_ne (String.not_lt.mpr hab.1) hab.2.symm
  · intro c hc
    obtain ⟨name, hname, rfl⟩ := mem_childPaths.mp hc
    have hbelow := Path.isAncestor_join hfull (h name hname)
    refine ⟨hbelow.within (Path.normalize_join full name), hbelow.ne.symm, Path.parent_join hfull (h name hname), ?_⟩
    rwa [Path.baseName_join full (h name hname)]

theorem ListsDirectly.ne_root (h : ListsDirectly full names children) {c : String} (hc : c ∈ children) : c ≠ "/" := by
  obtain ⟨_, hne, hparent, _⟩ := h.direct c hc
  rintro rfl
  exact hne hparent

/-- Every name is the base name of a path, since there are as many paths as names, and paths with one parent and one
base name are the same. -/
theorem ListsDirectly.exists_baseName (h : ListsDirectly full names children) {name : String}
    (hname : name ∈ names) : ∃ c ∈ children, Path.baseName c = name := by
  have hinj : ∀ a ∈ children, ∀ b ∈ children, Path.baseName a = Path.baseName b → a = b := by
    intro a ha b hb he
    rw [← Path.join_parent_baseName (h.direct a ha).1.canonical (h.ne_root ha),
      ← Path.join_parent_baseName (h.direct b hb).1.canonical (h.ne_root hb), he,
      (h.direct a ha).2.2.1, (h.direct b hb).2.2.1]
  have hnodup : (children.map Path.baseName).Nodup := h.sorted.nodup.map_on hinj
  have hsub : children.map Path.baseName ⊆ names := by
    intro base hbase
    obtain ⟨c, hc, rfl⟩ := List.mem_map.mp hbase
    exact (h.direct c hc).2.2.2
  have hperm : (children.map Path.baseName).Perm names :=
    (hnodup.subperm hsub).perm_of_length_le (by simp [h.count])
  exact List.mem_map.mp (hperm.mem_iff.mpr hname)

/-- Names are listed as what is directly in a directory exactly if none of them has a backslash in it. -/
theorem listsDirectly_childPaths_iff (hfull : normalize full = full) (hnames : ∀ name ∈ names, IsEntryName name)
    (hnodup : names.Nodup) :
    ListsDirectly full names (childPaths full names) ↔ ∀ name ∈ names, '\\' ∉ name.toList := by
  constructor
  · intro h name hname
    obtain ⟨c, hc, rfl⟩ := h.exists_baseName hname
    exact (hnames _ hname).isName_iff.mp (Path.isName_baseName (h.direct c hc).1.canonical (h.ne_root hc))
  · intro h
    exact listsDirectly_of_isName hfull hnodup fun name hname => (hnames name hname).isName_iff.mpr (h name hname)

end

/-- A call in an action is made at once if nothing interrupts the request, and the action goes on with its outcome. -/
theorem Action.run_attempt_bind {α σ : Type} (client : Client σ) (c : Call) (next : c.Reply → Action α) (s : σ) :
    Work.run (Action.attempt c >>= next).run client .good s =
      Work.run (next (client c s).1).run client .good (client c s).2 := rfl

namespace Store

variable {st : Store} {path full : String} {σ : Type} {client : Client σ} {s s' : σ} {found : List FileStatus}

theorem run_list (hr : st.options.resolve path = .ok full) (hc : client (.entries full) s = (.ok found, s')) :
    Work.run (st.list path).run client .good s = (.ok (childPaths full (found.map (·.name))), s') := by
  rw [list, resolve_bind_ok hr, Action.run_attempt_bind, hc, childPaths, List.map_map]
  rfl

/-- A listing gives one path for each entry, in ascending order, whatever client replies and whatever it names the
entries. These paths are what is directly in the directory, with a single name each and none of them twice, exactly
if there is no backslash in a name. -/
theorem list_direct_iff (hr : st.options.resolve path = .ok full)
    (hc : client (.entries full) s = (.ok found, s')) (hnames : ∀ e ∈ found, IsEntryName e.name)
    (hnodup : (found.map (·.name)).Nodup) :
    ∃ children, Work.run (st.list path).run client .good s = (.ok children, s') ∧
      children.length = found.length ∧ children.Pairwise (· ≤ ·) ∧
      (ListsDirectly full (found.map (·.name)) children ↔ ∀ e ∈ found, '\\' ∉ e.name.toList) := by
  have hentries : ∀ name ∈ found.map (·.name), IsEntryName name := by simpa using hnames
  refine ⟨childPaths full (found.map (·.name)), run_list hr hc, ?_, pairwise_childPaths _ _, ?_⟩
  · rw [length_childPaths, List.length_map]
  · rw [listsDirectly_childPaths_iff (Options.normalize_of_resolve hr) hentries hnodup]
    simp

end Store

def FileStatus.emptyFile (name : String) : FileStatus := ⟨name, 0, .present, false⟩

/-- A client that finds empty files of the given names in every directory, and nothing anywhere else. -/
def Client.ofNames (names : List String) : Client Unit
  | .entries _, _ => (.ok (names.map .emptyFile), ())
  | _, _ => (.error (.notFound ""), ())

/-- Blanks and dots in a name do no harm. -/
theorem Store.list_direct_iff_dotted :
    Options.sample.resolve "/" = .ok "/tmp/hdfs-registry" ∧
      (∀ e ∈ ["a b", "..."].map FileStatus.emptyFile, IsEntryName e.name) ∧
      ((["a b", "..."].map FileStatus.emptyFile).map (·.name)).Nodup ∧
      ∃ children, Work.run (Store.list ⟨Options.sample⟩ "/").run (Client.ofNames ["a b", "..."]) .good () =
          (.ok children, ()) ∧ ListsDirectly "/tmp/hdfs-registry" ["a b", "..."] children := by
  have hr : Options.sample.resolve "/" = .ok "/tmp/hdfs-registry" := rfl
  have hnames : ∀ e ∈ ["a b", "..."].map FileStatus.emptyFile, IsEntryName e.name := by decide
  have hnodup : ((["a b", "..."].map FileStatus.emptyFile).map (·.name)).Nodup := by decide
  obtain ⟨children, hrun, _, _, hdirect⟩ :=
    @list_direct_iff ⟨Options.sample⟩ "/" _ Unit (Client.ofNames ["a b", "..."]) () () _ hr rfl hnames hnodup
  exact ⟨hr, hnames, hnodup, children, hrun, hdirect.mpr (by decide)⟩

/-- Two files of different names are listed under the same path, if a backslash at the end is all that tells the names
apart. -/
theorem Store.exists_listed_twice :
    ¬ ∀ (st : Store) (path full : String) (client : Client Unit) (found : List FileStatus),
        st.options.resolve path = .ok full → client (.entries full) () = (.ok found, ()) →
          (∀ e ∈ found, IsEntryName e.name) → (found.map (·.name)).Nodup →
            ∃ children, Work.run (st.list path).run client .good () = (.ok children, ()) ∧
              ListsDirectly full (found.map (·.name)) children := by
  intro hclaim
  have hr : (Store.mk Options.sample).options.resolve "/" = .ok "/tmp/hdfs-registry" := rfl
  have hc : Client.ofNames ["x", "x\\"] (.entries "/tmp/hdfs-registry") () =
      (.ok (["x", "x\\"].map .emptyFile), ()) := rfl
  obtain ⟨children, hrun, hdirect⟩ := hclaim _ "/" _ _ _ hr hc (by decide) (by decide)
  obtain rfl : childPaths "/tmp/hdfs-registry" ["x", "x\\"] = children :=
    Except.ok.inj (congrArg Prod.fst ((run_list hr hc).symm.trans hrun))
  have htwice : ["x", "x\\"].map (Path.join "/tmp/hdfs-registry") =
      ["/tmp/hdfs-registry/x", "/tmp/hdfs-registry/x"] := by decide
  have hnodup : (childPaths "/tmp/hdfs-registry" ["x", "x\\"]).Nodup := hdirect.sorted.nodup
  rw [(childPaths_perm _ _).nodup_iff, htwice] at hnodup
  exact absurd hnodup (by decide)

end RootedStore
