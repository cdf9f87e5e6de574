import RootedStore.Proofs.Store.Put

/-!
# Moving a subtree

A move provisions the directories above its target and renames. Provisioning cannot fail after it has created
something, and what it creates is neither the source nor below it, unless the target is. So whether the move
succeeds can be read from the namespace before it, and afterwards the subtree of the source is found at the
target, with nothing else changed but for new directories above the target.
-/
namespace RootedStore

open Namespace (CanMove IsTree IsDirAt IsFileAt makeEach rebaseAll rename serve subtree)
open RootedStore.Path (IsAncestor IsName Within names ofNames normalize)

namespace Namespace

variable {nodes : Table Node} {source target : String}

/-- When what is at a path can be given another one: it is there, no file is above the target, and the target is
the path itself, or is not inside of it and is free or holds one file in the place of which another one is put. -/
structure IsMovable (nodes : Table Node) (source target : String) : Prop where
  present : ∃ node, nodes.find? source = some node
  clear : ∀ a, IsAncestor a target → ¬ IsFileAt nodes a
  place : target = source ∨
    ¬ Within source target ∧ (nodes.find? target = none ∨ IsFileAt nodes target ∧ IsFileAt nodes source)

theorem isFileAt_iff {path : String} {node : Node} (h : nodes.find? path = some node) :
    IsFileAt nodes path ↔ node.isDir = false := by
  cases node with
  | dir mode modified => simp [IsFileAt, h, Node.isDir]
  | file content modified => simp [IsFileAt, h, Node.isDir]

end Namespace

namespace Store

variable {st : Store} {nodes nodes' : Table Node} {fromPath toPath : String}

section tree

variable (h : IsTree nodes) (hfrom : normalize fromPath = fromPath) (hto : normalize toPath = toPath)

include hto in
/-- Provisioning above a target leaves alone what is not above the target, such as a source that the target is
not inside of. -/
theorem find?_provisioned_of_within (hout : ¬ Within fromPath toPath) {key : String} (hw : Within fromPath key) :
    (st.provisioned nodes toPath).find? key = nodes.find? key :=
  find?_provisioned_other fun ha => absurd (hw.trans (ha.within hto)) hout

include h hfrom hto in
/-- Once the directories are there, the rest of a move succeeds if the namespace before it allows it. -/
theorem rename_provisioned_iff
    (hnone : (makeEach st.options.mask nodes (Path.lineage (Path.parent toPath))).1 = none) :
    (∃ nodes', rename (st.provisioned nodes toPath) fromPath toPath = .ok nodes') ↔
      Namespace.IsMovable nodes fromPath toPath := by
  have hself : (st.provisioned nodes toPath).find? toPath = nodes.find? toPath :=
    Namespace.find?_makeEach_above toPath
  have hsource : ¬ Within fromPath toPath → (st.provisioned nodes toPath).find? fromPath = nodes.find? fromPath :=
    fun hout => find?_provisioned_of_within hto hout (Within.refl hfrom)
  have hclear := h.makeEach_above_eq_none_iff.mp hnone
  constructor
  · rintro ⟨nodes', hr⟩
    obtain ⟨moved, hmoved, ⟨rfl, _⟩ | ⟨_, hu, _, hfree, _⟩⟩ := Namespace.rename_eq_ok_iff.mp hr
    · exact ⟨⟨moved, hself ▸ hmoved⟩, hclear, .inl rfl⟩
    · have hout : ¬ Within fromPath toPath := by
        intro hw
        rw [(Path.isUnder_iff_within hto hfrom).mpr hw] at hu
        cases hu
      rw [hsource hout] at hmoved
      refine ⟨⟨moved, hmoved⟩, hclear, .inr ⟨hout, ?_⟩⟩
      cases ht : nodes.find? toPath with
      | none => exact .inl rfl
      | some node =>
        obtain ⟨hnode, hdir⟩ := hfree node (hself.trans ht)
        exact .inr ⟨(Namespace.isFileAt_iff ht).mpr hnode, (Namespace.isFileAt_iff hmoved).mpr hdir⟩
  · rintro ⟨⟨moved, hmoved⟩, _, rfl | ⟨hout, hplace⟩⟩
    · exact ⟨_, Namespace.rename_eq_ok_iff.mpr ⟨moved, hself.trans hmoved, .inl ⟨rfl, rfl⟩⟩⟩
    · have hne : fromPath ≠ toPath := by
        rintro rfl
        exact hout (Within.refl hfrom)
      have hu : Path.isUnder toPath fromPath = false := by
        rw [← Bool.not_eq_true, Path.isUnder_iff_within hto hfrom]
        exact hout
      refine ⟨_, Namespace.rename_eq_ok_iff.mpr ⟨moved, (hsource hout).trans hmoved,
        .inr ⟨hne, hu, h.isDirAt_parent_makeEach hto hnone, ?_, rfl⟩⟩⟩
      intro node hnode
      rw [hself] at hnode
      rcases hplace with hfree | ⟨hfile, hmovedFile⟩
      · rw [hfree] at hnode
        cases hnode
      · exact ⟨(Namespace.isFileAt_iff hnode).mp hfile, (Namespace.isFileAt_iff hmoved).mp hmovedFile⟩

end tree

/-- A subtree was moved: everything in it is found below the new path as it was, nothing is left below the old
one, directories that were missing above the new path have the configured mode, and all else is as before. -/
structure Relocated (st : Store) (fromPath toPath : String) (old new : Table Node) : Prop where
  moved : ∀ us, (∀ w ∈ us, IsName w) →
    new.find? (ofNames (names toPath ++ us)) = old.find? (ofNames (names fromPath ++ us))
  left : ∀ key, Within fromPath key → new.find? key = none
  provisioned : ∀ key, IsAncestor key toPath → old.find? key = none →
    new.find? key = some (.dir st.options.mask .present)
  other : ∀ key, ¬ Within fromPath key → ¬ Within toPath key → (IsAncestor key toPath → old.find? key ≠ none) →
    new.find? key = old.find? key

/-- Nothing happened, but that directories that were missing above a path may be there now. -/
def Provisioned (st : Store) (full : String) (old new : Table Node) : Prop :=
  ∀ key, new.find? key = old.find? key ∨
    IsAncestor key full ∧ old.find? key = none ∧ new.find? key = some (.dir st.options.mask .present)

theorem relocated_of_rename (h : IsTree nodes) (hto : normalize toPath = toPath)
    (hnone : (makeEach st.options.mask nodes (Path.lineage (Path.parent toPath))).1 = none)
    (hne : fromPath ≠ toPath) (hr : rename (st.provisioned nodes toPath) fromPath toPath = .ok nodes') :
    st.Relocated fromPath toPath nodes nodes' := by
  have htree : IsTree (st.provisioned nodes toPath) := (h.makeEach_lineage st.options.mask (Path.parent toPath)).1
  obtain ⟨moved, hmoved, ⟨he, _⟩ | ⟨_, hu, hparent, hfree, rfl⟩⟩ := Namespace.rename_eq_ok_iff.mp hr
  · exact absurd he hne
  have hcan := Namespace.canMove_of_renamed hto hmoved hne hu hparent hfree
  have hout := hcan.not_within htree
  have hmove := hcan.moved htree
  constructor
  · intro us hus
    exact (hmove.moved us hus).trans (find?_provisioned_of_within hto hout (Path.within_ofNames_append hus))
  · exact hmove.left
  · intro key ha hk
    have hsource : ¬ Within fromPath key := fun hw => hout (hw.trans (ha.within hto))
    exact (hmove.other key hsource ha.not_within).trans (find?_provisioned_missing h hnone ha hk)
  · intro key hs ht hk
    exact (hmove.other key hs ht).trans (find?_provisioned_other hk)

theorem provisioned_of_makeEach : st.Provisioned toPath nodes (st.provisioned nodes toPath) := by
  intro key
  rcases Namespace.find?_makeEach (Path.lineage (Path.parent toPath)) key with hf | ⟨hn, hm, hf⟩
  · exact .inl hf
  · exact .inr ⟨(Path.mem_lineage_parent.mp hm).1, hn, hf⟩

theorem alone_rename_error {e : ClientError} (hr : rename nodes fromPath toPath = .error e) :
    (Action.call fromPath (.rename fromPath toPath)).alone ⟨nodes, []⟩ =
      (.error (.ofClient driverName fromPath e), ⟨nodes, []⟩) := by
  have hs : serve (.rename fromPath toPath) ⟨nodes, []⟩ = (.error e, ⟨nodes, []⟩) := by
    simp only [serve, hr, Namespace.apply]
  exact Action.alone_call_error rfl hs fromPath

theorem alone_rename_ok (hr : rename nodes fromPath toPath = .ok nodes') :
    (Action.call fromPath (.rename fromPath toPath)).alone ⟨nodes, []⟩ = (.ok (), ⟨nodes', []⟩) := by
  have hs : serve (.rename fromPath toPath) ⟨nodes, []⟩ = (.ok (), ⟨nodes', []⟩) := by
    simp only [serve, hr, Namespace.apply]
  exact Action.alone_call_ok rfl hs fromPath

section run

variable {source target : String} (hsource : st.options.resolve source = .ok fromPath)
  (htarget : st.options.resolve target = .ok toPath)
include hsource htarget

theorem alone_move_eq : (st.move source target).alone ⟨nodes, []⟩ =
    (st.makeParents toPath >>= fun _ => Action.call fromPath (.rename fromPath toPath)).alone ⟨nodes, []⟩ :=
  (alone_resolve hsource _).trans (alone_resolve htarget _)

/-- Once the directories above the target are there, a move ends as the renaming does. -/
theorem alone_move_of_none (hnone : (makeEach st.options.mask nodes (Path.lineage (Path.parent toPath))).1 = none) :
    (st.move source target).alone ⟨nodes, []⟩ =
      (Action.call fromPath (.rename fromPath toPath)).alone ⟨st.provisioned nodes toPath, []⟩ :=
  (alone_move_eq hsource htarget).trans (Action.alone_bind_ok (st.alone_makeParents_of_none hnone) _)

/-- A move ends before anything has happened if the directories above the target cannot be provisioned, and as the
renaming does otherwise. -/
theorem alone_move (h : IsTree nodes) :
    ((makeEach st.options.mask nodes (Path.lineage (Path.parent toPath))).1 ≠ none ∧
      ∃ e, (st.move source target).alone ⟨nodes, []⟩ = (.error e, ⟨nodes, []⟩)) ∨
    (makeEach st.options.mask nodes (Path.lineage (Path.parent toPath))).1 = none ∧
      ((∃ failure e, rename (st.provisioned nodes toPath) fromPath toPath = .error failure ∧
          (st.move source target).alone ⟨nodes, []⟩ = (.error e, ⟨st.provisioned nodes toPath, []⟩)) ∨
        ∃ nodes', rename (st.provisioned nodes toPath) fromPath toPath = .ok nodes' ∧
          (st.move source target).alone ⟨nodes, []⟩ = (.ok (), ⟨nodes', []⟩)) := by
  by_cases hnone : (makeEach st.options.mask nodes (Path.lineage (Path.parent toPath))).1 = none
  · refine .inr ⟨hnone, ?_⟩
    rw [alone_move_of_none hsource htarget hnone]
    cases hr : rename (st.provisioned nodes toPath) fromPath toPath with
    | error e => exact .inl ⟨e, _, rfl, alone_rename_error hr⟩
    | ok nodes' => exact .inr ⟨nodes', rfl, alone_rename_ok hr⟩
  · rcases st.alone_makeParents h toPath with ⟨e, _, hp⟩ | ⟨hn, _⟩
    · exact .inl ⟨hnone, e, (alone_move_eq hsource htarget).trans (Action.alone_bind_error hp _)⟩
    · exact absurd hn hnone

end run

end Store

/-- On any namespace that a namenode gets to, with no failure arranged, a move succeeds exactly if what is to be moved
is there, no file is above the target, and the target is the source itself, or is not inside of it and is free or
one file in the place of another. Then the subtree is found at the target and all else is as before, but for new
directories above the target; a move to the same path changes nothing. If it fails no more has happened than that
directories above the target were created. -/
theorem Store.move_exact {st : Store} {space : Namespace} (hs : Namespace.Reached space.nodes)
    (hf : space.faults = []) {source target fromPath toPath : String} (hsource : st.options.resolve source = .ok fromPath)
    (htarget : st.options.resolve target = .ok toPath) :
    ∃ outcome after, (st.move source target).alone space = (outcome, after) ∧
      (outcome = .ok () ↔ Namespace.IsMovable space.nodes fromPath toPath) ∧
      (outcome = .ok () → toPath ≠ fromPath → st.Relocated fromPath toPath space.nodes after.nodes) ∧
      (outcome = .ok () → toPath = fromPath → after = space) ∧
      ∀ e, outcome = .error e → st.Provisioned toPath space.nodes after.nodes := by
  have h : IsTree space.nodes := hs.isTree
  obtain ⟨nodes, faults⟩ := space
  obtain rfl : faults = [] := hf
  have hfrom := Options.normalize_of_resolve hsource
  have hto := Options.normalize_of_resolve htarget
  rcases Store.alone_move hsource htarget h with ⟨hblocked, e, ha⟩ | ⟨hnone, ⟨failure, e, hr, ha⟩ | ⟨nodes', hr, ha⟩⟩
  · refine ⟨_, _, ha, ⟨nofun, fun hm => ?_⟩, nofun, nofun, fun _ _ key => .inl rfl⟩
    exact absurd (h.makeEach_above_eq_none_iff.mpr hm.clear) hblocked
  · have hprovisioned : st.Provisioned toPath nodes (st.provisioned nodes toPath) := Store.provisioned_of_makeEach
    refine ⟨_, _, ha, ⟨nofun, fun hm => ?_⟩, nofun, nofun, ?_⟩
    · obtain ⟨nodes', hok⟩ := (Store.rename_provisioned_iff h hfrom hto hnone).mpr hm
      rw [hr] at hok
      cases hok
    · dsimp only
      exact fun _ _ => hprovisioned
  · have hm := (Store.rename_provisioned_iff h hfrom hto hnone).mp ⟨nodes', hr⟩
    refine ⟨_, _, ha, iff_of_true rfl hm, fun _ hne => Store.relocated_of_rename h hto hnone (Ne.symm hne) hr, ?_, nofun⟩
    rintro _ rfl
    obtain ⟨moved, hmoved⟩ := hm.present
    have hsame : st.provisioned nodes toPath = nodes := by rw [Store.provisioned, h.makeEach_above hmoved]
    obtain ⟨_, _, ⟨_, rfl⟩ | ⟨hne, _⟩⟩ := Namespace.rename_eq_ok_iff.mp hr
    · rw [hsame]
    · exact absurd rfl hne

/-- A namespace in which one file was put. -/
def Namespace.stocked : Namespace := ((Store.put ⟨Options.sample⟩ "b/c" [7]).alone initial).2

theorem Store.move_exact_stocked :
    Namespace.Reached Namespace.stocked.nodes ∧ Namespace.stocked.faults = [] ∧
      Options.sample.resolve "b" = .ok "/tmp/hdfs-registry/b" ∧
      Options.sample.resolve "d/e" = .ok "/tmp/hdfs-registry/d/e" ∧
      ∃ after, (Store.move ⟨Options.sample⟩ "b" "d/e").alone Namespace.stocked = (.ok (), after) ∧
        Store.Relocated ⟨Options.sample⟩ "/tmp/hdfs-registry/b" "/tmp/hdfs-registry/d/e" Namespace.stocked.nodes
          after.nodes := by
  have hinitial : System.Reachable ⟨Options.sample⟩ Namespace.initial := ⟨[], rfl⟩
  have hstocked : System.Reachable ⟨Options.sample⟩ Namespace.stocked :=
    hinitial.request false (.put "b/c" [7]) .good
  have hs : Namespace.Reached Namespace.stocked.nodes := hstocked.reached
  have hf : Namespace.stocked.faults = [] := List.isEmpty_iff.mp (by decide +kernel)
  have hsource : Options.sample.resolve "b" = .ok "/tmp/hdfs-registry/b" := rfl
  have htarget : Options.sample.resolve "d/e" = .ok "/tmp/hdfs-registry/d/e" := rfl
  refine ⟨hs, hf, hsource, htarget, ?_⟩
  obtain ⟨outcome, after, hrun, _, hrelocated, _⟩ :=
    @move_exact ⟨Options.sample⟩ Namespace.stocked hs hf "b" "d/e" _ _ hsource htarget
  have hok : ((Store.move ⟨Options.sample⟩ "b" "d/e").alone Namespace.stocked).1.isOk = true := by decide +kernel
  rw [hrun] at hok
  cases outcome with
  | error e => cases hok
  | ok _ => exact ⟨after, hrun, hrelocated rfl (by decide)⟩

namespace Namespace

variable {nodes : Table Node} {source target : String}

theorem rename_missing (h : nodes.find? source = none) : rename nodes source target = .error (.notFound source) := by
  simp [rename, h]

/-- The report of a directory that was to be moved into itself. -/
def intoItself (source target : String) : ClientError :=
  .exception "IOException" ("Cannot move " ++ source ++ " into its own subtree " ++ target)

theorem rename_inside {node : Node} (h : nodes.find? source = some node) (hne : source ≠ target)
    (hu : Path.isUnder target source = true) : rename nodes source target = .error (intoItself source target) := by
  simp [rename, h, hne, hu, intoItself]

end Namespace

namespace Store

variable {st : Store} {nodes : Table Node} {fromPath toPath : String}

/-- Where nothing is, nothing is after provisioning either, unless it lies above the target. -/
theorem rename_provisioned_missing (hmissing : nodes.find? fromPath = none) (hout : ¬ IsAncestor fromPath toPath) :
    (st.provisioned nodes toPath).find? fromPath = none ∧
      rename (st.provisioned nodes toPath) fromPath toPath = .error (.notFound fromPath) := by
  have hsame : (st.provisioned nodes toPath).find? fromPath = none :=
    (find?_provisioned_other fun ha => absurd ha hout).trans hmissing
  exact ⟨hsame, Namespace.rename_missing hsame⟩

/-- A missing source above the target is a directory once the move looks for it. -/
theorem rename_provisioned_above (h : IsTree nodes) (hto : normalize toPath = toPath)
    (hmissing : nodes.find? fromPath = none) (ha : IsAncestor fromPath toPath)
    (hnone : (makeEach st.options.mask nodes (Path.lineage (Path.parent toPath))).1 = none) :
    (st.provisioned nodes toPath).find? fromPath = some (.dir st.options.mask .present) ∧
      rename (st.provisioned nodes toPath) fromPath toPath = .error (Namespace.intoItself fromPath toPath) := by
  have hmade := find?_provisioned_missing h hnone ha hmissing
  have hu : Path.isUnder toPath fromPath = true := (Path.isUnder_iff_within hto ha.1).mpr (ha.within hto)
  exact ⟨hmade, Namespace.rename_inside hmade ha.ne hu⟩

end Store

/-- Moving what is not there fails, with no file above the target, on any namespace that a namenode gets to, and no
more has happened than that directories above the target were created. The source is reported to be missing, and
still is, unless the target lies below it. Then the source is one of these directories: it is there afterwards, and
the report is that it cannot be moved into itself. -/
theorem Store.move_missing {st : Store} {space : Namespace} (hs : Namespace.Reached space.nodes)
    (hf : space.faults = []) {source target fromPath toPath : String}
    (hsource : st.options.resolve source = .ok fromPath) (htarget : st.options.resolve target = .ok toPath)
    (hmissing : space.node? fromPath = none) (hclear : ∀ a, IsAncestor a toPath → ¬ IsFileAt space.nodes a) :
    ∃ e after, (st.move source target).alone space = (.error e, after) ∧
      st.Provisioned toPath space.nodes after.nodes ∧
      (¬ IsAncestor fromPath toPath → e = .pathNotFound fromPath ∧ after.node? fromPath = none) ∧
      (IsAncestor fromPath toPath → e = .backend driverName (Namespace.intoItself fromPath toPath) ∧
        after.node? fromPath = some (.dir st.options.mask .present)) := by
  have h : IsTree space.nodes := hs.isTree
  obtain ⟨nodes, faults⟩ := space
  obtain rfl : faults = [] := hf
  have hnone : (makeEach st.options.mask nodes (Path.lineage (Path.parent toPath))).1 = none :=
    h.makeEach_above_eq_none_iff.mpr hclear
  have hmove := Store.alone_move_of_none hsource htarget hnone
  have hprovisioned : st.Provisioned toPath nodes (st.provisioned nodes toPath) := Store.provisioned_of_makeEach
  by_cases ha : IsAncestor fromPath toPath
  · obtain ⟨hmade, hr⟩ := Store.rename_provisioned_above h (Options.normalize_of_resolve htarget) hmissing ha hnone
    have hrun := hmove.trans (Store.alone_rename_error hr)
    refine ⟨.backend driverName (Namespace.intoItself fromPath toPath), ⟨st.provisioned nodes toPath, []⟩, hrun, ?_,
      fun hout => absurd ha hout, fun _ => ⟨rfl, ?_⟩⟩
    · dsimp only
      exact hprovisioned
    · dsimp only [Namespace.node?]
      exact hmade
  · obtain ⟨hstill, hr⟩ := st.rename_provisioned_missing hmissing ha
    have hrun := hmove.trans (Store.alone_rename_error hr)
    refine ⟨.pathNotFound fromPath, ⟨st.provisioned nodes toPath, []⟩, hrun, ?_, fun _ => ⟨rfl, ?_⟩,
      fun hin => absurd hin ha⟩
    · dsimp only
      exact hprovisioned
    · dsimp only [Namespace.node?]
      exact hstill

theorem Store.move_missing_initial :
    Namespace.Reached Namespace.initial.nodes ∧ Namespace.initial.faults = [] ∧
      Options.sample.resolve "b" = .ok "/tmp/hdfs-registry/b" ∧
      Options.sample.resolve "bc/d" = .ok "/tmp/hdfs-registry/bc/d" ∧
      Namespace.initial.node? "/tmp/hdfs-registry/b" = none ∧
      (∀ a, IsAncestor a "/tmp/hdfs-registry/bc/d" → ¬ IsFileAt Namespace.initial.nodes a) ∧
      ∃ after, (Store.move ⟨Options.sample⟩ "b" "bc/d").alone Namespace.initial =
          (.error (.pathNotFound "/tmp/hdfs-registry/b"), after) ∧
        after.node? "/tmp/hdfs-registry/b" = none := by
  have hclear : ∀ a, IsAncestor a "/tmp/hdfs-registry/bc/d" → ¬ IsFileAt Namespace.initial.nodes a :=
    fun a _ => Namespace.not_isFileAt_initial a
  refine ⟨.initial, rfl, rfl, rfl, rfl, hclear, ?_⟩
  obtain ⟨e, after, hrun, _, hmissing, _⟩ :=
    @move_missing ⟨Options.sample⟩ Namespace.initial .initial rfl "b" "bc/d" _ _ rfl rfl rfl hclear
  obtain ⟨rfl, hnode⟩ := hmissing fun ha => absurd ha.2.1 (by decide)
  exact ⟨after, hrun, hnode⟩

/-- A move may fail otherwise than with a missing source, and leave a directory where the source was missing. -/
theorem Store.exists_source_made :
    ¬ ∀ (st : Store) (space : Namespace) (source target fromPath toPath : String),
        Namespace.Reached space.nodes → space.faults = [] → st.options.resolve source = .ok fromPath →
          st.options.resolve target = .ok toPath → space.node? fromPath = none →
            (∀ a, IsAncestor a toPath → ¬ IsFileAt space.nodes a) →
              ∃ after, (st.move source target).alone space = (.error (.pathNotFound fromPath), after) ∧
                after.node? fromPath = none := by
  intro hclaim
  obtain ⟨after, hrun, hnode⟩ := hclaim ⟨Options.sample⟩ Namespace.initial "/a" "/a/b" "/tmp/hdfs-registry/a"
    "/tmp/hdfs-registry/a/b" .initial rfl rfl rfl rfl fun a _ => Namespace.not_isFileAt_initial a
  have hmade : ((Store.move ⟨Options.sample⟩ "/a" "/a/b").alone Namespace.initial).2.node? "/tmp/hdfs-registry/a" =
      some (.dir 0o755 .present) := by decide +kernel
  rw [hrun] at hmade
  cases hnode.symm.trans hmade

end RootedStore
