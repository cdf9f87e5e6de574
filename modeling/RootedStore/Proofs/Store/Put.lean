import RootedStore.Proofs.Effects
import RootedStore.Proofs.Store.Alone

/-!
# Storing content as a whole

Content is stored by up to six calls. In a tree none of them can fail after another one has changed
something: provisioning meets a file before it creates anything, and what was removed can be created anew.
So an object is stored exactly, or nothing has happened.
-/
namespace RootedStore

open Namespace (IsTree IsDirAt IsFileAt IsOccupied makeEach serve)
open RootedStore.Path (IsAncestor normalize)

namespace Namespace

variable {nodes : Table Node}

theorem serve_status {space : Namespace} {path : String} {node : Node} (hn : space.node? path = some node) :
    serve (.status path) space = (.ok (node.status path), space) := by
  simp only [serve, hn]

theorem serve_status_missing {space : Namespace} {path : String} (hn : space.node? path = none) :
    serve (.status path) space = (.error (.notFound path), space) := by
  simp only [serve, hn]

theorem serve_create {path : String} (hfree : nodes.find? path = none)
    (hd : IsDirAt nodes (Path.parent path)) :
    serve (.create path) ⟨nodes, []⟩ = (.ok ⟨path, false⟩, ⟨nodes.insert path (.file [] .present), []⟩) := by
  obtain ⟨mode, modified, hd⟩ := hd
  have hc : nodes.contains path = false := Table.contains_eq_false.mpr hfree
  simp [serve, create, hc, hd, apply]

/-- Removing fails for a directory with something in it, and leaves a free place in a directory otherwise. -/
theorem IsTree.serve_remove (h : IsTree nodes) {path : String} {node : Node} (hn : nodes.find? path = some node) :
    (IsDirAt nodes path ∧ IsOccupied nodes path) ∧ (∃ e, serve (.remove path) ⟨nodes, []⟩ = (.error e, ⟨nodes, []⟩)) ∨
      ¬ (IsDirAt nodes path ∧ IsOccupied nodes path) ∧
        serve (.remove path) ⟨nodes, []⟩ = (.ok (), ⟨nodes.erase path, []⟩) ∧
        IsDirAt (nodes.erase path) (Path.parent path) := by
  have hcontains : nodes.contains path = true := Table.contains_eq_true.mpr ⟨node, hn⟩
  rw [← h.refuses_remove_iff hn]
  by_cases hrefused : path = "/" ∨ 1 < (subtree nodes path).length
  · refine .inl ⟨hrefused, .exception "PathIsNotEmptyDirectoryException" (path ++ " is non empty"), ?_⟩
    simp [serve, remove, hcontains, hrefused, apply]
  · have hroot : path ≠ "/" := fun he => hrefused (.inl he)
    obtain ⟨mode, modified, hd⟩ := h.parent path node hn hroot
    have hne : Path.parent path ≠ path := (Path.isAncestor_parent (h.canonical path node hn) hroot).ne
    refine .inr ⟨hrefused, ?_, mode, modified, by rw [Table.find?_erase, if_neg hne, hd]⟩
    simp only [serve, remove, hcontains, Bool.not_true, Bool.false_eq_true, if_false, if_neg hrefused, apply]

/-- When content can be stored at a path: no file is above it, and it is no directory with something in it. -/
structure IsStorable (nodes : Table Node) (path : String) : Prop where
  clear : ∀ a, IsAncestor a path → ¬ IsFileAt nodes a
  place : ¬ (IsDirAt nodes path ∧ IsOccupied nodes path)

theorem serve_write {path : String} {content data : Bytes} {modified : Timestamp}
    (hp : nodes.find? path = some (.file content modified)) :
    serve (.write ⟨path, false⟩ data) ⟨nodes, []⟩ =
      (.ok (), ⟨nodes.insert path (.file (content ++ data) .present), []⟩) := by
  simp [serve, write, hp, apply]

end Namespace

namespace Store

variable {st : Store} {nodes : Table Node}

/-- A table with the directories that lead to a path. -/
def provisioned (st : Store) (nodes : Table Node) (full : String) : Table Node :=
  (makeEach st.options.mask nodes (Path.lineage (Path.parent full))).2

theorem alone_makeParents_of_none {full : String}
    (hnone : (makeEach st.options.mask nodes (Path.lineage (Path.parent full))).1 = none) :
    (st.makeParents full).alone ⟨nodes, []⟩ = (.ok (), ⟨st.provisioned nodes full, []⟩) := by
  have hs := Namespace.serve_makeDirs nodes (Path.parent full) st.options.mask
  rw [hnone] at hs
  exact Action.alone_call_ok rfl hs _

/-- The directories that lead to a path are there, or nothing has happened. -/
theorem alone_makeParents (h : IsTree nodes) (full : String) :
    (∃ e, (makeEach st.options.mask nodes (Path.lineage (Path.parent full))).1 ≠ none ∧
        (st.makeParents full).alone ⟨nodes, []⟩ = (.error e, ⟨nodes, []⟩)) ∨
      (makeEach st.options.mask nodes (Path.lineage (Path.parent full))).1 = none ∧
        (st.makeParents full).alone ⟨nodes, []⟩ = (.ok (), ⟨st.provisioned nodes full, []⟩) := by
  rcases (h.makeEach_lineage st.options.mask (Path.parent full)).2 with hnone | hsame
  · exact .inr ⟨hnone, st.alone_makeParents_of_none hnone⟩
  · cases hm : (makeEach st.options.mask nodes (Path.lineage (Path.parent full))).1 with
    | none => exact .inr ⟨rfl, st.alone_makeParents_of_none hm⟩
    | some e =>
      have hs := Namespace.serve_makeDirs nodes (Path.parent full) st.options.mask
      rw [hm, hsame] at hs
      exact .inl ⟨_, nofun, Action.alone_call_error rfl hs _⟩

/-- What opening a session to write anew does once the directories are there. -/
def openAnew (full : String) : Action WriteSession := do
  match ← Action.attempt (.status full) with
  | .ok _ =>
    Action.call full (.remove full)
    let handle ← Action.call full (.create full)
    return .start handle full 0
  | .error (.notFound _) =>
    let handle ← Action.call full (.create full)
    return .start handle full 0
  | .error e => throw (.ofClient driverName full e)

theorem openWriter_eq (st : Store) (path : String) : st.openWriter path false = (do
    let full ← st.resolve path
    st.makeParents full
    openAnew full) := rfl

theorem alone_create {full : String} (hfree : nodes.find? full = none)
    (hd : IsDirAt nodes (Path.parent full)) :
    (Action.call full (.create full) >>= fun handle =>
        (pure (WriteSession.start handle full 0) : Action WriteSession)).alone ⟨nodes, []⟩ =
      (.ok (.start ⟨full, false⟩ full 0), ⟨nodes.insert full (.file [] .present), []⟩) :=
  Action.alone_bind_ok (Action.alone_call_ok rfl (Namespace.serve_create hfree hd) full) _

theorem alone_openAnew_removed {full : String} {node : Node} (hn : nodes.find? full = some node)
    (hs : serve (.remove full) ⟨nodes, []⟩ = (.ok (), ⟨nodes.erase full, []⟩))
    (hd : IsDirAt (nodes.erase full) (Path.parent full)) :
    (openAnew full).alone ⟨nodes, []⟩ =
      (.ok (.start ⟨full, false⟩ full 0), ⟨nodes.insert full (.file [] .present), []⟩) := by
  have hstatus : serve (.status full) ⟨nodes, []⟩ = (.ok (node.status full), ⟨nodes, []⟩) :=
    Namespace.serve_status hn
  have hcreate := alone_create (by simp [Table.find?_erase]) hd
  rw [Table.insert_erase] at hcreate
  exact (Action.alone_bind_ok (Action.alone_attempt rfl hstatus) _).trans
    ((Action.alone_bind_ok (Action.alone_call_ok rfl hs full) _).trans hcreate)

/-- Only a directory with something in it keeps a new file from its place in a directory. -/
theorem alone_openAnew (h : IsTree nodes) {full : String} (hd : IsDirAt nodes (Path.parent full)) :
    (IsDirAt nodes full ∧ IsOccupied nodes full) ∧
        (∃ e, (openAnew full).alone ⟨nodes, []⟩ = (.error e, ⟨nodes, []⟩)) ∨
      ¬ (IsDirAt nodes full ∧ IsOccupied nodes full) ∧ (openAnew full).alone ⟨nodes, []⟩ =
        (.ok (.start ⟨full, false⟩ full 0), ⟨nodes.insert full (.file [] .present), []⟩) := by
  cases hn : nodes.find? full with
  | some node =>
    rcases h.serve_remove hn with ⟨hoccupied, e, hs⟩ | ⟨hvacant, hs, hd⟩
    · have hstatus : serve (.status full) ⟨nodes, []⟩ = (.ok (node.status full), ⟨nodes, []⟩) :=
        Namespace.serve_status hn
      have hremove := Action.alone_call_error rfl hs full
      exact .inl ⟨hoccupied, _, (Action.alone_bind_ok (Action.alone_attempt rfl hstatus) _).trans
        (Action.alone_bind_error hremove _)⟩
    · exact .inr ⟨hvacant, alone_openAnew_removed hn hs hd⟩
  | none =>
    have hvacant : ¬ (IsDirAt nodes full ∧ IsOccupied nodes full) := by
      rintro ⟨⟨mode, modified, hdir⟩, _⟩
      rw [hn] at hdir
      cases hdir
    have hstatus : serve (.status full) ⟨nodes, []⟩ = (.error (.notFound full), ⟨nodes, []⟩) :=
      Namespace.serve_status_missing hn
    have hrest : (openAnew full).alone ⟨nodes, []⟩ = _ :=
      Action.alone_bind_ok (Action.alone_attempt rfl hstatus) _
    rw [hrest]
    exact .inr ⟨hvacant, alone_create hn hd⟩

/-- A directory that is there has all the directories that lead to it. -/
theorem provisioned_of_isDirAt (h : IsTree nodes) {full : String} (hd : IsDirAt nodes full) :
    st.provisioned nodes full = nodes := by
  obtain ⟨mode, modified, hd⟩ := hd
  rw [provisioned, h.makeEach_above hd]

/-- Provisioning leaves a path alone that is no directory, so whether it is one with something in it stays as it was. -/
theorem occupied_provisioned_iff (h : IsTree nodes) {full : String} :
    IsDirAt (st.provisioned nodes full) full ∧ IsOccupied (st.provisioned nodes full) full ↔
      IsDirAt nodes full ∧ IsOccupied nodes full := by
  have hdir : IsDirAt (st.provisioned nodes full) full ↔ IsDirAt nodes full := by
    rw [IsDirAt, IsDirAt, provisioned, Namespace.find?_makeEach_above]
  rw [hdir]
  exact and_congr_right fun hd => by rw [provisioned_of_isDirAt h hd]

/-- A session that writes anew is opened on an empty file where content can be stored, or nothing has happened. -/
theorem alone_openWriter (h : IsTree nodes) (path : String) :
    (∀ full, st.options.resolve path = .ok full → ¬ Namespace.IsStorable nodes full) ∧
        (∃ e, (st.openWriter path false).alone ⟨nodes, []⟩ = (.error e, ⟨nodes, []⟩)) ∨
      ∃ full, st.options.resolve path = .ok full ∧ Namespace.IsStorable nodes full ∧
        (makeEach st.options.mask nodes (Path.lineage (Path.parent full))).1 = none ∧
        (st.openWriter path false).alone ⟨nodes, []⟩ =
          (.ok (.start ⟨full, false⟩ full 0),
            ⟨(st.provisioned nodes full).insert full (.file [] .present), []⟩) := by
  rw [openWriter_eq]
  cases hr : st.options.resolve path with
  | error e =>
    rw [resolve_bind_error hr]
    exact .inl ⟨nofun, e, rfl⟩
  | ok full =>
    rw [resolve_bind_ok hr]
    have hblocked (hnot : ¬ Namespace.IsStorable nodes full) :
        ∀ other, (.ok full : Except StorageError String) = .ok other → ¬ Namespace.IsStorable nodes other := by
      rintro other ⟨⟩
      exact hnot
    rcases st.alone_makeParents h full with ⟨e, hsome, hp⟩ | ⟨hnone, hp⟩
    · refine .inl ⟨hblocked fun hs => hsome (h.makeEach_above_eq_none_iff.mpr hs.clear), e, ?_⟩
      exact Action.alone_bind_error hp _
    rw [Action.alone_bind_ok hp]
    have htree : IsTree (st.provisioned nodes full) :=
      (h.makeEach_lineage st.options.mask (Path.parent full)).1
    have hd : IsDirAt (st.provisioned nodes full) (Path.parent full) :=
      h.isDirAt_parent_makeEach (Options.normalize_of_resolve hr) hnone
    rcases alone_openAnew htree hd with ⟨hoccupied, e, ho⟩ | ⟨hvacant, ho⟩
    · -- what is there has all its directories, so provisioning has changed nothing
      have hoccupied := (occupied_provisioned_iff h).mp hoccupied
      refine .inl ⟨hblocked fun hs => hs.place hoccupied, e, ?_⟩
      rw [ho, provisioned_of_isDirAt h hoccupied.1]
    · have hstorable : Namespace.IsStorable nodes full :=
        ⟨h.makeEach_above_eq_none_iff.mp hnone, mt (occupied_provisioned_iff h).mpr hvacant⟩
      exact .inr ⟨full, rfl, hstorable, hnone, ho⟩

def fill (content : Bytes) (opened : WriteSession) : Action Unit := do
  match ← ExceptT.lift (opened.write content) with
  | (.error e, w) =>
    let _ ← ExceptT.lift w.close
    throw e
  | (.ok _, w) =>
    match ← ExceptT.lift w.commit with
    | (.error e, _) => throw e
    | (.ok _, w) => ExceptT.mk (w.close.bind fun r => .done r.1)

theorem put_eq (st : Store) (path : String) (content : Bytes) :
    st.put path content = st.openWriter path false >>= fill content := rfl

/-- A session on a new empty file takes all the content, and is committed and closed. -/
theorem alone_fill {full : String} {modified : Timestamp} (content : Bytes)
    (hp : nodes.find? full = some (.file [] modified)) :
    (fill content (.start ⟨full, false⟩ full 0)).alone ⟨nodes, []⟩ =
      (.ok (), ⟨nodes.insert full (.file content .present), []⟩) := by
  have hwrite : Work.alone ((WriteSession.start ⟨full, false⟩ full 0).write content) ⟨nodes, []⟩ =
      ((.ok content.length, .start ⟨full, false⟩ full (0 + UInt64.ofNat content.length)),
        ⟨nodes.insert full (.file content .present), []⟩) := by
    have hb := @Work.alone_guarded ⟨nodes, []⟩ rfl (.write ⟨full, false⟩ content)
    rw [Namespace.serve_write hp] at hb
    simp only [WriteSession.start, WriteSession.write, Work.alone_bind, hb]
    rfl
  -- committing and closing call for nothing but to close the handle, which changes nothing
  exact Action.alone_bind_ok (Action.alone_lift hwrite) _

/-- Content is stored as a whole where that is possible, or nothing has happened. -/
theorem alone_put (h : IsTree nodes) (path : String) (content : Bytes) :
    (∀ full, st.options.resolve path = .ok full → ¬ Namespace.IsStorable nodes full) ∧
        (∃ e, (st.put path content).alone ⟨nodes, []⟩ = (.error e, ⟨nodes, []⟩)) ∨
      ∃ full, st.options.resolve path = .ok full ∧ Namespace.IsStorable nodes full ∧
        (makeEach st.options.mask nodes (Path.lineage (Path.parent full))).1 = none ∧
        (st.put path content).alone ⟨nodes, []⟩ =
          (.ok (), ⟨(st.provisioned nodes full).insert full (.file content .present), []⟩) := by
  rw [put_eq]
  rcases st.alone_openWriter h path with ⟨hnot, e, ho⟩ | ⟨full, hr, hstorable, hnone, ho⟩
  · exact .inl ⟨hnot, e, Action.alone_bind_error ho _⟩
  · refine .inr ⟨full, hr, hstorable, hnone, ?_⟩
    have hempty : ((st.provisioned nodes full).insert full (.file [] .present)).find? full =
        some (.file [] .present) := by
      rw [Table.find?_insert, if_pos rfl]
    have hfill := alone_fill content hempty
    rw [Table.insert_insert] at hfill
    exact (Action.alone_bind_ok ho _).trans hfill

variable {full : String}

theorem alone_get {path : String} {content : Bytes} {modified : Timestamp}
    (hr : st.options.resolve path = .ok full) (hp : nodes.find? full = some (.file content modified)) :
    (st.get path).alone ⟨nodes, []⟩ = (.ok content, ⟨nodes, []⟩) := by
  have hs : serve (.content full) ⟨nodes, []⟩ = (.ok content, ⟨nodes, []⟩) := by
    simp only [serve, Namespace.fileAt, hp]
  exact (alone_resolve hr _).trans (Action.alone_call_ok rfl hs full)

theorem alone_stat {path : String} {node : Node} (hr : st.options.resolve path = .ok full)
    (hp : nodes.find? full = some node) :
    (st.stat path).alone ⟨nodes, []⟩ =
      (.ok ⟨full, (node.status full).length, (node.status full).modified, (node.status full).isDir⟩,
        ⟨nodes, []⟩) := by
  have hs : serve (.status full) ⟨nodes, []⟩ = (.ok (node.status full), ⟨nodes, []⟩) := Namespace.serve_status hp
  exact (alone_resolve hr _).trans (Action.alone_bind_ok (Action.alone_call_ok rfl hs full) _)

theorem find?_provisioned_missing (h : IsTree nodes)
    (hnone : (makeEach st.options.mask nodes (Path.lineage (Path.parent full))).1 = none) {key : String}
    (ha : IsAncestor key full) (hk : nodes.find? key = none) :
    (st.provisioned nodes full).find? key = some (.dir st.options.mask .present) := by
  obtain ⟨mode, modified, hd⟩ :=
    Namespace.isDirAt_of_makeEach hnone key (Path.mem_lineage_parent.mpr ⟨ha, h.ne_root hk⟩)
  rcases Namespace.find?_makeEach (Path.lineage (Path.parent full)) key with hf | ⟨_, _, hf⟩
  · rw [hf, hk] at hd
    simp at hd
  · exact hf

theorem find?_provisioned_other {key : String} (hk : IsAncestor key full → nodes.find? key ≠ none) :
    (st.provisioned nodes full).find? key = nodes.find? key := by
  rcases Namespace.find?_makeEach (Path.lineage (Path.parent full)) key with hf | ⟨hn, hm, _⟩
  · exact hf
  · exact absurd hn (hk (Path.mem_lineage_parent.mp hm).1)

/-- The content of one object was stored: it is read back under every name of the object, with its size,
directories that were missing above it have the configured mode, and all else is as before. -/
structure Stored (st : Store) (full : String) (content : Bytes) (old new : Namespace) : Prop where
  get : ∀ path, st.options.resolve path = .ok full → (st.get path).alone new = (.ok content, new)
  stat : ∀ path, st.options.resolve path = .ok full →
    (st.stat path).alone new = (.ok ⟨full, UInt64.ofNat content.length, .present, false⟩, new)
  provisioned : ∀ key, IsAncestor key full → old.node? key = none →
    new.node? key = some (.dir st.options.mask .present)
  other : ∀ key, key ≠ full → (IsAncestor key full → old.node? key ≠ none) → new.node? key = old.node? key

theorem stored_insert (h : IsTree nodes)
    (hnone : (makeEach st.options.mask nodes (Path.lineage (Path.parent full))).1 = none) (content : Bytes) :
    st.Stored full content ⟨nodes, []⟩
      ⟨(st.provisioned nodes full).insert full (.file content .present), []⟩ := by
  have hfull : ((st.provisioned nodes full).insert full (.file content .present)).find? full =
      some (.file content .present) := by
    rw [Table.find?_insert, if_pos rfl]
  have hother : ∀ key, key ≠ full →
      ((st.provisioned nodes full).insert full (.file content .present)).find? key =
        (st.provisioned nodes full).find? key := by
    intro key hne
    rw [Table.find?_insert, if_neg (Ne.symm hne)]
  constructor
  · intro path hr
    exact alone_get hr hfull
  · intro path hr
    exact alone_stat hr hfull
  · intro key ha hk
    exact (hother key ha.ne).trans (find?_provisioned_missing h hnone ha hk)
  · intro key hne hk
    exact (hother key hne).trans (find?_provisioned_other hk)

end Store

/-- On any namespace that a store gets to, with no failure arranged, content is stored exactly if no file is above the
path and it is no directory with something in it. It is stored as it is then, or an error is reported and nothing has
happened. -/
theorem System.put_exact {st : Store} {space : Namespace} (hs : Reachable st space)
    (hf : space.faults = []) (path : String) (content : Bytes) :
    ((∃ after, (st.put path content).alone space = (.ok (), after)) ↔
      ∃ full, st.options.resolve path = .ok full ∧ Namespace.IsStorable space.nodes full) ∧
    (∀ after, (st.put path content).alone space = (.ok (), after) →
      ∃ full, st.options.resolve path = .ok full ∧ st.Stored full content space after) ∧
    ∀ e after, (st.put path content).alone space = (.error e, after) → after = space := by
  have h : IsTree space.nodes := hs.isTree
  obtain ⟨nodes, faults⟩ := space
  obtain rfl : faults = [] := hf
  rcases st.alone_put h path content with ⟨hnot, e, hp⟩ | ⟨full, hr, hstorable, hnone, hp⟩
  · refine ⟨iff_of_false ?_ fun ⟨full, hr, hs⟩ => hnot full hr hs, ?_, ?_⟩
    · rintro ⟨after, ha⟩
      simp [hp] at ha
    · intro after ha
      simp [hp] at ha
    · intro _ after ha
      exact (congrArg Prod.snd (hp.symm.trans ha)).symm
  · refine ⟨iff_of_true ⟨_, hp⟩ ⟨full, hr, hstorable⟩, ?_, ?_⟩
    · intro after ha
      obtain rfl := congrArg Prod.snd (hp.symm.trans ha)
      exact ⟨full, hr, Store.stored_insert h hnone content⟩
    · intro e after ha
      simp [hp] at ha

/-- The root directory is above every path, and no file. -/
theorem Namespace.not_isFileAt_initial (path : String) : ¬ IsFileAt initial.nodes path := by
  rintro ⟨content, modified, hfile⟩
  simp only [initial, Table.find?_insert, Table.find?_empty] at hfile
  split at hfile <;> cases hfile

/-- An object in a directory that is missing is stored with the directory, and is read back. -/
theorem System.put_exact_initial :
    Reachable ⟨Options.sample⟩ Namespace.initial ∧ Namespace.initial.faults = [] ∧
      Namespace.IsStorable Namespace.initial.nodes "/tmp/hdfs-registry/b/c" ∧
      ∃ after, (Store.put ⟨Options.sample⟩ "b/c" [7]).alone Namespace.initial = (.ok (), after) ∧
        (Store.get ⟨Options.sample⟩ "b/c").alone after = (.ok [7], after) ∧
        after.node? "/tmp/hdfs-registry/b" = some (.dir 0o755 .present) := by
  have hs : Reachable ⟨Options.sample⟩ Namespace.initial := ⟨[], rfl⟩
  have hresolve : Options.sample.resolve "b/c" = .ok "/tmp/hdfs-registry/b/c" := rfl
  have hstorable : Namespace.IsStorable Namespace.initial.nodes "/tmp/hdfs-registry/b/c" := by
    refine ⟨fun a _ => Namespace.not_isFileAt_initial a, ?_⟩
    rintro ⟨⟨mode, modified, hdir⟩, _⟩
    simp [Namespace.initial, Table.find?_insert] at hdir
  obtain ⟨hiff, hstored, _⟩ := @put_exact ⟨Options.sample⟩ Namespace.initial hs rfl "b/c" [7]
  obtain ⟨after, hput⟩ := hiff.mpr ⟨_, hresolve, hstorable⟩
  obtain ⟨full, hfull, hstored⟩ := hstored after hput
  obtain rfl := Except.ok.inj (hresolve.symm.trans hfull)
  have habove : IsAncestor "/tmp/hdfs-registry/b" "/tmp/hdfs-registry/b/c" := ⟨by decide, by decide, by decide⟩
  have hmissing : Namespace.initial.node? "/tmp/hdfs-registry/b" = none := by
    simp [Namespace.node?, Namespace.initial, Table.find?_insert]
  exact ⟨hs, rfl, hstorable, after, hput, hstored.get "b/c" hresolve, hstored.provisioned _ habove hmissing⟩

end RootedStore
