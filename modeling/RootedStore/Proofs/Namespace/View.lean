import RootedStore.Proofs.Store.Apart

/-!
# What a call depends on

A call at some paths depends on what lies within them. Above them it depends on nothing but where directories are
missing, and before anything is put in place these are provisioned. So it gets the same reply from a table in
which others have provisioned some more of them, and both tables still agree in the same way afterwards.
-/
namespace RootedStore

open RootedStore.Path (Within IsAncestor lineage normalize)

namespace Namespace

/-- A table as it would be without others, and as it is seen among others: they differ above the paths only,
where there may be some more directories. -/
structure Sees (mask : UInt32) (paths : String → Prop) (own seen : Table Node) : Prop where
  within : ∀ path, paths path → ∀ key, Within path key → seen.find? key = own.find? key
  above : ∀ path, paths path → ∀ key, IsAncestor key path →
    seen.find? key = own.find? key ∨ own.find? key = none ∧ seen.find? key = some (.dir mask .present)

/-- Two tables that agree within some paths, and outside are left as they were or were provisioned above. -/
structure Tracks (mask : UInt32) (paths : String → Prop) (own seen own' seen' : Table Node) : Prop where
  within : ∀ path, paths path → ∀ key, Within path key → seen'.find? key = own'.find? key
  outside : ∀ key, (∀ path, paths path → ¬ Within path key) →
    own'.find? key = own.find? key ∧ seen'.find? key = seen.find? key ∨
      (∃ path, paths path ∧ IsAncestor key path) ∧
        own'.find? key = some ((own.find? key).getD (.dir mask .present)) ∧
          seen'.find? key = some ((seen.find? key).getD (.dir mask .present))

/-- What two tables make of a change: the same error, or tables that agree within some paths. -/
inductive Alike (paths : String → Prop) : Except ClientError (Table Node) → Except ClientError (Table Node) → Prop where
  | error (e : ClientError) : Alike paths (.error e) (.error e)
  | ok {own seen : Table Node}
      (within : ∀ path, paths path → ∀ key, Within path key → seen.find? key = own.find? key) :
      Alike paths (.ok own) (.ok seen)

variable {mask : UInt32} {paths : String → Prop} {own seen : Table Node} {path key : String}

section

variable (h : Sees mask paths own seen) (hcanonical : ∀ path, paths path → normalize path = path)
include h

theorem Sees.find?_eq (hp : paths path) (hc : normalize path = path) : seen.find? path = own.find? path :=
  h.within path hp path (Within.refl hc)

theorem Sees.contains_eq (hp : paths path) (hc : normalize path = path) : seen.contains path = own.contains path := by
  rw [Table.contains, Table.contains, h.find?_eq hp hc]

/-- Where a caller has provisioned a directory, others see it as well. -/
theorem Sees.find?_parent (hp : paths path) (hc : normalize path = path) (hd : IsDirAt own (Path.parent path)) :
    seen.find? (Path.parent path) = own.find? (Path.parent path) := by
  by_cases hroot : path = "/"
  · rw [hroot] at hp ⊢
    exact h.find?_eq hp rfl
  · rcases h.above path hp _ (Path.isAncestor_parent hc hroot) with heq | ⟨hnone, _⟩
    · exact heq
    · obtain ⟨mode, modified, hd⟩ := hd
      cases hnone.symm.trans hd

variable (hown : IsTree own) (hseen : IsTree seen)
include hown hseen

/-- What is picked within a path is the same in both tables. -/
theorem Sees.filterKeys_eq {p : String → Bool} (hp : paths path)
    (hpick : ∀ key, normalize key = key → p key = true → Within path key) :
    seen.filterKeys p = own.filterKeys p := by
  refine Table.ext_find? fun key => ?_
  simp only [Table.find?_filterKeys]
  split
  · rename_i hkey
    by_cases hc : normalize key = key
    · exact h.within path hp key (hpick key hc hkey)
    · have hnone : ∀ {nodes : Table Node}, IsTree nodes → nodes.find? key = none := by
        intro nodes htree
        cases hf : nodes.find? key with
        | none => rfl
        | some node => exact absurd (htree.canonical key node hf) hc
      rw [hnone hown, hnone hseen]
  · rfl

theorem Sees.subtree_eq (hp : paths path) (hc : normalize path = path) : subtree seen path = subtree own path := by
  have hfilter := h.filterKeys_eq hown hseen (p := (Path.isUnder · path)) hp
    fun key hk hu => (Path.isUnder_iff_within hk hc).mp hu
  have hkeys : ∀ nodes : Table Node, subtree nodes path = (nodes.filterKeys (Path.isUnder · path)).keys := by
    intro nodes
    rw [subtree, Table.keys, Table.keys, Table.filterKeys, List.filter_map]
    rfl
  rw [hkeys, hkeys, hfilter]

theorem Sees.entries_eq (hp : paths path) (hc : normalize path = path) : entries seen path = entries own path := by
  have hfilter := h.filterKeys_eq hown hseen (p := fun key => key ≠ path && Path.parent key = path) hp
    fun key hk hchild => by
      simp only [ne_eq, decide_not, Bool.and_eq_true, Bool.not_eq_true', decide_eq_false_iff_not,
        decide_eq_true_eq] at hchild
      have hne : key ≠ "/" := by
        rintro rfl
        exact hchild.1 hchild.2
      have ha := Path.isAncestor_parent hk hne
      rw [hchild.2] at ha
      exact ha.within hk
  have hlist : ∀ nodes : Table Node,
      nodes.entries.filter (fun e => e.1 ≠ path && Path.parent e.1 = path) =
        (nodes.filterKeys fun key => key ≠ path && Path.parent key = path).entries := fun _ => rfl
  rw [entries, entries, h.find?_eq hp hc, hlist, hlist, hfilter]

theorem Sees.alike_remove (hp : paths path) (hc : normalize path = path) :
    Alike paths (remove own path) (remove seen path) := by
  rw [remove, remove, h.contains_eq hp hc, h.subtree_eq hown hseen hp hc]
  split
  · exact .error _
  · split
    · exact .error _
    · refine .ok fun other ho key hk => ?_
      rw [Table.find?_erase, Table.find?_erase, h.within other ho key hk]

theorem Sees.alike_rebase {source target : String} (hs : paths source) (ht : paths target)
    (hm : CanMove source target own) :
    Alike paths (.ok (rebaseAll source target own (subtree own source)))
      (.ok (rebaseAll source target seen (subtree seen source))) := by
  have hsource := hm.normalize_source hown
  have hm' : CanMove source target seen := by
    refine ⟨?_, hm.canonical, hm.distinct, hm.outside, ?_, ?_⟩
    · rw [h.find?_eq hs hsource]
      exact hm.present
    · rw [IsDirAt, h.find?_parent ht hm.canonical hm.parent]
      exact hm.parent
    · rw [h.find?_eq ht hm.canonical]
      exact hm.free
  have hmoved := hm.moved hown
  have hmoved' := hm'.moved hseen
  refine .ok fun other ho key hk => ?_
  by_cases htarget : Within target key
  · obtain ⟨us, hus, rfl⟩ := htarget.exists_append
    rw [hmoved'.moved us hus, hmoved.moved us hus]
    exact h.within source hs _ (Path.within_ofNames_append hus)
  · by_cases hleft : Within source key
    · rw [hmoved'.left key hleft, hmoved.left key hleft]
    · rw [hmoved'.other key hleft htarget, hmoved.other key hleft htarget]
      exact h.within other ho key hk

theorem Sees.alike_rename {source target : String} (hs : paths source) (ht : paths target)
    (hsource : normalize source = source) (htarget : normalize target = target)
    (hd : IsDirAt own (Path.parent target)) :
    Alike paths (rename own source target) (rename seen source target) := by
  rw [rename, rename, h.find?_eq hs hsource, h.find?_eq ht htarget, h.find?_parent ht htarget hd]
  cases hmoved : own.find? source with
  | none => exact .error _
  | some moved =>
    by_cases hne : source = target
    · simp only [if_pos hne]
      exact .ok h.within
    · by_cases hu : Path.isUnder target source = true
      · simp only [if_neg hne, if_pos hu]
        exact .error _
      · have hfree : (∀ node, own.find? target = some node → node.isDir = false) →
            CanMove source target own := fun hf => ⟨⟨moved, hmoved⟩, htarget, hne, by simpa using hu, hd, hf⟩
        obtain ⟨mode, modified, hparent⟩ := hd
        simp only [if_neg hne, if_neg hu, hparent]
        rcases hplace : own.find? target with _ | ⟨content, changed⟩ | ⟨mode, changed⟩
        · exact h.alike_rebase hown hseen hs ht (hfree (by simp [hplace]))
        · by_cases hdir : moved.isDir = true
          · simp only [if_pos hdir]
            exact .error _
          · simp only [if_neg hdir]
            exact h.alike_rebase hown hseen hs ht (hfree (by simp [hplace, Node.isDir]))
        · exact .error _

end

section

variable (h : Sees mask paths own seen)
include h

theorem Sees.alike_insert (path : String) (node : Node) :
    Alike paths (.ok (own.insert path node)) (.ok (seen.insert path node)) := by
  refine .ok fun other ho key hk => ?_
  rw [Table.find?_insert, Table.find?_insert, h.within other ho key hk]

theorem Sees.alike_create (hp : paths path) (hc : normalize path = path) (hd : IsDirAt own (Path.parent path)) :
    Alike paths (create own path) (create seen path) := by
  rw [create, create, h.contains_eq hp hc, h.find?_parent hp hc hd]
  obtain ⟨mode, modified, hd⟩ := hd
  rw [hd]
  split
  · exact .error _
  · exact h.alike_insert _ _

theorem Sees.alike_removeTree (hp : paths path) (hc : normalize path = path) :
    Alike paths (removeTree own path) (removeTree seen path) := by
  rw [removeTree, removeTree, h.contains_eq hp hc]
  split
  · exact .error _
  · refine .ok fun other ho key hk => ?_
    rw [Table.find?_filterKeys, Table.find?_filterKeys, h.within other ho key hk]

theorem Sees.alike_write {handle : WriteHandle} (hp : paths handle.path)
    (hc : normalize handle.path = handle.path) (data : Bytes) :
    Alike paths (write own handle data) (write seen handle data) := by
  rw [write, write, h.find?_eq hp hc]
  split
  · exact .error _
  · split
    · exact h.alike_insert _ _
    · exact .error _

end

/-- A directory that was provisioned with success is there, as it was or anew. -/
theorem find?_makeEach_of_none {nodes : Table Node} {keys : List String} (hnone : (makeEach mask nodes keys).1 = none)
    (hk : key ∈ keys) :
    (makeEach mask nodes keys).2.find? key = some ((nodes.find? key).getD (.dir mask .present)) := by
  rcases @find?_makeEach nodes mask keys key with hsame | ⟨hmissing, _, hnew⟩
  · obtain ⟨mode, modified, hd⟩ := isDirAt_of_makeEach hnone key hk
    rw [hsame] at hd ⊢
    rw [hd]
    rfl
  · rw [hnew, hmissing]
    rfl

theorem find?_makeEach_of_not_mem {nodes : Table Node} {keys : List String} (hk : key ∉ keys) :
    (makeEach mask nodes keys).2.find? key = nodes.find? key := by
  rcases @find?_makeEach nodes mask keys key with hsame | ⟨_, hmem, _⟩
  · exact hsame
  · exact absurd hmem hk

/-- Whoever sees some more directories is stopped by the same file. -/
theorem makeEach_eq_of_more {keys : List String}
    (h : ∀ key ∈ keys, seen.find? key = own.find? key ∨
      own.find? key = none ∧ seen.find? key = some (.dir mask .present)) :
    (makeEach mask seen keys).1 = (makeEach mask own keys).1 := by
  induction keys generalizing own seen with
  | nil => rfl
  | cons path rest ih =>
    have hrest := fun key hk => h key (List.mem_cons_of_mem path hk)
    -- what is new at the head is the same in both tables, wherever it is new
    have hinsert : ∀ {own' seen' : Table Node},
        (∀ key, own'.find? key = if path = key then some (.dir mask .present) else own.find? key) →
        (∀ key, seen'.find? key = if path = key then some (.dir mask .present) else seen.find? key) →
        (makeEach mask seen' rest).1 = (makeEach mask own' rest).1 := by
      intro own' seen' ho hs
      refine ih fun key hk => ?_
      rw [ho, hs]
      split
      · exact .inl rfl
      · exact hrest key hk
    rcases h path List.mem_cons_self with hsame | ⟨hmissing, hmore⟩
    · rcases hown : own.find? path with _ | ⟨content, modified⟩ | ⟨mode, modified⟩
      · rw [makeEach_missing hown, makeEach_missing (hsame.trans hown)]
        exact hinsert (fun key => Table.find?_insert ..) (fun key => Table.find?_insert ..)
      · rw [makeEach_file hown, makeEach_file (hsame.trans hown)]
      · rw [makeEach_dir ⟨mode, modified, hown⟩, makeEach_dir ⟨mode, modified, hsame.trans hown⟩]
        exact ih hrest
    · rw [makeEach_missing hmissing, makeEach_dir ⟨mask, .present, hmore⟩]
      refine hinsert (fun key => Table.find?_insert ..) fun key => ?_
      split
      · rename_i he
        rw [← he, hmore]
      · rfl

/-- Provisioning above a path gets the same reply, and leaves the same directories where it was asked to. -/
theorem Sees.tracks_makeDirs (h : Sees mask paths own seen) (hown : IsTree own) (hseen : IsTree seen) {full : String}
    (hp : paths full) :
    (makeEach mask seen (lineage (Path.parent full))).1 = (makeEach mask own (lineage (Path.parent full))).1 ∧
      Tracks mask paths own seen (makeEach mask own (lineage (Path.parent full))).2
        (makeEach mask seen (lineage (Path.parent full))).2 := by
  have hreply : (makeEach mask seen (lineage (Path.parent full))).1 = (makeEach mask own (lineage (Path.parent full))).1 :=
    makeEach_eq_of_more fun key hk => h.above full hp key (Path.mem_lineage_parent.mp hk).1
  refine ⟨hreply, ?_⟩
  cases hnone : (makeEach mask own (lineage (Path.parent full))).1 with
  | some e =>
    -- the file that is in the way was there before anything was missing
    rw [(hown.makeEach_lineage mask _).2.resolve_left (by simp [hnone]),
      (hseen.makeEach_lineage mask _).2.resolve_left (by simp [hreply, hnone])]
    exact ⟨h.within, fun key _ => .inl ⟨rfl, rfl⟩⟩
  | none =>
    have hnone' := hreply.trans hnone
    constructor
    · intro path hpath key hk
      by_cases hmem : key ∈ lineage (Path.parent full)
      · rw [find?_makeEach_of_none hnone' hmem, find?_makeEach_of_none hnone hmem, h.within path hpath key hk]
      · rw [find?_makeEach_of_not_mem hmem, find?_makeEach_of_not_mem hmem, h.within path hpath key hk]
    · intro key _
      by_cases hmem : key ∈ lineage (Path.parent full)
      · exact .inr ⟨⟨full, hp, (Path.mem_lineage_parent.mp hmem).1⟩, find?_makeEach_of_none hnone hmem,
          find?_makeEach_of_none hnone' hmem⟩
      · exact .inl ⟨find?_makeEach_of_not_mem hmem, find?_makeEach_of_not_mem hmem⟩

variable {c : Call}

theorem client_of_nil (c : Call) (nodes : Table Node) : client c ⟨nodes, []⟩ = serve c ⟨nodes, []⟩ := by
  have hnone : c.kind?.filter (([] : List CallKind).contains ·) = none := by cases c.kind? <;> rfl
  simp only [client, hnone]

/-- A call leaves no failure where none was arranged. -/
theorem exists_serve (c : Call) (nodes : Table Node) : ∃ r nodes', serve c ⟨nodes, []⟩ = (r, ⟨nodes', []⟩) := by
  rcases serve_change c ⟨nodes, []⟩ with h | ⟨nodes', _, h⟩
  · exact ⟨_, nodes, Prod.ext rfl h⟩
  · exact ⟨_, nodes', Prod.ext rfl h⟩

theorem isTree_serve {nodes : Table Node} (htree : IsTree nodes) (hp : ∀ path ∈ c.placed?, normalize path = path) :
    IsTree (serve c ⟨nodes, []⟩).2.nodes := by
  have hserve : IsTree (client c ⟨nodes, []⟩).2.nodes := isTree_client htree hp
  rwa [client_of_nil] at hserve

/-- What is not touched is as it was. -/
theorem find?_serve {nodes : Table Node} (htree : IsTree nodes) (hp : ∀ path ∈ c.placed?, normalize path = path)
    (hk : ¬ c.Touches key) : (serve c ⟨nodes, []⟩).2.nodes.find? key = nodes.find? key := by
  have hsame : (client c ⟨nodes, []⟩).2.node? key = Namespace.node? ⟨nodes, []⟩ key := node?_client htree hp hk
  rwa [client_of_nil] at hsame

theorem Alike.apply {α : Type} {r r' : Except ClientError (Table Node)} (h : Alike paths r r')
    (hs : Sees mask paths own seen) (a : α) :
    (Namespace.apply ⟨seen, []⟩ a r').1 = (Namespace.apply ⟨own, []⟩ a r).1 ∧
      ∀ path, paths path → ∀ key, Within path key →
        (Namespace.apply ⟨seen, []⟩ a r').2.nodes.find? key = (Namespace.apply ⟨own, []⟩ a r).2.nodes.find? key := by
  cases h with
  | error e => exact ⟨rfl, hs.within⟩
  | ok within => exact ⟨rfl, within⟩

/-- The reply to a call at some paths, and what lies within them afterwards. -/
theorem Sees.serve_within (h : Sees mask paths own seen) (hown : IsTree own) (hseen : IsTree seen)
    (hcanonical : ∀ path, paths path → normalize path = path) (hc : c.IsAt mask paths)
    (hready : ∀ path ∈ c.placed?, IsDirAt own (Path.parent path)) (hd : ∀ path mode, c ≠ .makeDirs path mode) :
    (serve c ⟨seen, []⟩).1 = (serve c ⟨own, []⟩).1 ∧ ∀ path, paths path → ∀ key, Within path key →
      (serve c ⟨seen, []⟩).2.nodes.find? key = (serve c ⟨own, []⟩).2.nodes.find? key := by
  have hfile : ∀ {path}, paths path → fileAt seen path = fileAt own path := by
    intro path hp
    rw [fileAt, fileAt, h.find?_eq hp (hcanonical path hp)]
  cases c with
  | content path | openRead path | openAppend path =>
    refine ⟨?_, h.within⟩
    simp only [serve, hfile hc]
  | create path => exact (h.alike_create hc (hcanonical _ hc) (hready path rfl)).apply h _
  | remove path => exact (h.alike_remove hown hseen hc (hcanonical _ hc)).apply h _
  | removeTree path => exact (h.alike_removeTree hc (hcanonical _ hc)).apply h _
  | rename source target =>
    exact (h.alike_rename hown hseen hc.1 hc.2 (hcanonical _ hc.1) (hcanonical _ hc.2) (hready target rfl)).apply h _
  | write handle data => exact (h.alike_write hc (hcanonical _ hc) data).apply h _
  | status path =>
    have hnode : Namespace.node? ⟨seen, []⟩ path = Namespace.node? ⟨own, []⟩ path := h.find?_eq hc (hcanonical _ hc)
    simp only [serve, hnode]
    split <;> exact ⟨rfl, h.within⟩
  | entries path =>
    refine ⟨?_, h.within⟩
    simp only [serve, h.entries_eq hown hseen hc (hcanonical _ hc)]
  | close | seek => exact ⟨rfl, h.within⟩
  | makeDirs path mode => exact absurd rfl (hd path mode)
  | stream => exact hc.elim

/-- A call at some paths gets the same reply from both tables, and they agree as before afterwards. -/
theorem Sees.serve (h : Sees mask paths own seen) (hown : IsTree own) (hseen : IsTree seen)
    (hcanonical : ∀ path, paths path → normalize path = path) (hc : c.IsAt mask paths)
    (hready : ∀ path ∈ c.placed?, IsDirAt own (Path.parent path)) :
    (serve c ⟨seen, []⟩).1 = (serve c ⟨own, []⟩).1 ∧
      Tracks mask paths own seen (serve c ⟨own, []⟩).2.nodes (serve c ⟨seen, []⟩).2.nodes := by
  by_cases hd : ∃ path mode, c = .makeDirs path mode
  · obtain ⟨path, mode, rfl⟩ := hd
    obtain ⟨rfl, full, hp, rfl⟩ := hc
    obtain ⟨hreply, htracks⟩ := h.tracks_makeDirs hown hseen hp
    rw [serve_makeDirs, serve_makeDirs]
    dsimp only
    exact ⟨by rw [hreply], htracks⟩
  · have hd := fun path mode he => hd ⟨path, mode, he⟩
    obtain ⟨hreply, hwithin⟩ := h.serve_within hown hseen hcanonical hc hready hd
    refine ⟨hreply, hwithin, fun key hout => .inl ?_⟩
    have hplaced := fun path hp => hcanonical path (hc.placed path hp)
    have hk : ¬ c.Touches key := by
      intro hk
      rcases hc.of_touches hcanonical hk with ⟨path, hp, hw⟩ | ⟨⟨path, mode, he⟩, _⟩
      · exact hout path hp hw
      · exact hd path mode he
    exact ⟨find?_serve hown hplaced hk, find?_serve hseen hplaced hk⟩

end Namespace

end RootedStore
