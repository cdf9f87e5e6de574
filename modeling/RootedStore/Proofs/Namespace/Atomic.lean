import RootedStore.Proofs.Namespace.Provision

/-!
# Calls that fail

A call that fails leaves the table as it was. For one that provisions directories this is a property of trees: it
creates one directory after the other and stops at a file, but below a directory that had to be created nothing can
be in the way any more.
-/
namespace RootedStore

open RootedStore.Path (Within normalize lineage)

/-- The paths that are passed on the way from the root to a path, with both ends. -/
def Path.IsOnWay (path key : String) : Prop := normalize key = key ∧ names key <+: names path

theorem Path.isOnWay_iff {path key : String} : IsOnWay path key ↔ key = "/" ∨ key ∈ lineage path := by
  rw [mem_lineage]
  constructor
  · rintro ⟨hc, hp⟩
    by_cases hroot : key = "/"
    · exact .inl hroot
    · exact .inr ⟨hc, hp, hroot⟩
  · rintro (rfl | ⟨hc, hp, _⟩)
    · exact ⟨rfl, List.nil_prefix⟩
    · exact ⟨hc, hp⟩

namespace Namespace

open RootedStore.Path (IsOnWay isOnWay_iff)

variable {ns ns' : Namespace} {nodes : Table Node} {c : Call} {path key : String} {mode : UInt32}

/-- A call that fails leaves the table alone, unless it provisions directories. -/
theorem client_error {e : ClientError} (h : client c ns = (.error e, ns'))
    (hc : ∀ path mode, c ≠ .makeDirs path mode) : ns'.nodes = ns.nodes := by
  have happly : ∀ {α : Type} {a : α} {r : Except ClientError (Table Node)},
      ns.apply a r = (.error e, ns') → ns' = ns := by
    intro α a r hr
    cases r with
    | ok nodes => cases hr
    | error e =>
      cases hr
      rfl
  rw [client] at h
  split at h
  · cases h
    rfl
  · cases c with
    | makeDirs path mode => exact absurd rfl (hc path mode)
    | create | remove | removeTree | rename | write => exact congrArg Namespace.nodes (happly h)
    | status path =>
      simp only [serve] at h
      split at h <;> cases h
      rfl
    | content | openRead | openAppend | entries | close | seek | stream =>
      exact (congrArg (fun p => p.2.nodes) h).symm

theorem IsFileAt.not_isDirAt (hf : IsFileAt nodes path) : ¬ IsDirAt nodes path := by
  obtain ⟨content, modified, hfile⟩ := hf
  rintro ⟨m, changed, hdir⟩
  rw [hfile] at hdir
  cases hdir

/-- A path on the way to which there is a file cannot be provisioned. -/
def notADirectory (path : String) : ClientError :=
  .exception "ParentNotDirectoryException" ("Path is not a directory: " ++ path)

/-- What cannot be provisioned cannot because of a file in the list. -/
theorem exists_file_of_makeEach {paths : List String} {e : ClientError} (h : (makeEach mode nodes paths).1 = some e) :
    ∃ key ∈ paths, IsFileAt nodes key ∧ e = notADirectory key := by
  induction paths generalizing nodes with
  | nil => cases h
  | cons path rest ih =>
    rcases hp : nodes.find? path with _ | ⟨content, modified⟩ | ⟨m, modified⟩
    case some.file =>
      rw [makeEach_file hp] at h
      exact ⟨path, List.mem_cons_self, ⟨content, modified, hp⟩, (Option.some.inj h).symm⟩
    case some.dir =>
      rw [makeEach_dir ⟨m, modified, hp⟩] at h
      obtain ⟨key, hkey, hfile⟩ := ih h
      exact ⟨key, List.mem_cons_of_mem _ hkey, hfile⟩
    case none =>
      rw [makeEach_missing hp] at h
      obtain ⟨key, hkey, ⟨content, modified, hfile⟩, he⟩ := ih h
      -- the directory that was just created is not the file
      have hne : path ≠ key := by
        rintro rfl
        rw [Table.find?_insert, if_pos rfl] at hfile
        cases hfile
      rw [Table.find?_insert, if_neg hne] at hfile
      exact ⟨key, List.mem_cons_of_mem _ hkey, ⟨content, modified, hfile⟩, he⟩

/-- There is at most one file on the way to a path. -/
theorem IsTree.file_unique (h : IsTree nodes) {a b : String} (ha : IsOnWay path a) (hb : IsOnWay path b)
    (hfa : IsFileAt nodes a) (hfb : IsFileAt nodes b) : a = b := by
  obtain ⟨content, modified, hfa⟩ := hfa
  obtain ⟨other, changed, hfb⟩ := hfb
  rcases List.prefix_or_prefix_of_prefix ha.2 hb.2 with hp | hp
  · exact (h.eq_of_within_file hfa rfl hfb ⟨hb.1, hp⟩).symm
  · exact h.eq_of_within_file hfb rfl hfa ⟨ha.1, hp⟩

theorem IsTree.isDirAt_of_isOnWay (h : IsTree nodes) (hnone : (makeEach mode nodes (lineage path)).1 = none)
    (hkey : IsOnWay path key) : IsDirAt (makeEach mode nodes (lineage path)).2 key := by
  rcases isOnWay_iff.mp hkey with rfl | hmem
  · exact isDirAt_makeEach h.root
  · exact isDirAt_of_makeEach hnone key hmem

/-- A file on the way to a path is where provisioning ends, before anything was created. -/
theorem IsTree.makeEach_of_file (h : IsTree nodes) (hkey : IsOnWay path key) (hfile : IsFileAt nodes key) :
    makeEach mode nodes (lineage path) = (some (notADirectory key), nodes) := by
  have hsome : (makeEach mode nodes (lineage path)).1 ≠ none := by
    intro hnone
    obtain ⟨content, modified, hf⟩ := hfile
    have hdir := h.isDirAt_of_isOnWay hnone hkey
    rcases find?_makeEach (lineage path) key with hsame | ⟨hmissing, _⟩
    · exact IsFileAt.not_isDirAt ⟨content, modified, hsame.trans hf⟩ hdir
    · rw [hmissing] at hf
      cases hf
  obtain ⟨e, he⟩ := Option.ne_none_iff_exists'.mp hsome
  obtain ⟨other, hmem, hother, rfl⟩ := exists_file_of_makeEach he
  obtain rfl := h.file_unique hkey (isOnWay_iff.mpr (.inr hmem)) hfile hother
  exact Prod.ext he ((h.makeEach_lineage mode path).2.resolve_left hsome)

/-- What provisioning a path leaves: a tree in which all that is on the way to the path is a directory. What was
missing there has the given mode, and all else is as it was, in particular the mode of what was there already. -/
structure Provided (path : String) (mode : UInt32) (old new : Table Node) : Prop where
  tree : IsTree new
  directories : ∀ key, IsOnWay path key → IsDirAt new key
  created : ∀ key, IsOnWay path key → old.find? key = none → new.find? key = some (.dir mode .present)
  kept : ∀ key node, old.find? key = some node → new.find? key = some node
  other : ∀ key, ¬ IsOnWay path key → new.find? key = old.find? key

/-- Without a file on the way the path is provisioned. -/
theorem IsTree.provided_of_no_file (h : IsTree nodes) (mode : UInt32)
    (hclear : ∀ key, IsOnWay path key → ¬ IsFileAt nodes key) :
    ∃ new, makeEach mode nodes (lineage path) = (none, new) ∧ Provided path mode nodes new := by
  have hnone : (makeEach mode nodes (lineage path)).1 = none := by
    refine makeEach_of_no_file fun key hkey node hnode => ?_
    cases node with
    | dir m modified => rfl
    | file content modified =>
      exact absurd ⟨content, modified, hnode⟩ (hclear key (isOnWay_iff.mpr (.inr hkey)))
  refine ⟨(makeEach mode nodes (lineage path)).2, Prod.ext hnone rfl, (h.makeEach_lineage mode path).1, ?_, ?_, ?_, ?_⟩
  · exact fun key hkey => h.isDirAt_of_isOnWay hnone hkey
  · intro key hkey hmissing
    rcases find?_makeEach (lineage path) key with hsame | ⟨_, _, hcreated⟩
    · obtain ⟨m, modified, hdir⟩ := h.isDirAt_of_isOnWay hnone hkey
      rw [hsame, hmissing] at hdir
      cases hdir
    · exact hcreated
  · intro key node hnode
    rcases find?_makeEach (lineage path) key with hsame | ⟨hmissing, _⟩
    · exact hsame.trans hnode
    · rw [hmissing] at hnode
      cases hnode
  · intro key hkey
    rcases find?_makeEach (lineage path) key with hsame | ⟨_, hmem, _⟩
    · exact hsame
    · exact absurd (isOnWay_iff.mpr (.inr hmem)) hkey

theorem client_makeDirs (hf : .makeDirs ∉ ns.faults) (path : String) (mode : UInt32) :
    client (.makeDirs path mode) ns = ((makeEach mode ns.nodes (lineage path)).1.elim (.ok ()) .error,
      { ns with nodes := (makeEach mode ns.nodes (lineage path)).2 }) := by
  have hserve : client (.makeDirs path mode) ns = serve (.makeDirs path mode) ns := by
    simp [client, Call.kind?, Option.filter, hf]
  rw [hserve]
  simp only [serve]
  split <;> rename_i h <;> rw [h] <;> rfl

theorem IsTree.client_makeDirs_of_file (h : IsTree ns.nodes) (hf : .makeDirs ∉ ns.faults) (mode : UInt32)
    (hkey : IsOnWay path key) (hfile : IsFileAt ns.nodes key) :
    client (.makeDirs path mode) ns = (.error (notADirectory key), ns) := by
  rw [client_makeDirs hf, h.makeEach_of_file hkey hfile]
  rfl

theorem IsTree.client_makeDirs_of_no_file (h : IsTree ns.nodes) (hf : .makeDirs ∉ ns.faults) (mode : UInt32)
    (hclear : ∀ key, IsOnWay path key → ¬ IsFileAt ns.nodes key) :
    ∃ new, client (.makeDirs path mode) ns = (.ok (), { ns with nodes := new }) ∧
      Provided path mode ns.nodes new := by
  obtain ⟨new, hnew, hprovided⟩ := h.provided_of_no_file mode hclear
  refine ⟨new, ?_, hprovided⟩
  rw [client_makeDirs hf, hnew]
  rfl

/-- In a tree, provisioning that fails leaves the table alone as well. -/
theorem IsTree.nodes_of_makeDirs_error (h : IsTree ns.nodes) {e : ClientError}
    (he : client (.makeDirs path mode) ns = (.error e, ns')) : ns'.nodes = ns.nodes := by
  by_cases hf : CallKind.makeDirs ∈ ns.faults
  · have hinjected : (client (.makeDirs path mode) ns).2.nodes = ns.nodes := by
      simp [client, Call.kind?, Option.filter, hf]
    rwa [he] at hinjected
  · by_cases hblocked : ∃ key, IsOnWay path key ∧ IsFileAt ns.nodes key
    · obtain ⟨key, hkey, hfile⟩ := hblocked
      rw [h.client_makeDirs_of_file hf mode hkey hfile] at he
      cases he
      rfl
    · obtain ⟨new, hnew, _⟩ :=
        h.client_makeDirs_of_no_file hf mode fun key hkey hfile => hblocked ⟨key, hkey, hfile⟩
      rw [hnew] at he
      cases he

/-- A call that fails leaves the table as it was. Provisioning a path fails, unless it was arranged to, exactly if
there is a file on the way, which it reports; otherwise all of the way is there afterwards. -/
theorem client_atomic (h : IsTree ns.nodes) :
    (∀ (c : Call) (e : ClientError), (client c ns).1 = .error e → (client c ns).2.nodes = ns.nodes) ∧
      ∀ path mode, .makeDirs ∉ ns.faults →
        (∀ key, IsOnWay path key → IsFileAt ns.nodes key →
          client (.makeDirs path mode) ns = (.error (notADirectory key), ns)) ∧
        ((∀ key, IsOnWay path key → ¬ IsFileAt ns.nodes key) →
          ∃ new, client (.makeDirs path mode) ns = (.ok (), { ns with nodes := new }) ∧
            Provided path mode ns.nodes new) := by
  constructor
  · intro c e he
    have hreply : client c ns = (.error e, (client c ns).2) := Prod.ext he rfl
    by_cases hc : ∃ path mode, c = .makeDirs path mode
    · obtain ⟨path, mode, rfl⟩ := hc
      exact h.nodes_of_makeDirs_error hreply
    · exact client_error hreply fun path mode heq => hc ⟨path, mode, heq⟩
  · intro path mode hf
    exact ⟨fun key => h.client_makeDirs_of_file hf mode, h.client_makeDirs_of_no_file hf mode⟩

/-- A file in the root. -/
def withFile : Namespace := ⟨initial.nodes.insert "/a" (.file [7] .present), []⟩

theorem isTree_withFile : IsTree withFile.nodes := by
  refine isTree_initial.insert rfl (fun _ => isTree_initial.root) ?_
  rintro ⟨m, modified, hdir⟩
  rw [initial, Table.find?_insert, if_neg (by decide)] at hdir
  cases hdir

/-- A file stops what is provisioned below it, and nothing that is provisioned beside it. -/
theorem client_atomic_withFile :
    IsTree withFile.nodes ∧ CallKind.makeDirs ∉ withFile.faults ∧ IsOnWay "/a/b" "/a" ∧ IsFileAt withFile.nodes "/a" ∧
      client (.makeDirs "/a/b" 0o700) withFile = (.error (notADirectory "/a"), withFile) ∧
      (client (.makeDirs "/a/b" 0o700) withFile).2.nodes = withFile.nodes ∧
      (∀ key, IsOnWay "/b/c" key → ¬ IsFileAt withFile.nodes key) ∧
      ∃ new, client (.makeDirs "/b/c" 0o700) withFile = (.ok (), ⟨new, []⟩) ∧
        Provided "/b/c" 0o700 withFile.nodes new := by
  have hf : CallKind.makeDirs ∉ withFile.faults := List.not_mem_nil
  have hway : IsOnWay "/a/b" "/a" := ⟨rfl, by decide⟩
  have hfile : IsFileAt withFile.nodes "/a" := ⟨[7], .present, by simp [withFile, Table.find?_insert]⟩
  have hclear : ∀ key, IsOnWay "/b/c" key → ¬ IsFileAt withFile.nodes key := by
    rintro key hkey ⟨content, modified, hnode⟩
    simp only [withFile, initial, Table.find?_insert, Table.find?_empty] at hnode
    split at hnode
    · rename_i he
      subst he
      exact absurd hkey.2 (by decide)
    · split at hnode <;> cases hnode
  obtain ⟨hfails, hprovides⟩ := client_atomic isTree_withFile
  have hblocked := (hprovides "/a/b" 0o700 hf).1 "/a" hway hfile
  exact ⟨isTree_withFile, hf, hway, hfile, hblocked, hfails _ _ (congrArg Prod.fst hblocked), hclear,
    (hprovides "/b/c" 0o700 hf).2 hclear⟩

end Namespace

end RootedStore
