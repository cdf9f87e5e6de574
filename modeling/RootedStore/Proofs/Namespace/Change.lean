import RootedStore.Namespace.Basic

/-!
# What a call changes

Every call leaves the table of a namespace as it was or makes one of six changes to it. A change carries
the conditions under which the call makes it, so what a table keeps through a call is shown by one case
for each of them.
-/
namespace RootedStore

namespace Table

variable {α : Type}

theorem mem_keys {t : Table α} {k : String} : k ∈ t.keys ↔ ∃ v, t.find? k = some v := by
  have h : ∀ es : List (String × α), k ∈ es.map (·.1) ↔ ∃ v, lookup k es = some v := by
    intro es
    induction es with
    | nil => simp [lookup]
    | cons e es ih =>
      obtain ⟨j, v⟩ := e
      by_cases hjk : j = k
      · simp [lookup, hjk]
      · simpa [lookup, hjk, Ne.symm hjk] using ih
  exact h t.entries

theorem pairwise_keys (t : Table α) : t.keys.Pairwise (· < ·) := by
  rw [keys, List.pairwise_map]
  exact t.sorted

theorem contains_eq_true {t : Table α} {k : String} : t.contains k = true ↔ ∃ v, t.find? k = some v :=
  Option.isSome_iff_exists

theorem contains_eq_false {t : Table α} {k : String} : t.contains k = false ↔ t.find? k = none := by
  rw [contains, ← Bool.not_eq_true, Option.not_isSome_iff_eq_none]

theorem insert_insert (t : Table α) (k : String) (v w : α) : (t.insert k v).insert k w = t.insert k w := by
  refine ext_find? fun j => ?_
  simp only [find?_insert]
  split <;> rfl

theorem insert_erase (t : Table α) (k : String) (v : α) : (t.erase k).insert k v = t.insert k v := by
  refine ext_find? fun j => ?_
  simp only [find?_insert, find?_erase]
  grind

end Table

namespace Namespace

/-- Whether there is a directory at a path. -/
def IsDirAt (nodes : Table Node) (path : String) : Prop :=
  ∃ mode modified, nodes.find? path = some (.dir mode modified)

/-- Whether there is a file at a path. -/
def IsFileAt (nodes : Table Node) (path : String) : Prop :=
  ∃ content modified, nodes.find? path = some (.file content modified)

/-- The changes that a call can make to a table. -/
inductive Change : Call → Table Node → Table Node → Prop where
  | created {nodes : Table Node} {path : String} (free : nodes.find? path = none)
      (parent : IsDirAt nodes (Path.parent path)) :
      Change (.create path) nodes (nodes.insert path (.file [] .present))
  | removed {nodes : Table Node} {path : String} (notRoot : path ≠ "/")
      (present : ∃ node, nodes.find? path = some node)
      (empty : (subtree nodes path).length ≤ 1) :
      Change (.remove path) nodes (nodes.erase path)
  | removedTree {nodes : Table Node} {path : String} (present : ∃ node, nodes.find? path = some node) :
      Change (.removeTree path) nodes
        (nodes.filterKeys fun key => key = "/" || !Path.isUnder key path)
  | renamed {nodes : Table Node} {source target : String} {moved : Node}
      (present : nodes.find? source = some moved) (distinct : source ≠ target)
      (outside : Path.isUnder target source = false)
      (parent : IsDirAt nodes (Path.parent target))
      (free : ∀ node, nodes.find? target = some node → node.isDir = false ∧ moved.isDir = false) :
      Change (.rename source target) nodes (rebaseAll source target nodes (subtree nodes source))
  | provisioned {nodes : Table Node} {path : String} {mode : UInt32} :
      Change (.makeDirs path mode) nodes (makeEach mode nodes (Path.lineage path)).2
  | written {nodes : Table Node} {handle : WriteHandle} {data content : Bytes} {modified : Timestamp}
      (present : nodes.find? handle.path = some (.file content modified)) :
      Change (.write handle data) nodes (nodes.insert handle.path (.file (content ++ data) .present))

theorem mem_subtree {nodes : Table Node} {path key : String} :
    key ∈ subtree nodes path ↔ (∃ node, nodes.find? key = some node) ∧ Path.isUnder key path = true := by
  rw [subtree, List.mem_filter, Table.mem_keys]

theorem change_of_create {nodes nodes' : Table Node} {path : String}
    (h : create nodes path = .ok nodes') : Change (.create path) nodes nodes' := by
  rw [create] at h
  split at h
  · simp at h
  · rename_i hc
    have hfree : nodes.find? path = none := Table.contains_eq_false.mp (by simpa using hc)
    split at h
    · rename_i mode modified hp
      rw [← Except.ok.inj h]
      exact .created hfree ⟨mode, modified, hp⟩
    · simp at h
    · simp at h

theorem change_of_remove {nodes nodes' : Table Node} {path : String}
    (h : remove nodes path = .ok nodes') : Change (.remove path) nodes nodes' := by
  rw [remove] at h
  split at h
  · simp at h
  · rename_i hc
    split at h
    · simp at h
    · rename_i hn
      have ⟨hroot, hlen⟩ := not_or.mp hn
      rw [← Except.ok.inj h]
      exact .removed hroot (Table.contains_eq_true.mp (by simpa using hc)) (Nat.le_of_not_lt hlen)

theorem change_of_removeTree {nodes nodes' : Table Node} {path : String}
    (h : removeTree nodes path = .ok nodes') : Change (.removeTree path) nodes nodes' := by
  rw [removeTree] at h
  split at h
  · simp at h
  · rename_i hc
    rw [← Except.ok.inj h]
    exact .removedTree (Table.contains_eq_true.mp (by simpa using hc))

/-- A rename to the same path does nothing. Any other one needs a source, a directory for the target that is not
inside of the source, and a free place, or one file for another. -/
theorem rename_eq_ok_iff {nodes nodes' : Table Node} {source target : String} :
    rename nodes source target = .ok nodes' ↔ ∃ moved, nodes.find? source = some moved ∧
      (source = target ∧ nodes = nodes' ∨
        source ≠ target ∧ Path.isUnder target source = false ∧ IsDirAt nodes (Path.parent target) ∧
          (∀ node, nodes.find? target = some node → node.isDir = false ∧ moved.isDir = false) ∧
          rebaseAll source target nodes (subtree nodes source) = nodes') := by
  rw [rename]
  cases hs : nodes.find? source with
  | none => simp
  | some moved =>
    by_cases hne : source = target
    · simp [hne]
    · cases hu : Path.isUnder target source with
      | true => simp [hne]
      | false =>
        simp only [Option.some.injEq, exists_eq_left', hne, if_false, Bool.false_eq_true, false_and, false_or, ne_eq,
          not_false_eq_true, true_and]
        rcases hp : nodes.find? (Path.parent target) with _ | ⟨content, modified⟩ | ⟨mode, modified⟩
        case none => simp [IsDirAt, hp]
        case some.file => simp [IsDirAt, hp]
        case some.dir =>
          have hparent : IsDirAt nodes (Path.parent target) := ⟨mode, modified, hp⟩
          rcases ht : nodes.find? target with _ | ⟨content, changed⟩ | ⟨m, changed⟩
          case none => simp [hparent]
          case some.file =>
            cases hd : moved.isDir with
            | true => simp [Node.isDir]
            | false => simp [hparent, Node.isDir]
          case some.dir => simp [Node.isDir]

theorem change_of_rename {nodes nodes' : Table Node} {source target : String}
    (h : rename nodes source target = .ok nodes') :
    nodes' = nodes ∨ Change (.rename source target) nodes nodes' := by
  obtain ⟨moved, hmoved, ⟨_, rfl⟩ | ⟨hne, hu, hp, hfree, rfl⟩⟩ := rename_eq_ok_iff.mp h
  · exact .inl rfl
  · exact .inr (.renamed hmoved hne hu hp hfree)

theorem change_of_write {nodes nodes' : Table Node} {handle : WriteHandle} {data : Bytes}
    (h : write nodes handle data = .ok nodes') : Change (.write handle data) nodes nodes' := by
  rw [write] at h
  split at h
  · simp at h
  · split at h
    · rename_i content modified hf
      rw [← Except.ok.inj h]
      exact .written hf
    · simp at h

/-- A call that is served leaves the table as it was or makes its change. -/
theorem serve_change (c : Call) (ns : Namespace) :
    (serve c ns).2 = ns ∨ ∃ nodes, Change c ns.nodes nodes ∧ (serve c ns).2 = { ns with nodes } := by
  have happly : ∀ {α : Type} (a : α) (r : Except ClientError (Table Node)),
      (∀ nodes, r = .ok nodes → nodes = ns.nodes ∨ Change c ns.nodes nodes) →
        (ns.apply a r).2 = ns ∨ ∃ nodes, Change c ns.nodes nodes ∧ (ns.apply a r).2 = { ns with nodes } := by
    intro α a r hr
    cases r with
    | error e => exact .inl rfl
    | ok nodes =>
      rcases hr nodes rfl with rfl | hchange
      · exact .inl rfl
      · exact .inr ⟨nodes, hchange, rfl⟩
  cases c with
  | create path => exact happly _ _ fun _ h => .inr (change_of_create h)
  | remove path => exact happly _ _ fun _ h => .inr (change_of_remove h)
  | removeTree path => exact happly _ _ fun _ h => .inr (change_of_removeTree h)
  | rename source target => exact happly _ _ fun _ h => change_of_rename h
  | write handle data => exact happly _ _ fun _ h => .inr (change_of_write h)
  | makeDirs path mode =>
    refine .inr ⟨_, .provisioned, ?_⟩
    simp only [serve]
    split <;> rename_i h <;> rw [h]
  | status path =>
    left
    simp only [serve]
    split <;> rfl
  | content | openRead | openAppend | entries | close | seek | stream => exact .inl rfl

/-- A call that was arranged to fail changes no table, any other one is served. -/
theorem client_change (c : Call) (ns : Namespace) :
    (client c ns).2.nodes = ns.nodes ∨ Change c ns.nodes (client c ns).2.nodes := by
  rw [client]
  split
  · exact .inl rfl
  · rcases serve_change c ns with h | ⟨nodes, hchange, h⟩
    · exact .inl (by rw [h])
    · exact .inr (by rw [h]; exact hchange)

end Namespace

end RootedStore
