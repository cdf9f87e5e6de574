import RootedStore.Proofs.Namespace.Provision
import RootedStore.Proofs.Namespace.Rename

/-!
# What a call leaves alone

A call keeps the tree if whatever it puts in place has a canonical path, and it changes only the keys that
it names: a path, a subtree, or the lineage of a directory.
-/
namespace RootedStore

open RootedStore.Path (Within normalize)

/-- The path at which a call puts something that was not there. -/
def Call.placed? : Call → Option String
  | .create path => some path
  | .rename _ target => some target
  | _ => none

/-- Whether a call may change what is at a key. -/
def Call.Touches (key : String) : Call → Prop
  | .create path | .remove path => key = path
  | .removeTree path => Within path key
  | .rename source target => Within source key ∨ Within target key
  | .makeDirs path _ => key ∈ Path.lineage path
  | .write handle _ => key = handle.path
  | _ => False

namespace Namespace

variable {nodes nodes' : Table Node} {c : Call}

theorem canMove_of_renamed {source target : String} {moved : Node} (hc : normalize target = target)
    (present : nodes.find? source = some moved) (distinct : source ≠ target)
    (outside : Path.isUnder target source = false) (parent : IsDirAt nodes (Path.parent target))
    (free : ∀ node, nodes.find? target = some node → node.isDir = false ∧ moved.isDir = false) :
    CanMove source target nodes :=
  ⟨⟨moved, present⟩, hc, distinct, outside, parent, fun node hn => (free node hn).1⟩

theorem IsTree.change (h : IsTree nodes) (hc : Change c nodes nodes')
    (hp : ∀ path ∈ c.placed?, normalize path = path) : IsTree nodes' := by
  cases hc with
  | created free parent =>
    refine h.insert (hp _ rfl) (fun _ => parent) ?_
    rintro ⟨mode, modified, hd⟩
    simp [free] at hd
  | removed notRoot present empty => exact h.erase notRoot present empty
  | removedTree present =>
    obtain ⟨node, hnode⟩ := present
    exact h.prune (h.canonical _ node hnode)
  | renamed present distinct outside parent free =>
    exact (canMove_of_renamed (hp _ rfl) present distinct outside parent free).isTree h
  | provisioned => exact (h.makeEach_lineage _ _).1
  | written present =>
    refine h.insert (h.canonical _ _ present) (h.parent _ _ present) ?_
    rintro ⟨mode, changed, hd⟩
    simp [present] at hd

/-- The tables that a namenode gets to, whoever makes the calls, if what they put in place is at canonical
paths. -/
inductive Reached : Table Node → Prop where
  | initial : Reached initial.nodes
  | change {c : Call} {nodes nodes' : Table Node} (h : Reached nodes) (hp : ∀ path ∈ c.placed?, normalize path = path)
      (hc : Change c nodes nodes') : Reached nodes'

theorem Reached.isTree {nodes : Table Node} (h : Reached nodes) : IsTree nodes := by
  induction h with
  | initial => exact isTree_initial
  | change _ hp hc ih => exact ih.change hc hp

/-- A change leaves alone what the call does not touch. -/
theorem IsTree.find?_of_change (h : IsTree nodes) (hc : Change c nodes nodes')
    (hp : ∀ path ∈ c.placed?, normalize path = path) {key : String} (hk : ¬ c.Touches key) :
    nodes'.find? key = nodes.find? key := by
  cases hc with
  | created free parent =>
    rw [Table.find?_insert, if_neg (Ne.symm hk)]
  | removed notRoot present empty =>
    have hne : key ≠ _ := hk
    rw [Table.find?_erase, if_neg hne]
  | removedTree present =>
    obtain ⟨node, hnode⟩ := present
    exact h.find?_prune (h.canonical _ node hnode) hk
  | renamed present distinct outside parent free =>
    have hm := canMove_of_renamed (hp _ rfl) present distinct outside parent free
    exact (hm.moved h).other key (fun hw => hk (.inl hw)) (fun hw => hk (.inr hw))
  | provisioned =>
    rcases find?_makeEach _ key with hf | ⟨_, hm, _⟩
    · exact hf
    · exact absurd hm hk
  | written present =>
    rw [Table.find?_insert, if_neg (Ne.symm hk)]

end Namespace

end RootedStore
