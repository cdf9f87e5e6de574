import RootedStore.Proofs.Store.Move

/-!
# Deleting a subtree

A path is deleted with all that lies below it, and nothing else changes. What lies below it is told by comparing
texts, so the names have to be compared as a whole: a path that merely starts with the same characters stays. Only
the root cannot be deleted; all that it holds can.
-/
namespace RootedStore

open Namespace (IsTree serve)
open RootedStore.Path (Within normalize)

namespace Namespace

variable {nodes : Table Node} {path key : String}

/-- A table without a path and without all that lies below it. -/
def pruned (nodes : Table Node) (path : String) : Table Node :=
  nodes.filterKeys fun key => key = "/" || !Path.isUnder key path

/-- What lies below a path goes with it, but for the root. -/
theorem find?_pruned_within (hc : normalize path = path) (hw : Within path key) (hne : key ≠ "/") :
    (pruned nodes path).find? key = none := by
  have hu : Path.isUnder key path = true := (Path.isUnder_iff_within hw.canonical hc).mpr hw
  simp [pruned, Table.find?_filterKeys, hne, hu]

theorem find?_pruned_root : (pruned nodes path).find? "/" = nodes.find? "/" := by
  simp [pruned, Table.find?_filterKeys]

theorem serve_removeTree_missing (hn : nodes.find? path = none) :
    serve (.removeTree path) ⟨nodes, []⟩ = (.error (.notFound path), ⟨nodes, []⟩) := by
  simp [serve, removeTree, Table.contains_eq_false.mpr hn, apply]

theorem serve_removeTree {node : Node} (hn : nodes.find? path = some node) :
    serve (.removeTree path) ⟨nodes, []⟩ = (.ok (), ⟨pruned nodes path, []⟩) := by
  simp [serve, removeTree, Table.contains_eq_true.mpr ⟨node, hn⟩, apply, pruned]

end Namespace

namespace Store

variable {st : Store} {nodes : Table Node} {space : Namespace} {path full : String}

/-- Deleting is one call. -/
theorem alone_delete (hr : st.options.resolve path = .ok full) :
    (st.delete path).alone space = (Action.call full (.removeTree full)).alone space :=
  alone_resolve hr _

theorem alone_stat_missing (hf : space.faults = []) (hr : st.options.resolve path = .ok full)
    (hn : space.node? full = none) : (st.stat path).alone space = (.error (.pathNotFound full), space) := by
  have hs := Action.alone_call_error hf (Namespace.serve_status_missing hn) full
  exact (alone_resolve hr _).trans (Action.alone_bind_error hs _)

/-- A directory that is missing is listed as an empty one. -/
theorem alone_list_missing (hf : space.faults = []) (hr : st.options.resolve path = .ok full)
    (hn : space.node? full = none) : (st.list path).alone space = (.ok [], space) := by
  have hn : space.nodes.find? full = none := hn
  have hs : serve (.entries full) space = (.error (.notFound full), space) := by
    simp only [serve, Namespace.entries, hn]
  exact (alone_resolve hr _).trans (Action.alone_bind_ok (Action.alone_attempt hf hs) _)

/-- A subtree was deleted: nothing of it is there any more, whatever names it, and all else is as before. The root
stays in any case. -/
structure Pruned (st : Store) (full : String) (old new : Namespace) : Prop where
  gone : ∀ key, Within full key → key ≠ "/" → new.node? key = none
  other : ∀ key, ¬ Within full key → new.node? key = old.node? key
  root : new.node? "/" = old.node? "/"
  stat : ∀ path key, st.options.resolve path = .ok key → Within full key → key ≠ "/" →
    (st.stat path).alone new = (.error (.pathNotFound key), new)
  list : ∀ path key, st.options.resolve path = .ok key → Within full key → key ≠ "/" →
    (st.list path).alone new = (.ok [], new)

theorem pruned_of_tree (h : IsTree nodes) (hc : normalize full = full) :
    st.Pruned full ⟨nodes, []⟩ ⟨Namespace.pruned nodes full, []⟩ := by
  have hgone : ∀ key, Within full key → key ≠ "/" →
      Namespace.node? ⟨Namespace.pruned nodes full, []⟩ key = none :=
    fun key hw hne => Namespace.find?_pruned_within hc hw hne
  constructor
  · exact hgone
  · exact fun key hk => h.find?_prune hc hk
  · exact Namespace.find?_pruned_root
  · exact fun path key hr hw hne => alone_stat_missing rfl hr (hgone key hw hne)
  · exact fun path key hr hw hne => alone_list_missing rfl hr (hgone key hw hne)

end Store

/-- On any namespace that a namenode gets to, with no failure arranged: what is not there cannot be deleted, and
nothing happens. What is there is deleted with all that lies below it, and nothing else changes. -/
theorem Store.delete_exact {st : Store} {space : Namespace} (hs : Namespace.Reached space.nodes)
    (hf : space.faults = []) {path full : String} (hr : st.options.resolve path = .ok full) :
    (space.node? full = none → (st.delete path).alone space = (.error (.pathNotFound full), space)) ∧
      (space.node? full ≠ none →
        ∃ after, (st.delete path).alone space = (.ok (), after) ∧ st.Pruned full space after) := by
  have h : IsTree space.nodes := hs.isTree
  obtain ⟨nodes, faults⟩ := space
  obtain rfl : faults = [] := hf
  rw [alone_delete hr]
  constructor
  · intro hn
    exact Action.alone_call_error rfl (Namespace.serve_removeTree_missing hn) full
  · intro hn
    obtain ⟨node, hnode⟩ := Option.ne_none_iff_exists'.mp hn
    exact ⟨_, Action.alone_call_ok rfl (Namespace.serve_removeTree hnode) full,
      pruned_of_tree h (Options.normalize_of_resolve hr)⟩

/-- A namespace with an object, and with another one whose path starts with the same characters as the directory of
the first one. -/
def Namespace.neighboured : Namespace := ((Store.put ⟨Options.sample⟩ "bc" [8]).alone stocked).2

theorem Store.delete_exact_neighboured :
    Namespace.Reached Namespace.neighboured.nodes ∧ Namespace.neighboured.faults = [] ∧
      Options.sample.resolve "b" = .ok "/tmp/hdfs-registry/b" ∧
      Namespace.neighboured.node? "/tmp/hdfs-registry/b" ≠ none ∧
      ∃ after, (Store.delete ⟨Options.sample⟩ "b").alone Namespace.neighboured = (.ok (), after) ∧
        Store.Pruned ⟨Options.sample⟩ "/tmp/hdfs-registry/b" Namespace.neighboured after ∧
        after.node? "/tmp/hdfs-registry/b/c" = none ∧
        after.node? "/tmp/hdfs-registry/bc" = some (.file [8] .present) := by
  have hinitial : System.Reachable ⟨Options.sample⟩ Namespace.initial := ⟨[], rfl⟩
  have hreachable : System.Reachable ⟨Options.sample⟩ Namespace.neighboured :=
    (hinitial.request false (.put "b/c" [7]) .good).request false (.put "bc" [8]) .good
  have hs : Namespace.Reached Namespace.neighboured.nodes := hreachable.reached
  obtain ⟨hf, hthere, hbeside⟩ : Namespace.neighboured.faults.isEmpty = true ∧
      Namespace.neighboured.node? "/tmp/hdfs-registry/b" ≠ none ∧
      Namespace.neighboured.node? "/tmp/hdfs-registry/bc" = some (.file [8] .present) := by decide +kernel
  have hr : Options.sample.resolve "b" = .ok "/tmp/hdfs-registry/b" := rfl
  obtain ⟨after, hrun, hpruned⟩ :=
    (@delete_exact ⟨Options.sample⟩ Namespace.neighboured hs (List.isEmpty_iff.mp hf) "b" _ hr).2 hthere
  refine ⟨hs, List.isEmpty_iff.mp hf, hr, hthere, after, hrun, hpruned, ?_, ?_⟩
  · exact hpruned.gone _ ⟨by decide, by decide⟩ (by decide)
  · exact (hpruned.other _ fun hw => absurd hw.2 (by decide)).trans hbeside

end RootedStore
