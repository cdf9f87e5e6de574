import RootedStore.Proofs.Namespace.Atomic
import RootedStore.Proofs.Namespace.Frame
import RootedStore.Proofs.Store.Confinement
import RootedStore.Proofs.System

/-!
# Effects of a run

Through every run of a store the namespace is a tree. Nothing changes outside the root of the store but
for directories above the root, which are created where they are missing and are never touched again.
-/
namespace RootedStore

open Namespace (IsTree Change)
open RootedStore.Path (Within IsAncestor normalize)

theorem Options.IsResolved.within {o : Options} (hroot : normalize o.root = o.root) {path : String}
    (h : o.IsResolved path) : Within o.root path := by
  obtain ⟨s, hs⟩ := h
  exact Options.within_of_resolve hroot hs

/-- What resolved paths are put in place by a confined call are canonical. -/
theorem Call.normalize_placed {o : Options} {c : Call} (h : c.IsConfined o) :
    ∀ path ∈ c.placed?, normalize path = path := by
  have hresolved : ∀ {path : String}, o.IsResolved path → normalize path = path := by
    rintro path ⟨s, hs⟩
    exact Options.normalize_of_resolve hs
  intro path hp
  cases c with
  | create p =>
    obtain rfl : p = path := by simpa [placed?] using hp
    exact hresolved h
  | rename source target =>
    obtain rfl : target = path := by simpa [placed?] using hp
    exact hresolved h.2
  | _ => simp [placed?] at hp

theorem IsTree.confined {o : Options} {c : Call} {nodes nodes' : Table Node} (hc : c.IsConfined o)
    (h : IsTree nodes) (hchange : Change c nodes nodes') : IsTree nodes' :=
  h.change hchange (Call.normalize_placed hc)

/-- A run that starts on a tree goes from one tree to the next. -/
theorem System.isTree_of_run {st : Store} {space : Namespace} (h : IsTree space.nodes)
    (events : List Event) : Confined st.options IsTree (run st (start space) events) :=
  confined_run (fun _ _ _ hc ht hchange => IsTree.confined hc ht hchange) (confined_start h) events

theorem System.Reachable.isTree {st : Store} {space : Namespace} (h : Reachable st space) :
    IsTree space.nodes := by
  obtain ⟨events, rfl⟩ := h
  exact (isTree_of_run Namespace.isTree_initial events).nodes

theorem System.Reachable.reached {st : Store} {space : Namespace} (h : Reachable st space) :
    Namespace.Reached space.nodes := by
  obtain ⟨events, rfl⟩ := h
  exact (confined_run (fun _ _ _ hc hr hchange => hr.change (Call.normalize_placed hc) hchange)
    (confined_start Namespace.Reached.initial) events).nodes

/-- Whatever is asked of a store on an empty namespace, in whatever order and with whatever failures, the
namespace is a tree: the root is a directory, keys are canonical, and every other key lies in a directory.
So nothing lies below a file. -/
theorem System.isTree_run (st : Store) (events : List Event) :
    IsTree (run st (start Namespace.initial) events).space.nodes ∧
      ∀ a file key node, (run st (start Namespace.initial) events).space.node? a = some file →
        file.isDir = false → (run st (start Namespace.initial) events).space.node? key = some node →
        Path.isUnder key a = true → key = a := by
  have h : IsTree (run st (start Namespace.initial) events).space.nodes :=
    (isTree_of_run Namespace.isTree_initial events).nodes
  refine ⟨h, ?_⟩
  intro a file key node ha hf hk hu
  exact h.eq_of_within_file ha hf hk
    ((Path.isUnder_iff_within (h.canonical key node hk) (h.canonical a file ha)).mp hu)

/-- What a store may have done to a table: all is as before, except within the root and for directories
above the root that were missing. -/
structure Namespace.Frame (o : Options) (old new : Table Node) : Prop where
  outside : ∀ key, ¬ Within o.root key → ¬ IsAncestor key o.root → new.find? key = old.find? key
  above : ∀ key node, IsAncestor key o.root → old.find? key = some node → new.find? key = some node
  provisioned : ∀ key, IsAncestor key o.root → old.find? key = none →
    new.find? key = none ∨ new.find? key = some (.dir o.mask .present)

namespace Namespace

variable {o : Options} {old mid new : Table Node}

theorem Frame.refl : Frame o old old :=
  ⟨fun _ _ _ => rfl, fun _ _ _ h => h, fun _ _ h => .inl h⟩

theorem Frame.trans (h : Frame o old mid) (h' : Frame o mid new) : Frame o old new := by
  constructor
  · intro key hw ha
    rw [h'.outside key hw ha, h.outside key hw ha]
  · intro key node ha hk
    exact h'.above key node ha (h.above key node ha hk)
  · intro key ha hk
    rcases h.provisioned key ha hk with hm | hm
    · exact h'.provisioned key ha hm
    · exact .inr (h'.above key _ ha hm)

/-- A change within the root is a change that the frame allows. -/
theorem Frame.of_within (h : ∀ key, ¬ Within o.root key → new.find? key = old.find? key) :
    Frame o old new := by
  constructor
  · intro key hw _
    exact h key hw
  · intro key node ha hk
    rw [h key ha.not_within, hk]
  · intro key ha hk
    rw [h key ha.not_within]
    exact .inl hk

variable (hroot : normalize o.root = o.root)
include hroot

/-- What a call touches lies within the root, unless it provisions directories. -/
theorem within_of_touches {c : Call} (hc : c.IsConfined o) (hd : ∀ path mode, c ≠ .makeDirs path mode)
    {key : String} (hk : c.Touches key) : Within o.root key := by
  have hresolved : ∀ {path : String}, o.IsResolved path → Within o.root path :=
    Options.IsResolved.within hroot
  cases c with
  | create path | remove path =>
    rw [show key = path from hk]
    exact hresolved hc
  | removeTree path => exact (hresolved hc).trans hk
  | rename source target =>
    rcases hk with hk | hk
    · exact (hresolved hc.1).trans hk
    · exact (hresolved hc.2).trans hk
  | write handle data =>
    rw [show key = handle.path from hk]
    exact hresolved hc
  | makeDirs path mode => exact absurd rfl (hd path mode)
  | content | openRead | openAppend | status | entries | close | seek | stream => exact hk.elim

/-- What lies above a path within the root lies within the root or above it. -/
theorem within_or_isAncestor {key full : String} (hf : Within o.root full) (ha : IsAncestor key full) :
    Within o.root key ∨ IsAncestor key o.root := by
  rcases List.prefix_or_prefix_of_prefix ha.2.1 hf.2 with hp | hp
  · by_cases he : Path.names key = Path.names o.root
    · rw [Path.eq_of_names_eq ha.1 hroot he]
      exact .inl (Within.refl hroot)
    · exact .inr ⟨ha.1, hp, he⟩
  · exact .inl ⟨ha.1, hp⟩

/-- Provisioning the parent of a path within the root creates directories within the root or above it. -/
theorem frame_makeDirs {full : String} (hf : Within o.root full) :
    Frame o old (makeEach o.mask old (Path.lineage (Path.parent full))).2 := by
  have hfind := @find?_makeEach old o.mask (Path.lineage (Path.parent full))
  constructor
  · intro key hw ha
    rcases hfind key with h | ⟨_, hm, _⟩
    · exact h
    · rcases within_or_isAncestor hroot hf (Path.mem_lineage_parent.mp hm).1 with h | h
      · exact absurd h hw
      · exact absurd h ha
  · intro key node _ hk
    rcases hfind key with h | ⟨hn, _⟩
    · rw [h, hk]
    · simp [hk] at hn
  · intro key _ hk
    rcases hfind key with h | ⟨_, _, h⟩
    · exact .inl (h.trans hk)
    · exact .inr h

theorem frame_change {c : Call} (hc : c.IsConfined o) (h : IsTree old) (hchange : Change c old new) :
    Frame o old new := by
  by_cases hd : ∃ path mode, c = .makeDirs path mode
  · obtain ⟨path, mode, rfl⟩ := hd
    obtain ⟨rfl, full, ⟨s, hs⟩, rfl⟩ := hc
    cases hchange with
    | provisioned => exact frame_makeDirs hroot (Options.within_of_resolve hroot hs)
  · refine Frame.of_within fun key hw => ?_
    refine h.find?_of_change hchange (Call.normalize_placed hc) fun hk => hw ?_
    exact within_of_touches hroot hc (fun path mode he => hd ⟨path, mode, he⟩) hk

end Namespace

/-- From any point of a run to any later one, nothing changes outside the root of the store. A directory
above the root, or whatever is there, stays as it is, and what is missing there can only become a directory
with the configured mode. -/
theorem System.effects_confined {v : Json.Value} {o : Options} (ho : Options.ofValue v = .ok o)
    {space : Namespace} (hspace : IsTree space.nodes) (before after : List Event) :
    Namespace.Frame o (run ⟨o⟩ (start space) before).space.nodes
      (run ⟨o⟩ (start space) (before ++ after)).space.nodes := by
  have hroot := Options.normalize_root ho
  have hmid : Confined o IsTree (run ⟨o⟩ (start space) before) := isTree_of_run hspace before
  let keeps (nodes : Table Node) : Prop :=
    IsTree nodes ∧ Namespace.Frame o (run ⟨o⟩ (start space) before).space.nodes nodes
  have hkeeps : ∀ c nodes nodes', c.IsConfined o → keeps nodes → Change c nodes nodes' → keeps nodes' := by
    intro c nodes nodes' hc hk hchange
    exact ⟨IsTree.confined hc hk.1 hchange, hk.2.trans (Namespace.frame_change hroot hc hk.1 hchange)⟩
  have hlast : Confined o keeps (run ⟨o⟩ (run ⟨o⟩ (start space) before) after) :=
    confined_run hkeeps ⟨⟨hmid.nodes, .refl⟩, hmid.sessions, hmid.running⟩ after
  rw [run_append]
  exact hlast.nodes.2

/-- An operation that nothing interrupts, from its start to its end. -/
def System.carriedOut (op : Store.Operation) : List Event :=
  .request false op :: List.replicate 20 (.advance 0 .good)

/-- While an object is stored, moved and removed, a file beside the root stays as it was, and so does a directory
above the root once it was created. -/
theorem System.effects_confined_moved :
    let stores := carriedOut (.put "b/c" [7])
    let moves := carriedOut (.move "b/c" "d/e")
    let removes := carriedOut (.delete "d")
    let after (events : List Event) := (run ⟨Options.sample⟩ (start Namespace.withFile) events).space
    Options.ofValue (.object [(Options.namenodeKey, .string "nn")]) = .ok Options.sample ∧
      IsTree Namespace.withFile.nodes ∧
      (after stores).node? "/tmp/hdfs-registry/b/c" = some (.file [7] .present) ∧
      (after (stores ++ moves)).node? "/tmp/hdfs-registry/d/e" = some (.file [7] .present) ∧
      (after (stores ++ (moves ++ removes))).node? "/tmp/hdfs-registry/d/e" = none ∧
      (after (stores ++ (moves ++ removes))).node? "/tmp" = some (.dir 0o755 .present) ∧
      (after (stores ++ (moves ++ removes))).node? "/a" = some (.file [7] .present) := by
  intro stores moves removes after
  have hframe := effects_confined Options.ofValue_sample Namespace.isTree_withFile stores (moves ++ removes)
  have hwhole := effects_confined Options.ofValue_sample Namespace.isTree_withFile [] (stores ++ (moves ++ removes))
  rw [run_nil, List.nil_append] at hwhole
  have hbeside : ¬ Within Options.sample.root "/a" := fun hw => absurd hw.2 (by decide)
  have hnotAbove : ¬ IsAncestor "/a" Options.sample.root := fun ha => absurd ha.2.1 (by decide)
  have habove : IsAncestor "/tmp" Options.sample.root := ⟨rfl, by decide, by decide⟩
  have hthere : Namespace.withFile.nodes.find? "/a" = some (.file [7] .present) := by
    rw [Namespace.withFile, Table.find?_insert, if_pos rfl]
  obtain ⟨hstored, hcreated, hmoved, hremoved⟩ :
      (after stores).node? "/tmp/hdfs-registry/b/c" = some (.file [7] .present) ∧
        (after stores).node? "/tmp" = some (.dir 0o755 .present) ∧
        (after (stores ++ moves)).node? "/tmp/hdfs-registry/d/e" = some (.file [7] .present) ∧
        (after (stores ++ (moves ++ removes))).node? "/tmp/hdfs-registry/d/e" = none := by decide +kernel
  exact ⟨Options.ofValue_sample, Namespace.isTree_withFile, hstored, hmoved, hremoved,
    hframe.above "/tmp" _ habove hcreated, (hwhole.outside "/a" hbeside hnotAbove).trans hthere⟩

end RootedStore
