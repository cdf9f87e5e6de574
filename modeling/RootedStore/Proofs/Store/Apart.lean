import RootedStore.Proofs.Namespace.Frame
import RootedStore.Proofs.Store.Confinement
import RootedStore.Proofs.System

/-!
# Calls apart from a path

Two paths are unrelated if neither lies within the other. The calls of an operation are made at the paths that
its arguments resolve to and, to provision directories, above them. None of them touches a path that is
unrelated to these, so what is there is not changed by anyone whose paths are all unrelated to it.
-/
namespace RootedStore

open Namespace (IsTree)
open RootedStore.Path (Within IsAncestor normalize)

/-- Neither of two paths lies within the other. -/
def Path.Unrelated (a b : String) : Prop := ¬ Within a b ∧ ¬ Within b a

theorem Path.Unrelated.symm {a b : String} (h : Unrelated a b) : Unrelated b a := ⟨h.2, h.1⟩

/-- Nothing lies within both of two unrelated paths. -/
theorem Path.Unrelated.disjoint {a b key : String} (h : Unrelated a b) (ha : normalize a = a) (hb : normalize b = b)
    (hwa : Within a key) : ¬ Within b key := by
  intro hwb
  rcases List.prefix_or_prefix_of_prefix hwa.2 hwb.2 with hp | hp
  · exact h.1 ⟨hb, hp⟩
  · exact h.2 ⟨ha, hp⟩

/-- The calls at some paths, and to provision the directories above them with a mode. -/
def Call.IsAt (mask : UInt32) (paths : String → Prop) : Call → Prop
  | .content path | .openRead path | .create path | .openAppend path | .remove path | .removeTree path
  | .status path | .entries path => paths path
  | .rename source target => paths source ∧ paths target
  | .makeDirs path mode => mode = mask ∧ ∃ full, paths full ∧ path = Path.parent full
  | .write handle _ | .close handle => paths handle.path
  | .seek _ _ => True
  | .stream _ => False

variable {o : Options} {c : Call} {mask : UInt32} {paths paths' : String → Prop} {full key : String}

theorem Call.IsAt.mono (h : c.IsAt mask paths) (hp : ∀ path, paths path → paths' path) : c.IsAt mask paths' := by
  cases c with
  | rename source target => exact ⟨hp _ h.1, hp _ h.2⟩
  | makeDirs path mode =>
    obtain ⟨hm, full, hf, he⟩ := h
    exact ⟨hm, full, hp full hf, he⟩
  | seek => trivial
  | stream => exact h.elim
  | _ => exact hp _ h

theorem Call.IsOfSession.isAt (h : c.IsOfSession full) (hp : paths full) : c.IsAt mask paths := by
  cases h with
  | write hh | close hh => rwa [← hh] at hp
  | remove => exact hp

theorem Call.Opens.isAt {append : Bool} (h : c.Opens o full append) (hp : paths full) :
    c.IsAt o.mask paths := by
  cases h with
  | parents => exact ⟨rfl, full, hp, rfl⟩
  | status | openAppend | remove | create => exact hp

/-- The paths that the arguments of an operation resolve to. -/
def Store.Operation.Resolved (o : Options) (op : Operation) (full : String) : Prop :=
  ∃ path ∈ op.paths, o.resolve path = .ok full

theorem Store.Operation.Makes.isAt {op : Operation} (h : op.Makes o c) : c.IsAt o.mask (op.Resolved o) := by
  cases h with
  | content h | openRead h | status h | entries h | removeTree h => exact ⟨_, List.mem_singleton_self _, h⟩
  | opens h hc | openWriter h hc => exact hc.isAt ⟨_, List.mem_singleton_self _, h⟩
  | stores h hc => exact hc.isAt ⟨_, List.mem_singleton_self _, h⟩
  | seek => trivial
  | parents h => exact ⟨rfl, _, ⟨_, List.mem_of_getElem? (i := 1) rfl, h⟩, rfl⟩
  | rename hs ht => exact ⟨⟨_, List.mem_cons_self, hs⟩, ⟨_, List.mem_of_getElem? (i := 1) rfl, ht⟩⟩

theorem Store.Operation.Resolved.canonical {op : Operation} (h : op.Resolved o full) :
    normalize full = full := by
  obtain ⟨path, _, hr⟩ := h
  exact Options.normalize_of_resolve hr

namespace Call

/-- What is put in place by a call at some paths is one of them. -/
theorem IsAt.placed (h : c.IsAt mask paths) : ∀ path ∈ c.placed?, paths path := by
  intro path hp
  cases c with
  | create p =>
    obtain rfl : p = path := by simpa [placed?] using hp
    exact h
  | rename source target =>
    obtain rfl : target = path := by simpa [placed?] using hp
    exact h.2
  | _ => simp [placed?] at hp

/-- A call at some paths touches what lies within one of them, or provisions what lies above one. -/
theorem IsAt.of_touches (h : c.IsAt mask paths) (hpaths : ∀ path, paths path → normalize path = path)
    (hk : c.Touches key) : (∃ path, paths path ∧ Within path key) ∨
      (∃ path mode, c = .makeDirs path mode) ∧ ∃ path, paths path ∧ IsAncestor key path := by
  have hat : ∀ {path : String}, paths path → key = path → ∃ path, paths path ∧ Within path key := by
    rintro path hp rfl
    exact ⟨key, hp, Within.refl (hpaths key hp)⟩
  cases c with
  | create path | remove path => exact .inl (hat h hk)
  | removeTree path => exact .inl ⟨path, h, hk⟩
  | rename source target =>
    rcases hk with hk | hk
    · exact .inl ⟨source, h.1, hk⟩
    · exact .inl ⟨target, h.2, hk⟩
  | makeDirs path mode =>
    obtain ⟨_, full, hp, rfl⟩ := h
    exact .inr ⟨⟨_, _, rfl⟩, full, hp, (Path.mem_lineage_parent.mp hk).1⟩
  | write handle data => exact .inl (hat h hk)
  | content | openRead | openAppend | status | entries | close | seek | stream => exact hk.elim

/-- A call at paths that are all unrelated to another one does not touch that one. -/
theorem IsAt.not_touches (h : c.IsAt mask paths)
    (hpaths : ∀ path, paths path → normalize path = path ∧ Path.Unrelated path full) : ¬ c.Touches full := by
  intro hk
  rcases h.of_touches (fun path hp => (hpaths path hp).1) hk with ⟨path, hp, hw⟩ | ⟨_, path, hp, ha⟩
  · exact (hpaths path hp).2.1 hw
  · exact (hpaths path hp).2.2 (ha.within (hpaths path hp).1)

/-- The calls that only look at something. -/
def IsRead : Call → Prop
  | .content _ | .openRead _ | .status _ | .entries _ | .seek _ _ | .stream _ => True
  | .create _ | .openAppend _ | .remove _ | .removeTree _ | .rename _ _ | .makeDirs _ _ | .write _ _
  | .close _ => False

/-- What others may call who have nothing to do with a path: they look at anything, and perform operations and
use sessions whose paths are unrelated to it. -/
inductive IsForeign (o : Options) (full : String) : Call → Prop where
  | read {c : Call} (h : c.IsRead) : IsForeign o full c
  | operation {op : Store.Operation} {c : Call}
      (unrelated : ∀ other, op.Resolved o other → Path.Unrelated other full) (makes : op.Makes o c) :
      IsForeign o full c
  | session {other : String} {c : Call} (resolved : o.IsResolved other)
      (unrelated : Path.Unrelated other full) (makes : c.IsOfSession other) : IsForeign o full c

theorem IsForeign.isAt_or (h : c.IsForeign o full) :
    c.IsRead ∨ c.IsAt o.mask fun other => normalize other = other ∧ Path.Unrelated other full := by
  cases h with
  | read h => exact .inl h
  | operation unrelated makes =>
    exact .inr (makes.isAt.mono fun other hr => ⟨hr.canonical, unrelated other hr⟩)
  | session resolved unrelated makes =>
    obtain ⟨path, hr⟩ := resolved
    exact .inr (makes.isAt ⟨Options.normalize_of_resolve hr, unrelated⟩)

theorem IsForeign.not_touches (h : c.IsForeign o full) : ¬ c.Touches full := by
  rcases h.isAt_or with h | h
  · cases c <;> simp_all [IsRead, Touches]
  · exact h.not_touches fun _ hp => hp

theorem IsForeign.placed (h : c.IsForeign o full) : ∀ path ∈ c.placed?, normalize path = path := by
  rcases h.isAt_or with h | h
  · cases c <;> simp_all [IsRead, placed?]
  · exact fun path hp => (h.placed path hp).1

end Call

namespace Namespace

/-- A call keeps the tree if whatever it puts in place has a canonical path. -/
theorem isTree_client {ns : Namespace} (h : IsTree ns.nodes) (hp : ∀ path ∈ c.placed?, normalize path = path) :
    IsTree (client c ns).2.nodes := by
  rcases client_change c ns with hn | hn
  · rw [hn]
    exact h
  · exact h.change hn hp

/-- A call leaves alone what it does not touch. -/
theorem node?_client {ns : Namespace} (h : IsTree ns.nodes) (hp : ∀ path ∈ c.placed?, normalize path = path)
    (hk : ¬ c.Touches key) : (client c ns).2.node? key = ns.node? key := by
  rcases client_change c ns with hn | hn
  · rw [node?, node?, hn]
  · exact h.find?_of_change hn hp hk

end Namespace

end RootedStore
