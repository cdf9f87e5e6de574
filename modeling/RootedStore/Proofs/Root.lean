import RootedStore.Proofs.Effects
import RootedStore.Proofs.Path.Key

/-!
# The root of a store

Callers that are held to the grammar of keys name the root only when they list it, as far as the grammar
goes. Their requests leave the root directory in place unless one of them stores, writes or deletes at a
key that resolves to the root all the same. A key does that if it is the path of the root, or with dots.
-/
namespace RootedStore

open Namespace (IsTree IsDirAt Change)
open RootedStore.Path (Within normalize)

/-- A confined call that does not remove what is at the root. -/
structure Call.SparesRoot (o : Options) (c : Call) : Prop where
  confined : c.IsConfined o
  notRemove : c ≠ .remove o.root
  notRemoveTree : c ≠ .removeTree o.root

namespace Namespace

variable {o : Options} {c : Call} {nodes nodes' : Table Node}

/-- Renaming does not move the root, since it moves within the root only, nor does it replace a directory.
Creating and writing need something else than a directory where they take place. -/
theorem isDirAt_root_of_change (hroot : normalize o.root = o.root) (hc : c.SparesRoot o) (h : IsTree nodes)
    (hchange : Change c nodes nodes') (hd : IsDirAt nodes o.root) : IsDirAt nodes' o.root := by
  have hresolved : ∀ {path : String}, o.IsResolved path → Within o.root path :=
    Options.IsResolved.within hroot
  have hplaced := Call.normalize_placed hc.confined
  have hspared : ¬ c.Touches o.root → IsDirAt nodes' o.root := by
    rintro ht
    obtain ⟨mode, modified, hf⟩ := hd
    exact ⟨mode, modified, by rw [h.find?_of_change hchange hplaced ht, hf]⟩
  obtain ⟨mode, modified, hf⟩ := hd
  cases hchange with
  | created free parent =>
    refine hspared fun ht => ?_
    rw [← show o.root = _ from ht, hf] at free
    cases free
  | removed notRoot present empty =>
    refine hspared fun ht => hc.notRemove ?_
    rw [show o.root = _ from ht]
  | removedTree present =>
    refine hspared fun ht => hc.notRemoveTree ?_
    rw [(hresolved hc.confined).antisymm ht]
  | renamed present distinct outside parent free =>
    refine hspared fun ht => ?_
    have hsource := hresolved hc.confined.1
    have htarget := hresolved hc.confined.2
    rcases ht with ht | ht
    · rw [← hsource.antisymm ht, (Path.isUnder_iff_within htarget.canonical hroot).mpr htarget] at outside
      cases outside
    · rw [← htarget.antisymm ht] at free
      exact absurd (free _ hf).1 nofun
  | provisioned => exact isDirAt_makeEach ⟨mode, modified, hf⟩
  | written present =>
    refine hspared fun ht => ?_
    rw [← show o.root = _ from ht, hf] at present
    cases present

end Namespace

/-- A key without dots that leads to the root is the path of the root. -/
theorem Options.eq_root_of_resolve {o : Options} (hroot : normalize o.root = o.root) {path : String}
    (hkey : Path.isKey path = true) (hdots : ¬ Path.HasDots path) (h : o.resolve path = .ok o.root) :
    path = o.root := by
  obtain ⟨ws, hne, hnames, rfl, hc⟩ := Path.exists_names_of_isKey hkey hdots
  have hr := ((Options.resolve_eq_ok_iff hroot).mp h).1
  by_cases hu : Path.isUnder (Path.ofNames ws) o.root = true
  · rw [Options.placed, if_pos hu, Path.normalize_ofNames hnames] at hr
    exact hr.symm
  · have hplaced := Options.names_placed_outside hu
    rw [hc, Path.foldl_push_names hnames, ← Path.names_normalize, ← hr] at hplaced
    exact absurd (by simpa using hplaced) hne

namespace Store.Operation

variable {o : Options} {op : Operation} {full : String}

/-- The path at which an operation may remove what is there. -/
def replaced? : Operation → Option String
  | .put path _ | .openWriter path _ | .delete path => some path
  | _ => none

theorem Makes.replaced {c : Call} (h : op.Makes o c) (hc : c = .remove full ∨ c = .removeTree full) :
    ∃ path, op.replaced? = some path ∧ o.resolve path = .ok full := by
  cases h with
  | opens h hopens | openWriter h hopens =>
    cases hopens <;> rcases hc with hc | hc <;> cases hc
    exact ⟨_, rfl, h⟩
  | stores h hsession =>
    cases hsession <;> rcases hc with hc | hc <;> cases hc
    exact ⟨_, rfl, h⟩
  | removeTree h =>
    rcases hc with hc | hc <;> cases hc
    exact ⟨_, rfl, h⟩
  | _ => rcases hc with hc | hc <;> cases hc

theorem Passes.isKey {path : String} (h : op.Passes true) (hp : op.replaced? = some path) :
    Path.isKey path = true := by
  have hcheck := h rfl
  have hkey : ∀ {key : String}, checkKey key = .ok () → Path.isKey key = true := by
    intro key hk
    rw [checkKey] at hk
    split at hk
    · assumption
    · cases hk
  cases op with
  | put | openWriter | delete =>
    cases hp
    exact hkey hcheck
  | _ => cases hp

/-- Whether an operation may remove what is at the root. -/
def StrikesRoot (o : Options) (op : Operation) : Prop :=
  ∃ path, op.replaced? = some path ∧ Path.isKey path = true ∧ o.resolve path = .ok o.root ∧
    (path = o.root ∨ Path.HasDots path)

theorem Passes.strikesRoot {path : String} (hroot : normalize o.root = o.root) (h : op.Passes true)
    (hp : op.replaced? = some path) (hr : o.resolve path = .ok o.root) : op.StrikesRoot o := by
  refine ⟨path, hp, h.isKey hp, hr, ?_⟩
  by_cases hdots : Path.HasDots path
  · exact .inr hdots
  · exact .inl (Options.eq_root_of_resolve hroot (h.isKey hp) hdots hr)

end Store.Operation

namespace System

variable {o : Options}

/-- The terms under which calls spare the root and sessions are elsewhere. -/
def Regime.sparing (o : Options) (keeps : Table Node → Prop)
    (hkeeps : ∀ {c nodes nodes'}, c.SparesRoot o → keeps nodes → Change c nodes nodes' → keeps nodes') :
    Regime where
  allowed := Call.SparesRoot o
  paths path := o.IsResolved path ∧ path ≠ o.root
  keeps := keeps
  ofSession := by
    rintro path c ⟨hresolved, hne⟩ hc
    refine ⟨hc.isConfined hresolved, ?_, ?_⟩
    · rintro rfl
      cases hc
      exact hne rfl
    · rintro rfl
      cases hc
  change := hkeeps

variable {keeps : Table Node → Prop} {events : List Event}
  {hkeeps : ∀ {c nodes nodes'}, c.SparesRoot o → keeps nodes → Change c nodes nodes' → keeps nodes'}

/-- Requests that are held to the grammar of keys spare the root if none of them strikes it. -/
theorem admits_sparing (hroot : normalize o.root = o.root)
    (hkeyed : ∀ keyed op, .request keyed op ∈ events → keyed = true)
    (hspared : ∀ op, .request true op ∈ events → ¬ op.StrikesRoot o) :
    ∀ e ∈ events, (Regime.sparing o keeps hkeeps).Admits ⟨o⟩ e := by
  intro e he
  cases e with
  | request keyed op =>
    obtain rfl := hkeyed keyed op he
    intro hpasses
    have hstrike : ∀ {path}, op.replaced? = some path → o.resolve path ≠ .ok o.root :=
      fun hp hr => hspared op he (hpasses.strikesRoot hroot hp hr)
    refine ⟨fun c hc => ⟨hc.isConfined, ?_, ?_⟩, ?_⟩
    · intro hremove
      obtain ⟨path, hp, hr⟩ := hc.replaced (.inl hremove)
      exact hstrike hp hr
    · intro hremove
      obtain ⟨path, hp, hr⟩ := hc.replaced (.inr hremove)
      exact hstrike hp hr
    · intro path hp full hr
      refine ⟨⟨path, hr⟩, ?_⟩
      rintro rfl
      cases op with
      | openWriter p append => exact hstrike hp hr
      | _ => cases hp
  | use | advance | fault => trivial

/-- Once the root is a directory it stays one, whatever callers do who are held to the grammar of keys,
unless one of them stores, writes or deletes at a key that resolves to the root: the path of the root
itself, or a key with dots. -/
theorem root_stays {v : Json.Value} (ho : Options.ofValue v = .ok o) (before after : List Event)
    (hkeyed : ∀ keyed op, .request keyed op ∈ before ++ after → keyed = true)
    (hdir : IsDirAt (run ⟨o⟩ (start Namespace.initial) before).space.nodes o.root) :
    IsDirAt (run ⟨o⟩ (start Namespace.initial) (before ++ after)).space.nodes o.root ∨
      ∃ op, .request true op ∈ before ++ after ∧ op.StrikesRoot o := by
  have hroot := Options.normalize_root ho
  by_cases hstrikes : ∃ op, .request true op ∈ before ++ after ∧ op.StrikesRoot o
  · exact .inr hstrikes
  · have hspared : ∀ op, .request true op ∈ before ++ after → ¬ op.StrikesRoot o :=
      fun op he hs => hstrikes ⟨op, he, hs⟩
    let trees := Regime.sparing o IsTree fun hc ht hchange => IsTree.confined hc.confined ht hchange
    let standing := Regime.sparing o (fun nodes => IsTree nodes ∧ IsDirAt nodes o.root)
      fun hc hk hchange => ⟨IsTree.confined hc.confined hk.1 hchange,
        Namespace.isDirAt_root_of_change hroot hc hk.1 hchange hk.2⟩
    -- the root may be missing in the first part of the run, which brings about what is under way then
    have hmid : Obeys trees (run ⟨o⟩ (start Namespace.initial) before) :=
      obeys_run (obeys_start Namespace.isTree_initial) fun e he => admits_sparing hroot hkeyed hspared e
        (List.mem_append_left after he)
    have hstanding : Obeys standing (run ⟨o⟩ (start Namespace.initial) before) :=
      ⟨⟨hmid.nodes, hdir⟩, hmid.sessions, hmid.running⟩
    have hlast : Obeys standing (run ⟨o⟩ (run ⟨o⟩ (start Namespace.initial) before) after) :=
      obeys_run hstanding fun e he =>
        admits_sparing hroot hkeyed hspared e (List.mem_append_right before he)
    rw [run_append]
    exact .inl hlast.nodes.2

/-- Storing an object and deleting it leaves the root in place. -/
theorem root_stays_delete :
    Options.ofValue (.object [(Options.namenodeKey, .string "nn")]) = .ok Options.sample ∧
      IsDirAt (run ⟨Options.sample⟩ (start Namespace.initial)
        [.request true (.put "/a" []), .advance 0 .good, .advance 0 .good]).space.nodes
        Options.sample.root ∧
      IsDirAt (run ⟨Options.sample⟩ (start Namespace.initial)
        ([.request true (.put "/a" []), .advance 0 .good, .advance 0 .good] ++
          [.request true (.delete "/a"), .advance 1 .good, .advance 1 .good])).space.nodes
        Options.sample.root := by
  have hdir : IsDirAt (run ⟨Options.sample⟩ (start Namespace.initial)
      [.request true (.put "/a" []), .advance 0 .good, .advance 0 .good]).space.nodes
      Options.sample.root := ⟨0o755, .present, by decide +kernel⟩
  have hstays := root_stays Options.ofValue_sample
    [.request true (.put "/a" []), .advance 0 .good, .advance 0 .good]
    [.request true (.delete "/a"), .advance 1 .good, .advance 1 .good] (by simp) hdir
  refine ⟨Options.ofValue_sample, hdir, hstays.resolve_right ?_⟩
  rintro ⟨op, hop, path, hp, _, hr, _⟩
  have hresolve : Options.sample.resolve "/a" = .ok "/tmp/hdfs-registry/a" := rfl
  have hops : op = .put "/a" [] ∨ op = .delete "/a" := by simpa using hop
  rcases hops with rfl | rfl
  · rw [← Option.some.inj hp, hresolve] at hr
    exact absurd (Except.ok.inj hr) (by decide)
  · rw [← Option.some.inj hp, hresolve] at hr
    exact absurd (Except.ok.inj hr) (by decide)

/-- A dot is a word of a key, and to delete it is to delete the root. -/
theorem root_removed :
    ¬ ∀ (before after : List Event),
      (∀ keyed op, .request keyed op ∈ before ++ after → keyed = true) →
      IsDirAt (run ⟨Options.sample⟩ (start Namespace.initial) before).space.nodes Options.sample.root →
      IsDirAt (run ⟨Options.sample⟩ (start Namespace.initial) (before ++ after)).space.nodes
        Options.sample.root := by
  intro hclaim
  obtain ⟨mode, modified, hf⟩ := hclaim
    [.request true (.put "/a" []), .advance 0 .good, .advance 0 .good]
    [.request true (.delete "/."), .advance 1 .good, .advance 1 .good]
    (by simp) ⟨0o755, .present, by decide +kernel⟩
  have hnone : (run ⟨Options.sample⟩ (start Namespace.initial)
      [.request true (.put "/a" []), .advance 0 .good, .advance 0 .good,
        .request true (.delete "/."), .advance 1 .good, .advance 1 .good]).space.nodes.find?
        Options.sample.root = none := by decide +kernel
  rw [List.cons_append, List.cons_append, List.cons_append, List.nil_append, hnone] at hf
  cases hf

end System

end RootedStore
