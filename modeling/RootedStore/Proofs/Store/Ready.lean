import RootedStore.Proofs.Namespace.View
import RootedStore.Proofs.Store.Put

/-!
# Work that is ready

What an operation puts in place it puts into a directory that it has provisioned before, and nothing that it does
in between takes that directory away. So the directory is there when it is needed, if nobody else does.
-/
namespace RootedStore

open Namespace (IsTree IsDirAt Change)
open RootedStore.Path (normalize)

/-- A question about some paths; what it puts in place it puts into a directory that is there. -/
def Question.IsReady (mask : UInt32) (paths : String → Prop) (nodes : Table Node) : Question → Prop
  | .call c => c.IsAt mask paths ∧ ∀ path ∈ c.placed?, IsDirAt nodes (Path.parent path)
  | .interruption | .signal => True

/-- Work that is ready for every question, if nobody else is at work. -/
def Work.Ready {α : Type} (mask : UInt32) (paths : String → Prop) : Work α → Namespace → Prop
  | .done _, _ => True
  | .ask q next, space => q.IsReady mask paths space.nodes ∧
    Ready mask paths (next (Client.answer Namespace.client .good q space).1)
      (Client.answer Namespace.client .good q space).2

variable {α : Type} {good : α → Prop} {mask : UInt32} {paths : String → Prop} {full : String} {c : Call}
variable {nodes nodes' : Table Node} {space : Namespace}

/-- Work is ready if what keeps its calls ready is kept by them. -/
theorem Work.ready_of_obeys (keeps : Table Node → Prop) {allowed : Call → Prop} {work : Work α}
    (h : Work.Obeys allowed good work)
    (hready : ∀ c nodes, allowed c → keeps nodes → (Question.call c).IsReady mask paths nodes)
    (hkeeps : ∀ c nodes nodes', allowed c → keeps nodes → Change c nodes nodes' → keeps nodes')
    (hspace : keeps space.nodes) : work.Ready mask paths space := by
  induction work generalizing space with
  | done a => trivial
  | ask q next ih =>
    obtain ⟨hq, hnext⟩ := h
    cases q with
    | interruption | signal => exact ⟨trivial, ih none (hnext none trivial) hspace⟩
    | call c =>
      refine ⟨hready c _ hq hspace, ih _ (hnext _ (Namespace.client_isSound c space)) ?_⟩
      rcases Namespace.client_change c space with hsame | hchange
      · exact hsame ▸ hspace
      · exact hkeeps c _ _ hq hspace hchange

/-- A call that puts nothing in place but at one path, and takes nothing away above it. -/
def Call.IsToward (full : String) : Call → Prop
  | .create path | .remove path | .rename _ path => path = full
  | .removeTree _ => False
  | .content _ | .openRead _ | .openAppend _ | .status _ | .entries _ | .makeDirs _ _ | .write _ _ | .close _
  | .seek _ _ | .stream _ => True

theorem Call.IsToward.placed (h : c.IsToward full) : ∀ path ∈ c.placed?, path = full := by
  intro path hp
  cases c with
  | create p | rename source p =>
    obtain rfl : p = path := by simpa [placed?] using hp
    exact h
  | _ => simp [placed?] at hp

/-- The directory that a path lies in stays through the calls towards that path. -/
theorem Namespace.isDirAt_parent_of_change (h : IsTree nodes) (hf : normalize full = full) (hc : c.IsToward full)
    (hchange : Change c nodes nodes') (hd : IsDirAt nodes (Path.parent full)) :
    IsDirAt nodes' (Path.parent full) := by
  cases hchange with
  | created free parent =>
    refine isDirAt_insert ?_ hd
    rintro ⟨mode, modified, hdir⟩
    simp [free] at hdir
  | removed notRoot present empty =>
    -- only the root is its own parent, and the root is not removed
    obtain rfl := hc
    have hne := (Path.isAncestor_parent hf notRoot).ne
    simpa [IsDirAt, Table.find?_erase, hne] using hd
  | removedTree present => exact hc.elim
  | renamed present distinct outside parent free =>
    -- a path does not move below itself, so what its target lies in stays where it is
    obtain rfl := hc
    have hm := canMove_of_renamed hf present distinct outside parent free
    have hne := mt (Path.names_eq_nil_iff hf).mpr (hm.names_target_ne_nil h)
    exact hm.isDirAt_of_outside h (fun hw => hm.not_within h (hw.of_parent hf))
      (Path.isAncestor_parent hf hne).not_within hd
  | provisioned => exact isDirAt_makeEach hd
  | written present =>
    refine isDirAt_insert ?_ hd
    rintro ⟨mode, modified, hdir⟩
    simp [present] at hdir

/-- Work that puts nothing in place is ready anywhere. -/
theorem Work.ready_of_not_placed {work : Work α}
    (h : Work.Obeys (fun c => c.IsAt mask paths ∧ c.placed? = none) good work) : work.Ready mask paths space := by
  refine Work.ready_of_obeys (fun _ => True) h ?_ (fun _ _ _ _ _ _ => trivial) trivial
  rintro c nodes ⟨hc, hnone⟩ _
  refine ⟨hc, ?_⟩
  simp [hnone]

/-- Work towards a path is ready once the directory that the path lies in is there. -/
theorem Work.ready_of_toward {work : Work α} (hf : normalize full = full)
    (hpaths : ∀ path, paths path → normalize path = path)
    (h : Work.Obeys (fun c => c.IsAt mask paths ∧ c.IsToward full) good work) (htree : IsTree nodes)
    (hd : IsDirAt nodes (Path.parent full)) : work.Ready mask paths ⟨nodes, []⟩ := by
  refine Work.ready_of_obeys (fun nodes => IsTree nodes ∧ IsDirAt nodes (Path.parent full)) h ?_ ?_
    ⟨htree, hd⟩
  · rintro c nodes ⟨hc, htoward⟩ ⟨_, hd⟩
    refine ⟨hc, fun path hp => ?_⟩
    rw [htoward.placed path hp]
    exact hd
  · rintro c nodes nodes' ⟨hc, htoward⟩ ⟨htree, hd⟩ hchange
    have htree' := htree.change hchange fun path hp => hpaths path (hc.placed path hp)
    exact ⟨htree', Namespace.isDirAt_parent_of_change htree hf htoward hchange hd⟩

namespace Action

variable {path : String} {next : c.Result → Action α}

theorem run_call_bind (path : String) (c : Call) (next : c.Result → Action α) :
    (Action.call path c >>= next).run = .ask .interruption fun
      | some why => .done (.error (.ofClient driverName path (.interrupted why)))
      | none => .ask (.call c) fun r => ExceptT.bindCont next (r.mapError (.ofClient driverName path)) := by
  refine congrArg (Program.ask Question.interruption) (funext fun why => ?_)
  cases why <;> rfl

theorem Obeys.of_call_bind {allowed : Call → Prop} (h : Obeys allowed good (Action.call path c >>= next)) :
    allowed c ∧ ∀ a, c.IsSound (.ok a) → Obeys allowed good (next a) := by
  rw [Obeys, run_call_bind] at h
  obtain ⟨_, hasked⟩ := h
  obtain ⟨hcall, hnext⟩ := hasked none trivial
  exact ⟨hcall, fun a ha => hnext (.ok a) ha⟩

theorem ready_call_bind (hc : (Question.call c).IsReady mask paths space.nodes)
    (hnext : ∀ a space', Namespace.client c space = (.ok a, space') → Work.Ready mask paths (next a).run space') :
    Work.Ready mask paths (Action.call path c >>= next).run space := by
  rw [run_call_bind]
  refine ⟨trivial, hc, ?_⟩
  rw [Client.answer, Client.answer]
  cases hr : (Namespace.client c space).1 with
  | error e => trivial
  | ok a => exact hnext a _ (Prod.ext hr rfl)

end Action

namespace Store

/-- The path at which an operation puts something. -/
def Operation.placed? : Operation → Option String
  | .put path _ | .openWriter path _ | .move _ path => some path
  | .get _ | .openReader _ _ | .stat _ | .list _ | .delete _ | .link _ => none

theorem Operation.Makes.placed_eq_none {o : Options} {op : Operation} (h : op.Makes o c) (hp : op.placed? = none) :
    c.placed? = none := by
  cases h with
  | opens | stores | openWriter | parents | rename => simp [Operation.placed?] at hp
  | content | openRead | seek | status | entries | removeTree => rfl

theorem Operation.Makes.isToward {o : Options} {op : Operation} {path : String} (h : op.Makes o c)
    (hp : op.placed? = some path) (hr : o.resolve path = .ok full) : c.IsToward full := by
  have hsame : ∀ {path' full' : String}, some path' = some path → o.resolve path' = .ok full' → full' = full := by
    rintro _ full' ⟨⟩ hr'
    exact Except.ok.inj (hr'.symm.trans hr)
  cases h with
  | opens hr' hc | openWriter hr' hc =>
    cases hc with
    | parents | status | openAppend => trivial
    | remove | create => exact hsame hp hr'
  | stores hr' hc =>
    cases hc with
    | write | close => trivial
    | remove => exact hsame hp hr'
  | parents => trivial
  | rename hs ht => exact hsame hp ht
  | content | openRead | seek | status | entries | removeTree => simp [Operation.placed?] at hp

variable (st : Store)

theorem resolve_bind {β : Type} (path : String) (next : String → Action β) :
    (∃ e, st.resolve path >>= next = throw e) ∨
      ∃ full, st.options.resolve path = .ok full ∧ st.resolve path >>= next = next full := by
  cases hr : st.options.resolve path with
  | error e => exact .inl ⟨e, resolve_bind_error hr next⟩
  | ok full => exact .inr ⟨full, rfl, resolve_bind_ok hr next⟩

/-- An operation that puts something in place provisions directories before it asks for anything else. -/
theorem perform_of_placed {op : Operation} {path : String} (hp : op.placed? = some path) :
    (∃ e, st.perform op = throw e) ∨
      ∃ full next, st.options.resolve path = .ok full ∧ st.perform op = st.makeParents full >>= next := by
  have hopen : ∀ append, (∃ e, st.openWriter path append = throw e) ∨
      ∃ full next, st.options.resolve path = .ok full ∧ st.openWriter path append = st.makeParents full >>= next := by
    intro append
    obtain ⟨next, hnext⟩ : ∃ next : String → Unit → Action WriteSession, st.openWriter path append =
        st.resolve path >>= fun full => st.makeParents full >>= next full := ⟨_, rfl⟩
    rcases st.resolve_bind path fun full => st.makeParents full >>= next full with ⟨e, h⟩ | ⟨full, hr, h⟩
    · exact .inl ⟨e, hnext.trans h⟩
    · exact .inr ⟨full, next full, hr, hnext.trans h⟩
  cases op with
  | openWriter p append =>
    obtain rfl := Option.some.inj hp
    exact hopen append
  | put p content =>
    obtain rfl := Option.some.inj hp
    rcases hopen false with ⟨e, h⟩ | ⟨full, next, hr, h⟩
    · refine .inl ⟨e, ?_⟩
      rw [perform, put_eq, h]
      rfl
    · refine .inr ⟨full, fun _ => next () >>= fill content, hr, ?_⟩
      rw [perform, put_eq, h, bind_assoc]
  | move source target =>
    obtain rfl := Option.some.inj hp
    let next (fromPath toPath : String) : Action Unit :=
      st.makeParents toPath >>= fun _ => Action.call fromPath (.rename fromPath toPath)
    rcases st.resolve_bind source fun fromPath => st.resolve target >>= next fromPath with ⟨e, h⟩ | ⟨fromPath, _, h⟩
    · exact .inl ⟨e, h⟩
    · rcases st.resolve_bind target (next fromPath) with ⟨e, h'⟩ | ⟨toPath, hr, h'⟩
      · exact .inl ⟨e, h.trans h'⟩
      · exact .inr ⟨toPath, _, hr, h.trans h'⟩
  | get | openReader | stat | list | delete | link => cases hp

/-- Once directories are provisioned, work towards a path in them is ready. -/
theorem ready_makeParents {next : Unit → Action α} (hf : normalize full = full)
    (hpaths : ∀ path, paths path → normalize path = path)
    (h : Action.Obeys (fun c => c.IsAt mask paths ∧ c.IsToward full) good (st.makeParents full >>= next))
    (htree : IsTree nodes) : Work.Ready mask paths (st.makeParents full >>= next).run ⟨nodes, []⟩ := by
  obtain ⟨hcall, hnext⟩ := Action.Obeys.of_call_bind h
  refine Action.ready_call_bind ⟨hcall.1, by simp [Call.placed?]⟩ ?_
  intro _ space' hserve
  rw [Namespace.client_of_nil, Namespace.serve_makeDirs] at hserve
  cases hm : (Namespace.makeEach st.options.mask nodes (Path.lineage (Path.parent full))).1 with
  | some e => simp [hm] at hserve
  | none =>
    obtain rfl := (Prod.mk.inj hserve).2
    have hprovisioned := (htree.makeEach_lineage st.options.mask (Path.parent full)).1
    exact Work.ready_of_toward hf hpaths (hnext () trivial) hprovisioned (htree.isDirAt_parent_makeEach hf hm)

/-- Every operation is ready wherever it runs alone. -/
theorem ready_perform (op : Operation) (htree : IsTree nodes) :
    Work.Ready st.options.mask (op.Resolved st.options) (st.perform op).run ⟨nodes, []⟩ := by
  have hobeys := st.obeys_perform op
  cases hp : op.placed? with
  | none => exact Work.ready_of_not_placed (hobeys.mono (fun c hc => ⟨hc.isAt, hc.placed_eq_none hp⟩) fun _ h => h)
  | some path =>
    rcases st.perform_of_placed hp with ⟨e, he⟩ | ⟨full, next, hr, he⟩
    · rw [he]
      trivial
    · rw [he] at hobeys ⊢
      exact st.ready_makeParents (Options.normalize_of_resolve hr) (fun _ hc => hc.canonical)
        (hobeys.mono (fun c hc => ⟨hc.isAt, hc.isToward hp hr⟩) fun _ h => h) htree

end Store

end RootedStore
