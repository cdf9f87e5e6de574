import RootedStore.Proofs.Namespace.Change
import RootedStore.Proofs.Store.Calls

/-!
# A store in use

A namenode, the write sessions that callers hold, and the programs under way. Callers may start any
operation, and any use of a session, at any time. What is under way goes on by one question at a time, in
any order, and every question may find its request in another standing. Failures may be arranged at any
time. A store that is held to some calls, by what is asked of it and by its sessions, makes no others in
such a run, and what a table keeps through these calls it keeps through the run.
-/
namespace RootedStore

inductive SessionUse where
  | write (data : Bytes)
  | close
  | commit
  | cancel
  deriving DecidableEq, Repr

def WriteSession.afterUse (s : WriteSession) : SessionUse → Work WriteSession
  | .write data => (s.write data).bind fun r => .done r.2
  | .close => s.close.bind fun r => .done r.2
  | .commit => s.commit.bind fun r => .done r.2
  | .cancel => s.cancel.bind fun r => .done r.2

/-- The write session that an operation hands out, if it is one that does. -/
def Store.Operation.session? : (op : Operation) → Except StorageError op.Result → Option WriteSession
  | .openWriter _ _, .ok s => some s
  | _, _ => none

def Store.Operation.opened? : Operation → Option String
  | .openWriter path _ => some path
  | _ => none

structure System where
  space : Namespace
  /-- The sessions that are not in use at the moment. -/
  sessions : List WriteSession
  /-- What is under way, with the session that there is at its end, if there is one. -/
  running : List (Work (Option WriteSession))

inductive Event where
  /-- An operation starts, for a caller that is held to the grammar of keys or for one that is not. -/
  | request (keyed : Bool) (op : Store.Operation)
  | use (i : Nat) (how : SessionUse)
  /-- What is under way at an index goes on, for a request that stands as given. -/
  | advance (i : Nat) (standing : Standing)
  | fault (kind : CallKind)
  deriving DecidableEq, Repr

namespace System

def start (space : Namespace) : System := ⟨space, [], []⟩

def step (st : Store) (sys : System) : Event → System
  | .request keyed op =>
    { sys with running := sys.running ++ [(st.request keyed op).run.bind fun r => .done (op.session? r)] }
  | .use i how =>
    match sys.sessions[i]? with
    | none => sys
    | some s =>
      { sys with
        sessions := sys.sessions.eraseIdx i
        running := sys.running ++ [(s.afterUse how).bind fun s' => .done (some s')] }
  | .advance i standing =>
    match sys.running[i]? with
    | none => sys
    | some (.done s?) =>
      { sys with sessions := sys.sessions ++ s?.toList, running := sys.running.eraseIdx i }
    | some (.ask q next) =>
      let (r, space) := Client.answer Namespace.client standing q sys.space
      { sys with space, running := sys.running.set i (next r) }
  | .fault kind => { sys with space := sys.space.failNext kind }

def run (st : Store) (sys : System) (events : List Event) : System := events.foldl (step st) sys

@[simp] theorem run_nil (st : Store) (sys : System) : run st sys [] = sys := rfl

@[simp] theorem run_cons (st : Store) (sys : System) (e : Event) (events : List Event) :
    run st sys (e :: events) = run st (step st sys e) events := rfl

theorem run_append (st : Store) (sys : System) (before after : List Event) :
    run st sys (before ++ after) = run st (run st sys before) after := List.foldl_append

/-- What is under way can go on to its end without anything else in between. -/
theorem exists_run_to_end (st : Store) (standing : Standing) (work : Work (Option WriteSession))
    (space : Namespace) (sessions : List WriteSession) (running : List (Work (Option WriteSession))) :
    ∃ events, run st ⟨space, sessions, running ++ [work]⟩ events =
      ⟨(work.run Namespace.client standing space).2,
        sessions ++ (work.run Namespace.client standing space).1.toList, running⟩ := by
  induction work generalizing space with
  | done s? =>
    have he : (running ++ [Program.done s?]).eraseIdx running.length = running := by
      rw [List.eraseIdx_append_of_length_le (Nat.le_refl _)]
      simp
    exact ⟨[.advance running.length standing], by simp [step, Work.run, Program.run, he]⟩
  | ask q next ih =>
    obtain ⟨events, he⟩ := ih (Client.answer Namespace.client standing q space).1
      (Client.answer Namespace.client standing q space).2
    refine ⟨.advance running.length standing :: events, ?_⟩
    simpa [step, Work.run, Program.run] using he

/-- A store can bring the namespace from the root alone to this. -/
def Reachable (st : Store) (space : Namespace) : Prop :=
  ∃ events, (run st (start Namespace.initial) events).space = space

/-- Operations that are done one after the other stay within reach. -/
theorem Reachable.request {st : Store} {space : Namespace} (h : Reachable st space) (keyed : Bool)
    (op : Store.Operation) (standing : Standing) :
    Reachable st (Work.run (st.request keyed op).run Namespace.client standing space).2 := by
  obtain ⟨events, rfl⟩ := h
  let sys := run st (start Namespace.initial) events
  obtain ⟨more, hmore⟩ := exists_run_to_end st standing
    ((st.request keyed op).run.bind fun r => .done (op.session? r)) sys.space sys.sessions sys.running
  refine ⟨events ++ .request keyed op :: more, ?_⟩
  rw [run_append, run_cons]
  have hstep : step st sys (.request keyed op) = ⟨sys.space, sys.sessions,
    sys.running ++ [(st.request keyed op).run.bind fun r => .done (op.session? r)]⟩ := rfl
  rw [hstep, hmore, Work.run, Program.run_bind]
  rfl

/-- The terms that a store is held to: which calls are made, at which paths sessions are, and what the
table keeps through these calls. The calls of a session at such a path are among them. -/
structure Regime where
  allowed : Call → Prop
  paths : String → Prop
  keeps : Table Node → Prop
  ofSession : ∀ {path : String} {c : Call}, paths path → c.IsOfSession path → allowed c
  change : ∀ {c : Call} {nodes nodes' : Table Node}, allowed c → keeps nodes →
    Namespace.Change c nodes nodes' → keeps nodes'

/-- An operation that is let through must be one whose calls are allowed. -/
def Regime.Admits (g : Regime) (st : Store) : Event → Prop
  | .request keyed op => op.Passes keyed → (∀ c, op.Makes st.options c → g.allowed c) ∧
    ∀ path ∈ op.opened?, ∀ full, st.options.resolve path = .ok full → g.paths full
  | .use _ _ | .advance _ _ | .fault _ => True

/-- A system within the terms, what is under way included. -/
structure Obeys (g : Regime) (sys : System) : Prop where
  nodes : g.keeps sys.space.nodes
  sessions : ∀ s ∈ sys.sessions, s.LiesAt g.paths
  running : ∀ work ∈ sys.running, Work.Obeys g.allowed (fun s? => ∀ s ∈ s?, s.LiesAt g.paths) work

variable {g : Regime}

theorem obeys_start {space : Namespace} (h : g.keeps space.nodes) : Obeys g (start space) :=
  ⟨h, by simp [start], by simp [start]⟩

theorem obeys_afterUse {s : WriteSession} (h : s.LiesAt g.paths) (how : SessionUse) :
    Work.Obeys g.allowed (WriteSession.LiesAt g.paths) (s.afterUse how) := by
  cases how with
  | write data =>
    exact (WriteSession.obeys_write h g.ofSession data).bind fun _ hs => Work.obeys_done hs
  | close => exact (WriteSession.obeys_close h g.ofSession).bind fun _ hs => Work.obeys_done hs
  | commit => exact (WriteSession.obeys_commit h g.ofSession).bind fun _ hs => Work.obeys_done hs
  | cancel => exact (WriteSession.obeys_cancel h g.ofSession).bind fun _ hs => Work.obeys_done hs

theorem liesAt_session? {o : Options} {op : Store.Operation} {paths : String → Prop}
    {r : Except StorageError op.Result} (hr : ∀ a, r = .ok a → op.Gives o a)
    (hp : ∀ path ∈ op.opened?, ∀ full, o.resolve path = .ok full → paths full) :
    ∀ s ∈ op.session? r, s.LiesAt paths := by
  intro s hs
  cases op with
  | openWriter path append =>
    cases r with
    | ok w =>
      obtain rfl : w = s := by simpa [Store.Operation.session?] using hs
      have hlies : w.LiesAt (o.resolve path = .ok ·) := hr w rfl
      exact ⟨hp path rfl _ hlies.path, hlies.onPath⟩
    | error e => simp [Store.Operation.session?] at hs
  | _ => simp [Store.Operation.session?] at hs

end System

namespace Namespace

theorem client_isSound (c : Call) (ns : Namespace) : c.IsSound (client c ns).1 := by
  rw [client]
  split
  · exact c.isSound_error _
  · cases c with
    | create path =>
      simp only [serve, apply]
      cases create ns.nodes path with
      | ok nodes => rfl
      | error e => trivial
    | openAppend path =>
      simp only [serve]
      cases fileAt ns.nodes path with
      | ok content => rfl
      | error e => trivial
    | _ => trivial

end Namespace

namespace System

variable {st : Store} {g : Regime}

/-- An answer is sound and keeps what allowed calls keep. -/
theorem obeys_answer (standing : Standing) {q : Question} {space : Namespace} (hq : q.Only g.allowed)
    (hs : g.keeps space.nodes) :
    q.IsSound (Client.answer Namespace.client standing q space).1 ∧
      g.keeps (Client.answer Namespace.client standing q space).2.nodes := by
  cases q with
  | interruption => exact ⟨trivial, hs⟩
  | signal => exact ⟨trivial, hs⟩
  | call c =>
    refine ⟨Namespace.client_isSound c space, ?_⟩
    rcases Namespace.client_change c space with h | h
    · simp only [Client.answer, h]
      exact hs
    · exact g.change hq hs h

theorem obeys_step {sys : System} (h : Obeys g sys) {e : Event} (he : g.Admits st e) :
    Obeys g (step st sys e) := by
  cases e with
  | request keyed op =>
    refine ⟨h.nodes, h.sessions, ?_⟩
    intro work hw
    rcases List.mem_append.mp hw with hw | hw
    · exact h.running work hw
    · rw [List.mem_singleton.mp hw]
      refine Work.Obeys.bind (st.obeys_request keyed op fun hp => (he hp).1) fun r hr => ?_
      refine Work.obeys_done ?_
      cases r with
      | ok a => exact liesAt_session? (fun b hb => (hr b hb).2) (he (hr a rfl).1).2
      | error e =>
        intro s hs
        cases op <;> simp [Store.Operation.session?] at hs
  | use i how =>
    rw [step]
    split
    · exact h
    · rename_i s hs
      refine ⟨h.nodes, fun t ht => h.sessions t (List.mem_of_mem_eraseIdx ht), ?_⟩
      intro work hw
      rcases List.mem_append.mp hw with hw | hw
      · exact h.running work hw
      · rw [List.mem_singleton.mp hw]
        have hlies := h.sessions s (List.mem_of_getElem? hs)
        exact (obeys_afterUse hlies how).bind fun s' hs' => Work.obeys_done (by simpa using hs')
  | advance i standing =>
    rw [step]
    split
    · exact h
    · rename_i s? hs
      refine ⟨h.nodes, ?_, fun work hw => h.running work (List.mem_of_mem_eraseIdx hw)⟩
      intro s hmem
      rcases List.mem_append.mp hmem with hmem | hmem
      · exact h.sessions s hmem
      · exact h.running _ (List.mem_of_getElem? hs) s (by simpa using hmem)
    · rename_i q next hq
      have hwork := h.running _ (List.mem_of_getElem? hq)
      have ⟨hsound, hnodes⟩ := obeys_answer standing hwork.1 h.nodes
      refine ⟨hnodes, h.sessions, ?_⟩
      intro work hw
      rcases List.mem_or_eq_of_mem_set hw with hw | rfl
      · exact h.running work hw
      · exact hwork.2 _ hsound
  | fault kind => exact ⟨h.nodes, h.sessions, h.running⟩

/-- A run of events within the terms stays within them. -/
theorem obeys_run {sys : System} (h : Obeys g sys) {events : List Event} (he : ∀ e ∈ events, g.Admits st e) :
    Obeys g (run st sys events) := by
  induction events generalizing sys with
  | nil => exact h
  | cons e events ih =>
    refine ih (obeys_step h (he e List.mem_cons_self)) ?_
    intro f hf
    exact he f (List.mem_cons_of_mem e hf)

/-- The sessions of a system, and those of what is under way, are confined, and its table has a property. -/
structure Confined (o : Options) (keeps : Table Node → Prop) (sys : System) : Prop where
  nodes : keeps sys.space.nodes
  sessions : ∀ s ∈ sys.sessions, s.LiesAt o.IsResolved
  running : ∀ work ∈ sys.running,
    Work.Obeys (Call.IsConfined o) (fun s? => ∀ s ∈ s?, s.LiesAt o.IsResolved) work

theorem confined_start {o : Options} {keeps : Table Node → Prop} {space : Namespace}
    (h : keeps space.nodes) : Confined o keeps (start space) :=
  ⟨h, by simp [start], by simp [start]⟩

/-- What the changes of confined calls keep is kept through every run. -/
theorem confined_run {keeps : Table Node → Prop}
    (hkeeps : ∀ c nodes nodes', c.IsConfined st.options → keeps nodes → Namespace.Change c nodes nodes' →
      keeps nodes')
    {sys : System} (h : Confined st.options keeps sys) (events : List Event) :
    Confined st.options keeps (run st sys events) := by
  let g : Regime := {
    allowed := Call.IsConfined st.options
    paths := st.options.IsResolved
    keeps
    ofSession := fun hp hc => hc.isConfined hp
    change := fun hc hk hchange => hkeeps _ _ _ hc hk hchange }
  have hadmits : ∀ e ∈ events, g.Admits st e := by
    intro e _
    cases e with
    | request keyed op => exact fun _ => ⟨fun c hc => hc.isConfined, fun path _ full hf => ⟨path, hf⟩⟩
    | use | advance | fault => trivial
  have hrun : Obeys g (run st sys events) := obeys_run ⟨h.nodes, h.sessions, h.running⟩ hadmits
  exact ⟨hrun.nodes, hrun.sessions, hrun.running⟩

end System

end RootedStore
