import RootedStore.Proofs.Program
import RootedStore.Store.Keyed

/-!
# The calls of a store

What calls there are is known for every operation and every use of a session before anything is asked: an
operation makes its calls on the paths that its arguments resolve to, and a write session writes and
removes at the path that it was opened for. So a store is confined. It makes its calls on resolved paths
only, and provisions directories as parents of resolved paths only, with the configured mode. All this
holds whatever the namenode replies.
-/
namespace RootedStore

/-- A handle that is written to is one on the path that was asked for. -/
def Call.IsSound : (c : Call) → c.Reply → Prop
  | .create path, .ok handle => handle.path = path
  | .openAppend path, .ok handle => handle.path = path
  | _, _ => True

def Question.IsSound : (q : Question) → q.Reply → Prop
  | .call c, r => c.IsSound r
  | .interruption, _ => True
  | .signal, _ => True

/-- A question that makes no other call than those that are allowed. -/
def Question.Only (allowed : Call → Prop) : Question → Prop
  | .call c => allowed c
  | .interruption | .signal => True

variable {α β : Type} {allowed allowed' : Call → Prop} {good good' : α → Prop} {better : β → Prop}

/-- A program that makes allowed calls only and ends with a good result. -/
def Work.Obeys (allowed : Call → Prop) (good : α → Prop) (work : Work α) : Prop :=
  Program.Conforms (Question.Only allowed) Question.IsSound good work

/-- The same for a program that may end with an error; its result is good if there is one. -/
def Action.Obeys (allowed : Call → Prop) (good : α → Prop) (action : Action α) : Prop :=
  Work.Obeys allowed (fun r => ∀ a, r = .ok a → good a) action.run

theorem Call.isSound_error (c : Call) (e : ClientError) : c.IsSound (.error e) := by
  cases c <;> trivial

theorem Work.Obeys.bind {work : Work α} {next : α → Work β} (hw : Work.Obeys allowed good work)
    (hn : ∀ a, good a → Work.Obeys allowed better (next a)) : Work.Obeys allowed better (work.bind next) :=
  Program.conforms_bind hw hn

theorem Work.Obeys.mono {work : Work α} (h : Work.Obeys allowed good work)
    (ha : ∀ c, allowed c → allowed' c) (hg : ∀ a, good a → good' a) : Work.Obeys allowed' good' work := by
  refine Program.Conforms.mono h ?_ hg
  intro q hq
  cases q with
  | call c => exact ha c hq
  | interruption | signal => trivial

theorem Work.obeys_done {a : α} (h : good a) : Work.Obeys allowed good (.done a) := h

/-- A guarded call asks for the interruption and makes the call, nothing else. -/
theorem Call.obeys_guarded {c : Call} (h : allowed c) : Work.Obeys allowed c.IsSound c.guarded := by
  refine ⟨trivial, ?_⟩
  intro why _
  cases why with
  | some why => exact c.isSound_error _
  | none => exact ⟨h, fun r hr => hr⟩

namespace Action

theorem obeys_pure {a : α} (h : good a) : Obeys allowed good (pure a) := by
  rintro _ ⟨⟩
  exact h

theorem obeys_throw {e : StorageError} : Obeys allowed good (throw e) := by
  rintro _ ⟨⟩

theorem Obeys.bind {action : Action α} {next : α → Action β} (ha : Obeys allowed good action)
    (hn : ∀ a, good a → Obeys allowed better (next a)) : Obeys allowed better (action >>= next) := by
  refine Work.Obeys.bind ha ?_
  intro r hr
  cases r with
  | ok a => exact hn a (hr a rfl)
  | error e => exact obeys_throw

theorem Obeys.mono {action : Action α} (h : Obeys allowed good action)
    (ha : ∀ c, allowed c → allowed' c) (hg : ∀ a, good a → good' a) : Obeys allowed' good' action :=
  Work.Obeys.mono h ha fun _ hr a he => hg a (hr a he)

theorem obeys_lift {work : Work α} (h : Work.Obeys allowed good work) :
    Obeys allowed good (ExceptT.lift work) := by
  refine Work.Obeys.bind h ?_
  rintro a ha _ ⟨⟩
  exact ha

theorem obeys_call {path : String} {c : Call} (h : allowed c) :
    Obeys allowed (fun r => c.IsSound (.ok r)) (Action.call path c) := by
  refine Work.Obeys.bind (Call.obeys_guarded h) ?_
  intro r hr a he
  cases r with
  | ok b =>
    obtain rfl := Except.ok.inj he
    exact hr
  | error e => cases he

theorem obeys_attempt {c : Call} (h : allowed c) : Obeys allowed c.IsSound (Action.attempt c) :=
  obeys_lift (Call.obeys_guarded h)

end Action

/-- The calls of a session at a path. -/
inductive Call.IsOfSession (path : String) : Call → Prop where
  | write {handle : WriteHandle} {data : Bytes} (h : handle.path = path) : IsOfSession path (.write handle data)
  | close {handle : WriteHandle} (h : handle.path = path) : IsOfSession path (.close handle)
  | remove : IsOfSession path (.remove path)

namespace WriteSession

/-- A session at one of some paths, with a handle on its path if it has one. -/
structure LiesAt (paths : String → Prop) (s : WriteSession) : Prop where
  path : paths s.path
  onPath : ∀ handle, s.handle = some handle → handle.path = s.path

theorem liesAt_start {paths : String → Prop} {handle : WriteHandle} {path : String} (hp : paths path)
    (hh : handle.path = path) (size : UInt64) : (start handle path size).LiesAt paths := by
  refine ⟨hp, ?_⟩
  rintro _ ⟨⟩
  exact hh

variable {paths : String → Prop} {s : WriteSession}

/-- The session that comes out of a step. -/
def StepLiesAt (paths : String → Prop) (r : Except StorageError α × WriteSession) : Prop := r.2.LiesAt paths

variable (hs : s.LiesAt paths)
include hs

theorem LiesAt.setState {state : WriteState} : { s with state := state }.LiesAt paths :=
  ⟨hs.path, hs.onPath⟩

variable (ha : ∀ {path : String} {c : Call}, paths path → c.IsOfSession path → allowed c)
include ha

theorem obeys_releaseHandle : Work.Obeys allowed (StepLiesAt paths) s.releaseHandle := by
  rw [releaseHandle]
  split
  · exact Work.obeys_done hs
  · rename_i handle hh
    refine Work.Obeys.bind (Call.obeys_guarded (ha hs.path (.close (hs.onPath handle hh)))) ?_
    intro r _
    exact Work.obeys_done ⟨hs.path, by simp⟩

theorem obeys_write (data : Bytes) : Work.Obeys allowed (StepLiesAt paths) (s.write data) := by
  rw [write]
  split
  · rename_i handle _ hh
    refine Work.Obeys.bind (Call.obeys_guarded (ha hs.path (.write (hs.onPath handle hh)))) ?_
    intro r _
    cases r with
    | ok _ => exact Work.obeys_done ⟨hs.path, hs.onPath⟩
    | error e => exact Work.obeys_done hs
  · exact Work.obeys_done hs
  · exact Work.obeys_done hs

theorem obeys_close : Work.Obeys allowed (StepLiesAt paths) s.close := by
  rw [close]
  split
  · exact obeys_releaseHandle hs.setState ha
  · exact obeys_releaseHandle hs ha

theorem obeys_commit : Work.Obeys allowed (StepLiesAt paths) s.commit := by
  rw [commit]
  split
  · refine Work.Obeys.bind (obeys_releaseHandle hs ha) ?_
    rintro ⟨r, s'⟩ hs
    cases r with
    | ok _ => exact Work.obeys_done (LiesAt.setState hs)
    | error e => exact Work.obeys_done hs
  · exact Work.obeys_done hs

theorem obeys_cancel : Work.Obeys allowed (StepLiesAt paths) s.cancel := by
  rw [cancel]
  split
  case h_1 | h_2 => exact Work.obeys_done hs
  case h_3 | h_4 =>
    refine Work.Obeys.bind (obeys_releaseHandle hs.setState ha) ?_
    rintro ⟨_, s'⟩ hs
    refine Work.Obeys.bind (Call.obeys_guarded (ha hs.path .remove)) ?_
    intro r _
    cases r with
    | ok _ => exact Work.obeys_done hs
    | error e => exact Work.obeys_done hs

end WriteSession

/-- The calls that open a session at a resolved path. -/
inductive Call.Opens (o : Options) (full : String) (append : Bool) : Call → Prop where
  | parents : Opens o full append (.makeDirs (Path.parent full) o.mask)
  | status : Opens o full append (.status full)
  | openAppend (h : append = true) : Opens o full append (.openAppend full)
  | remove (h : append = false) : Opens o full append (.remove full)
  | create : Opens o full append (.create full)

namespace Store

/-- The paths that a caller names, in the order in which they are resolved. -/
def Operation.paths : Operation → List String
  | .move source target => [source, target]
  | .get path | .put path _ | .openReader path _ | .openWriter path _ | .stat path | .list path | .delete path
  | .link path => [path]

/-- The calls that an operation may make. -/
inductive Operation.Makes (o : Options) : Operation → Call → Prop where
  | content {path full : String} (h : o.resolve path = .ok full) : Makes o (.get path) (.content full)
  | opens {path full : String} {content : Bytes} {c : Call} (h : o.resolve path = .ok full)
      (hc : c.Opens o full false) : Makes o (.put path content) c
  | stores {path full : String} {content : Bytes} {c : Call} (h : o.resolve path = .ok full)
      (hc : c.IsOfSession full) : Makes o (.put path content) c
  | openRead {path full : String} {offset : UInt64} (h : o.resolve path = .ok full) :
      Makes o (.openReader path offset) (.openRead full)
  | seek {path : String} {offset : UInt64} {handle : ReadHandle} :
      Makes o (.openReader path offset) (.seek handle offset)
  | openWriter {path full : String} {append : Bool} {c : Call} (h : o.resolve path = .ok full)
      (hc : c.Opens o full append) : Makes o (.openWriter path append) c
  | status {path full : String} (h : o.resolve path = .ok full) : Makes o (.stat path) (.status full)
  | entries {path full : String} (h : o.resolve path = .ok full) : Makes o (.list path) (.entries full)
  | parents {source target full : String} (h : o.resolve target = .ok full) :
      Makes o (.move source target) (.makeDirs (Path.parent full) o.mask)
  | rename {source target fromPath toPath : String} (hs : o.resolve source = .ok fromPath)
      (ht : o.resolve target = .ok toPath) : Makes o (.move source target) (.rename fromPath toPath)
  | removeTree {path full : String} (h : o.resolve path = .ok full) :
      Makes o (.delete path) (.removeTree full)

/-- What an operation hands out is at the path that its argument resolves to. -/
def Operation.Gives (o : Options) : (op : Operation) → op.Result → Prop
  | .openWriter path _, w => w.LiesAt (o.resolve path = .ok ·)
  | _, _ => True

variable (st : Store)

theorem obeys_resolve (path : String) :
    Action.Obeys allowed (st.options.resolve path = .ok ·) (st.resolve path) := fun _ h => h

/-- Opening a session makes its calls at the resolved path, and the session writes there. -/
theorem obeys_openWriter (path : String) (append : Bool)
    (ha : ∀ full c, st.options.resolve path = .ok full → c.Opens st.options full append → allowed c) :
    Action.Obeys allowed (fun w => w.LiesAt (st.options.resolve path = .ok ·))
      (st.openWriter path append) := by
  refine (st.obeys_resolve path).bind ?_
  intro full hfull
  refine (Action.obeys_call (c := .makeDirs _ _) (ha full _ hfull .parents)).bind ?_
  intro _ _
  refine (Action.obeys_attempt (c := .status full) (ha full _ hfull .status)).bind ?_
  have hcreate : Action.Obeys allowed (fun w : WriteSession => w.LiesAt (st.options.resolve path = .ok ·))
      (Action.call full (.create full) >>= fun handle => pure (.start handle full 0)) := by
    refine (Action.obeys_call (c := .create full) (ha full _ hfull .create)).bind ?_
    intro handle hh
    exact Action.obeys_pure (WriteSession.liesAt_start hfull hh 0)
  intro found _
  split
  · split
    · rename_i happend
      refine (Action.obeys_call (c := .openAppend full) (ha full _ hfull (.openAppend happend))).bind ?_
      intro handle hh
      exact Action.obeys_pure (WriteSession.liesAt_start hfull hh _)
    · rename_i happend
      have hfalse : append = false := by simpa using happend
      refine (Action.obeys_call (c := .remove full) (ha full _ hfull (.remove hfalse))).bind ?_
      intro _ _
      exact hcreate
  · exact hcreate
  · exact Action.obeys_throw

theorem obeys_put (path : String) (content : Bytes) :
    Action.Obeys (Operation.Makes st.options (.put path content)) (fun _ => True) (st.put path content) := by
  have ha : ∀ {full : String} {c : Call}, st.options.resolve path = .ok full → c.IsOfSession full →
      Operation.Makes st.options (.put path content) c := fun h hc => .stores h hc
  refine (st.obeys_openWriter path false fun full c h hc => .opens h hc).bind ?_
  intro opened hopened
  refine (Action.obeys_lift (WriteSession.obeys_write hopened ha content)).bind ?_
  rintro ⟨r, w⟩ hw
  cases r with
  | error e =>
    refine (Action.obeys_lift (WriteSession.obeys_close hw ha)).bind ?_
    intro _ _
    exact Action.obeys_throw
  | ok _ =>
    refine (Action.obeys_lift (WriteSession.obeys_commit hw ha)).bind ?_
    rintro ⟨r, w⟩ hw
    cases r with
    | error e => exact Action.obeys_throw
    | ok _ =>
      refine Work.Obeys.bind (WriteSession.obeys_close hw ha) ?_
      intro r _ a _
      trivial

/-- Every operation makes its own calls only. -/
theorem obeys_perform (op : Operation) :
    Action.Obeys (op.Makes st.options) (op.Gives st.options) (st.perform op) := by
  cases op with
  | get path =>
    refine (st.obeys_resolve path).bind ?_
    intro full hfull
    exact Action.obeys_call (c := .content full) (.content hfull)
  | put path content => exact st.obeys_put path content
  | openReader path offset =>
    refine (st.obeys_resolve path).bind ?_
    intro full hfull
    refine (Action.obeys_call (c := .openRead full) (.openRead hfull)).bind ?_
    intro handle _
    dsimp only
    split
    · exact Action.obeys_throw
    · refine (Action.obeys_call (c := .seek handle offset) .seek).bind ?_
      intro placed _
      split
      · exact Action.obeys_throw
      · exact Action.obeys_pure trivial
  | openWriter path append => exact st.obeys_openWriter path append fun full c h hc => .openWriter h hc
  | stat path =>
    refine (st.obeys_resolve path).bind ?_
    intro full hfull
    refine (Action.obeys_call (c := .status full) (.status hfull)).bind ?_
    intro found _
    exact Action.obeys_pure trivial
  | list path =>
    refine (st.obeys_resolve path).bind ?_
    intro full hfull
    refine (Action.obeys_attempt (c := .entries full) (.entries hfull)).bind ?_
    intro found _
    split
    · exact Action.obeys_pure trivial
    · exact Action.obeys_pure trivial
    · exact Action.obeys_throw
  | move source target =>
    refine (st.obeys_resolve source).bind ?_
    intro fromPath hfrom
    refine (st.obeys_resolve target).bind ?_
    intro toPath hto
    refine (Action.obeys_call (c := .makeDirs _ _) (.parents hto)).bind ?_
    intro _ _
    exact Action.obeys_call (c := .rename fromPath toPath) (.rename hfrom hto)
  | delete path =>
    refine (st.obeys_resolve path).bind ?_
    intro full hfull
    exact Action.obeys_call (c := .removeTree full) (.removeTree hfull)
  | link path => exact Action.obeys_throw

/-- Whether an operation is let through for a caller that is held to the grammar of keys, or that is not. -/
def Operation.Passes (keyed : Bool) (op : Operation) : Prop := keyed = true → op.check = .ok ()

/-- An operation that is not let through makes no calls. -/
theorem obeys_request (keyed : Bool) (op : Operation)
    (ha : op.Passes keyed → ∀ c, op.Makes st.options c → allowed c) :
    Action.Obeys allowed (fun a => op.Passes keyed ∧ op.Gives st.options a) (st.request keyed op) := by
  have hperform : op.Passes keyed →
      Action.Obeys allowed (fun a => op.Passes keyed ∧ op.Gives st.options a) (st.perform op) :=
    fun hpasses => (st.obeys_perform op).mono (ha hpasses) fun _ hgives => ⟨hpasses, hgives⟩
  rw [request]
  split
  · split
    · exact Action.obeys_throw
    · rename_i hcheck
      exact hperform fun _ => hcheck
  · rename_i hkeyed
    exact hperform fun h => absurd h hkeyed

end Store

/-- Whether some path of a caller resolves to a path. -/
def Options.IsResolved (o : Options) (full : String) : Prop := ∃ path, o.resolve path = .ok full

/-- The calls that a store with the given options may make. -/
def Call.IsConfined (o : Options) : Call → Prop
  | .content path | .openRead path | .create path | .openAppend path | .remove path | .removeTree path
  | .status path | .entries path => o.IsResolved path
  | .rename source target => o.IsResolved source ∧ o.IsResolved target
  | .makeDirs path mode => mode = o.mask ∧ ∃ full, o.IsResolved full ∧ path = Path.parent full
  | .write handle _ | .close handle => o.IsResolved handle.path
  | .seek _ _ | .stream _ => True

variable {o : Options} {c : Call} {full : String}

theorem Call.IsOfSession.isConfined (hc : c.IsOfSession full) (h : o.IsResolved full) : c.IsConfined o := by
  cases hc with
  | write hp | close hp => rwa [← hp] at h
  | remove => exact h

theorem Call.Opens.isConfined {append : Bool} (hc : c.Opens o full append) (h : o.IsResolved full) :
    c.IsConfined o := by
  cases hc with
  | parents => exact ⟨rfl, full, h, rfl⟩
  | status | openAppend | remove | create => exact h

theorem Store.Operation.Makes.isConfined {op : Operation} (h : op.Makes o c) : c.IsConfined o := by
  cases h with
  | opens h hc | openWriter h hc => exact hc.isConfined ⟨_, h⟩
  | stores h hc => exact hc.isConfined ⟨_, h⟩
  | content h | openRead h | status h | entries h | removeTree h => exact ⟨_, h⟩
  | seek => trivial
  | parents h => exact ⟨rfl, _, ⟨_, h⟩, rfl⟩
  | rename hs ht => exact ⟨⟨_, hs⟩, ⟨_, ht⟩⟩

end RootedStore
