import RootedStore.Namespace.Basic
import RootedStore.Store.Basic

/-!
# Operations alone

What an operation does to a namespace when nothing interrupts its request, nothing else is under way and
no failure is arranged. The namespace serves each call as it is, so an operation is computed call by call.
-/
namespace RootedStore

namespace Work

variable {α β : Type} {space : Namespace}

/-- The result of work on a namespace that nothing disturbs, and the namespace afterwards. -/
def alone (work : Work α) (space : Namespace) : α × Namespace := work.run Namespace.client .good space

theorem alone_bind (work : Work α) (next : α → Work β) :
    Work.alone (work.bind next) space = (next (work.alone space).1).alone (work.alone space).2 :=
  Program.run_bind _ _ _ _

/-- Without arranged failures a call is served. -/
theorem alone_guarded (hf : space.faults = []) (c : Call) :
    Work.alone c.guarded space = Namespace.serve c space := by
  have hnone : c.kind?.filter (space.faults.contains ·) = none := by
    cases c.kind? <;> simp [hf, Option.filter]
  have hc : Namespace.client c space = Namespace.serve c space := by
    rw [Namespace.client, hnone]
  rw [← hc]
  rfl

end Work

namespace Action

variable {α β : Type} {space space' : Namespace}

/-- The result of an action on a namespace that nothing disturbs, and the namespace afterwards. -/
def alone (action : Action α) (space : Namespace) : Except StorageError α × Namespace :=
  Work.alone action.run space

theorem alone_lift {work : Work α} {a : α} (h : work.alone space = (a, space')) :
    alone (ExceptT.lift work) space = (.ok a, space') := by
  have hb : alone (ExceptT.lift work) space = (.ok (work.alone space).1, (work.alone space).2) :=
    Work.alone_bind work _
  rw [hb, h]

theorem alone_bind (action : Action α) (next : α → Action β) :
    (action >>= next).alone space =
      Work.alone (ExceptT.bindCont next (action.alone space).1) (action.alone space).2 :=
  Work.alone_bind _ _

theorem alone_bind_ok {action : Action α} {a : α} (h : action.alone space = (.ok a, space'))
    (next : α → Action β) : (action >>= next).alone space = (next a).alone space' := by
  rw [alone_bind, h]
  rfl

theorem alone_bind_error {action : Action α} {e : StorageError} (h : action.alone space = (.error e, space'))
    (next : α → Action β) : (action >>= next).alone space = (.error e, space') := by
  rw [alone_bind, h]
  rfl

theorem alone_call (hf : space.faults = []) {c : Call} {r : c.Reply}
    (h : Namespace.serve c space = (r, space')) (path : String) :
    (call path c).alone space = (r.mapError (.ofClient driverName path), space') := by
  rw [← Work.alone_guarded hf] at h
  have hb : (call path c).alone space = (((Work.alone c.guarded space).1).mapError (.ofClient driverName path),
      (Work.alone c.guarded space).2) := Work.alone_bind _ _
  rw [hb, h]

theorem alone_call_ok (hf : space.faults = []) {c : Call} {a : c.Result}
    (h : Namespace.serve c space = (.ok a, space')) (path : String) :
    (call path c).alone space = (.ok a, space') := alone_call hf h path

theorem alone_call_error (hf : space.faults = []) {c : Call} {e : ClientError}
    (h : Namespace.serve c space = (.error e, space')) (path : String) :
    (call path c).alone space = (.error (.ofClient driverName path e), space') := alone_call hf h path

theorem alone_attempt (hf : space.faults = []) {c : Call} {r : c.Reply}
    (h : Namespace.serve c space = (r, space')) : (attempt c).alone space = (.ok r, space') :=
  alone_lift ((Work.alone_guarded hf c).trans h)

end Action

/-- A path is resolved without a call. -/
theorem Store.alone_resolve {α : Type} {st : Store} {path full : String} {space : Namespace}
    (hr : st.options.resolve path = .ok full) (next : String → Action α) :
    (st.resolve path >>= next).alone space = (next full).alone space := by
  rw [resolve_bind_ok hr]

end RootedStore
