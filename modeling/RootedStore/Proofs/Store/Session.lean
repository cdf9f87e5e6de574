import RootedStore.Proofs.System

/-!
# The life of a write session

A session is used in any order and gets any replies. Its history lists the requests of its caller, each
with what was asked on the way. What a request may call is fixed before anything is asked: it depends on
the state of the session and on whether there is still a handle. The handle is given up with the first
request that ends the session or tries to, so it is closed once at most, and it is not written to after
that. A session ends in one of three ways and only one that was merely closed can still be cancelled.
-/
namespace RootedStore

/-- What was asked on the way, with the replies. -/
abbrev Work.Log := List (Sigma Question.Reply)

def Question.call? : Question → Option Call
  | .call c => some c
  | .interruption | .signal => none

/-- The calls that were made, in order. -/
def Work.calls (log : Work.Log) : List Call := log.filterMap fun entry => entry.1.call?

theorem Work.calls_append (log log' : Work.Log) :
    Work.calls (log ++ log') = Work.calls log ++ Work.calls log' := List.filterMap_append

theorem Work.mem_calls {log : Work.Log} {c : Call} {r : c.Reply} (h : ⟨.call c, r⟩ ∈ log) :
    c ∈ Work.calls log := List.mem_filterMap.mpr ⟨_, h, rfl⟩

/-- A guarded call is not made if the request was interrupted, and is all that is asked otherwise. -/
theorem Call.ends_guarded_iff {c : Call} {log : Work.Log} {r : c.Reply} :
    c.guarded.Ends log r ↔
      (∃ why, log = [⟨.interruption, some why⟩] ∧ r = .error (.interrupted why)) ∨
        log = [⟨.interruption, none⟩, ⟨.call c, r⟩] := by
  rw [Call.guarded, Program.ends_ask_iff]
  constructor
  · rintro ⟨standing, rest, rfl, h⟩
    cases standing with
    | some why =>
      obtain ⟨rfl, rfl⟩ := Program.ends_done_iff.mp h
      exact .inl ⟨why, rfl, rfl⟩
    | none =>
      obtain ⟨reply, tail, rfl, hd⟩ := Program.ends_ask_iff.mp h
      obtain ⟨rfl, rfl⟩ := Program.ends_done_iff.mp hd
      exact .inr rfl
  · rintro (⟨why, rfl, rfl⟩ | rfl)
    · exact ⟨some why, [], rfl, .done _⟩
    · exact ⟨none, _, rfl, .ask (.done r)⟩

theorem Call.calls_guarded {c : Call} {log : Work.Log} {r : c.Reply} (h : c.guarded.Ends log r) :
    (Work.calls log).Sublist [c] := by
  rcases Call.ends_guarded_iff.mp h with ⟨why, rfl, _⟩ | rfl
  · exact List.nil_sublist _
  · exact List.Sublist.refl _

/-- What a caller asks of a session. -/
inductive SessionRequest where
  | size
  | use (how : SessionUse)
  deriving DecidableEq, Repr

/-- The ways in which the state of a session may change. -/
inductive WriteState.Moves : WriteState → WriteState → Prop where
  | stays (state : WriteState) : Moves state state
  | closes : Moves .opened .closed
  | commits : Moves .opened .committed
  | cancels : Moves .opened .cancelled
  | discards : Moves .closed .cancelled

/-- What is left of the ways to end a session by removing its object. -/
def WriteState.isDiscardable : WriteState → Bool
  | .opened | .closed => true
  | .committed | .cancelled => false

theorem WriteState.Moves.isDiscardable_le {a b : WriteState} (h : a.Moves b) :
    b.isDiscardable.toNat ≤ a.isDiscardable.toNat := by
  cases h <;> simp [WriteState.isDiscardable]

theorem WriteState.Moves.ne_opened {a b : WriteState} (h : a.Moves b) (ha : a ≠ .opened) : b ≠ .opened := by
  cases h with
  | stays => exact ha
  | closes | commits | cancels | discards => nofun

theorem WriteState.Moves.eq_committed {state : WriteState} (h : committed.Moves state) : state = .committed := by
  cases h
  rfl

namespace WriteSession

variable {s s' : WriteSession} {log : Work.Log} {outcome : Except StorageError Unit}

/-- Whether a request gives up the handle: closing always does, committing and cancelling do unless they
are refused. -/
def Seals (s : WriteSession) : SessionRequest → Prop
  | .use .close => True
  | .use .commit => s.state = .opened
  | .use .cancel => s.state.isDiscardable = true
  | .size | .use (.write _) => False

/-- The calls that a request makes if nothing interrupts it. -/
def mayCall (s : WriteSession) : SessionRequest → List Call
  | .size => []
  | .use (.write data) => if s.state = .opened then s.handle.toList.map (.write · data) else []
  | .use .close => s.handle.toList.map .close
  | .use .commit => if s.state = .opened then s.handle.toList.map .close else []
  | .use .cancel =>
    if s.state.isDiscardable then s.handle.toList.map .close ++ [.remove s.path] else []

/-- How a request ends, and the session afterwards. -/
def serve (s : WriteSession) : SessionRequest → Step Unit
  | .size => .done (.ok (), s)
  | .use (.write data) => (s.write data).bind fun r => .done (r.1.map fun _ => (), r.2)
  | .use .close => s.close
  | .use .commit => s.commit
  | .use .cancel => s.cancel

/-- The state in which a session is that takes no more data. -/
def endState (s : WriteSession) : WriteState := if s.state = .opened then .closed else s.state

/-- Releasing the handle closes it unless the request was interrupted; a session without one has nothing
to do. -/
theorem ends_releaseHandle (h : s.releaseHandle.Ends log (outcome, s')) :
    s' = { s with handle := none } ∧
      (s.handle = none ∧ log = [] ∧ outcome = .ok () ∨
        ∃ handle r, s.handle = some handle ∧ (Call.close handle).guarded.Ends log r ∧
          outcome = r.mapError s.report) := by
  rw [releaseHandle] at h
  split at h
  · rename_i hn
    obtain ⟨rfl, he⟩ := Program.ends_done_iff.mp h
    obtain ⟨rfl, rfl⟩ := Prod.mk.inj he
    refine ⟨?_, .inl ⟨hn, rfl, rfl⟩⟩
    rw [← hn]
  · rename_i handle hh
    obtain ⟨first, r, rest, rfl, hc, hd⟩ := Program.ends_bind_iff.mp h
    obtain ⟨rfl, he⟩ := Program.ends_done_iff.mp hd
    obtain ⟨rfl, rfl⟩ := Prod.mk.inj he
    rw [List.append_nil]
    exact ⟨rfl, .inr ⟨handle, r, hh, hc, rfl⟩⟩

theorem calls_releaseHandle (h : s.releaseHandle.Ends log (outcome, s')) :
    (Work.calls log).Sublist (s.handle.toList.map .close) := by
  rcases (ends_releaseHandle h).2 with ⟨hn, rfl, _⟩ | ⟨handle, r, hh, hc, _⟩
  · exact List.nil_sublist _
  · rw [hh]
    exact Call.calls_guarded hc

theorem close_eq (s : WriteSession) : s.close = { s with state := s.endState }.releaseHandle := by
  obtain ⟨handle, path, size, state⟩ := s
  cases state <;> rfl

/-- A session that is open and has its handle writes to it, any other one refuses. -/
theorem ends_write {data : Bytes} {r : Except StorageError Nat} (h : (s.write data).Ends log (r, s')) :
    (s.state = .opened ∧ ∃ handle reply, s.handle = some handle ∧
        (Call.write handle data).guarded.Ends log reply ∧
        r = (reply.mapError s.report).map (fun _ => data.length) ∧
        s'.handle = s.handle ∧ s'.state = s.state ∧ s'.path = s.path) ∨
      (s.state = .opened → s.handle = none) ∧ log = [] ∧ r = .error (.writerClosed s.endState) ∧
        s' = s := by
  rw [write] at h
  split at h
  · rename_i handle hs hh
    obtain ⟨first, reply, rest, rfl, hc, hd⟩ := Program.ends_bind_iff.mp h
    refine .inl ⟨hs, handle, reply, hh, ?_⟩
    cases reply with
    | ok _ | error e =>
      obtain ⟨rfl, he⟩ := Program.ends_done_iff.mp hd
      obtain ⟨rfl, rfl⟩ := Prod.mk.inj he
      rw [List.append_nil]
      exact ⟨hc, rfl, rfl, rfl, rfl⟩
  · rename_i hs hh
    obtain ⟨rfl, he⟩ := Program.ends_done_iff.mp h
    obtain ⟨rfl, rfl⟩ := Prod.mk.inj he
    exact .inr ⟨fun _ => hh, rfl, by rw [endState, if_pos hs], rfl⟩
  · rename_i hsome hnone
    obtain ⟨rfl, he⟩ := Program.ends_done_iff.mp h
    obtain ⟨rfl, rfl⟩ := Prod.mk.inj he
    have hs : s'.state ≠ .opened := by
      intro hs
      cases hh : s'.handle with
      | none => exact hnone hs hh
      | some handle => exact hsome handle hs hh
    exact .inr ⟨fun he => absurd he hs, rfl, by rw [endState, if_neg hs], rfl⟩

/-- An open session is committed if its handle is released, any other one refuses. -/
theorem ends_commit (h : s.commit.Ends log (outcome, s')) :
    (s.state = .opened ∧ ∃ released, s.releaseHandle.Ends log (outcome, released) ∧
        (outcome = .ok () ∧ s' = { released with state := .committed } ∨
          ∃ e, outcome = .error e ∧ s' = released)) ∨
      s.state ≠ .opened ∧ log = [] ∧ outcome = .error (.writerClosed s.state) ∧ s' = s := by
  rw [commit] at h
  split at h
  · rename_i hs
    obtain ⟨first, ⟨r, released⟩, rest, rfl, hr, hd⟩ := Program.ends_bind_iff.mp h
    refine .inl ⟨hs, released, ?_⟩
    cases r with
    | ok _ =>
      obtain ⟨rfl, he⟩ := Program.ends_done_iff.mp hd
      obtain ⟨rfl, rfl⟩ := Prod.mk.inj he
      rw [List.append_nil]
      exact ⟨hr, .inl ⟨rfl, rfl⟩⟩
    | error e =>
      obtain ⟨rfl, he⟩ := Program.ends_done_iff.mp hd
      obtain ⟨rfl, rfl⟩ := Prod.mk.inj he
      rw [List.append_nil]
      exact ⟨hr, .inr ⟨e, rfl, rfl⟩⟩
  · rename_i hs
    obtain ⟨rfl, he⟩ := Program.ends_done_iff.mp h
    obtain ⟨rfl, rfl⟩ := Prod.mk.inj he
    exact .inr ⟨hs, rfl, rfl, rfl⟩

/-- Releases the handle, whatever comes of that, and then removes the object. -/
def discard (s : WriteSession) : Step Unit :=
  s.releaseHandle.bind fun (_, s') =>
    (Call.remove s'.path).guarded.bind fun
      | .ok _ => .done (.ok (), s')
      | .error e => .done (if e.isNotFound then .ok () else .error (s'.report e), s')

theorem cancel_eq (s : WriteSession) :
    s.cancel = if s.state.isDiscardable then { s with state := .cancelled }.discard
      else .done (.error (.writerClosed s.state), s) := by
  obtain ⟨handle, path, size, state⟩ := s
  cases state <;> rfl

/-- What comes of removing the object: one that is already gone is as good as removed. -/
def tolerate (s : WriteSession) : Except ClientError Unit → Except StorageError Unit
  | .ok _ => .ok ()
  | .error e => if e.isNotFound then .ok () else .error (s.report e)

theorem ends_discard (h : s.discard.Ends log (outcome, s')) :
    s' = { s with handle := none } ∧
      ∃ first released rest r, log = first ++ rest ∧ s.releaseHandle.Ends first released ∧
        (Call.remove s.path).guarded.Ends rest r ∧ outcome = s.tolerate r := by
  obtain ⟨first, ⟨r, released⟩, tail, rfl, hr, hd⟩ := Program.ends_bind_iff.mp h
  obtain rfl := (ends_releaseHandle hr).1
  obtain ⟨rest, reply, last, rfl, hc, he⟩ := Program.ends_bind_iff.mp hd
  cases reply with
  | ok _ | error e =>
    obtain ⟨rfl, hs⟩ := Program.ends_done_iff.mp he
    obtain ⟨rfl, rfl⟩ := Prod.mk.inj hs
    rw [List.append_nil]
    exact ⟨rfl, first, _, rest, _, rfl, hr, hc, rfl⟩

/-- What every request keeps to: it makes none but the calls it may make, and gives up the handle exactly
if it ends the session or tries to. -/
structure Turn (s : WriteSession) (request : SessionRequest) (log : Work.Log) (s' : WriteSession) : Prop where
  calls : (Work.calls log).Sublist (s.mayCall request)
  path : s'.path = s.path
  released : s.Seals request → s'.handle = none
  kept : ¬ s.Seals request → s'.handle = s.handle ∧ s'.state = s.state
  moves : s.state.Moves s'.state
  closed : request = .use .close → s'.state ≠ .opened
  cancelled : request = .use .cancel → s.Seals request → s'.state = .cancelled

theorem turn_of_refused {request : SessionRequest} (h : ¬ s.Seals request) : Turn s request [] s := by
  refine ⟨List.nil_sublist _, rfl, fun hs => absurd hs h, fun _ => ⟨rfl, rfl⟩, .stays _, ?_,
    fun _ hs => absurd hs h⟩
  rintro rfl
  exact absurd trivial h

theorem turn_write {data : Bytes} {r : Except StorageError Nat} (h : (s.write data).Ends log (r, s')) :
    Turn s (.use (.write data)) log s' := by
  rcases ends_write h with ⟨hs, handle, reply, hh, hc, _, hhandle, hstate, hpath⟩ | ⟨_, rfl, _, rfl⟩
  · constructor
    · rw [mayCall, if_pos hs, hh]
      exact Call.calls_guarded hc
    · exact hpath
    · exact False.elim
    · exact fun _ => ⟨hhandle, hstate⟩
    · rw [hstate]
      exact .stays _
    · nofun
    · nofun
  · exact turn_of_refused id

theorem turn_close (h : s.close.Ends log (outcome, s')) : Turn s (.use .close) log s' := by
  rw [close_eq] at h
  have hcalls := calls_releaseHandle h
  obtain rfl := (ends_releaseHandle h).1
  constructor
  · exact hcalls
  · rfl
  · exact fun _ => rfl
  · exact fun hs => absurd trivial hs
  · simp only [endState]
    split
    · rename_i hs
      rw [hs]
      exact .closes
    · exact .stays _
  · intro _
    simp only [endState]
    split
    · nofun
    · assumption
  · nofun

theorem turn_commit (h : s.commit.Ends log (outcome, s')) : Turn s (.use .commit) log s' := by
  rcases ends_commit h with ⟨hs, released, hr, he⟩ | ⟨hs, rfl, _, rfl⟩
  · obtain rfl := (ends_releaseHandle hr).1
    have hcalls : (Work.calls log).Sublist (s.mayCall (.use .commit)) := by
      rw [mayCall, if_pos hs]
      exact calls_releaseHandle hr
    rcases he with ⟨_, rfl⟩ | ⟨e, _, rfl⟩
    · exact ⟨hcalls, rfl, fun _ => rfl, fun hn => absurd hs hn, hs ▸ .commits, nofun, nofun⟩
    · exact ⟨hcalls, rfl, fun _ => rfl, fun hn => absurd hs hn, .stays _, nofun, nofun⟩
  · exact turn_of_refused hs

theorem turn_cancel (h : s.cancel.Ends log (outcome, s')) : Turn s (.use .cancel) log s' := by
  rw [cancel_eq] at h
  split at h
  · rename_i hs
    obtain ⟨rfl, first, released, rest, r, rfl, hr, hc, _⟩ := ends_discard h
    constructor
    · rw [Work.calls_append, mayCall, if_pos hs]
      exact (calls_releaseHandle hr).append (Call.calls_guarded hc)
    · rfl
    · exact fun _ => rfl
    · exact fun hn => absurd hs hn
    · cases hstate : s.state with
      | opened => exact .cancels
      | closed => exact .discards
      | committed | cancelled => simp [hstate, WriteState.isDiscardable] at hs
    · nofun
    · exact fun _ _ => rfl
  · rename_i hs
    obtain ⟨rfl, he⟩ := Program.ends_done_iff.mp h
    obtain ⟨rfl, rfl⟩ := Prod.mk.inj he
    exact turn_of_refused hs

theorem turn_of_ends {request : SessionRequest} (h : (s.serve request).Ends log (outcome, s')) :
    Turn s request log s' := by
  cases request with
  | size =>
    obtain ⟨rfl, he⟩ := Program.ends_done_iff.mp h
    obtain ⟨rfl, rfl⟩ := Prod.mk.inj he
    exact turn_of_refused id
  | use how =>
    cases how with
    | write data =>
      obtain ⟨first, ⟨r, written⟩, rest, rfl, hw, hd⟩ := Program.ends_bind_iff.mp h
      obtain ⟨rfl, he⟩ := Program.ends_done_iff.mp hd
      obtain ⟨rfl, rfl⟩ := Prod.mk.inj he
      rw [List.append_nil]
      exact turn_write hw
    | close => exact turn_close h
    | commit => exact turn_commit h
    | cancel => exact turn_cancel h

/-- Only a commit that fails gives up the handle of a session that stays open. -/
theorem Turn.ne_opened {request : SessionRequest} (h : Turn s request log s') (hs : s.Seals request)
    (hr : request ≠ .use .commit) : s'.state ≠ .opened := by
  cases request with
  | size => exact hs.elim
  | use how =>
    cases how with
    | write data => exact hs.elim
    | close => exact h.closed rfl
    | commit => exact absurd rfl hr
    | cancel =>
      rw [h.cancelled rfl hs]
      nofun

end WriteSession

variable {log : Work.Log} {c : Call} {path : String}

/-- What is asked for a call that is made. -/
def Call.made (c : Call) (r : c.Reply) : Work.Log := [⟨.interruption, none⟩, ⟨.call c, r⟩]

theorem Action.ends_call_ok {a : c.Result} (h : (Action.call path c).run.Ends log (.ok a)) :
    log = c.made (.ok a) := by
  obtain ⟨first, reply, rest, rfl, hc, hd⟩ := Program.ends_bind_iff.mp h
  obtain ⟨rfl, he⟩ := Program.ends_done_iff.mp hd
  rw [List.append_nil]
  rcases Call.ends_guarded_iff.mp hc with ⟨_, _, rfl⟩ | rfl
  · cases he
  · cases reply with
    | ok b =>
      obtain rfl := Except.ok.inj he
      rfl
    | error e => cases he

/-- How a session comes to be open at a path: nothing was there, what was there was removed, or it is kept. -/
inductive Store.Opens (st : Store) (full : String) : Bool → Work.Log → WriteSession → Prop where
  | created {append : Bool} {missing : String} {handle : WriteHandle} :
      Opens st full append
        ((Call.makeDirs (Path.parent full) st.options.mask).made (.ok ()) ++
          ((Call.status full).made (.error (.notFound missing)) ++ (Call.create full).made (.ok handle)))
        (.start handle full 0)
  | replaced {found : FileStatus} {handle : WriteHandle} :
      Opens st full false
        ((Call.makeDirs (Path.parent full) st.options.mask).made (.ok ()) ++ ((Call.status full).made (.ok found) ++
          ((Call.remove full).made (.ok ()) ++ (Call.create full).made (.ok handle))))
        (.start handle full 0)
  | extended {found : FileStatus} {handle : WriteHandle} :
      Opens st full true
        ((Call.makeDirs (Path.parent full) st.options.mask).made (.ok ()) ++
          ((Call.status full).made (.ok found) ++ (Call.openAppend full).made (.ok handle)))
        (.start handle full found.length)

/-- A session that was opened was opened in one of these ways. -/
theorem Store.opens_of_ends {st : Store} {append : Bool} {s : WriteSession}
    (h : (st.openWriter path append).run.Ends log (.ok s)) :
    ∃ full, st.options.resolve path = .ok full ∧ st.Opens full append log s := by
  obtain ⟨_, full, rest, rfl, hresolve, hopen⟩ := Program.ends_except_bind_ok_iff.mp h
  obtain ⟨rfl, hfull⟩ := Program.ends_done_iff.mp hresolve
  clear h
  refine ⟨full, hfull.symm, ?_⟩
  obtain ⟨_, _, rest, rfl, hparents, hlook⟩ := Program.ends_except_bind_ok_iff.mp hopen
  obtain rfl := Action.ends_call_ok hparents
  have hcreate : ∀ {log : Work.Log}, (Action.call full (.create full) >>= fun handle =>
      (pure (WriteSession.start handle full 0) : Action WriteSession)).run.Ends log (.ok s) →
        ∃ handle, log = (Call.create full).made (.ok handle) ∧ s = .start handle full 0 := by
    intro log h
    obtain ⟨_, handle, _, rfl, hc, hd⟩ := Program.ends_except_bind_ok_iff.mp h
    obtain rfl := Action.ends_call_ok hc
    obtain ⟨rfl, hs⟩ := Program.ends_done_iff.mp hd
    exact ⟨handle, List.append_nil _, Except.ok.inj hs⟩
  obtain ⟨_, reply, rest, rfl, hstatus, hnext⟩ := Program.ends_lift_bind_iff.mp hlook
  rcases Call.ends_guarded_iff.mp hstatus with ⟨why, rfl, rfl⟩ | rfl
  · cases (Program.ends_done_iff.mp hnext).2
  cases reply with
  | ok found =>
    cases append with
    | true =>
      obtain ⟨_, handle, _, rfl, hc, hd⟩ := Program.ends_except_bind_ok_iff.mp hnext
      obtain rfl := Action.ends_call_ok hc
      obtain ⟨rfl, hs⟩ := Program.ends_done_iff.mp hd
      obtain rfl := Except.ok.inj hs
      exact .extended
    | false =>
      obtain ⟨_, _, rest, rfl, hremove, hlast⟩ := Program.ends_except_bind_ok_iff.mp hnext
      obtain rfl := Action.ends_call_ok hremove
      obtain ⟨handle, rfl, rfl⟩ := hcreate hlast
      exact .replaced
  | error e =>
    cases e with
    | notFound missing =>
      obtain ⟨handle, rfl, rfl⟩ := hcreate hnext
      exact .created
    | _ => cases (Program.ends_done_iff.mp hnext).2

end RootedStore
