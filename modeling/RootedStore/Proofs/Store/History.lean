import RootedStore.Proofs.Store.Session

/-!
# Histories of write sessions

The requests that a session gets from its opening on, in any number and order, with any replies to what
they ask. Every handle and every chance to remove the object is used up at most once, so the calls of a
whole history are counted by what the session has left. What holds of the session before one request and
is kept by every request holds all along.
-/
namespace RootedStore

/-- One request of a caller, with what was asked for it and the session before and after it. -/
structure Episode where
  request : SessionRequest
  before : WriteSession
  log : Work.Log
  outcome : Except StorageError Unit
  after : WriteSession

namespace Episode

def calls (e : Episode) : List Call := Work.calls e.log

/-- The session does serve the request in this way. -/
def IsRun (e : Episode) : Prop := (e.before.serve e.request).Ends e.log (e.outcome, e.after)

def Seals (e : Episode) : Prop := e.before.Seals e.request

theorem IsRun.turn {e : Episode} (h : e.IsRun) : e.before.Turn e.request e.log e.after :=
  WriteSession.turn_of_ends h

end Episode

namespace WriteSession

/-- One request after the other. -/
def History : WriteSession → List Episode → Prop
  | _, [] => True
  | s, e :: es => e.before = s ∧ e.IsRun ∧ History e.after es

variable {s : WriteSession} {es before after : List Episode} {e : Episode}

theorem History.split (h : s.History (before ++ e :: after)) :
    s.History before ∧ e.IsRun ∧ e.after.History after := by
  induction before generalizing s with
  | nil => exact ⟨trivial, h.2.1, h.2.2⟩
  | cons f before ih =>
    obtain ⟨hs, hf, hrest⟩ := h
    have ⟨hbefore, he, hafter⟩ := ih hrest
    exact ⟨⟨hs, hf, hbefore⟩, he, hafter⟩

theorem History.isRun (h : s.History es) (he : e ∈ es) : e.IsRun := by
  obtain ⟨before, after, rfl⟩ := List.append_of_mem he
  exact h.split.2.1

/-- What holds at first and is kept by the requests before one of them holds before that one. -/
theorem History.holds {p : WriteSession → Prop} (h : s.History (before ++ e :: after)) (hs : p s)
    (step : ∀ f ∈ before, f.IsRun → p f.before → p f.after) : p e.before := by
  induction before generalizing s with
  | nil =>
    rw [h.1]
    exact hs
  | cons f before ih =>
    obtain ⟨rfl, hf, hrest⟩ := h
    refine ih hrest (step f List.mem_cons_self hf hs) ?_
    intro g hg
    exact step g (List.mem_cons_of_mem f hg)

theorem History.invariant {p : WriteSession → Prop} (h : s.History es) (hs : p s)
    (step : ∀ e : Episode, e.IsRun → p e.before → p e.after) : ∀ e ∈ es, p e.before := by
  intro e he
  obtain ⟨before, after, rfl⟩ := List.append_of_mem he
  exact h.holds hs fun f _ => step f

/-- Calls that use up what the session has left are made no more often than it has left at first. -/
theorem History.countP_calls_le {p : Call → Bool} {left : WriteSession → Nat} (h : s.History es)
    (step : ∀ e : Episode, e.IsRun → e.calls.countP p + left e.after ≤ left e.before) :
    (es.flatMap Episode.calls).countP p ≤ left s := by
  induction es generalizing s with
  | nil => exact Nat.zero_le _
  | cons f es ih =>
    obtain ⟨rfl, hf, hrest⟩ := h
    rw [List.flatMap_cons, List.countP_append]
    have hfirst := step f hf
    have hlater := ih hrest
    omega

end WriteSession

namespace Call

def isClose : Call → Bool
  | .close _ => true
  | _ => false

def isRemove : Call → Bool
  | .remove _ => true
  | _ => false

end Call

namespace WriteSession

variable {s s' : WriteSession} {request : SessionRequest} {log : Work.Log}

/-- Which calls there are at all, and when. -/
theorem mem_mayCall {c : Call} (h : c ∈ s.mayCall request) :
    (∃ handle, s.handle = some handle ∧
        ((∃ data, request = .use (.write data) ∧ c = .write handle data) ∨
          s.Seals request ∧ c = .close handle)) ∨
      request = .use .cancel ∧ s.Seals request ∧ c = .remove s.path := by
  have hheld : ∀ {f : WriteHandle → Call}, c ∈ s.handle.toList.map f →
      ∃ handle, s.handle = some handle ∧ c = f handle := by
    intro f hc
    obtain ⟨handle, hh, rfl⟩ := List.mem_map.mp hc
    exact ⟨handle, Option.mem_toList.mp hh, rfl⟩
  cases request with
  | size => exact absurd h List.not_mem_nil
  | use how =>
    cases how with
    | write data =>
      rw [mayCall] at h
      split at h
      · obtain ⟨handle, hh, rfl⟩ := hheld h
        exact .inl ⟨handle, hh, .inl ⟨data, rfl, rfl⟩⟩
      · exact absurd h List.not_mem_nil
    | close =>
      obtain ⟨handle, hh, rfl⟩ := hheld h
      exact .inl ⟨handle, hh, .inr ⟨trivial, rfl⟩⟩
    | commit =>
      rw [mayCall] at h
      split at h
      · obtain ⟨handle, hh, rfl⟩ := hheld h
        exact .inl ⟨handle, hh, .inr ⟨‹_›, rfl⟩⟩
      · exact absurd h List.not_mem_nil
    | cancel =>
      rw [mayCall] at h
      split at h
      · rcases List.mem_append.mp h with h | h
        · obtain ⟨handle, hh, rfl⟩ := hheld h
          exact .inl ⟨handle, hh, .inr ⟨‹_›, rfl⟩⟩
        · exact .inr ⟨rfl, ‹_›, List.mem_singleton.mp h⟩
      · exact absurd h List.not_mem_nil

theorem mayCall_of_seals (h : s.Seals request) :
    (s.mayCall request).Sublist (s.handle.toList.map .close ++ [.remove s.path]) := by
  cases request with
  | size => exact h.elim
  | use how =>
    cases how with
    | write data => exact h.elim
    | close => exact List.sublist_append_left _ _
    | commit =>
      rw [mayCall, if_pos (show s.state = .opened from h)]
      exact List.sublist_append_left _ _
    | cancel =>
      have hall : s.mayCall (.use .cancel) = s.handle.toList.map .close ++ [.remove s.path] := if_pos h
      exact hall ▸ List.Sublist.refl _

/-- What a session has left to close. -/
def held (s : WriteSession) : Nat := s.handle.toList.length

theorem Turn.countP_isClose (h : s.Turn request log s') :
    (Work.calls log).countP Call.isClose + s'.held ≤ s.held := by
  by_cases hs : s.Seals request
  · have hle := (h.calls.trans (mayCall_of_seals hs)).countP_le (p := Call.isClose)
    have hheld : (s.handle.toList.map Call.close ++ [Call.remove s.path]).countP Call.isClose = s.held := by
      have hall := List.countP_eq_length (p := Call.isClose ∘ Call.close) (l := s.handle.toList)
      rw [List.countP_append, List.countP_map, hall.mpr fun _ _ => rfl]
      rfl
    have hnone : s'.held = 0 := by rw [held, h.released hs]; rfl
    omega
  · have hzero : (Work.calls log).countP Call.isClose = 0 := by
      refine List.countP_eq_zero.mpr fun c hc => ?_
      rcases mem_mayCall (h.calls.subset hc) with ⟨_, _, ⟨_, _, rfl⟩ | ⟨he, _⟩⟩ | ⟨_, he, _⟩
      · exact nofun
      · exact absurd he hs
      · exact absurd he hs
    have hkept : s'.held = s.held := by rw [held, (h.kept hs).1]; rfl
    omega

/-- What a session has left to remove. -/
def removable (s : WriteSession) : Nat := s.state.isDiscardable.toNat

theorem Turn.countP_isRemove (h : s.Turn request log s') :
    (Work.calls log).countP Call.isRemove + s'.removable ≤ s.removable := by
  by_cases hs : request = .use .cancel ∧ s.Seals request
  · obtain ⟨rfl, hs⟩ := hs
    have hle := (h.calls.trans (mayCall_of_seals hs)).countP_le (p := Call.isRemove)
    have hone : (s.handle.toList.map Call.close ++ [Call.remove s.path]).countP Call.isRemove = 1 := by
      have hnone := List.countP_eq_zero (p := Call.isRemove ∘ Call.close) (l := s.handle.toList)
      rw [List.countP_append, List.countP_map, hnone.mpr fun _ _ => Bool.false_ne_true]
      rfl
    have hbefore : s.removable = 1 := congrArg Bool.toNat hs
    have hafter : s'.removable = 0 := by rw [removable, h.cancelled rfl hs]; rfl
    omega
  · have hzero : (Work.calls log).countP Call.isRemove = 0 := by
      refine List.countP_eq_zero.mpr fun c hc => ?_
      rcases mem_mayCall (h.calls.subset hc) with ⟨_, _, ⟨_, _, rfl⟩ | ⟨_, rfl⟩⟩ | ⟨hr, he, _⟩
      · exact nofun
      · exact nofun
      · exact absurd ⟨hr, he⟩ hs
    have hle : s'.removable ≤ s.removable := h.moves.isDiscardable_le
    omega

/-- The path does not change, there is no handle but the one of the start, and a session that is not open
has none. -/
structure IsFrom (handle : WriteHandle) (path : String) (s : WriteSession) : Prop where
  path : s.path = path
  onlyHandle : ∀ h, s.handle = some h → h = handle
  released : s.state ≠ .opened → s.handle = none

theorem isFrom_start (handle : WriteHandle) (path : String) (size : UInt64) :
    IsFrom handle path (start handle path size) := by
  refine ⟨rfl, ?_, fun h => absurd rfl h⟩
  rintro _ ⟨⟩
  rfl

theorem IsFrom.turn {handle : WriteHandle} {path : String} (hs : IsFrom handle path s)
    (h : s.Turn request log s') : IsFrom handle path s' := by
  by_cases hseals : s.Seals request
  · have hnone := h.released hseals
    exact ⟨h.path.trans hs.path, fun _ he => by simp [hnone] at he, fun _ => hnone⟩
  · have ⟨hhandle, hstate⟩ := h.kept hseals
    refine ⟨h.path.trans hs.path, ?_, ?_⟩
    · rw [hhandle]
      exact hs.onlyHandle
    · rw [hhandle, hstate]
      exact hs.released

theorem History.isFrom {handle : WriteHandle} {path : String} {size : UInt64} {es : List Episode}
    (h : (start handle path size).History es) : ∀ e ∈ es, IsFrom handle path e.before :=
  h.invariant (isFrom_start handle path size) fun _ he hs => hs.turn he.turn

theorem Turn.handle_eq_none (h : s.Turn request log s') (hs : s.handle = none) : s'.handle = none := by
  by_cases hseals : s.Seals request
  · exact h.released hseals
  · rw [(h.kept hseals).1, hs]

/-- The answer to a request of a session that was committed or cancelled. -/
def verdict (s : WriteSession) : SessionRequest → Except StorageError Unit
  | .size | .use .close => .ok ()
  | .use (.write _) | .use .commit | .use .cancel => .error (.writerClosed s.state)

/-- A session that was committed or cancelled asks for nothing and stays as it is. -/
theorem serve_of_ended (hs : s.state = .committed ∨ s.state = .cancelled) (hh : s.handle = none) :
    s.serve request = .done (s.verdict request, s) := by
  obtain ⟨handle, path, size, state⟩ := s
  obtain rfl : handle = none := hh
  cases request with
  | size => rfl
  | use how => rcases hs with rfl | rfl <;> cases how <;> rfl

/-- Without a handle nothing is written, whatever the state. -/
theorem ends_write_of_handle {data : Bytes} {outcome : Except StorageError Unit} (hh : s.handle = none)
    (h : (s.serve (.use (.write data))).Ends log (outcome, s')) :
    log = [] ∧ outcome = .error (.writerClosed s.endState) ∧ s' = s := by
  obtain ⟨first, ⟨r, written⟩, rest, rfl, hw, hd⟩ := Program.ends_bind_iff.mp h
  obtain ⟨rfl, he⟩ := Program.ends_done_iff.mp hd
  obtain ⟨rfl, rfl⟩ := Prod.mk.inj he
  rcases ends_write hw with ⟨_, handle, _, hsome, _⟩ | ⟨_, rfl, rfl, rfl⟩
  · simp [hh] at hsome
  · exact ⟨rfl, rfl, rfl⟩

/-- The handle is not there any more after the first request that gives it up. -/
theorem History.handle_eq_none {before after : List Episode} {e : Episode}
    (h : s.History (before ++ e :: after)) (hseals : e.Seals) : ∀ f ∈ after, f.before.handle = none := by
  have ⟨_, he, hafter⟩ := h.split
  exact hafter.invariant (p := fun s => s.handle = none) (he.turn.released hseals)
    fun _ hf hs => hf.turn.handle_eq_none hs

/-- A commit that fails because the handle is not closed, data that comes after that, and another commit. -/
def retried (handle : WriteHandle) (path : String) (size : UInt64) (log : Work.Log) (e : ClientError)
    (data : Bytes) : List Episode :=
  let opened := start handle path size
  let released := { opened with handle := none }
  [⟨.use .commit, opened, log, .error (opened.report e), released⟩,
    ⟨.use (.write data), released, [], .error (.writerClosed .closed), released⟩,
    ⟨.use .commit, released, [], .ok (), { released with state := .committed }⟩]

theorem history_retried {handle : WriteHandle} {log : Work.Log} {e : ClientError}
    (h : (Call.close handle).guarded.Ends log (.error e)) (path : String) (size : UInt64) (data : Bytes) :
    (start handle path size).History (retried handle path size log e data) := by
  have hrelease : (start handle path size).releaseHandle.Ends log
      (.error ((start handle path size).report e), { start handle path size with handle := none }) :=
    Program.Ends.bind_done h rfl
  exact ⟨rfl, Program.Ends.bind_done hrelease rfl, rfl, .done _, rfl, .done _, trivial⟩

/-- What a history of a session on a handle and a path keeps to. -/
structure Orderly (handle : WriteHandle) (path : String) (es : List Episode) : Prop where
  closesOnce : (es.flatMap Episode.calls).countP Call.isClose ≤ 1
  removesOnce : (es.flatMap Episode.calls).countP Call.isRemove ≤ 1
  calls : ∀ e ∈ es, ∀ c ∈ e.calls,
    (∃ data, e.request = .use (.write data) ∧ c = .write handle data) ∨
      e.Seals ∧ c = .close handle ∨ e.request = .use .cancel ∧ c = .remove path
  moves : ∀ e ∈ es, e.before.state.Moves e.after.state
  /-- Nothing is written once the handle was given up. -/
  sealed : ∀ before e after, es = before ++ e :: after → e.Seals → ∀ f ∈ after, ∀ data,
    f.request = .use (.write data) →
      f.log = [] ∧ f.outcome = .error (.writerClosed f.before.endState) ∧ f.after = f.before
  /-- A session that was committed or cancelled is over. -/
  ended : ∀ e ∈ es, e.before.state = .committed ∨ e.before.state = .cancelled →
    e.log = [] ∧ e.outcome = e.before.verdict e.request ∧ e.after = e.before

/-- Whatever is asked of a session in whatever order, and whatever replies it gets: its handle is closed
once at most and not written to afterwards, the object is removed once at most and only to cancel, and a
session that is over refuses everything but to be closed. -/
theorem History.orderly {handle : WriteHandle} {path : String} {size : UInt64} {es : List Episode}
    (h : (start handle path size).History es) : Orderly handle path es := by
  have hfrom : ∀ e ∈ es, IsFrom handle path e.before :=
    h.invariant (isFrom_start handle path size) fun e he hs => hs.turn he.turn
  constructor
  · exact h.countP_calls_le fun e he => he.turn.countP_isClose
  · exact h.countP_calls_le fun e he => he.turn.countP_isRemove
  · intro e he c hc
    have hs := hfrom e he
    rcases mem_mayCall ((h.isRun he).turn.calls.subset hc) with ⟨held, hheld, hcall⟩ | ⟨hr, _, rfl⟩
    · rw [hs.onlyHandle held hheld] at hcall
      rcases hcall with hwrite | hclose
      · exact .inl hwrite
      · exact .inr (.inl hclose)
    · exact .inr (.inr ⟨hr, by rw [hs.path]⟩)
  · exact fun e he => (h.isRun he).turn.moves
  · rintro before e after rfl hseals f hf data hdata
    have hrun := h.split.2.2.isRun hf
    rw [Episode.IsRun, hdata] at hrun
    exact ends_write_of_handle (h.handle_eq_none hseals f hf) hrun
  · intro e he hended
    have hnone := (hfrom e he).released (by rcases hended with hs | hs <;> simp [hs])
    have hrun := h.isRun he
    rw [Episode.IsRun, serve_of_ended hended hnone] at hrun
    obtain ⟨hlog, hend⟩ := Program.ends_done_iff.mp hrun
    have ⟨houtcome, hafter⟩ := Prod.mk.inj hend
    exact ⟨hlog, houtcome, hafter⟩

/-- A session whose first commit is interrupted has given up its handle all the same. -/
theorem History.orderly_retried :
    let es := retried ⟨"/a", false⟩ "/a" 0 [⟨.interruption, some .cancelled⟩] (.interrupted .cancelled) [1]
    (start ⟨"/a", false⟩ "/a" 0).History es ∧ Orderly ⟨"/a", false⟩ "/a" es := by
  have hskip := Call.ends_guarded_iff (c := .close ⟨"/a", false⟩).mpr (.inl ⟨.cancelled, rfl, rfl⟩)
  have h := history_retried hskip "/a" 0 [1]
  exact ⟨h, History.orderly h⟩

end WriteSession

end RootedStore
