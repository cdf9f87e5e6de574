import RootedStore.Proofs.Store.Session
import RootedStore.Proofs.WebHdfs.Requests
import RootedStore.Proofs.WebHdfs.WirePath

/-!
# Write sessions over HTTP

A write session that works for a request nothing interrupts, with a client that sends requests over HTTP. What is
sent to open it depends on one answer only, the one to the request for the status of the target, and the first
answer that is not good enough ends it. What is sent after that is known from what the caller asks for: data that
is written to an open session goes out as it is, nothing is sent to close or commit, and one removal to cancel.
-/
namespace RootedStore

namespace WebHdfs

variable {w : WebHdfs} {α β : Type} {full : String}

/-- Replies to the questions of a request that nothing interrupts, by way of the requests of a client. -/
def overWire (w : WebHdfs) : (q : Question) → Wire q.Reply
  | .interruption | .signal => .done none
  | .call c => w.perform c

/-- A program as it is sent over HTTP, if nothing interrupts it. -/
def live (w : WebHdfs) (work : Work α) : Wire α := work.interpret w.overWire

/-- What is sent is what the client exchanges. -/
theorem run_live {σ : Type} (exchange : Request → σ → Outcome × σ) (work : Work α) (s : σ) :
    (w.live work).run exchange s = work.run (w.client exchange) .good s := by
  rw [live, Program.run_interpret, Work.run]
  congr 1
  funext q
  cases q <;> rfl

theorem live_bind (p : Work α) (f : α → Work β) : w.live (p.bind f) = (w.live p).bind fun a => w.live (f a) :=
  Program.interpret_bind p f

theorem live_guarded (c : Call) : w.live c.guarded = w.perform c := Program.bind_done _

theorem live_action_bind {ε : Type} (a : ExceptT ε (Program Question.Reply) α)
    (f : α → ExceptT ε (Program Question.Reply) β) : w.live (a >>= f).run =
      (ExceptT.mk (w.live a.run) >>= fun x => ExceptT.mk (w.live (f x).run) : ExceptT ε _ β).run := by
  refine (live_bind a.run (ExceptT.bindCont f)).trans (congrArg (Program.bind _) (funext fun x => ?_))
  cases x <;> rfl

theorem live_call (path : String) (c : Call) : w.live (Action.call path c).run =
    (w.perform c).bind fun r => .done (r.mapError (StorageError.ofClient driverName path)) := by
  refine (live_bind c.guarded _).trans ?_
  rw [live_guarded]
  rfl

theorem live_attempt_bind (c : Call) (f : c.Reply → Action α) :
    w.live (Action.attempt c >>= f).run = (w.perform c).bind fun r => w.live (f r).run := by
  have hrun : (Action.attempt c >>= f).run = c.guarded.bind fun r => (f r).run :=
    Program.bind_assoc c.guarded _ _
  rw [hrun, live_bind, live_guarded]

theorem carries_live_call {path : String} {c : Call} {demands : List Demand} {a : c.Result}
    (h : Carries (w.perform c) demands a) : Carries (w.live (Action.call path c).run) demands a := by
  rw [live_call]
  exact h.mapError _

theorem carries_live_bind {ε : Type} {p : ExceptT ε (Program Question.Reply) α}
    {f : α → ExceptT ε (Program Question.Reply) β} {demands more : List Demand} {a : α} {b : β}
    (hp : Carries (w.live p.run) demands a) (hf : Carries (w.live (f a).run) more b) :
    Carries (w.live (p >>= f).run) (demands ++ more) b := by
  rw [live_action_bind]
  exact Carries.bind (p := ExceptT.mk (w.live p.run)) hp hf

end WebHdfs

/-- How a session is opened, by what is known of the target. -/
def Store.openSeen (full : String) (append : Bool) : (Call.status full).Reply → Action WriteSession
  | .ok found => do
    if append then
      let handle ← Action.call full (.openAppend full)
      return .start handle full found.length
    else
      Action.call full (.remove full)
      let handle ← Action.call full (.create full)
      return .start handle full 0
  | .error (.notFound _) => do
    let handle ← Action.call full (.create full)
    return .start handle full 0
  | .error e => throw (.ofClient driverName full e)

theorem Store.openWriter_eq_seen (st : Store) (path : String) (append : Bool) : st.openWriter path append = (do
    let full ← st.resolve path
    st.makeParents full
    let seen ← Action.attempt (.status full)
    openSeen full append seen) := rfl

namespace WebHdfs

variable {w : WebHdfs} {full : String} {append : Bool}

/-- What is demanded once the target was looked at, and the size that the session starts with. -/
inductive Plan (w : WebHdfs) (full : String) : Bool → Outcome → List Demand → UInt64 → Prop where
  | created {append : Bool} {o : Outcome} (missing : SaysMissing o) : Plan w full append o [w.creation full] 0
  | replaced {o : Outcome} {found : WireStatus} (present : Says status? o found) :
      Plan w full false o [w.removal full, w.creation full] 0
  | extended {o : Outcome} {found : WireStatus} (present : Says status? o found) :
      Plan w full true o [w.fileCheck full] found.length

/-- The ways in which the opening of a session goes. -/
inductive Opening (w : WebHdfs) (mode : UInt32) (full : String) (append : Bool) :
    Exchanges → Except StorageError WriteSession → Prop where
  | unprovisioned {o : Outcome} {e : StorageError} (refused : ¬ Says boolean? o true) :
      Opening w mode full append [⟨w.makeDirsRequest (Path.parent full) mode, o⟩] (.error e)
  | unclear {o o' : Outcome} {e : StorageError} (granted : Says boolean? o true)
      (unknown : ∀ demands size, ¬ Plan w full append o' demands size) :
      Opening w mode full append
        [⟨w.makeDirsRequest (Path.parent full) mode, o⟩, ⟨w.statusRequest full, o'⟩] (.error e)
  | stopped {o o' : Outcome} {e : StorageError} {demands : List Demand} {size : UInt64} {log : Exchanges}
      (granted : Says boolean? o true) (plan : Plan w full append o' demands size)
      (follows : Follows demands log false) :
      Opening w mode full append
        (⟨w.makeDirsRequest (Path.parent full) mode, o⟩ :: ⟨w.statusRequest full, o'⟩ :: log) (.error e)
  | opened {o o' : Outcome} {demands : List Demand} {size : UInt64} {log : Exchanges}
      (granted : Says boolean? o true) (plan : Plan w full append o' demands size)
      (follows : Follows demands log true) :
      Opening w mode full append
        (⟨w.makeDirsRequest (Path.parent full) mode, o⟩ :: ⟨w.statusRequest full, o'⟩ :: log)
        (.ok (.start ⟨full, false⟩ full size))

theorem carries_openNew :
    Carries (w.live (Action.call full (.create full) >>= fun handle =>
      (pure (.start handle full 0) : Action WriteSession)).run) [w.creation full] (.start ⟨full, false⟩ full 0) :=
  carries_live_bind (carries_live_call carries_create) (carries_done _)

/-- A plan is carried out. -/
theorem Plan.carries {o : Outcome} {demands : List Demand} {size : UInt64} (h : Plan w full append o demands size) :
    Carries (w.live (Store.openSeen full append (statusReply full o)).run) demands
      (.start ⟨full, false⟩ full size) := by
  cases h with
  | created missing =>
    obtain ⟨e, he, hmissing⟩ := statusReply_isNotFound_iff.mpr missing
    rw [he]
    cases e with
    | notFound _ => exact carries_openNew
    | _ => cases hmissing
  | replaced present =>
    rw [statusReply_eq_ok_iff.mpr ⟨_, present, rfl⟩]
    exact carries_live_bind (carries_live_call carries_remove) carries_openNew
  | extended present =>
    rw [statusReply_eq_ok_iff.mpr ⟨_, present, rfl⟩]
    exact carries_live_bind (carries_live_call carries_openAppend) (carries_done _)

/-- Without a plan there is nothing to go on with. -/
theorem openSeen_of_no_plan {o : Outcome} (h : ∀ demands size, ¬ Plan w full append o demands size) :
    ∃ e, w.live (Store.openSeen full append (statusReply full o)).run = .done (.error e) := by
  cases hr : statusReply full o with
  | ok found =>
    obtain ⟨reported, hsays, _⟩ := statusReply_eq_ok_iff.mp hr
    cases append with
    | true => exact absurd (.extended hsays) (h _ _)
    | false => exact absurd (.replaced hsays) (h _ _)
  | error e =>
    cases e with
    | notFound missing => exact absurd (.created (statusReply_isNotFound_iff.mp ⟨_, hr, rfl⟩)) (h _ _)
    | _ => exact ⟨_, rfl⟩

variable {st : Store} {path : String} {log : Exchanges}

/-- A session at a path that resolves is opened by looking at what is there once the directories above are. -/
theorem live_openWriter (hresolve : st.options.resolve path = .ok full) :
    w.live (st.openWriter path append).run =
      w.live (st.makeParents full >>= fun _ => Action.attempt (.status full) >>= Store.openSeen full append).run := by
  rw [Store.openWriter_eq_seen, Store.resolve_bind_ok hresolve]

theorem carries_makeParents :
    Carries (w.live (st.makeParents full).run) [w.provision (Path.parent full) st.options.mask] () :=
  carries_live_call carries_makeDirs

theorem ends_look_iff {x : Except StorageError WriteSession} :
    (w.live (Action.attempt (.status full) >>= Store.openSeen full append).run).Ends log x ↔
      ∃ o rest, log = ⟨w.statusRequest full, o⟩ :: rest ∧
        (w.live (Store.openSeen full append (statusReply full o)).run).Ends rest x := by
  rw [live_attempt_bind, Program.ends_bind_iff]
  constructor
  · rintro ⟨first, r, rest, rfl, hstatus, hrest⟩
    obtain ⟨o, rfl, rfl⟩ := (asks_status _ _).mp hstatus
    exact ⟨o, rest, rfl, hrest⟩
  · rintro ⟨o, rest, rfl, hrest⟩
    exact ⟨_, _, rest, rfl, (asks_status _ _).mpr ⟨o, rfl, rfl⟩, hrest⟩

theorem opening_of_ends (hresolve : st.options.resolve path = .ok full) {x : Except StorageError WriteSession}
    (h : (w.live (st.openWriter path append).run).Ends log x) :
    Opening w st.options.mask full append log x := by
  rw [live_openWriter hresolve, live_action_bind] at h
  rcases Program.ends_except_bind_iff.mp h with ⟨e, hp, rfl⟩ | ⟨first, _, rest, rfl, hp, hlook⟩
  · obtain ⟨o, rfl, ⟨_, he⟩ | ⟨hrefused, _⟩⟩ := carries_makeParents.single hp
    · cases he
    · exact .unprovisioned hrefused
  · obtain ⟨o, rfl, hall⟩ := follows_single_iff.mp ((carries_makeParents.ok _ _).mp hp).1
    have hgranted : Says boolean? o true := hall.mp rfl
    obtain ⟨o', rest, rfl, hrest⟩ := ends_look_iff.mp hlook
    by_cases hplan : ∃ demands size, Plan w full append o' demands size
    · obtain ⟨demands, size, hplan⟩ := hplan
      rcases hplan.carries.follows hrest with ⟨hfollows, rfl⟩ | ⟨hfollows, e, rfl⟩
      · exact .opened hgranted hplan hfollows
      · exact .stopped hgranted hplan hfollows
    · have hunknown : ∀ demands size, ¬ Plan w full append o' demands size := by
        intro demands size h
        exact hplan ⟨demands, size, h⟩
      obtain ⟨e, he⟩ := openSeen_of_no_plan hunknown
      rw [he] at hrest
      obtain ⟨rfl, rfl⟩ := Program.ends_done_iff.mp hrest
      exact .unclear hgranted hunknown

/-- A session is opened by whoever answers as its plan demands. -/
theorem ends_openWriter_of_plan (hresolve : st.options.resolve path = .ok full) {o o' : Outcome}
    {demands : List Demand} {size : UInt64} (granted : Says boolean? o true)
    (plan : Plan w full append o' demands size) (follows : Follows demands log true) :
    (w.live (st.openWriter path append).run).Ends
      (⟨w.makeDirsRequest (Path.parent full) st.options.mask, o⟩ :: ⟨w.statusRequest full, o'⟩ :: log)
      (.ok (.start ⟨full, false⟩ full size)) := by
  rw [live_openWriter hresolve, live_action_bind]
  refine Program.ends_except_bind_iff.mpr (.inr ⟨[⟨_, o⟩], (), _, rfl, ?_, ?_⟩)
  · exact (carries_makeParents.ok _ _).mpr ⟨.goes granted .all, rfl⟩
  · exact ends_look_iff.mpr ⟨o', log, rfl, (plan.carries.ok _ _).mpr ⟨follows, rfl⟩⟩

end WebHdfs

/-- The state of a session after a request, if its handle can be closed. -/
def WriteState.next : WriteState → SessionRequest → WriteState
  | .opened, .use .close => .closed
  | .opened, .use .commit => .committed
  | .opened, .use .cancel | .closed, .use .cancel => .cancelled
  | state, _ => state

/-- The data that a session took with a request. -/
def SessionRequest.accepted : SessionRequest → Except StorageError Unit → Bytes
  | .use (.write data), .ok _ => data
  | _, _ => []

namespace WebHdfs

/-- The session at a path that is in a state and has its handle as long as it is open. -/
def sessionAt (full : String) (size : UInt64) (state : WriteState) : WriteSession :=
  ⟨if state = .opened then some ⟨full, false⟩ else none, full, size, state⟩

/-- What is sent for a request of a caller. -/
def requestsFor (w : WebHdfs) (full : String) (state : WriteState) : SessionRequest → List Request
  | .use (.write data) => if state = .opened ∧ data ≠ [] then [w.appendRequest full data] else []
  | .use .cancel => if state.isDiscardable then [w.deleteRequest full false] else []
  | .size | .use .close | .use .commit => []

/-- The data that was sent for the end of a file and taken. -/
def appended (w : WebHdfs) (full : String) (log : Exchanges) : Bytes :=
  (log.filter fun e => e.1 = w.appendRequest full e.1.body && isTaken e.2).flatMap (·.1.body)

variable {w : WebHdfs} {full : String} {size : UInt64} {state : WriteState} {log : Exchanges}

theorem live_write (data : Bytes) : w.live ((sessionAt full size .opened).serve (.use (.write data))) =
    (w.perform (.write ⟨full, false⟩ data)).bind fun
      | .ok _ => .done (.ok (), sessionAt full (size + UInt64.ofNat data.length) .opened)
      | .error e => .done (.error ((sessionAt full size .opened).report e), sessionAt full size .opened) := by
  have hserve : (sessionAt full size .opened).serve (.use (.write data)) =
      (Call.write ⟨full, false⟩ data).guarded.bind fun
        | .ok _ => .done (.ok (), sessionAt full (size + UInt64.ofNat data.length) .opened)
        | .error e => .done (.error ((sessionAt full size .opened).report e), sessionAt full size .opened) := by
    refine (Program.bind_assoc _ _ _).trans (congrArg (Program.bind _) (funext fun r => ?_))
    cases r <;> rfl
  rw [hserve, live_bind, live_guarded]
  refine congrArg (Program.bind _) (funext fun r => ?_)
  cases r <;> rfl

/-- Nothing is sent to close a handle, and that does not fail. -/
theorem live_releaseHandle (s : WriteSession) :
    w.live s.releaseHandle = .done (.ok (), { s with handle := none }) := by
  obtain ⟨handle, path, size, state⟩ := s
  cases handle <;> rfl

theorem live_discard (s : WriteSession) : w.live s.discard =
    (w.perform (.remove s.path)).bind fun r => .done (s.tolerate r, { s with handle := none }) := by
  refine (live_bind s.releaseHandle _).trans ?_
  rw [live_releaseHandle, Program.done_bind, live_bind, live_guarded]
  refine congrArg (Program.bind _) (funext fun r => ?_)
  cases r <;> rfl

theorem live_cancel (h : state.isDiscardable = true) : w.live ((sessionAt full size state).serve (.use .cancel)) =
    (w.perform (.remove full)).bind fun r =>
      .done ((sessionAt full size .cancelled).tolerate r, sessionAt full size .cancelled) := by
  have hcancel : (sessionAt full size state).cancel =
      { sessionAt full size state with state := .cancelled }.discard :=
    (WriteSession.cancel_eq _).trans (if_pos h)
  rw [WriteSession.serve, hcancel, live_discard]
  rfl

/-- A request for which nothing is sent. -/
theorem live_silent {request : SessionRequest} (h : w.requestsFor full state request = [])
    (hwrite : ∀ data, request = .use (.write data) → state ≠ .opened) :
    ∃ outcome, w.live ((sessionAt full size state).serve request) =
      .done (outcome, sessionAt full size (state.next request)) ∧ request.accepted outcome = [] := by
  cases request with
  | size => cases state <;> exact ⟨_, rfl, rfl⟩
  | use how =>
    cases how with
    | write data =>
      cases state with
      | opened => exact absurd rfl (hwrite data rfl)
      | closed | committed | cancelled => exact ⟨_, rfl, rfl⟩
    | close => cases state <;> exact ⟨_, rfl, rfl⟩
    | commit => cases state <;> exact ⟨_, rfl, rfl⟩
    | cancel =>
      cases state with
      | opened | closed => cases h
      | committed | cancelled => exact ⟨_, rfl, rfl⟩

theorem appended_append {log' : Exchanges} :
    w.appended full (log ++ log') = w.appended full log ++ w.appended full log' := by
  simp [appended]

theorem appended_addition {data : Bytes} {o : Outcome} :
    w.appended full [⟨w.appendRequest full data, o⟩] = if isTaken o then data else [] := by
  cases ho : isTaken o with
  | true => simp [appended, ho, appendRequest]
  | false => simp [appended, ho]

theorem appended_removal {o : Outcome} : w.appended full [⟨w.deleteRequest full false, o⟩] = [] := by
  have hother : w.deleteRequest full false ≠ w.appendRequest full (w.deleteRequest full false).body :=
    fun h => nomatch congrArg Request.method h
  simp [appended, hother]

/-- What a request of a caller comes to. -/
structure Served (w : WebHdfs) (full : String) (size : UInt64) (state : WriteState) (request : SessionRequest)
    (log : Exchanges) (outcome : Except StorageError Unit) (s : WriteSession) : Prop where
  sent : log.map (·.1) = w.requestsFor full state request
  appended : w.appended full log = request.accepted outcome
  after : s = sessionAt full (size + UInt64.ofNat (request.accepted outcome).length) (state.next request)

variable {request : SessionRequest} {outcome : Except StorageError Unit} {s s' : WriteSession}

theorem served_write {data : Bytes}
    (h : (w.live ((sessionAt full size .opened).serve (.use (.write data)))).Ends log (outcome, s')) :
    Served w full size .opened (.use (.write data)) log outcome s' := by
  rw [live_write] at h
  obtain ⟨first, r, rest, rfl, hw, hd⟩ := Program.ends_bind_iff.mp h
  have hsize : size + UInt64.ofNat 0 = size := by simp
  by_cases hdata : data = []
  · subst hdata
    obtain ⟨rfl, rfl⟩ := Program.ends_done_iff.mp hw
    obtain ⟨rfl, he⟩ := Program.ends_done_iff.mp hd
    obtain ⟨rfl, rfl⟩ := Prod.mk.inj he
    exact ⟨rfl, rfl, rfl⟩
  · have hsent : w.requestsFor full .opened (.use (.write data)) = [w.appendRequest full data] := by
      simp [requestsFor, hdata]
    have hcarries : Carries (w.perform (.write ⟨full, false⟩ data)) [w.addition full data] () := by
      have hwrite : Carries (w.perform (.write ⟨full, false⟩ data))
          (if data.isEmpty then [] else [w.addition full data]) () := carries_write
      simpa [hdata] using hwrite
    obtain ⟨o, rfl, ⟨htaken, rfl⟩ | ⟨htaken, e, rfl⟩⟩ := hcarries.single hw
    · obtain ⟨rfl, he⟩ := Program.ends_done_iff.mp hd
      obtain ⟨rfl, rfl⟩ := Prod.mk.inj he
      rw [List.append_nil]
      exact ⟨hsent.symm, appended_addition.trans (if_pos htaken), rfl⟩
    · obtain ⟨rfl, he⟩ := Program.ends_done_iff.mp hd
      obtain ⟨rfl, rfl⟩ := Prod.mk.inj he
      rw [List.append_nil]
      exact ⟨hsent.symm, appended_addition.trans (if_neg htaken),
        (congrArg (sessionAt full · .opened) hsize).symm⟩

theorem served_cancel (hstate : state.isDiscardable = true)
    (h : (w.live ((sessionAt full size state).serve (.use .cancel))).Ends log (outcome, s')) :
    Served w full size state (.use .cancel) log outcome s' := by
  rw [live_cancel hstate] at h
  obtain ⟨first, r, rest, rfl, hremove, hd⟩ := Program.ends_bind_iff.mp h
  obtain ⟨rfl, he⟩ := Program.ends_done_iff.mp hd
  obtain ⟨rfl, rfl⟩ := Prod.mk.inj he
  obtain ⟨o, rfl, _⟩ := carries_remove.single hremove
  rw [List.append_nil]
  have hnext : state.next (.use .cancel) = .cancelled := by
    cases state with
    | opened | closed => rfl
    | committed | cancelled => cases hstate
  refine ⟨?_, appended_removal, ?_⟩
  · rw [requestsFor, if_pos hstate]
    rfl
  · simp [SessionRequest.accepted, hnext]

/-- What a request comes to depends on nothing but the state of the session and, for what it is worth, on the
answer. -/
theorem served_of_ends (h : (w.live ((sessionAt full size state).serve request)).Ends log (outcome, s')) :
    Served w full size state request log outcome s' := by
  have hsilent : w.requestsFor full state request = [] →
      (∀ data, request = .use (.write data) → state ≠ .opened) →
        Served w full size state request log outcome s' := by
    intro hrequests hwrite
    obtain ⟨reply, hlive, haccepted⟩ := live_silent hrequests hwrite
    rw [hlive] at h
    obtain ⟨rfl, he⟩ := Program.ends_done_iff.mp h
    obtain ⟨rfl, rfl⟩ := Prod.mk.inj he
    exact ⟨hrequests.symm, haccepted.symm, by simp [haccepted]⟩
  cases request with
  | size => exact hsilent rfl nofun
  | use how =>
    cases how with
    | write data =>
      by_cases hstate : state = .opened
      · subst hstate
        exact served_write h
      · refine hsilent (by simp [requestsFor, hstate]) fun _ _ => hstate
    | close => exact hsilent rfl nofun
    | commit => exact hsilent rfl nofun
    | cancel =>
      by_cases hstate : state.isDiscardable = true
      · exact served_cancel hstate h
      · exact hsilent (by simp [requestsFor, hstate]) nofun

/-- A request of a caller, with what was exchanged for it and how it ended. -/
structure Visit where
  request : SessionRequest
  log : Exchanges
  outcome : Except StorageError Unit

/-- The data that a session took with a request. -/
def Visit.accepted (v : Visit) : Bytes := v.request.accepted v.outcome

/-- A session serves one request after the other. -/
def Serves (w : WebHdfs) : WriteSession → List Visit → WriteSession → Prop
  | s, [], s' => s' = s
  | s, v :: visits, s' =>
    ∃ next, (w.live (s.serve v.request)).Ends v.log (v.outcome, next) ∧ Serves w next visits s'

/-- The state after requests. -/
def stateAfter (state : WriteState) (visits : List Visit) : WriteState :=
  visits.foldl (fun state v => state.next v.request) state

theorem serves_sessionAt {visits : List Visit} (h : w.Serves (sessionAt full size state) visits s') :
    (∀ before v after, visits = before ++ v :: after →
      v.log.map (·.1) = w.requestsFor full (stateAfter state before) v.request) ∧
    w.appended full (visits.flatMap (·.log)) = visits.flatMap (·.accepted) ∧
    s' = sessionAt full (size + UInt64.ofNat (visits.flatMap (·.accepted)).length) (stateAfter state visits) := by
  induction visits generalizing size state with
  | nil =>
    refine ⟨by simp, rfl, ?_⟩
    have hsize : size + UInt64.ofNat 0 = size := by simp
    exact h.trans (congrArg (sessionAt full · state) hsize).symm
  | cons v visits ih =>
    obtain ⟨next, hrun, hrest⟩ := h
    have hserved := served_of_ends hrun
    rw [hserved.after] at hrest
    obtain ⟨hsent, happended, hafter⟩ := ih hrest
    refine ⟨?_, ?_, ?_⟩
    · intro before u after hsplit
      cases before with
      | nil =>
        obtain ⟨rfl, rfl⟩ := List.cons.inj hsplit
        exact hserved.sent
      | cons first before =>
        obtain ⟨rfl, htail⟩ := List.cons.inj hsplit
        exact hsent before u after htail
    · rw [List.flatMap_cons, List.flatMap_cons, appended_append, hserved.appended, happended]
      rfl
    · rw [hafter]
      simp [stateAfter, Visit.accepted, UInt64.add_assoc]

/-- Whatever is answered, opening a session at a path that resolves sends a request for the directories above it
and one for its status. If something is there and is to be replaced, one removal and one creation follow; if it is
to be extended, its status is asked for once more; if nothing is there, one creation follows. The first answer
that is not good enough ends that with an error, and the session is open otherwise. After that, whatever the
caller asks for, each request sends what it stands for and nothing else: data for an open session is sent once as
it is if there is any, a session that was neither committed nor cancelled is cancelled by one removal that is not
recursive, and nothing is sent besides. The data that was sent and taken is the data that the session says it
took, and its size has grown by that. -/
theorem session_protocol {st : Store} {path : String} (hresolve : st.options.resolve path = .ok full)
    {append : Bool} {log : Exchanges} {opened : Except StorageError WriteSession}
    (h : (w.live (st.openWriter path append).run).Ends log opened) :
    Opening w st.options.mask full append log opened ∧
      ∀ s visits s', opened = .ok s → w.Serves s visits s' →
        (∀ before v after, visits = before ++ v :: after →
          v.log.map (·.1) = w.requestsFor full (stateAfter .opened before) v.request) ∧
        w.appended full (visits.flatMap (·.log)) = visits.flatMap (·.accepted) ∧
        s'.state = stateAfter .opened visits ∧
        s'.size = s.size + UInt64.ofNat (visits.flatMap (·.accepted)).length := by
  have hopening := opening_of_ends hresolve h
  refine ⟨hopening, ?_⟩
  intro s visits s' hs hserves
  cases hopening with
  | unprovisioned | unclear | stopped => cases hs
  | opened granted plan follows =>
    rename_i size _
    obtain rfl := Except.ok.inj hs
    have hserves : w.Serves (sessionAt full size .opened) visits s' := hserves
    obtain ⟨hsent, happended, rfl⟩ := serves_sessionAt hserves
    exact ⟨hsent, happended, rfl, rfl⟩

theorem says_granted : Says boolean? (answerOf "\x7b\"boolean\":true\x7d") true := ⟨_, rfl, rfl, by decide +kernel⟩

theorem saysMissing_empty : SaysMissing (.ok ⟨404, [], true, ""⟩) :=
  ⟨_, rfl, rfl, .inr ⟨by decide +kernel, rfl⟩⟩

/-- A session for a new file, written to once and committed. -/
theorem session_protocol_committed : ∃ log visits s',
    Options.sample.resolve "/a" = .ok "/tmp/hdfs-registry/a" ∧
      (sample.live (Store.openWriter ⟨Options.sample⟩ "/a" false).run).Ends log
        (.ok (.start ⟨"/tmp/hdfs-registry/a", false⟩ "/tmp/hdfs-registry/a" 0)) ∧
      sample.Serves (.start ⟨"/tmp/hdfs-registry/a", false⟩ "/tmp/hdfs-registry/a" 0) visits s' ∧
      sample.appended "/tmp/hdfs-registry/a" (visits.flatMap (·.log)) = [7] ∧ s'.state = .committed ∧ s'.size = 1 := by
  let full := "/tmp/hdfs-registry/a"
  have hresolve : Options.sample.resolve "/a" = .ok full := rfl
  have hcreated : Follows [sample.creation full] [⟨sample.createRequest full, .ok ⟨201, [], true, ""⟩⟩] true :=
    .goes rfl .all
  have hopened : (sample.live (Store.openWriter ⟨Options.sample⟩ "/a" false).run).Ends _
      (.ok (.start ⟨full, false⟩ full 0)) :=
    ends_openWriter_of_plan hresolve says_granted (.created saysMissing_empty) hcreated
  let write : Visit := ⟨.use (.write [7]), [⟨sample.appendRequest full [7], .ok ⟨200, [], true, ""⟩⟩], .ok ()⟩
  let commit : Visit := ⟨.use .commit, [], .ok ()⟩
  have hwrite : (sample.live ((sessionAt full 0 .opened).serve write.request)).Ends write.log
      (write.outcome, sessionAt full 1 .opened) := by
    rw [live_write]
    exact Program.ends_bind_iff.mpr
      ⟨write.log, .ok (), [], rfl, (carries_write.ok _ _).mpr ⟨.goes rfl .all, rfl⟩, .done _⟩
  have hserves : sample.Serves (sessionAt full 0 .opened) [write, commit] (sessionAt full 1 .committed) :=
    ⟨_, hwrite, _, .done _, rfl⟩
  obtain ⟨_, happended, hstate, hsize⟩ := (session_protocol hresolve hopened).2 _ _ _ rfl hserves
  exact ⟨_, _, _, hresolve, hopened, hserves, happended, hstate, hsize⟩

end WebHdfs

end RootedStore
