import RootedStore.Proofs.Store.Confinement
import RootedStore.Proofs.Store.Session

/-!
# Interrupted requests

A request is over once its token was cancelled, through whatever context has the token, or once its time is
over. Every call of an operation is made only after the request was found to go on, so an operation of a request
that is over makes none: it reports the path that it cannot resolve, if there is one, or the interruption. A stream
that is read waits for a timer instead. Of the timer no more is known than that it does not go off too early, so
what is read comes as long as the request was not cancelled and the timer has not gone off, and only that long.
-/
namespace RootedStore

namespace Signals

variable {s s' s'' : Signals} {c c' : RequestContext} {why : Interruption}

/-- What may happen to requests. -/
inductive Happens : Signals → Signals → Prop where
  | issued (s : Signals) (timeout : Option Nat) (requestId : Option String) :
      Happens s (s.newContext timeout requestId).2
  | cancelled (s : Signals) (c : RequestContext) : Happens s (s.cancel c)
  /-- Time goes on, and timers go off. -/
  | passed {s s' : Signals} (clock : s.clock ≤ s'.clock)
      (fired : ∀ moment, s.fired moment = true → s'.fired moment = true) (issued : s'.issued = s.issued)
      (cancelled : s'.cancelled = s.cancelled) : Happens s s'
  | awaited {s s' : Signals} {c : RequestContext} {why : Interruption} (h : s.await c = some (why, s')) :
      Happens s s'

/-- What is the case after any number of things have happened. -/
inductive Later : Signals → Signals → Prop where
  | refl (s : Signals) : Later s s
  | step {s s' s'' : Signals} (first : Happens s s') (rest : Later s' s'') : Later s s''

theorem Later.trans (h : s.Later s') (h' : s'.Later s'') : s.Later s'' := by
  induction h with
  | refl s => exact h'
  | step first rest ih => exact .step first (ih h')

/-- A request that was cancelled through a context with its token. -/
def WasCancelled (s : Signals) (c : RequestContext) : Prop :=
  ∃ s₀ c', c'.token = c.token ∧ (cancel s₀ c').Later s

/-- A request whose time is over. -/
def IsExpired (s : Signals) (c : RequestContext) : Prop := ∃ moment, c.deadline = some moment ∧ moment ≤ s.clock

/-- A request whose interruption reaches who waits for it: it was cancelled, or the timer for its end went off. -/
def IsNoticed (s : Signals) (c : RequestContext) : Prop :=
  s.WasCancelled c ∨ ∃ moment, c.deadline = some moment ∧ s.fired moment = true

theorem Happens.cancelled_subset (h : s.Happens s') : s.cancelled ⊆ s'.cancelled := by
  cases h with
  | issued => exact fun _ ht => ht
  | passed clock fired issued cancelled => exact cancelled ▸ fun _ ht => ht
  | cancelled c => exact List.subset_cons_self _ _
  | awaited h =>
    rw [await] at h
    split at h
    · obtain ⟨_, rfl⟩ := Prod.mk.inj (Option.some.inj h)
      exact fun _ ht => ht
    · obtain ⟨moment, _, he⟩ := Option.map_eq_some_iff.mp h
      obtain ⟨_, rfl⟩ := Prod.mk.inj he
      exact fun _ ht => ht

/-- A token that was cancelled stays cancelled. -/
theorem Later.cancelled_subset (h : s.Later s') : s.cancelled ⊆ s'.cancelled := by
  induction h with
  | refl s => exact fun _ ht => ht
  | step first rest ih => exact fun _ ht => ih (first.cancelled_subset ht)

/-- To be cancelled is to have been cancelled through some context with the token. -/
theorem wasCancelled_iff : s.WasCancelled c ↔ c.token ∈ s.cancelled := by
  constructor
  · rintro ⟨s₀, c', htoken, hlater⟩
    refine hlater.cancelled_subset ?_
    rw [← htoken]
    exact List.mem_cons_self
  · intro h
    obtain ⟨clock, issued, tokens, fired, fired_le⟩ := s
    -- the tokens were cancelled from the last one of the list to the first one
    induction tokens with
    | nil => cases h
    | cons token rest ih =>
      have hfirst : Happens ⟨clock, issued, rest, fired, fired_le⟩
          ⟨clock, issued, token :: rest, fired, fired_le⟩ := .cancelled _ ⟨token, none, none⟩
      rcases List.mem_cons.mp h with rfl | h
      · exact ⟨⟨clock, issued, rest, fired, fired_le⟩, c, rfl, .refl _⟩
      · obtain ⟨s₀, c', htoken, hlater⟩ := ih h
        exact ⟨s₀, c', htoken, hlater.trans (.step hfirst (.refl _))⟩

theorem check_of_cancelled (h : c.token ∈ s.cancelled) : s.check c = some .cancelled := if_pos h

theorem check_of_expired (h : c.token ∉ s.cancelled) (hexpired : s.IsExpired c) :
    s.check c = some .deadlineExceeded := by
  obtain ⟨moment, hmoment, hle⟩ := hexpired
  rw [check, if_neg h, hmoment, if_pos]
  simpa using hle

/-- Nothing is noticed that has not happened, and what is noticed is what has happened. -/
theorem poll_of_noticed (h : s.check c = some why) (hnoticed : s.IsNoticed c) : s.poll c = some why := by
  by_cases hc : c.token ∈ s.cancelled
  · rw [check, if_pos hc] at h
    rw [poll, if_pos hc, h]
  · obtain ⟨moment, hdeadline, hfired⟩ := hnoticed.resolve_left (mt wasCancelled_iff.mp hc)
    rw [check_of_expired hc ⟨moment, hdeadline, s.fired_le hfired⟩] at h
    rw [poll, if_neg hc, hdeadline, if_pos]
    · exact h
    · exact hfired

theorem poll_of_not_noticed (h : ¬ s.IsNoticed c) : s.poll c = none := by
  rw [poll, if_neg fun hc => h (.inl (wasCancelled_iff.mpr hc)), if_neg]
  rw [Option.any_eq_true]
  rintro ⟨moment, hdeadline, hfired⟩
  exact h (.inr ⟨moment, hdeadline, hfired⟩)

end Signals

/-- A program that is told of an interruption whenever it asks, asks nothing else and ends with a result. -/
inductive Work.Stops {α : Type} (why : Interruption) : Work α → α → Prop where
  | done (a : α) : Stops why (.done a) a
  | asked {next : Option Interruption → Work α} {a : α} (rest : Stops why (next (some why)) a) :
      Stops why (.ask .interruption next) a

variable {α β σ : Type} {why : Interruption} {a : α} {b : β} {e : StorageError}

theorem Work.Stops.bind {work : Work α} {next : α → Work β} (h : work.Stops why a)
    (hnext : (next a).Stops why b) : Work.Stops why (work.bind next) b := by
  induction h with
  | done a => exact hnext
  | asked rest ih => exact .asked (ih hnext)

/-- Such a program leaves its client alone, whatever client that is. -/
theorem Work.Stops.run_eq {work : Work α} (h : work.Stops why a) (client : Client σ) {standing : Standing}
    (hs : standing.checked = some why) (state : σ) : work.run client standing state = (a, state) := by
  induction h with
  | done a => rfl
  | @asked next a rest ih =>
    have hstep : Work.run (.ask .interruption next) client standing state =
        (next standing.checked).run client standing state := rfl
    rw [hstep, hs]
    exact ih

theorem Call.stops_guarded (why : Interruption) (c : Call) :
    c.guarded.Stops why (.error (.interrupted why)) := .asked (.done _)

namespace Action

/-- The same for a program that may end with an error. -/
def Stops (why : Interruption) (action : Action α) (r : Except StorageError α) : Prop :=
  Work.Stops why action.run r

theorem stops_call (why : Interruption) (path : String) (c : Call) :
    Stops why (call path c) (.error (.interrupted why)) := (c.stops_guarded why).bind (.done _)

theorem stops_attempt (why : Interruption) (c : Call) :
    Stops why (attempt c) (.ok (.error (.interrupted why))) := (c.stops_guarded why).bind (.done _)

theorem Stops.bind_ok {action : Action α} {next : α → Action β} {r : Except StorageError β}
    (h : Stops why action (.ok a)) (hnext : Stops why (next a) r) : Stops why (action >>= next) r :=
  Work.Stops.bind h hnext

theorem Stops.bind_error {action : Action α} (h : Stops why action (.error e)) (next : α → Action β) :
    Stops why (action >>= next) (.error e) := Work.Stops.bind h (.done _)

end Action

namespace Store

/-- Whether the grammar of keys lets an operation have a path. -/
def Operation.admits : Operation → String → Bool
  | .list _ => Path.isListable
  | _ => Path.isKey

variable (st : Store)

/-- A path with which an operation does not get to its first call: one outside the grammar, for a caller
that is held to it, or one that leads out of the root. -/
def Refuses (keyed : Bool) (op : Operation) (path : String) : Prop :=
  keyed = true ∧ op.admits path = false ∨ st.options.resolve path = .error (.invalidPath path)

/-- What is reported of some paths if nothing can be done with them: the first one that leads out of the
root, or the interruption. -/
def verdict (why : Interruption) : List String → StorageError
  | [] => .interrupted why
  | path :: rest =>
    match st.options.resolve path with
    | .error e => e
    | .ok _ => verdict why rest

theorem stops_resolve {path : String} {rest : List String} {next : String → Action α}
    (h : ∀ full, st.options.resolve path = .ok full →
      Action.Stops why (next full) (.error (st.verdict why rest))) :
    Action.Stops why (st.resolve path >>= next) (.error (st.verdict why (path :: rest))) := by
  have hresolve : Action.Stops why (st.resolve path) (st.options.resolve path) := .done _
  simp only [verdict]
  cases hr : st.options.resolve path with
  | error e =>
    rw [hr] at hresolve
    exact hresolve.bind_error next
  | ok full =>
    rw [hr] at hresolve
    exact hresolve.bind_ok (h full hr)

theorem stops_openWriter (why : Interruption) (path : String) (append : Bool) :
    Action.Stops why (st.openWriter path append) (.error (st.verdict why [path])) := by
  refine st.stops_resolve fun full _ => ?_
  exact (Action.stops_call why _ _).bind_error _

/-- An operation that is told to stop reports its paths or the interruption, and makes no call. -/
theorem stops_perform (why : Interruption) {op : Operation} (hlink : ∀ path, op ≠ .link path) :
    Action.Stops why (st.perform op) (.error (st.verdict why op.paths)) := by
  cases op with
  | get path => exact st.stops_resolve fun full _ => Action.stops_call why full (.content full)
  | put path content => exact (st.stops_openWriter why path false).bind_error _
  | openReader path offset =>
    exact st.stops_resolve fun full _ => (Action.stops_call why full (.openRead full)).bind_error _
  | openWriter path append => exact st.stops_openWriter why path append
  | stat path =>
    exact st.stops_resolve fun full _ => (Action.stops_call why full (.status full)).bind_error _
  | list path =>
    exact st.stops_resolve fun full _ => (Action.stops_attempt why (.entries full)).bind_ok (.done _)
  | move source target =>
    refine st.stops_resolve fun fromPath _ => st.stops_resolve fun toPath _ => ?_
    exact (Action.stops_call why _ _).bind_error _
  | delete path => exact st.stops_resolve fun full _ => Action.stops_call why full (.removeTree full)
  | link path => exact absurd rfl (hlink path)

/-- The verdict on some paths is that one of them is invalid, or else the interruption. -/
theorem verdict_cases (why : Interruption) (paths : List String) :
    (∃ path ∈ paths, st.options.resolve path = .error (.invalidPath path) ∧
      st.verdict why paths = .invalidPath path) ∨
    (∀ path ∈ paths, st.options.resolve path ≠ .error (.invalidPath path)) ∧
      st.verdict why paths = .interrupted why := by
  induction paths with
  | nil => exact .inr ⟨nofun, rfl⟩
  | cons path rest ih =>
    simp only [verdict]
    cases hr : st.options.resolve path with
    | error e =>
      obtain rfl := Options.resolve_eq_error hr
      exact .inl ⟨path, List.mem_cons_self, hr, rfl⟩
    | ok full =>
      rcases ih with ⟨other, hm, he, hv⟩ | ⟨hnone, hv⟩
      · exact .inl ⟨other, List.mem_cons_of_mem _ hm, he, hv⟩
      · refine .inr ⟨?_, hv⟩
        intro other hm
        rcases List.mem_cons.mp hm with rfl | hm
        · simp [hr]
        · exact hnone other hm

/-- The grammar refuses an operation for one of its paths, which is reported. -/
theorem Operation.check_cases (op : Operation) :
    (∃ path ∈ op.paths, op.admits path = false ∧ op.check = .error (.invalidPath path)) ∨
      (∀ path ∈ op.paths, op.admits path = true) ∧ op.check = .ok () := by
  have hkey : ∀ path, Path.isKey path = false ∧ checkKey path = .error (.invalidPath path) ∨
      Path.isKey path = true ∧ checkKey path = .ok () := by
    intro path
    cases h : Path.isKey path <;> simp [checkKey, h]
  cases op with
  | list path => cases h : Path.isListable path <;> simp [check, checkListable, paths, admits, h]
  | move source target =>
    rcases hkey source with ⟨hs, hc⟩ | ⟨hs, hc⟩
    · exact .inl ⟨source, by simp [paths], hs, by rw [check, hc]; rfl⟩
    · rcases hkey target with ⟨ht, hc'⟩ | ⟨ht, hc'⟩
      · exact .inl ⟨target, by simp [paths], ht, by rw [check, hc, hc']; rfl⟩
      · exact .inr ⟨by simp [paths, admits, hs, ht], by rw [check, hc, hc']; rfl⟩
  | _ => simpa [check, paths, admits] using hkey _

/-- What is reported for a request that is over: a path that is refused, or else the interruption. -/
def Reports (keyed : Bool) (op : Operation) (why : Interruption) (e : StorageError) : Prop :=
  (∃ path ∈ op.paths, st.Refuses keyed op path ∧ e = .invalidPath path) ∨
    (∀ path ∈ op.paths, ¬ st.Refuses keyed op path) ∧ e = .interrupted why

theorem reports_verdict {keyed : Bool} {op : Operation}
    (hadmits : keyed = true → ∀ path ∈ op.paths, op.admits path = true) (why : Interruption) :
    st.Reports keyed op why (st.verdict why op.paths) := by
  rcases st.verdict_cases why op.paths with ⟨path, hm, hr, hv⟩ | ⟨hnone, hv⟩
  · exact .inl ⟨path, hm, .inr hr, hv⟩
  · refine .inr ⟨?_, hv⟩
    rintro path hm (⟨hk, hfalse⟩ | hr)
    · simp [hadmits hk path hm] at hfalse
    · exact hnone path hm hr

theorem exists_stops_request (why : Interruption) (keyed : Bool) {op : Operation}
    (hlink : ∀ path, op ≠ .link path) :
    ∃ e, st.Reports keyed op why e ∧ Action.Stops why (st.request keyed op) (.error e) := by
  have hperform := st.stops_perform why hlink
  cases keyed with
  | false =>
    refine ⟨_, st.reports_verdict ?_ why, hperform⟩
    nofun
  | true =>
    rcases op.check_cases with ⟨path, hm, hadmits, hc⟩ | ⟨hadmits, hc⟩
    · refine ⟨.invalidPath path, .inl ⟨path, hm, .inl ⟨rfl, hadmits⟩, rfl⟩, ?_⟩
      simp only [request, if_true, hc]
      exact .done _
    · refine ⟨_, st.reports_verdict (fun _ => hadmits) why, ?_⟩
      simp only [request, if_true, hc]
      exact hperform

end Store

namespace WriteSession

variable (why : Interruption) (w : WriteSession)

theorem stops_write {handle : WriteHandle} (hs : w.state = .opened) (hh : w.handle = some handle) (data : Bytes) :
    (w.write data).Stops why (.error (.interrupted why), w) := by
  simp only [write, hs, hh]
  exact ((Call.write handle data).stops_guarded why).bind (.done _)

theorem exists_stops_write (data : Bytes) : ∃ r, (w.write data).Stops why r := by
  rw [write]
  split
  · exact ⟨_, (Call.stops_guarded why _).bind (.done _)⟩
  · exact ⟨_, .done _⟩
  · exact ⟨_, .done _⟩

theorem exists_stops_releaseHandle : ∃ r, w.releaseHandle.Stops why r := by
  rw [releaseHandle]
  split
  · exact ⟨_, .done _⟩
  · exact ⟨_, (Call.stops_guarded why _).bind (.done _)⟩

theorem exists_stops_commit : ∃ r, w.commit.Stops why r := by
  obtain ⟨⟨r, released⟩, h⟩ := exists_stops_releaseHandle why w
  rw [commit]
  split
  · cases r with
    | ok _ => exact ⟨_, h.bind (.done _)⟩
    | error e => exact ⟨_, h.bind (.done _)⟩
  · exact ⟨_, .done _⟩

theorem exists_stops_cancel : ∃ r, w.cancel.Stops why r := by
  rw [cancel_eq]
  split
  · obtain ⟨released, h⟩ := exists_stops_releaseHandle why { w with state := .cancelled }
    exact ⟨_, h.bind ((Call.stops_guarded why _).bind (.done _))⟩
  · exact ⟨_, .done _⟩

/-- Every request of a session that is told to stop ends without a call. -/
theorem exists_stops_serve (request : SessionRequest) : ∃ r, (w.serve request).Stops why r := by
  cases request with
  | size => exact ⟨_, .done _⟩
  | use how =>
    cases how with
    | write data =>
      obtain ⟨r, h⟩ := exists_stops_write why w data
      exact ⟨_, h.bind (.done _)⟩
    | close =>
      rw [serve, close_eq]
      exact exists_stops_releaseHandle why _
    | commit => exact exists_stops_commit why w
    | cancel => exact exists_stops_cancel why w

end WriteSession

namespace ReadSession

variable {standing : Standing}

/-- Who waits for a stream and is woken reads nothing, and can go on later from where it was. -/
theorem run_readOnce (h : standing.polled = some why) (n : Nat) (r : ReadSession) (client : Client σ) (state : σ) :
    (r.readOnce n).run client standing state = ((.failure (.ofInterruption why), r), state) := by
  have hsignal : client.answer standing .signal state = (some why, state) := by rw [Client.answer, h]
  rw [readOnce, Work.run, Program.run, hsignal]
  rfl

/-- Who is not woken reads as for a request that nothing has interrupted. -/
theorem run_readOnce_good (h : standing.polled = none) (n : Nat) (r : ReadSession) (client : Client σ) (state : σ) :
    (r.readOnce n).run client standing state = (r.readOnce n).run client .good state := by
  have hsignal : client.answer standing .signal state = (none, state) := by rw [Client.answer, h]
  rw [readOnce, Work.run, Program.run, hsignal]
  -- What the read asks for after that is a call, and a reply does not depend on how the request stands.
  by_cases hroom : n = 0
  · simp [hroom, Work.run, Program.run, Client.answer, Standing.good]
  · cases r.feed <;> simp [hroom, Work.run, Program.run, Client.answer, Standing.good]

theorem run_read (h : standing.polled = some why) (limit : Option Nat) (r : ReadSession) (client : Client σ)
    (state : σ) :
    (r.read limit).run client standing state = ((⟨[], some (.ofInterruption why)⟩, r), state) := by
  have hr : Program.run (client.answer standing) (r.readOnce (limit.getD room)) state = _ :=
    run_readOnce h (limit.getD room) r client state
  rw [read, readThen, Work.run, Program.run_bind, hr]
  rfl

end ReadSession

namespace Signals

/-- How everything ends for a request that is over. Nothing reaches the client, whatever client that is, unless a
stream is read before the interruption is noticed. -/
structure Halts (s : Signals) (c : RequestContext) (why : Interruption) : Prop where
  operation : ∀ {σ : Type} (client : Client σ) (state : σ) (st : Store) (keyed : Bool) (op : Store.Operation),
    (∀ path, op ≠ .link path) → ∃ e, st.Reports keyed op why e ∧
      Work.run (st.request keyed op).run client (s.standing c) state = (.error e, state)
  write : ∀ {σ : Type} (client : Client σ) (state : σ) (w : WriteSession) (handle : WriteHandle) (data : Bytes),
    w.state = .opened → w.handle = some handle →
      (w.write data).run client (s.standing c) state = ((.error (.interrupted why), w), state)
  session : ∀ {σ : Type} (client : Client σ) (state : σ) (w : WriteSession) (request : SessionRequest),
    ((w.serve request).run client (s.standing c) state).2 = state
  readOnce : s.IsNoticed c → ∀ {σ : Type} (client : Client σ) (state : σ) (r : ReadSession) (n : Nat),
    (r.readOnce n).run client (s.standing c) state = ((.failure (.ofInterruption why), r), state)
  read : s.IsNoticed c → ∀ {σ : Type} (client : Client σ) (state : σ) (r : ReadSession) (limit : Option Nat),
    (r.read limit).run client (s.standing c) state = ((⟨[], some (.ofInterruption why)⟩, r), state)
  /-- A single read until then is one for a request that nothing has interrupted. -/
  unnoticed : ¬ s.IsNoticed c → ∀ {σ : Type} (client : Client σ) (state : σ) (r : ReadSession) (n : Nat),
    (r.readOnce n).run client (s.standing c) state = (r.readOnce n).run client .good state

variable {s : Signals} {c : RequestContext}

theorem halts_of_check (h : s.check c = some why) : s.Halts c why := by
  have hchecked : (s.standing c).checked = some why := h
  constructor
  · intro σ client state st keyed op hlink
    obtain ⟨e, he, hstops⟩ := st.exists_stops_request why keyed hlink
    exact ⟨e, he, hstops.run_eq client hchecked state⟩
  · intro σ client state w handle data hs hh
    exact (w.stops_write why hs hh data).run_eq client hchecked state
  · intro σ client state w request
    obtain ⟨r, hstops⟩ := w.exists_stops_serve why request
    rw [hstops.run_eq client hchecked state]
  · intro hnoticed σ client state r n
    exact ReadSession.run_readOnce (poll_of_noticed h hnoticed) n r client state
  · intro hnoticed σ client state r limit
    exact ReadSession.run_read (poll_of_noticed h hnoticed) limit r client state
  · intro hnot σ client state r n
    exact ReadSession.run_readOnce_good (poll_of_not_noticed hnot) n r client state

/-- A request that was cancelled, or whose time is over, touches nothing; that it was cancelled is what is
reported if both are the case. -/
theorem halts_of_over (h : s.WasCancelled c ∨ s.IsExpired c) :
    ∃ why, s.check c = some why ∧ (why = .cancelled ↔ s.WasCancelled c) ∧ s.Halts c why := by
  by_cases hc : c.token ∈ s.cancelled
  · have hcheck := check_of_cancelled hc
    exact ⟨.cancelled, hcheck, by simp [wasCancelled_iff, hc], halts_of_check hcheck⟩
  · have hnot : ¬ s.WasCancelled c := fun hw => hc (wasCancelled_iff.mp hw)
    have hcheck := check_of_expired hc (h.resolve_left hnot)
    exact ⟨.deadlineExceeded, hcheck, by simp [hnot], halts_of_check hcheck⟩

/-- A request without time that was cancelled through another context with its token. -/
theorem halts_of_over_cancelled :
    let c := (initial.newContext (some 0) none).1
    let s := (initial.newContext (some 0) none).2.cancel ⟨0, none, some "id"⟩
    s.WasCancelled c ∧ s.IsExpired c ∧
      ∃ why, s.check c = some why ∧ (why = .cancelled ↔ s.WasCancelled c) ∧ s.Halts c why := by
  intro c s
  have hcancelled : s.WasCancelled c := ⟨_, ⟨0, none, some "id"⟩, rfl, .refl _⟩
  have hexpired : s.IsExpired c := ⟨0, rfl, Nat.le_refl 0⟩
  exact ⟨hcancelled, hexpired, halts_of_over (.inl hcancelled)⟩

/-- What is read before the timer has gone off comes although the request is over. -/
theorem reads_before_timer :
    ¬ ∀ (s : Signals) (c : RequestContext), s.WasCancelled c ∨ s.IsExpired c →
        ∃ why, s.check c = some why ∧ ∀ (r : ReadSession) (n : Nat),
          ((r.readOnce n).run Namespace.client (s.standing c) Namespace.initial).1.1 =
            .failure (.ofInterruption why) := by
  intro hclaim
  let c := (initial.newContext (some 0) none).1
  let s := (initial.newContext (some 0) none).2
  obtain ⟨why, _, hread⟩ := hclaim s c (.inr ⟨0, rfl, Nat.le_refl 0⟩)
  have hgiven : (Feed.take 1 [] [.chunk [100]]).1 = .chunk [100] := by simp [Feed.take]
  cases hgiven.symm.trans (hread (.ofItems "/f" 0 [.chunk [100]]) 1)

end Signals

end RootedStore
