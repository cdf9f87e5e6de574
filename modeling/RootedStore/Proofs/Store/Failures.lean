import RootedStore.Proofs.Store.Confinement
import RootedStore.Proofs.Store.Session

/-!
# Failing calls

A call may fail at any point of an operation, with any error. Some failures are passed over: each operation
has its own. With the first one that is not, the operation is at its end; it reports that failure and makes no
more calls, except that a handle that could not be written to is closed. Conversely, what an operation
reports is such a failure, or it is no failure of a call at all.
-/
namespace RootedStore

/-- What is reported about a path for an error of the client. -/
inductive ClientError.IsReported (path : String) : ClientError → StorageError → Prop where
  | notFound (missing : String) : IsReported path (.notFound missing) (.pathNotFound path)
  | interrupted (why : Interruption) : IsReported path (.interrupted why) (.interrupted why)
  | other {e : ClientError} (hn : ∀ missing, e ≠ .notFound missing) (hi : ∀ why, e ≠ .interrupted why) :
      IsReported path e (.backend driverName e)

theorem ClientError.isReported_ofClient (path : String) (e : ClientError) :
    e.IsReported path (.ofClient driverName path e) := by
  cases e with
  | notFound missing => exact .notFound missing
  | interrupted why => exact .interrupted why
  | _ => exact .other nofun nofun

def Call.path? : Call → Option String
  | .content path | .openRead path | .create path | .openAppend path | .remove path | .removeTree path
  | .rename path _ | .status path | .entries path | .makeDirs path _ => some path
  | .write _ _ | .close _ | .seek _ _ | .stream _ => none

namespace Work

/-- A request that nothing interrupts on the way. -/
def Live (log : Log) : Prop := ∀ why, (⟨.interruption, some why⟩ : Sigma Question.Reply) ∉ log

/-- What an operation does about failing calls. -/
structure Terms where
  /-- Whether a failure is passed over. -/
  Forgives : Call → ClientError → Prop
  OfHandles : String → Prop
  /-- The calls that are made after a failure that is not passed over. -/
  aftermath : Call → List Call

variable {α β : Type} {t : Terms} {log before after first rest : Log} {c : Call} {e : ClientError} {path : String}

theorem live_append_iff : Live (first ++ rest) ↔ Live first ∧ Live rest := by
  simp only [Live, List.mem_append, not_or, forall_and]

namespace Terms

def Concerns (t : Terms) (c : Call) (path : String) : Prop :=
  match c.path? with
  | some own => path = own
  | none => t.OfHandles path

/-- Every failure is passed over. -/
def Passes (t : Terms) (log : Log) : Prop :=
  ∀ c e, (⟨.call c, .error e⟩ : Sigma Question.Reply) ∈ log → t.Forgives c e

structure Accounts (t : Terms) (log : Log) (r : Except StorageError α) : Prop where
  passed : ∀ a, r = .ok a → t.Passes log
  failed : ∀ before c e after, log = before ++ ⟨.call c, .error e⟩ :: after → t.Passes before →
    ¬ t.Forgives c e → (∃ path reported, t.Concerns c path ∧ e.IsReported path reported ∧ r = .error reported) ∧
      calls after = t.aftermath c
  refused : t.Passes log → ∀ reported, r = .error reported → ∀ path e, ¬ ClientError.IsReported path e reported

theorem passes_append_iff : t.Passes (first ++ rest) ↔ t.Passes first ∧ t.Passes rest := by
  simp only [Passes, List.mem_append, or_imp, forall_and]

/-- If not every failure is passed over, there is a first one that is not. -/
theorem exists_failed (h : ¬ t.Passes log) :
    ∃ before c e after, log = before ++ ⟨.call c, .error e⟩ :: after ∧ t.Passes before ∧ ¬ t.Forgives c e := by
  induction log with
  | nil => exact absurd (fun _ _ => nofun) h
  | cons x log ih =>
    by_cases hx : t.Passes [x]
    · have hlog : ¬ t.Passes log := fun hlog => h (passes_append_iff.mpr ⟨hx, hlog⟩)
      obtain ⟨before, c, e, after, rfl, hbefore, hnot⟩ := ih hlog
      exact ⟨x :: before, c, e, after, rfl, passes_append_iff.mpr ⟨hx, hbefore⟩, hnot⟩
    · obtain ⟨c, e, hm, hnot⟩ : ∃ c e, (⟨.call c, .error e⟩ : Sigma Question.Reply) ∈ [x] ∧ ¬ t.Forgives c e := by
        by_contra hall
        exact hx fun c e hm => by_contra fun hnot => hall ⟨c, e, hm, hnot⟩
      obtain rfl := List.mem_singleton.mp hm
      exact ⟨[], c, e, log, rfl, fun _ _ => nofun, hnot⟩

/-- A path that is reported to be missing is one that a call did not find. -/
theorem Accounts.of_pathNotFound (h : t.Accounts log (.error (.pathNotFound path) : Except StorageError α)) :
    ∃ before c missing after, log = before ++ ⟨.call c, .error (.notFound missing)⟩ :: after ∧
      t.Concerns c path ∧ calls after = t.aftermath c := by
  by_cases hpasses : t.Passes log
  · exact absurd (.notFound path) (h.refused hpasses _ rfl path _)
  · obtain ⟨before, c, e, after, rfl, hbefore, hnot⟩ := exists_failed hpasses
    obtain ⟨⟨own, reported, hc, hreported, he⟩, hafter⟩ := h.failed before c e after rfl hbefore hnot
    obtain rfl := Except.error.inj he
    cases hreported with
    | notFound missing => exact ⟨before, c, missing, after, rfl, hc, hafter⟩

theorem accounts_nil {r : Except StorageError α}
    (h : ∀ reported, r = .error reported → ∀ path e, ¬ ClientError.IsReported path e reported) :
    t.Accounts [] r := by
  refine ⟨fun _ _ => nofun, ?_, fun _ => h⟩
  intro before c e after he
  simp at he

/-- What went before, with no failure but those that are passed over, changes nothing. -/
theorem Accounts.append {r : Except StorageError α} (h : t.Accounts rest r) (hfirst : t.Passes first) :
    t.Accounts (first ++ rest) r := by
  constructor
  · intro a ha
    exact passes_append_iff.mpr ⟨hfirst, h.passed a ha⟩
  · intro before c e after heq hbefore hnot
    rcases List.append_eq_append_iff.mp heq with ⟨mid, rfl, hrest⟩ | ⟨mid, rfl, hafter⟩
    · exact h.failed mid c e after hrest (passes_append_iff.mp hbefore).2 hnot
    · cases mid with
      | nil => exact h.failed [] c e after hafter.symm nofun hnot
      | cons x mid =>
        obtain ⟨rfl, _⟩ := List.cons.inj hafter
        exact absurd (hfirst c e (by simp)) hnot
  · intro hpasses
    exact h.refused (passes_append_iff.mp hpasses).2

theorem accounts_refused {reported : StorageError} (h : ∀ path e, ¬ ClientError.IsReported path e reported) :
    t.Accounts [] (.error reported : Except StorageError α) := by
  refine accounts_nil ?_
  rintro _ ⟨⟩
  exact h

theorem accounts_ok (a : α) (h : t.Passes log) : t.Accounts log (.ok a : Except StorageError α) := by
  have hnil : t.Accounts [] (.ok a : Except StorageError α) := accounts_nil nofun
  rw [← List.append_nil log]
  exact hnil.append h

/-- The account of an error does not depend on the value that there could have been. -/
theorem Accounts.of_error {reported : StorageError} (h : t.Accounts log (.error reported : Except StorageError α)) :
    t.Accounts log (.error reported : Except StorageError β) := by
  refine ⟨nofun, ?_, ?_⟩
  · intro before c e after heq hbefore hnot
    obtain ⟨⟨path, other, hc, hr, he⟩, hafter⟩ := h.failed before c e after heq hbefore hnot
    obtain rfl := Except.error.inj he
    exact ⟨⟨path, _, hc, hr, rfl⟩, hafter⟩
  · intro hpasses other he
    obtain rfl := Except.error.inj he
    exact h.refused hpasses _ rfl

theorem passes_question (t : Terms) : t.Passes [⟨.interruption, none⟩] := by
  intro c e he
  simp at he

/-- A call passes if it succeeds, or fails in a way that is passed over. -/
theorem passes_made {r : c.Reply} (h : ∀ e, r = .error e → t.Forgives c e) : t.Passes (c.made r) := by
  have hcall : t.Passes [⟨.call c, r⟩] := by
    intro c' e he
    cases List.mem_singleton.mp he
    exact h e rfl
  exact passes_append_iff.mpr ⟨t.passes_question, hcall⟩

theorem accounts_failed (hnot : ¬ t.Forgives c e) (hc : t.Concerns c path) (hafter : calls after = t.aftermath c) :
    t.Accounts (c.made (.error e) ++ after) (.error (.ofClient driverName path e) : Except StorageError α) := by
  have hcall : t.Accounts (⟨.call c, .error e⟩ :: after)
      (.error (.ofClient driverName path e) : Except StorageError α) := by
    refine ⟨nofun, ?_, fun hpasses => absurd (hpasses c e List.mem_cons_self) hnot⟩
    intro before c' e' after' heq hbefore _
    cases before with
    | nil =>
      obtain ⟨h, rfl⟩ := List.cons.inj heq
      cases h
      exact ⟨⟨path, _, hc, ClientError.isReported_ofClient path e, rfl⟩, hafter⟩
    | cons x before =>
      obtain ⟨rfl, _⟩ := List.cons.inj heq
      exact absurd (hbefore c e List.mem_cons_self) hnot
  exact hcall.append t.passes_question

theorem accounts_made {r : c.Reply} {f : c.Result → α} {outcome : Except StorageError α}
    (hr : outcome = r.mapError (.ofClient driverName path) >>= fun a => .ok (f a)) (hc : t.Concerns c path)
    (hafter : t.aftermath c = []) (hnot : ∀ e, r = .error e → ¬ t.Forgives c e) :
    t.Accounts (c.made r) outcome := by
  subst hr
  cases r with
  | ok a => exact accounts_ok (f a) (passes_made nofun)
  | error e => exact accounts_failed (hnot e rfl) hc hafter.symm

end Terms

end Work

variable {α β : Type} {t : Work.Terms} {log : Work.Log} {c : Call} {path : String}

theorem Call.ends_guarded_of_live {r : c.Reply} (hlive : Work.Live log) (h : c.guarded.Ends log r) :
    log = c.made r := by
  rcases Call.ends_guarded_iff.mp h with ⟨why, rfl, _⟩ | rfl
  · exact absurd List.mem_cons_self (hlive why)
  · rfl

namespace Action

/-- Every run of a program that nothing interrupts keeps to some terms. -/
def Accounts (t : Work.Terms) (action : Action α) : Prop :=
  ∀ log r, Work.Live log → action.run.Ends log r → t.Accounts log r

theorem accounts_pure (a : α) : Accounts t (pure a) := by
  intro log r _ h
  obtain ⟨rfl, rfl⟩ := Program.ends_done_iff.mp h
  exact Work.Terms.accounts_nil nofun

theorem accounts_throw {reported : StorageError} (h : ∀ path e, ¬ ClientError.IsReported path e reported) :
    Accounts t (throw reported : Action α) := by
  intro log r _ hends
  obtain ⟨rfl, rfl⟩ := Program.ends_done_iff.mp hends
  exact Work.Terms.accounts_refused h

/-- A program goes on only after everything before has passed. -/
theorem Accounts.bind {action : Action α} {next : α → Action β} (ha : Accounts t action)
    (hn : ∀ log a, action.run.Ends log (.ok a) → Accounts t (next a)) : Accounts t (action >>= next) := by
  intro log r hlive h
  rcases Program.ends_except_bind_iff.mp h with ⟨e, hfirst, rfl⟩ | ⟨first, a, rest, rfl, hfirst, hrest⟩
  · exact (ha log _ hlive hfirst).of_error
  · obtain ⟨hl, hl'⟩ := Work.live_append_iff.mp hlive
    exact (hn first a hfirst rest r hl' hrest).append ((ha first _ hl hfirst).passed a rfl)

theorem accounts_call (hc : t.Concerns c path) (hafter : t.aftermath c = []) (hnot : ∀ e, ¬ t.Forgives c e) :
    Accounts t (call path c) := by
  intro log r hlive h
  obtain ⟨first, reply, rest, rfl, hcall, hd⟩ := Program.ends_bind_iff.mp h
  obtain ⟨rfl, rfl⟩ := Program.ends_done_iff.mp hd
  rw [List.append_nil] at hlive ⊢
  obtain rfl := Call.ends_guarded_of_live hlive hcall
  refine Work.Terms.accounts_made (f := id) ?_ hc hafter fun e _ => hnot e
  cases reply <;> rfl

/-- A failure that an operation looks at is passed over or reported. -/
theorem accounts_attempt_bind {next : c.Reply → Action β} (hc : t.Concerns c path) (hafter : t.aftermath c = [])
    (hok : ∀ a, Accounts t (next (.ok a)))
    (herror : ∀ e, (t.Forgives c e ∧ Accounts t (next (.error e))) ∨
      ¬ t.Forgives c e ∧ next (.error e) = throw (.ofClient driverName path e)) :
    Accounts t (attempt c >>= next) := by
  intro log r hlive h
  obtain ⟨first, reply, rest, rfl, hcall, hrest⟩ := Program.ends_lift_bind_iff.mp h
  obtain ⟨hl, hl'⟩ := Work.live_append_iff.mp hlive
  obtain rfl := Call.ends_guarded_of_live hl hcall
  cases reply with
  | ok a => exact (hok a rest r hl' hrest).append (Work.Terms.passes_made nofun)
  | error e =>
    rcases herror e with ⟨hforgives, hnext⟩ | ⟨hnot, hnext⟩
    · refine (hnext rest r hl' hrest).append (Work.Terms.passes_made ?_)
      rintro _ ⟨⟩
      exact hforgives
    · rw [hnext] at hrest
      obtain ⟨rfl, rfl⟩ := Program.ends_done_iff.mp hrest
      exact Work.Terms.accounts_failed hnot hc hafter.symm

end Action

namespace Store

variable (st : Store)

theorem ends_resolve {full : String} (h : (st.resolve path).run.Ends log (.ok full)) :
    st.options.resolve path = .ok full := (Program.ends_done_iff.mp h).2.symm

theorem accounts_resolve (path : String) : Action.Accounts t (st.resolve path) := by
  intro log r _ h
  obtain ⟨rfl, rfl⟩ := Program.ends_done_iff.mp h
  refine Work.Terms.accounts_nil ?_
  intro reported he
  rw [Options.resolve_eq_error he]
  nofun

/-- The failures that an operation passes over: what is to be written may be missing, and so may what is to
be listed. -/
inductive Operation.Forgives : Operation → Call → ClientError → Prop where
  | put {path full missing : String} {content : Bytes} :
      Forgives (.put path content) (.status full) (.notFound missing)
  | openWriter {path full missing : String} {append : Bool} :
      Forgives (.openWriter path append) (.status full) (.notFound missing)
  | list {path full missing : String} : Forgives (.list path) (.entries full) (.notFound missing)

def Operation.aftermath : Operation → Call → List Call
  | .put _ _, .write handle _ => [.close handle]
  | _, _ => []

theorem Operation.closes_of_mem_aftermath {op : Operation} {c d : Call} (h : d ∈ op.aftermath c) :
    ∃ handle, d = .close handle := by
  unfold Operation.aftermath at h
  split at h
  · exact ⟨_, List.mem_singleton.mp h⟩
  · cases h

def Operation.terms (o : Options) (op : Operation) : Work.Terms where
  Forgives := op.Forgives
  OfHandles full := ∃ path ∈ op.paths, o.resolve path = .ok full
  aftermath := op.aftermath

/-- Opening a session passes over that there is nothing yet. -/
theorem accounts_openWriter (path : String) (append : Bool)
    (hforgives : ∀ c e, t.Forgives c e ↔ ∃ full missing, c = .status full ∧ e = .notFound missing)
    (hafter : ∀ c, c.path? ≠ none → t.aftermath c = []) : Action.Accounts t (st.openWriter path append) := by
  have hcall : ∀ {full : String} {c : Call}, c.path? = some full → (∀ path, c ≠ .status path) →
      Action.Accounts t (Action.call full c) := by
    intro full c hpath hstatus
    refine Action.accounts_call (by rw [Work.Terms.Concerns, hpath]) (hafter c (by simp [hpath])) ?_
    intro e he
    obtain ⟨path, _, rfl, _⟩ := (hforgives c e).mp he
    exact hstatus path rfl
  refine (st.accounts_resolve path).bind fun _ full _ => ?_
  refine (hcall (c := .makeDirs _ _) rfl nofun).bind fun _ _ _ => ?_
  have hcreate : Action.Accounts t
      (Action.call full (.create full) >>= fun handle => pure (WriteSession.start handle full 0)) :=
    (hcall (c := .create full) rfl nofun).bind fun _ handle _ => Action.accounts_pure _
  refine Action.accounts_attempt_bind (c := .status full) rfl (hafter _ nofun) ?_ ?_
  · intro found
    dsimp only
    split
    · exact (hcall (c := .openAppend full) rfl nofun).bind fun _ _ _ => Action.accounts_pure _
    · exact (hcall (c := .remove full) rfl nofun).bind fun _ _ _ => hcreate
  · intro e
    cases e with
    | notFound missing => exact .inl ⟨(hforgives _ _).mpr ⟨full, missing, rfl, rfl⟩, hcreate⟩
    | _ => exact .inr ⟨fun h => by simp [hforgives] at h, rfl⟩

end Store

/-- The failures that a request of a session passes over: an object that is to be gone may be gone already, and
its handle need not be closed. -/
inductive SessionRequest.Forgives : SessionRequest → Call → ClientError → Prop where
  | close {handle : WriteHandle} {e : ClientError} : Forgives (.use .cancel) (.close handle) e
  | remove {path missing : String} : Forgives (.use .cancel) (.remove path) (.notFound missing)

namespace WriteSession

def terms (s : WriteSession) (request : SessionRequest) : Work.Terms where
  Forgives := request.Forgives
  OfHandles path := path = s.path
  aftermath _ := []

variable {s s' : WriteSession} {outcome : Except StorageError Unit}

theorem accounts_releaseHandle (hlive : Work.Live log) (h : s.releaseHandle.Ends log (outcome, s'))
    (hpath : t.OfHandles s.path) (hafter : ∀ handle, t.aftermath (.close handle) = [])
    (hnot : ∀ handle e, ¬ t.Forgives (.close handle) e) : t.Accounts log outcome := by
  rcases (ends_releaseHandle h).2 with ⟨_, rfl, rfl⟩ | ⟨handle, r, _, hc, rfl⟩
  · exact Work.Terms.accounts_nil nofun
  · obtain rfl := Call.ends_guarded_of_live hlive hc
    refine Work.Terms.accounts_made (f := id) ?_ hpath (hafter handle) fun e _ => hnot handle e
    cases r <;> rfl

theorem passes_releaseHandle (hlive : Work.Live log) (h : s.releaseHandle.Ends log (outcome, s'))
    (hforgives : ∀ handle e, t.Forgives (.close handle) e) : t.Passes log := by
  rcases (ends_releaseHandle h).2 with ⟨_, rfl, _⟩ | ⟨handle, r, _, hc, _⟩
  · exact nofun
  · obtain rfl := Call.ends_guarded_of_live hlive hc
    exact Work.Terms.passes_made fun e _ => hforgives handle e

theorem accounts_cancel (hlive : Work.Live log) (h : s.cancel.Ends log (outcome, s')) :
    (s.terms (.use .cancel)).Accounts log outcome := by
  rw [cancel_eq] at h
  split at h
  · obtain ⟨_, first, ⟨_, released⟩, rest, r, rfl, hrelease, hc, rfl⟩ := ends_discard h
    obtain ⟨hl, hl'⟩ := Work.live_append_iff.mp hlive
    obtain rfl := Call.ends_guarded_of_live hl' hc
    refine Work.Terms.Accounts.append ?_ (passes_releaseHandle hl hrelease fun _ _ => .close)
    have hpath : (s.terms (.use .cancel)).Concerns (.remove s.path) s.path := rfl
    cases r with
    | ok _ => exact Work.Terms.accounts_ok () (Work.Terms.passes_made nofun)
    | error e =>
      cases e with
      | notFound missing =>
        refine Work.Terms.accounts_ok () (Work.Terms.passes_made ?_)
        rintro _ ⟨⟩
        exact .remove
      | _ =>
        refine Work.Terms.accounts_made (f := id) rfl hpath rfl ?_
        rintro _ ⟨⟩
        nofun
  · obtain ⟨rfl, he⟩ := Program.ends_done_iff.mp h
    obtain ⟨rfl, rfl⟩ := Prod.mk.inj he
    exact Work.Terms.accounts_refused nofun

/-- Every request of a session reports the first call that fails, but for what a cancelled one need not do. -/
theorem accounts_serve {request : SessionRequest} (hlive : Work.Live log)
    (h : (s.serve request).Ends log (outcome, s')) : (s.terms request).Accounts log outcome := by
  cases request with
  | size =>
    obtain ⟨rfl, he⟩ := Program.ends_done_iff.mp h
    obtain ⟨rfl, rfl⟩ := Prod.mk.inj he
    exact Work.Terms.accounts_nil nofun
  | use how =>
    cases how with
    | write data =>
      obtain ⟨first, ⟨r, written⟩, rest, rfl, hw, hd⟩ := Program.ends_bind_iff.mp h
      obtain ⟨rfl, he⟩ := Program.ends_done_iff.mp hd
      obtain ⟨rfl, rfl⟩ := Prod.mk.inj he
      rw [List.append_nil] at hlive ⊢
      rcases ends_write hw with ⟨_, handle, reply, _, hc, rfl, _⟩ | ⟨_, rfl, rfl, _⟩
      · obtain rfl := Call.ends_guarded_of_live hlive hc
        have hpath : (s.terms (.use (.write data))).Concerns (.write handle data) s.path := rfl
        refine Work.Terms.accounts_made (f := id) ?_ hpath rfl nofun
        cases reply <;> rfl
      · exact Work.Terms.accounts_refused nofun
    | close =>
      rw [serve, close_eq] at h
      exact accounts_releaseHandle hlive h rfl (fun _ => rfl) nofun
    | commit =>
      rcases ends_commit h with ⟨_, released, hrelease, _⟩ | ⟨_, rfl, rfl, _⟩
      · exact accounts_releaseHandle hlive hrelease rfl (fun _ => rfl) nofun
      · exact Work.Terms.accounts_refused nofun
    | cancel => exact accounts_cancel hlive h

end WriteSession

namespace Store

variable (st : Store)

theorem calls_abandon {w : WriteSession} {handle : WriteHandle} {e : StorageError} {r : Except StorageError Unit}
    (hw : w.handle = some handle) (hlive : Work.Live log)
    (h : (do
      let _ ← ExceptT.lift w.close
      throw e : Action Unit).run.Ends log r) :
    Work.calls log = [.close handle] ∧ r = .error e := by
  obtain ⟨first, ⟨_, _⟩, rest, rfl, hclose, hthrow⟩ := Program.ends_lift_bind_iff.mp h
  obtain ⟨rfl, rfl⟩ := Program.ends_done_iff.mp hthrow
  rw [List.append_nil] at hlive ⊢
  rw [WriteSession.close_eq] at hclose
  rcases (WriteSession.ends_releaseHandle hclose).2 with ⟨hnone, _⟩ | ⟨held, reply, hheld, hc, _⟩
  · simp [hw] at hnone
  · obtain rfl : handle = held := Option.some.inj (hw.symm.trans hheld)
    obtain rfl := Call.ends_guarded_of_live hlive hc
    exact ⟨rfl, rfl⟩

/-- What is done with a session that was written to: it is committed, and then there is nothing to close. -/
theorem accounts_seal {w : WriteSession} {r : Except StorageError Unit} (hs : w.state = .opened)
    (hpath : t.OfHandles w.path) (hafter : ∀ handle, t.aftermath (.close handle) = [])
    (hnot : ∀ handle e, ¬ t.Forgives (.close handle) e) (hlive : Work.Live log)
    (h : (do
      match ← ExceptT.lift w.commit with
      | (.error e, _) => throw e
      | (.ok _, w) => ExceptT.mk (w.close.bind fun r => .done r.1) : Action Unit).run.Ends log r) :
    t.Accounts log r := by
  obtain ⟨first, ⟨committed, w'⟩, rest, rfl, hcommit, hnext⟩ := Program.ends_lift_bind_iff.mp h
  have hl := (Work.live_append_iff.mp hlive).1
  rcases WriteSession.ends_commit hcommit with ⟨_, released, hrelease, hcase⟩ | ⟨hne, _⟩
  · have hcommitted := WriteSession.accounts_releaseHandle hl hrelease hpath hafter hnot
    rcases hcase with ⟨rfl, rfl⟩ | ⟨e, rfl, rfl⟩
    · obtain ⟨closing, ⟨closed, _⟩, last, rfl, hclose, hd⟩ := Program.ends_bind_iff.mp hnext
      obtain ⟨rfl, rfl⟩ := Program.ends_done_iff.mp hd
      refine Work.Terms.Accounts.append ?_ (hcommitted.passed () rfl)
      rw [(WriteSession.ends_releaseHandle hrelease).1, WriteSession.close_eq] at hclose
      rcases (WriteSession.ends_releaseHandle hclose).2 with ⟨_, rfl, rfl⟩ | ⟨_, _, ⟨⟩, _⟩
      exact Work.Terms.accounts_nil nofun
    · obtain ⟨rfl, rfl⟩ := Program.ends_done_iff.mp hnext
      rw [List.append_nil]
      exact hcommitted
  · exact absurd hs hne

/-- Storing reports the first failure; one of writing leaves a handle to be closed. -/
theorem accounts_put (path : String) (content : Bytes) :
    Action.Accounts ((Operation.put path content).terms st.options) (st.put path content) := by
  refine (st.accounts_openWriter path false ?_ ?_).bind fun opening s hopen => ?_
  · intro c e
    constructor
    · rintro ⟨⟩
      exact ⟨_, _, rfl, rfl⟩
    · rintro ⟨full, missing, rfl, rfl⟩
      exact .put
  · intro c hc
    cases c <;> first | rfl | exact absurd rfl hc
  obtain ⟨full, hfull, hopens⟩ := st.opens_of_ends hopen
  obtain ⟨handle, size, rfl⟩ : ∃ handle size, s = .start handle full size := by
    cases hopens <;> exact ⟨_, _, rfl⟩
  have hpath : ((Operation.put path content).terms st.options).OfHandles full :=
    ⟨path, List.mem_singleton_self _, hfull⟩
  intro log r hlive h
  obtain ⟨first, ⟨written, w⟩, rest, rfl, hw, hnext⟩ := Program.ends_lift_bind_iff.mp h
  obtain ⟨hl, hl'⟩ := Work.live_append_iff.mp hlive
  rcases WriteSession.ends_write hw with ⟨_, _, reply, ⟨⟩, hc, rfl, hhandle, hstate, hat⟩ | ⟨hnone, _⟩
  · obtain rfl := Call.ends_guarded_of_live hl hc
    cases reply with
    | error e =>
      obtain ⟨hcalls, rfl⟩ := calls_abandon hhandle hl' hnext
      exact Work.Terms.accounts_failed nofun hpath hcalls
    | ok _ =>
      refine Work.Terms.Accounts.append ?_ (Work.Terms.passes_made nofun)
      exact accounts_seal hstate (hat ▸ hpath) (fun _ => rfl) nofun hl' hnext
  · exact absurd (hnone rfl) nofun

/-- Every operation reports the first failure that it does not pass over. -/
theorem accounts_perform (op : Operation) : Action.Accounts (op.terms st.options) (st.perform op) := by
  cases op with
  | get path =>
    refine (st.accounts_resolve path).bind fun _ full _ => ?_
    exact Action.accounts_call (c := .content full) rfl rfl nofun
  | put path content => exact st.accounts_put path content
  | openReader path offset =>
    refine (st.accounts_resolve path).bind fun _ full hfull => ?_
    have hpath : ((Operation.openReader path offset).terms st.options).OfHandles full :=
      ⟨path, List.mem_singleton_self _, st.ends_resolve hfull⟩
    refine (Action.accounts_call (c := .openRead full) rfl rfl (by nofun)).bind fun _ handle _ => ?_
    dsimp only
    split
    · exact Action.accounts_throw nofun
    · refine (Action.accounts_call (c := .seek handle offset) hpath rfl (by nofun)).bind fun _ placed _ => ?_
      split
      · exact Action.accounts_throw nofun
      · exact Action.accounts_pure _
  | openWriter path append =>
    refine st.accounts_openWriter path append ?_ fun _ _ => rfl
    intro c e
    constructor
    · rintro ⟨⟩
      exact ⟨_, _, rfl, rfl⟩
    · rintro ⟨full, missing, rfl, rfl⟩
      exact .openWriter
  | stat path =>
    refine (st.accounts_resolve path).bind fun _ full _ => ?_
    refine (Action.accounts_call (c := .status full) rfl rfl (by nofun)).bind fun _ found _ => ?_
    exact Action.accounts_pure _
  | list path =>
    refine (st.accounts_resolve path).bind fun _ full _ => ?_
    refine Action.accounts_attempt_bind (c := .entries full) rfl rfl (fun _ => Action.accounts_pure _) fun e => ?_
    cases e with
    | notFound missing => exact .inl ⟨.list, Action.accounts_pure _⟩
    | _ => exact .inr ⟨nofun, rfl⟩
  | move source target =>
    refine (st.accounts_resolve source).bind fun _ fromPath _ => ?_
    refine (st.accounts_resolve target).bind fun _ toPath _ => ?_
    refine (Action.accounts_call (c := .makeDirs _ _) rfl rfl (by nofun)).bind fun _ _ _ => ?_
    exact Action.accounts_call (c := .rename fromPath toPath) rfl rfl nofun
  | delete path =>
    refine (st.accounts_resolve path).bind fun _ full _ => ?_
    exact Action.accounts_call (c := .removeTree full) rfl rfl nofun
  | link path => exact Action.accounts_throw nofun

end Store

/-- No failure is swallowed and none is followed by more work, whatever the client replies: what an operation,
or a request of a session, does about failing calls is what its terms say. -/
theorem failures_accounted :
    (∀ (st : Store) (op : Store.Operation) (log : Work.Log) (r : Except StorageError op.Result),
      Work.Live log → (st.perform op).run.Ends log r → (op.terms st.options).Accounts log r) ∧
    ∀ (s s' : WriteSession) (request : SessionRequest) (log : Work.Log) (outcome : Except StorageError Unit),
      Work.Live log → (s.serve request).Ends log (outcome, s') → (s.terms request).Accounts log outcome :=
  ⟨fun st op log r hlive h => st.accounts_perform op log r hlive h,
    fun _ _ _ _ _ hlive h => WriteSession.accounts_serve hlive h⟩

/-- Content that cannot be written to a new object whose handle cannot be closed either. -/
theorem failures_accounted_put :
    let full := "/tmp/hdfs-registry/a"
    let log := (Call.makeDirs "/tmp/hdfs-registry" 0o755).made (.ok ()) ++
      (Call.status full).made (.error (.notFound full)) ++ (Call.create full).made (.ok ⟨full, false⟩) ++
      (Call.write ⟨full, false⟩ [7]).made (.error (.io "full")) ++
      (Call.close ⟨full, false⟩).made (.error (.notFound full))
    let r : Except StorageError Unit := .error (.backend driverName (.io "full"))
    Work.Live log ∧ (Store.perform ⟨Options.sample⟩ (.put "/a" [7])).run.Ends log r ∧
      ((Store.Operation.put "/a" [7]).terms Options.sample).Accounts log r := by
  intro full log r
  have hlive : Work.Live log := by
    intro why h
    simp [log, Call.made] at h
  have hends : (Store.perform ⟨Options.sample⟩ (.put "/a" [7])).run.Ends log r :=
    .ask (.ask (.ask (.ask (.ask (.ask (.ask (.ask (.ask (.ask (.done _))))))))))
  exact ⟨hlive, hends, failures_accounted.1 _ _ _ _ hlive hends⟩

end RootedStore
