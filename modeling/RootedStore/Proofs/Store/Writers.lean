import RootedStore.Proofs.Store.Commit

/-!
# Two writers at one path

Two callers store data at one path of a namespace, each of them with success, and their calls fall between
each other in any way. Neither holds the path for itself, and a handle writes to whatever is at its path. So
what counts is the last time that the file is created: all that is written after that, by either caller, is
in the file in the order in which it was written, and nothing else is.
-/
namespace RootedStore

/-- The replies of a log are those of a client that gets from one state to another. Whether requests are
interrupted is not up to the client. -/
inductive Client.Serves {σ : Type} (client : Client σ) : σ → Work.Log → σ → Prop where
  | nil (s : σ) : Serves client s [] s
  | interruption {s s' : σ} {log : Work.Log} (why : Option Interruption) (rest : Serves client s log s') :
      Serves client s (⟨.interruption, why⟩ :: log) s'
  | signal {s s' : σ} {log : Work.Log} (why : Option Interruption) (rest : Serves client s log s') :
      Serves client s (⟨.signal, why⟩ :: log) s'
  | call {s s' s'' : σ} {log : Work.Log} {c : Call} {r : c.Reply} (reply : client c s = (r, s'))
      (rest : Serves client s' log s'') : Serves client s (⟨.call c, r⟩ :: log) s''

theorem Client.Serves.split {σ : Type} {client : Client σ} {s s' : σ} {first rest : Work.Log}
    (h : client.Serves s (first ++ rest) s') :
    ∃ mid, client.Serves s first mid ∧ client.Serves mid rest s' := by
  induction first generalizing s with
  | nil => exact ⟨s, .nil s, h⟩
  | cons x first ih =>
    cases h with
    | interruption why h =>
      obtain ⟨mid, hfirst, hrest⟩ := ih h
      exact ⟨mid, .interruption why hfirst, hrest⟩
    | signal why h =>
      obtain ⟨mid, hfirst, hrest⟩ := ih h
      exact ⟨mid, .signal why hfirst, hrest⟩
    | call reply h =>
      obtain ⟨mid, hfirst, hrest⟩ := ih h
      exact ⟨mid, .call reply hfirst, hrest⟩

/-- The data that an exchange adds to the file of a handle. -/
def Question.added : Sigma Question.Reply → Bytes
  | ⟨.call (.write _ data), .ok _⟩ => data
  | _ => []

/-- All data that is written, in the order in which it is written. -/
def Work.written (log : Work.Log) : Bytes := log.flatMap Question.added

/-- The data that a request gives to a session. -/
def SessionRequest.data : SessionRequest → Bytes
  | .use (.write data) => data
  | .size | .use .close | .use .commit | .use .cancel => []

/-- What may be asked about a file that was created: data is added to it, and its handle is closed. -/
inductive Question.Fills (handle : WriteHandle) : Sigma Question.Reply → Prop where
  | interruption (why : Option Interruption) : Fills handle ⟨.interruption, why⟩
  | signal (why : Option Interruption) : Fills handle ⟨.signal, why⟩
  | write (data : Bytes) : Fills handle ⟨.call (.write handle data), .ok ()⟩
  | close (r : (Call.close handle).Reply) : Fills handle ⟨.call (.close handle), r⟩

/-- A file is created anew, and filled with data and nothing else after that. -/
def Work.CreatesWith (full : String) (data : Bytes) (log : Work.Log) : Prop :=
  ∃ opening handle filling, log = opening ++ ⟨.call (.create full), .ok handle⟩ :: filling ∧
    (∀ x ∈ filling, Question.Fills handle x) ∧ Work.written filling = data

variable {handle : WriteHandle} {full path : String} {data content : Bytes} {log first rest : Work.Log}

theorem fills_of_closes (h : ∀ c ∈ Work.calls log, c = .close handle) :
    (∀ x ∈ log, Question.Fills handle x) ∧ Work.written log = [] := by
  have hfills : ∀ x ∈ log, Question.Fills handle x ∧ Question.added x = [] := by
    rintro ⟨q, r⟩ hx
    cases q with
    | interruption => exact ⟨.interruption r, rfl⟩
    | signal => exact ⟨.signal r, rfl⟩
    | call c =>
      obtain rfl := h c (Work.mem_calls hx)
      exact ⟨.close r, rfl⟩
  exact ⟨fun x hx => (hfills x hx).1, List.flatMap_eq_nil_iff.mpr fun x hx => (hfills x hx).2⟩

namespace Namespace

variable {ns ns' : Namespace}

theorem client_eq_serve {c : Call} {a : c.Result} (h : client c ns = (.ok a, ns')) : serve c ns = (.ok a, ns') := by
  rw [client] at h
  split at h
  · cases h
  · exact h

theorem client_create (h : client (.create full) ns = (.ok handle, ns')) :
    handle.path = full ∧ ns'.node? full = some (.file [] .present) := by
  have hserve := client_eq_serve h
  simp only [serve] at hserve
  cases hc : create ns.nodes full with
  | error e => simp [hc, apply] at hserve
  | ok nodes =>
    simp only [hc, apply, Prod.mk.injEq, Except.ok.injEq] at hserve
    obtain ⟨rfl, rfl⟩ := hserve
    cases change_of_create hc with
    | created => exact ⟨rfl, by simp [node?, Table.find?_insert]⟩

theorem client_write {modified : Timestamp} (h : client (.write handle data) ns = (.ok (), ns'))
    (hf : ns.node? handle.path = some (.file content modified)) :
    ns'.node? handle.path = some (.file (content ++ data) .present) := by
  have hserve := client_eq_serve h
  simp only [serve] at hserve
  cases hw : write ns.nodes handle data with
  | error e => simp [hw, apply] at hserve
  | ok nodes =>
    simp only [hw, apply, Prod.mk.injEq, true_and] at hserve
    obtain rfl := hserve
    cases change_of_write hw with
    | written hfile =>
      obtain ⟨rfl, _⟩ : _ = content ∧ _ = modified := by simpa [node?, hfile] using hf
      simp [node?, Table.find?_insert]

theorem client_close (handle : WriteHandle) (ns : Namespace) :
    (client (.close handle) ns).2.nodes = ns.nodes := by
  rcases client_change (.close handle) ns with h | h
  · exact h
  · cases h

/-- A file that is filled holds what it held, and then all that is written. -/
theorem node?_of_fills (h : Client.Serves client ns log ns')
    (hlog : ∀ x ∈ log, ∃ handle : WriteHandle, handle.path = full ∧ Question.Fills handle x)
    (hf : ns.node? full = some (.file content .present)) :
    ns'.node? full = some (.file (content ++ Work.written log) .present) := by
  induction h generalizing content with
  | nil => simpa [Work.written] using hf
  | interruption why rest ih => exact ih (fun x hx => hlog x (List.mem_cons_of_mem _ hx)) hf
  | signal why rest ih => exact ih (fun x hx => hlog x (List.mem_cons_of_mem _ hx)) hf
  | @call ns mid ns' log c r reply rest ih =>
    have hrest := fun x hx => hlog x (List.mem_cons_of_mem _ hx)
    obtain ⟨handle, rfl, hfills⟩ := hlog _ List.mem_cons_self
    cases hfills with
    | write data =>
      have hw := ih hrest (client_write reply hf)
      rw [hw, Work.written, Work.written, List.flatMap_cons, List.append_assoc]
      rfl
    | close r =>
      have hnodes := client_close handle ns
      rw [reply] at hnodes
      refine ih hrest ?_
      rw [node?, hnodes]
      exact hf

end Namespace

namespace Store

variable {st : Store}

/-- What a caller does who stores data at a path with success: as a whole, or by a session. -/
inductive Uploads (st : Store) (full : String) : Bytes → Work.Log → Prop where
  | whole {path : String} {data : Bytes} {log : Work.Log} (resolved : st.options.resolve path = .ok full)
      (stores : (st.put path data).run.Ends log (.ok ())) : Uploads st full data log
  | session {path : String} {opening : Work.Log} {s : WriteSession} {es : List Episode}
      (resolved : st.options.resolve path = .ok full)
      (opens : (st.openWriter path false).run.Ends opening (.ok s)) (history : s.History es)
      (succeeds : ∀ e ∈ es, e.outcome = .ok ()) (commits : ∃ e ∈ es, e.request = .use .commit) :
      Uploads st full (es.flatMap fun e => e.request.data) (opening ++ es.flatMap Episode.log)

/-- Content that is stored as a whole is written by a session that is committed and closed. -/
theorem exists_session_of_put (h : (st.put path data).run.Ends log (.ok ())) :
    ∃ opening s es, (st.openWriter path false).run.Ends opening (.ok s) ∧ s.History es ∧
      (∀ e ∈ es, e.outcome = .ok ()) ∧ (∃ e ∈ es, e.request = .use .commit) ∧
      (es.flatMap fun e => e.request.data) = data ∧ log = opening ++ es.flatMap Episode.log := by
  obtain ⟨opening, s, rest, rfl, hopens, hstore⟩ := Program.ends_except_bind_ok_iff.mp h
  obtain ⟨writing, ⟨written, w⟩, rest, rfl, hwrite, hseal⟩ := Program.ends_lift_bind_iff.mp hstore
  cases written with
  | error e =>
    obtain ⟨_, _, _, _, _, hthrow⟩ := Program.ends_lift_bind_iff.mp hseal
    cases (Program.ends_done_iff.mp hthrow).2
  | ok count =>
    obtain ⟨committing, ⟨committed, w'⟩, rest, rfl, hcommit, hlast⟩ := Program.ends_lift_bind_iff.mp hseal
    cases committed with
    | error e => cases (Program.ends_done_iff.mp hlast).2
    | ok _ =>
      obtain ⟨closing, ⟨closed, w''⟩, rest, rfl, hclose, hdone⟩ := Program.ends_bind_iff.mp hlast
      obtain ⟨rfl, rfl⟩ : rest = [] ∧ closed = .ok () := by
        obtain ⟨hrest, hclosed⟩ := Program.ends_done_iff.mp hdone
        exact ⟨hrest, hclosed.symm⟩
      refine ⟨opening, s, [⟨.use (.write data), s, writing, .ok (), w⟩,
        ⟨.use .commit, w, committing, .ok (), w'⟩, ⟨.use .close, w', closing, .ok (), w''⟩], hopens, ?_, ?_, ?_, ?_, ?_⟩
      · exact ⟨rfl, hwrite.bind_done rfl, rfl, hcommit, rfl, hclose, trivial⟩
      · simp
      · exact ⟨_, List.mem_of_getElem? (i := 1) rfl, rfl⟩
      · simp [SessionRequest.data]
      · simp

end Store

namespace WriteSession

variable {es : List Episode} {s : WriteSession}

/-- A session of which everything succeeds, a commit among it, is not cancelled. -/
theorem History.not_cancel {size : UInt64} (h : (start handle path size).History es)
    (hok : ∀ e ∈ es, e.outcome = .ok ()) (hcommit : ∃ e ∈ es, e.request = .use .commit) :
    ∀ e ∈ es, e.request ≠ .use .cancel := by
  obtain ⟨c, hc, hreq⟩ := hcommit
  have hfrom := h.isFrom
  obtain ⟨before, after, rfl⟩ := List.append_of_mem hc
  have ⟨_, hrun, hafter⟩ := h.split
  obtain ⟨hopened, hcommitted⟩ := hrun.committed hreq (hok c hc)
  intro e he hcancel
  rcases List.mem_append.mp he with hb | ha
  · -- a session that is cancelled is not open any more when it is committed
    obtain ⟨hstate, hstate'⟩ := h.opened_before hopened e hb
    have hseals : e.before.Seals e.request := by
      rw [hcancel, Seals, hstate]
      rfl
    have hcancelled := (h.isRun he).turn.cancelled hcancel hseals
    rw [hstate'] at hcancelled
    cases hcancelled
  · rcases List.mem_cons.mp ha with rfl | ha
    · rw [hreq] at hcancel
      cases hcancel
    · -- and a session that was committed refuses to be cancelled
      have hstate : e.before.state = .committed := by
        refine hafter.invariant (p := fun s => s.state = .committed) hcommitted ?_ e ha
        exact fun f hf hs => (hs ▸ hf.turn.moves).eq_committed
      have hnone := (hfrom e he).released (by simp [hstate])
      have hend := h.isRun he
      rw [Episode.IsRun, serve_of_ended (.inl hstate) hnone, hcancel, hok e he] at hend
      cases (Program.ends_done_iff.mp hend).2

/-- Whoever neither writes nor cancels gives no data, and calls nothing but to close the handle. -/
theorem calls_of_not_write {e : Episode} (h : e.IsRun) (hfrom : IsFrom handle path e.before)
    (hwrite : ∀ data, e.request ≠ .use (.write data)) (hno : e.request ≠ .use .cancel) :
    e.request.data = [] ∧ ∀ c ∈ e.calls, c = .close handle := by
  constructor
  · cases hreq : e.request with
    | size => rfl
    | use how =>
      cases how with
      | write data => exact absurd hreq (hwrite data)
      | close | commit | cancel => rfl
  · intro c hc
    rcases mem_mayCall (h.turn.calls.subset hc) with ⟨held, hheld, ⟨data, hreq, _⟩ | ⟨_, rfl⟩⟩ | ⟨hreq, _⟩
    · exact absurd hreq (hwrite data)
    · rw [hfrom.onlyHandle held hheld]
    · exact absurd hreq hno

/-- What is asked for a request that succeeds fills the file, if it is not one to cancel. -/
theorem fills_of_run {e : Episode} (h : e.IsRun) (hfrom : IsFrom handle path e.before) (hok : e.outcome = .ok ())
    (hno : e.request ≠ .use .cancel) :
    (∀ x ∈ e.log, Question.Fills handle x) ∧ Work.written e.log = e.request.data := by
  by_cases hwrite : ∃ data, e.request = .use (.write data)
  · obtain ⟨data, hreq⟩ := hwrite
    rw [Episode.IsRun, hreq, hok] at h
    obtain ⟨first, ⟨r, w⟩, rest, hlog, hw, hd⟩ := Program.ends_bind_iff.mp h
    obtain ⟨rfl, hr⟩ := Program.ends_done_iff.mp hd
    rcases ends_write hw with ⟨_, held, reply, hheld, hc, rfl, _⟩ | ⟨_, _, rfl, _⟩
    · obtain rfl := hfrom.onlyHandle held hheld
      cases reply with
      | error e => cases (Prod.mk.inj hr).1
      | ok _ =>
        rcases Call.ends_guarded_iff.mp hc with ⟨_, _, he⟩ | rfl
        · cases he
        · rw [hlog, hreq]
          refine ⟨?_, by simp [Work.written, Question.added, SessionRequest.data]⟩
          intro x hx
          rcases List.mem_cons.mp (List.append_nil _ ▸ hx) with rfl | hx
          · exact .interruption none
          · rw [List.mem_singleton.mp hx]
            exact .write data
    · cases (Prod.mk.inj hr).1
  · obtain ⟨hnothing, hcloses⟩ := calls_of_not_write h hfrom (not_exists.mp hwrite) hno
    rw [hnothing]
    exact fills_of_closes hcloses

/-- A session of which everything succeeds, a commit among it, fills the file with the data it is given. -/
theorem History.fills {size : UInt64} (h : (start handle path size).History es)
    (hok : ∀ e ∈ es, e.outcome = .ok ()) (hcommit : ∃ e ∈ es, e.request = .use .commit) :
    (∀ x ∈ es.flatMap Episode.log, Question.Fills handle x) ∧
      Work.written (es.flatMap Episode.log) = es.flatMap fun e => e.request.data := by
  have hno := h.not_cancel hok hcommit
  have hfills := fun e he => fills_of_run (h.isRun he) (h.isFrom e he) (hok e he) (hno e he)
  constructor
  · intro x hx
    obtain ⟨e, he, hx⟩ := List.mem_flatMap.mp hx
    exact (hfills e he).1 x hx
  · rw [Work.written, List.flatMap_assoc]
    exact List.flatMap_congr fun e he => (hfills e he).2

end WriteSession

namespace Store

variable {st : Store}

/-- Whoever opens a session anew creates the file at last. -/
theorem Opens.creates {s : WriteSession} (h : st.Opens full false log s) :
    ∃ opening handle, log = opening ++ [⟨.call (.create full), .ok handle⟩] ∧ s = .start handle full 0 := by
  cases h with
  | @created _ missing handle =>
    exact ⟨(Call.makeDirs (Path.parent full) st.options.mask).made (.ok ()) ++
      ((Call.status full).made (.error (.notFound missing)) ++ [⟨.interruption, none⟩]), handle,
      by simp [Call.made], rfl⟩
  | @replaced found handle =>
    exact ⟨(Call.makeDirs (Path.parent full) st.options.mask).made (.ok ()) ++ ((Call.status full).made (.ok found) ++
      ((Call.remove full).made (.ok ()) ++ [⟨.interruption, none⟩])), handle, by simp [Call.made], rfl⟩

theorem createsWith_of_session {opening : Work.Log} {s : WriteSession} {es : List Episode}
    (resolved : st.options.resolve path = .ok full) (opens : (st.openWriter path false).run.Ends opening (.ok s))
    (history : s.History es) (succeeds : ∀ e ∈ es, e.outcome = .ok ())
    (commits : ∃ e ∈ es, e.request = .use .commit) :
    Work.CreatesWith full (es.flatMap fun e => e.request.data) (opening ++ es.flatMap Episode.log) := by
  obtain ⟨full', hfull', hopens⟩ := Store.opens_of_ends opens
  obtain rfl : full = full' := Except.ok.inj (resolved.symm.trans hfull')
  obtain ⟨before, handle, rfl, rfl⟩ := hopens.creates
  obtain ⟨hfills, hwritten⟩ := history.fills succeeds commits
  exact ⟨before, handle, _, by simp, hfills, hwritten⟩

/-- Whoever stores data at a path with success creates the file and fills it with the data. -/
theorem Uploads.createsWith (h : st.Uploads full data log) : Work.CreatesWith full data log := by
  cases h with
  | whole resolved stores =>
    obtain ⟨opening, s, es, hopens, hhistory, hok, hcommit, rfl, rfl⟩ := exists_session_of_put stores
    exact createsWith_of_session resolved hopens hhistory hok hcommit
  | session resolved opens history succeeds commits =>
    exact createsWith_of_session resolved opens history succeeds commits

end Store

namespace Work

/-- What two callers ask, in the order in which it is asked. -/
abbrev Trace := List (Bool × Sigma Question.Reply)

/-- What one of the callers asks. -/
def own (who : Bool) (trace : Trace) : Log := (trace.filter (·.1 = who)).map Prod.snd

/-- What is asked by whomever. -/
def merged (trace : Trace) : Log := trace.map Prod.snd

variable {trace before after : Trace} {who : Bool} {x : Sigma Question.Reply}

theorem own_append : own who (before ++ after) = own who before ++ own who after := by
  rw [own, List.filter_append, List.map_append]
  rfl

theorem own_cons_self : own who ((who, x) :: after) = x :: own who after := by simp [own]

theorem own_cons_other {other : Bool} (h : who ≠ other) : own other ((who, x) :: after) = own other after := by
  simp [own, h]

theorem mem_merged_of_own (h : x ∈ own who trace) : x ∈ merged trace := by
  obtain ⟨y, hy, rfl⟩ := List.mem_map.mp h
  exact List.mem_map_of_mem (List.mem_of_mem_filter hy)

theorem exists_own_of_merged (h : x ∈ merged trace) : ∃ who, x ∈ own who trace := by
  obtain ⟨y, hy, rfl⟩ := List.mem_map.mp h
  exact ⟨y.1, List.mem_map_of_mem (List.mem_filter.mpr ⟨hy, by simp⟩)⟩

theorem written_cons (x : Sigma Question.Reply) (log : Log) :
    written (x :: log) = Question.added x ++ written log := List.flatMap_cons

theorem length_written_merged (who : Bool) (trace : Trace) :
    (written (merged trace)).length =
      (written (own who trace)).length + (written (own (!who) trace)).length := by
  induction trace with
  | nil => rfl
  | cons entry trace ih =>
    obtain ⟨asker, x⟩ := entry
    have hmerged : merged ((asker, x) :: trace) = x :: merged trace := rfl
    rw [hmerged, written_cons, List.length_append, ih]
    by_cases h : asker = who
    · subst h
      rw [own_cons_self, own_cons_other (by simp), written_cons, List.length_append]
      omega
    · obtain rfl : asker = !who := Bool.eq_not.mpr h
      rw [own_cons_self, own_cons_other h, written_cons, List.length_append]
      omega

/-- Where one caller writes nothing, there is only what the other one writes. -/
theorem written_merged_of_silent (h : written (own (!who) trace) = []) :
    written (merged trace) = written (own who trace) := by
  induction trace with
  | nil => rfl
  | cons entry trace ih =>
    obtain ⟨asker, x⟩ := entry
    have hmerged : merged ((asker, x) :: trace) = x :: merged trace := rfl
    by_cases hasker : asker = who
    · subst hasker
      rw [own_cons_other (by simp)] at h
      rw [hmerged, own_cons_self, written_cons, written_cons, ih h]
    · obtain rfl : asker = !who := Bool.eq_not.mpr hasker
      rw [own_cons_self, written_cons] at h
      obtain ⟨hx, hrest⟩ := List.append_eq_nil_iff.mp h
      rw [hmerged, own_cons_other hasker, written_cons, hx, List.nil_append, ih hrest]

end Work

section

variable {α : Type} {p : α → Prop} {before after first rest : List α} {x y : α}

theorem exists_last (h : ∃ x ∈ rest, p x) :
    ∃ before x after, rest = before ++ x :: after ∧ p x ∧ ∀ y ∈ after, ¬ p y := by
  induction rest with
  | nil => simp at h
  | cons a rest ih =>
    by_cases hrest : ∃ x ∈ rest, p x
    · obtain ⟨before, x, after, rfl, hx, hafter⟩ := ih hrest
      exact ⟨a :: before, x, after, rfl, hx, hafter⟩
    · obtain ⟨x, hx, hpx⟩ := h
      rcases List.mem_cons.mp hx with rfl | hx
      · exact ⟨[], x, rest, rfl, hpx, fun y hy hpy => hrest ⟨y, hy, hpy⟩⟩
      · exact absurd ⟨x, hx, hpx⟩ hrest

/-- What comes after something is all that is behind it, and perhaps more. -/
theorem suffix_of_append_eq (h : before ++ x :: after = first ++ rest) (hx : p x) (hrest : ∀ y ∈ rest, ¬ p y) :
    ∀ y ∈ rest, y ∈ after := by
  intro y hy
  rcases List.append_eq_append_iff.mp h with ⟨mid, rfl, hmid⟩ | ⟨mid, rfl, hmid⟩
  · cases mid with
    | nil =>
      obtain rfl : x :: after = rest := hmid
      exact absurd hx (hrest x List.mem_cons_self)
    | cons z mid =>
      obtain ⟨_, rfl⟩ := List.cons.inj hmid
      exact List.mem_append_right _ hy
  · exact absurd hx (hrest x (hmid ▸ List.mem_append_right _ List.mem_cons_self))

/-- The last one of a kind is at one place only. -/
theorem last_unique (h : before ++ x :: after = first ++ y :: rest) (hx : p x) (hy : p y)
    (hafter : ∀ z ∈ after, ¬ p z) (hrest : ∀ z ∈ rest, ¬ p z) : x = y ∧ after = rest := by
  rcases List.append_eq_append_iff.mp h with ⟨mid, rfl, hmid⟩ | ⟨mid, rfl, hmid⟩
  · cases mid with
    | nil => exact List.cons.inj hmid
    | cons z mid =>
      obtain ⟨_, rfl⟩ := List.cons.inj hmid
      exact absurd hy (hafter y (List.mem_append_right _ List.mem_cons_self))
  · cases mid with
    | nil =>
      obtain ⟨rfl, rfl⟩ := List.cons.inj hmid
      exact ⟨rfl, rfl⟩
    | cons z mid =>
      obtain ⟨_, rfl⟩ := List.cons.inj hmid
      exact absurd hx (hrest x (List.mem_append_right _ List.mem_cons_self))

end

/-- An exchange by which a file is created. -/
def Question.Creates (full : String) (x : Sigma Question.Reply) : Prop := x.1 = .call (.create full)

theorem Question.Fills.not_creates {x : Sigma Question.Reply} (h : Question.Fills handle x) (full : String) :
    ¬ Question.Creates full x := by
  cases h <;> nofun

theorem Namespace.path_of_serves {ns ns' : Namespace} (h : Client.Serves client ns log ns')
    (hx : ⟨.call (.create full), .ok handle⟩ ∈ log) : handle.path = full := by
  obtain ⟨before, after, rfl⟩ := List.append_of_mem hx
  obtain ⟨mid, _, hrest⟩ := h.split
  cases hrest with
  | call reply rest => exact (client_create reply).1

/-- Two callers store a byte each. Both have created the file before either of them writes to it. -/
def Work.byTurns (full : String) : Work.Trace :=
  let handle : WriteHandle := ⟨full, false⟩
  let parents := (Call.makeDirs (Path.parent full) Options.defaultMask).made (.ok ())
  let creation := (Call.create full).made (.ok handle)
  let first := parents ++ ((Call.status full).made (.error (.notFound full)) ++ creation)
  let second := parents ++ ((Call.status full).made (.ok ⟨Path.baseName full, 0, .present, false⟩) ++
    ((Call.remove full).made (.ok ()) ++ creation))
  first.map (true, ·) ++ (second.map (false, ·) ++
    (((Call.write handle [1]).made (.ok ())).map (true, ·) ++ (((Call.write handle [2]).made (.ok ())).map (false, ·) ++
      (((Call.close handle).made (.ok ())).map (true, ·) ++ ((Call.close handle).made (.ok ())).map (false, ·)))))

/-- The byte of a caller. -/
def Work.byteOf (who : Bool) : Bytes := if who then [1] else [2]

theorem uploads_byTurns (who : Bool) :
    Store.Uploads ⟨Options.sample⟩ "/tmp/hdfs-registry/a" (Work.byteOf who)
      (Work.own who (Work.byTurns "/tmp/hdfs-registry/a")) := by
  have hresolve : Options.sample.resolve "/a" = .ok "/tmp/hdfs-registry/a" := rfl
  cases who with
  | true =>
    exact .whole hresolve (.ask (.ask (.ask (.ask (.ask (.ask (.ask (.ask (.ask (.ask (.done _)))))))))))
  | false =>
    exact .whole hresolve
      (.ask (.ask (.ask (.ask (.ask (.ask (.ask (.ask (.ask (.ask (.ask (.ask (.done _)))))))))))))

theorem serves_byTurns :
    ∃ ns, Client.Serves Namespace.client Namespace.initial (Work.merged (Work.byTurns "/tmp/hdfs-registry/a")) ns ∧
      ns.node? "/tmp/hdfs-registry/a" = some (.file [1, 2] .present) := by
  refine ⟨_, .interruption _ (.call rfl (.interruption _ (.call rfl (.interruption _ (.call rfl
    (.interruption _ (.call rfl (.interruption _ (.call rfl (.interruption _ (.call rfl (.interruption _ (.call rfl
    (.interruption _ (.call rfl (.interruption _ (.call rfl (.interruption _ (.call rfl (.interruption _ (.call rfl
    (.nil _)))))))))))))))))))))), rfl⟩

/-- Two callers who store data at one path with success: the file holds what either of them writes after it is
created for the last time. That is all that the one writes who creates it then, and it is nothing else exactly
if the other one writes nothing after that. -/
theorem content_of_uploads {st : Store} {ns ns' : Namespace} {data : Bool → Bytes} {trace : Work.Trace}
    (uploads : ∀ who, st.Uploads full (data who) (Work.own who trace))
    (serves : Client.Serves Namespace.client ns (Work.merged trace) ns') :
    ∃ before who handle after, trace = before ++ (who, ⟨.call (.create full), .ok handle⟩) :: after ∧
      (∀ x ∈ after, ¬ Question.Creates full x.2) ∧
      ns'.node? full = some (.file (Work.written (Work.merged after)) .present) ∧
      Work.written (Work.own who after) = data who ∧
      (Work.written (Work.merged after) = data who ↔ Work.written (Work.own (!who) after) = []) := by
  have hcreates := fun who => (uploads who).createsWith
  have hexists : ∃ x ∈ trace, Question.Creates full x.2 := by
    obtain ⟨opening, handle, filling, hown, _⟩ := hcreates true
    obtain ⟨x, hx, he⟩ := List.mem_map.mp
      (Work.mem_merged_of_own (hown ▸ List.mem_append_right opening List.mem_cons_self))
    exact ⟨x, hx, by rw [he]; rfl⟩
  obtain ⟨before, ⟨who, x⟩, after, rfl, hlast, hafter⟩ := exists_last hexists
  have hown : ∀ v, ∀ y ∈ Work.own v after, ¬ Question.Creates full y := by
    intro v y hy
    obtain ⟨entry, hentry, rfl⟩ := List.mem_map.mp hy
    exact hafter entry (List.mem_of_mem_filter hentry)
  -- whoever creates the file last fills it with all data after that
  obtain ⟨opening, handle, filling, hlog, hfills, hwritten⟩ := hcreates who
  rw [Work.own_append, Work.own_cons_self] at hlog
  obtain ⟨rfl, rfl⟩ := last_unique hlog hlast rfl (hown who) fun z hz => (hfills z hz).not_creates full
  refine ⟨before, who, handle, after, rfl, hafter, ?_, hwritten, ?_⟩
  · have hfill : ∀ y ∈ Work.merged after, ∃ held : WriteHandle, held.path = full ∧ Question.Fills held y := by
      intro y hy
      obtain ⟨v, hy⟩ := Work.exists_own_of_merged hy
      obtain ⟨opening, held, filling, hlog, hfills, _⟩ := hcreates v
      have hpath : held.path = full := Namespace.path_of_serves serves
        (Work.mem_merged_of_own (hlog ▸ List.mem_append_right opening List.mem_cons_self))
      rw [List.append_cons, Work.own_append] at hlog
      exact ⟨held, hpath, hfills y (suffix_of_append_eq (p := Question.Creates full) hlog.symm rfl (hown v) y hy)⟩
    have hmerged : ∀ x, Work.merged (before ++ (who, x) :: after) =
        Work.merged before ++ x :: Work.merged after := by
      intro x
      simp [Work.merged]
    rw [hmerged] at serves
    obtain ⟨mid, _, hrest⟩ := serves.split
    cases hrest with
    | call reply rest => exact Namespace.node?_of_fills rest hfill (Namespace.client_create reply).2
  · constructor
    · intro h
      have hlength := Work.length_written_merged who after
      rw [h, hwritten] at hlength
      exact List.length_eq_zero_iff.mp (by omega)
    · intro h
      rw [Work.written_merged_of_silent h, hwritten]

theorem content_of_uploads_byTurns :
    (∀ who, Store.Uploads ⟨Options.sample⟩ "/tmp/hdfs-registry/a" (Work.byteOf who)
      (Work.own who (Work.byTurns "/tmp/hdfs-registry/a"))) ∧
    ∃ ns, Client.Serves Namespace.client Namespace.initial (Work.merged (Work.byTurns "/tmp/hdfs-registry/a")) ns ∧
      ∃ before who handle after, Work.byTurns "/tmp/hdfs-registry/a" =
          before ++ (who, ⟨.call (.create "/tmp/hdfs-registry/a"), .ok handle⟩) :: after ∧
        (∀ x ∈ after, ¬ Question.Creates "/tmp/hdfs-registry/a" x.2) ∧
        ns.node? "/tmp/hdfs-registry/a" = some (.file (Work.written (Work.merged after)) .present) ∧
        Work.written (Work.own who after) = Work.byteOf who ∧
        (Work.written (Work.merged after) = Work.byteOf who ↔ Work.written (Work.own (!who) after) = []) := by
  obtain ⟨ns, hserves, _⟩ := serves_byTurns
  exact ⟨uploads_byTurns, ns, hserves, content_of_uploads uploads_byTurns hserves⟩

/-- The data of the two callers may be mixed, with success for both of them and without a fault. -/
theorem exists_content_mixed :
    ¬ ∀ (st : Store) (full : String) (ns ns' : Namespace) (data : Bool → Bytes) (trace : Work.Trace),
        ns.faults = [] → (∀ who, st.Uploads full (data who) (Work.own who trace)) →
          Client.Serves Namespace.client ns (Work.merged trace) ns' →
            ∃ who modified, ns'.node? full = some (.file (data who) modified) := by
  intro hclaim
  obtain ⟨ns, hserves, hnode⟩ := serves_byTurns
  obtain ⟨who, modified, hdata⟩ := hclaim _ _ _ _ _ _ rfl uploads_byTurns hserves
  rw [hnode] at hdata
  cases who <;> simp [Work.byteOf] at hdata

end RootedStore
