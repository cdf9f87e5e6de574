import RootedStore.Proofs.Store.Failures
import RootedStore.Proofs.Store.Writers
import RootedStore.Proofs.WebHdfs.Rename
import RootedStore.Proofs.WebHdfs.Session

/-!
# What is reported to be missing

An operation that ends for a missing path got an answer that says that something is missing, and asked for nothing
more. That answer is to a request for the path that the operation reports, with one exception. A renaming that is
refused asks for the status of both paths and removes the target if both are files; if the target turns out to be
gone by then, the source is reported to be missing, although the answer for the source was that it is there.
-/
namespace RootedStore

open RootedStore.Path (normalize)

/-- Whether a call is about a path: one that it names, or one that it writes to by a handle. -/
def Call.IsAbout (path : String) (c : Call) : Prop :=
  c.path? = some path ∨ ∃ handle data, c = .write handle data ∧ handle.path = path

/-- A call of a store is about canonical paths only. -/
theorem Call.IsConfined.canonical {o : Options} {c : Call} {path : String} (h : c.IsConfined o)
    (hc : c.IsAbout path) : normalize path = path := by
  have hresolved : o.IsResolved path → normalize path = path := by
    rintro ⟨given, hgiven⟩
    exact Options.normalize_of_resolve hgiven
  rcases hc with hpath | ⟨handle, data, rfl, rfl⟩
  · cases c with
    | write | close | seek | stream => cases hpath
    | makeDirs own mode =>
      obtain rfl := Option.some.inj hpath
      obtain ⟨_, full, _, rfl⟩ := h
      exact Path.normalize_parent full
    | rename own target =>
      obtain rfl := Option.some.inj hpath
      exact hresolved h.1
    | _ =>
      obtain rfl := Option.some.inj hpath
      exact hresolved h
  · exact hresolved h

namespace WebHdfs

open RootedStore.Json (Tree)

variable {w : WebHdfs} {α β : Type} {path source target : String} {es first rest : Exchanges} {r : Request}

/-- An answer that says that something is missing, in one of three ways. -/
def ReportsMissing (e : Sigma fun _ : Request => Outcome) : Prop :=
  SaysMissing e.2 ∨ e.1.method = .delete ∧ Says boolean? e.2 false

theorem saysMissing_of_accept {o : Outcome} {missing : String} (h : accept path o = .error (.notFound missing)) :
    SaysMissing o := by
  cases o with
  | error why => cases h
  | ok answer =>
    rw [accept] at h
    split at h
    · cases h
    · rename_i hs
      have hmissing := congrArg ClientError.isNotFound (Except.error.inj h)
      exact ⟨answer, rfl, Bool.eq_false_iff.mpr hs, failure_isNotFound_iff.mp hmissing⟩

/-- A program does not fail of its own for something that is missing. -/
def Spares (p : Remote α) : Prop := ∀ es missing, ¬ p.run.Ends es (.error (.notFound missing))

theorem spares_done {x : Except ClientError α} (h : ∀ missing, x ≠ .error (.notFound missing)) :
    Spares (ExceptT.mk (.done x)) := by
  intro es missing hends
  exact h missing (Program.ends_done_iff.mp hends).2.symm

theorem spares_pure (a : α) : Spares (pure a) := spares_done nofun

theorem spares_throw {e : ClientError} (h : e.isNotFound = false) : Spares (throw e : Remote α) := by
  refine spares_done fun missing he => ?_
  obtain rfl := Except.error.inj he
  cases h

/-- A program fails for something that is missing in some ways only. -/
def Misses (p : Remote α) (how : Exchanges → Prop) : Prop :=
  ∀ es missing, p.run.Ends es (.error (.notFound missing)) → how es

theorem Misses.bind {p : Remote α} {next : α → Remote β} {how : Exchanges → Prop} (hp : Misses p how)
    (hnext : ∀ a, Spares (next a)) : Misses (p >>= next) how := by
  intro es missing h
  rcases Program.ends_except_bind_iff.mp h with ⟨e, hends, he⟩ | ⟨first, a, rest, rfl, _, hrest⟩
  · obtain rfl := Except.error.inj he
    exact hp es missing hends
  · exact absurd hrest (hnext a rest missing)

/-- One request was sent, and its answer says that something is missing. -/
def Alone (r : Request) (es : Exchanges) : Prop := ∃ o, es = [⟨r, o⟩] ∧ SaysMissing o

theorem misses_send : Misses (send path r) (Alone r) := by
  intro es missing h
  obtain ⟨o, rfl, ho⟩ := (asks_send r _ _).mp h
  exact ⟨o, rfl, saysMissing_of_accept ho.symm⟩

theorem misses_ask {read : Tree → Option α} : Misses (ask path r read) (Alone r) := by
  refine misses_send.bind fun answer => spares_done fun missing h => ?_
  have hnot := isNotFound_of_decoded h
  cases hnot

theorem misses_status : Misses (w.status path) (Alone (w.statusRequest path)) :=
  misses_ask.bind fun _ => spares_pure _

theorem misses_fileStatus : Misses (w.fileStatus path) (Alone (w.statusRequest path)) := by
  refine misses_status.bind fun found => ?_
  dsimp only
  split
  · exact spares_throw rfl
  · exact spares_pure _

theorem misses_entries : Misses (w.entries path) (Alone (request .get (w.url path "LISTSTATUS" []))) := by
  refine misses_ask.bind fun found => ?_
  dsimp only
  split
  · split
    · exact spares_throw rfl
    · exact spares_pure _
  · exact spares_pure _

theorem misses_makeDirs {mode : UInt32} : Misses (w.makeDirs path mode) (Alone (w.makeDirsRequest path mode)) := by
  refine misses_ask.bind fun done => ?_
  cases done with
  | true => exact spares_pure ()
  | false => exact spares_throw rfl

theorem misses_content : Misses (w.content path) (Alone (request .get (w.url path "OPEN" []))) := by
  refine misses_send.bind fun answer => ?_
  rw [Response.content]
  split
  · exact spares_pure _
  · exact spares_throw rfl

theorem misses_create : Misses (w.create path) (Alone (w.createRequest path)) :=
  misses_send.bind fun _ => spares_pure _

/-- Nothing is sent for no data, and nothing is missing then. -/
theorem misses_append {handle : WriteHandle} {data : Bytes} :
    Misses (w.append handle data) (Alone (w.appendRequest handle.path data)) := by
  rw [append]
  split
  · exact fun es missing h => absurd h (spares_throw rfl es missing)
  · split
    · exact fun es missing h => absurd h (spares_pure () es missing)
    · exact misses_send.bind fun _ => spares_pure ()

/-- A removal finds nothing if the answer says so, or is that nothing was removed. -/
theorem misses_delete {recursive : Bool} : Misses (w.delete path recursive) fun es =>
    ∃ o, es = [⟨w.deleteRequest path recursive, o⟩] ∧ ReportsMissing ⟨w.deleteRequest path recursive, o⟩ := by
  intro es missing h
  rcases Program.ends_except_bind_iff.mp h with ⟨e, hask, he⟩ | ⟨first, done, rest, rfl, hask, hrest⟩
  · obtain rfl := Except.error.inj he
    obtain ⟨o, rfl, ho⟩ := misses_ask _ _ hask
    exact ⟨o, rfl, .inl ho⟩
  · obtain ⟨o, rfl, ho⟩ := ends_ask_iff.mp hask
    cases done with
    | true => cases (Program.ends_done_iff.mp hrest).2
    | false =>
      obtain ⟨rfl, _⟩ := Program.ends_done_iff.mp hrest
      exact ⟨o, rfl, .inr ⟨rfl, says_iff.mp ho.symm⟩⟩

/-- A request for a path. -/
def IsFor (w : WebHdfs) (path : String) (r : Request) : Prop := ∃ op parameters, r.url = w.url path op parameters

/-- The last answer is to a request for a path, and says that something is missing. -/
def MissesLast (w : WebHdfs) (path : String) (es : Exchanges) : Prop :=
  ∃ before e, es = before ++ [e] ∧ w.IsFor path e.1 ∧ ReportsMissing e

/-- The last answer says that a target is gone that was to be removed, after source and target were both reported
to be files. -/
def MissesTarget (w : WebHdfs) (source target : String) (es : Exchanges) : Prop :=
  ∃ files o, es = files ++ [⟨w.deleteRequest target false, o⟩] ∧ BothFiles w source target files ∧
    ReportsMissing ⟨w.deleteRequest target false, o⟩

theorem missesLast_of_alone (h : Alone r es) (hr : w.IsFor path r) : w.MissesLast path es := by
  obtain ⟨o, rfl, ho⟩ := h
  exact ⟨[], _, rfl, hr, .inl ho⟩

theorem MissesLast.append (h : w.MissesLast path rest) (first : Exchanges) : w.MissesLast path (first ++ rest) := by
  obtain ⟨before, e, rfl, hr⟩ := h
  exact ⟨first ++ before, e, (List.append_assoc ..).symm, hr⟩

theorem misses_delete_last {recursive : Bool} : Misses (w.delete path recursive) (w.MissesLast path) := by
  intro es missing h
  obtain ⟨o, rfl, ho⟩ := misses_delete es missing h
  exact ⟨[], _, rfl, ⟨_, _, rfl⟩, ho⟩

theorem misses_tryRename : Misses (w.tryRename source target) (Alone (w.renameRequest source target)) := misses_ask

/-- A renaming that is asked for finds nothing, or is refused and what comes after that does not. -/
theorem misses_unless_refused {refused : Remote Unit} {missing : String}
    (h : (w.tryRename source target >>= fun renamed => if renamed = true then pure () else refused).run.Ends es
      (.error (.notFound missing))) :
    w.MissesLast source es ∨ ∃ o rest, es = ⟨w.renameRequest source target, o⟩ :: rest ∧ Says boolean? o false ∧
      refused.run.Ends rest (.error (.notFound missing)) := by
  rcases Program.ends_except_bind_iff.mp h with ⟨e, hask, he⟩ | ⟨first, renamed, rest, rfl, hask, hrest⟩
  · obtain rfl := Except.error.inj he
    exact .inl (missesLast_of_alone (misses_tryRename _ _ hask) ⟨_, _, rfl⟩)
  · obtain ⟨o, rfl, ho⟩ := ends_tryRename hask
    cases renamed with
    | true => cases (Program.ends_done_iff.mp hrest).2
    | false => exact .inr ⟨o, rest, rfl, (ho false).mp rfl, hrest⟩

/-- After a refusal the source is missing, or both paths are files and what comes after that finds nothing. -/
theorem misses_afterRefusal {failed : ClientError} {missing : String} (hfailed : failed.isNotFound = false)
    (h : (w.afterRefusal source target failed).run.Ends es (.error (.notFound missing))) :
    w.MissesLast source es ∨ ∃ o₂ o₃ found other rest,
      es = [⟨w.statusRequest source, o₂⟩, ⟨w.statusRequest target, o₃⟩] ++ rest ∧
        Says status? o₂ found ∧ found.isDir = false ∧ Says status? o₃ other ∧ other.isDir = false ∧
        (w.replaceTarget source target failed).run.Ends rest (.error (.notFound missing)) := by
  rcases ends_afterRefusal h with ⟨hlooks, _⟩ | hfiles
  · rcases Program.ends_except_bind_iff.mp h with ⟨e, hstatus, he⟩ | ⟨first, found, rest, rfl, hstatus, hrest⟩
    · obtain rfl := Except.error.inj he
      exact .inl (missesLast_of_alone (misses_status _ _ hstatus) ⟨_, _, rfl⟩)
    · obtain ⟨second, x, rest, rfl, _, hlast⟩ := Program.ends_lift_bind_iff.mp hrest
      cases x with
      | error e =>
        cases e with
        | notFound _ => exact absurd hlast (spares_throw hfailed _ _)
        | _ => exact absurd hlast (spares_throw rfl _ _)
      | ok other =>
        dsimp only at hlast
        split at hlast
        · exact absurd hlast (spares_throw rfl _ _)
        · -- whatever is done about the target starts with a removal, which is more than to look
          obtain ⟨o, ⟨rfl, _⟩ | ⟨_, rfl, _⟩⟩ := ends_replaceTarget hlast
          · cases hlooks ⟨w.deleteRequest target false, o⟩ (by simp)
          · cases hlooks ⟨w.deleteRequest target false, o⟩ (by simp)
  · exact .inr hfiles

/-- A renaming misses its source, or a target that was a file before it was to be removed. -/
theorem misses_rename : Misses (w.rename source target) fun es =>
    w.MissesLast source es ∨ w.MissesTarget source target es := by
  intro es missing h
  rw [rename_eq] at h
  rcases misses_unless_refused h with hlast | ⟨o₁, rest, rfl, hrefused, hafter⟩
  · exact .inl hlast
  · rcases misses_afterRefusal rfl hafter with
      hlast | ⟨o₂, o₃, found, other, rest, rfl, hfound, hfile, hother, hfile', hr⟩
    · exact .inl (hlast.append [_])
    · have hfiles : BothFiles w source target _ := .intro hrefused hfound hfile hother hfile'
      rcases Program.ends_except_bind_iff.mp hr with ⟨e, hdelete, he⟩ | ⟨first, _, last, rfl, hdelete, hagain⟩
      · obtain rfl := Except.error.inj he
        obtain ⟨o, rfl, ho⟩ := misses_delete _ _ hdelete
        exact .inr ⟨_, o, rfl, hfiles, ho⟩
      · rcases misses_unless_refused hagain with hlast | ⟨_, _, _, _, hthrow⟩
        · exact .inl ((hlast.append first).append [_, _, _])
        · cases (Program.ends_done_iff.mp hthrow).2

/-- A call about a path that fails for something that is missing was told so by its last answer. -/
theorem misses_perform {c : Call} {missing : String} (hc : c.IsAbout path)
    (h : (w.perform c).Ends es (.error (.notFound missing))) :
    w.MissesLast path es ∨ ∃ target, c = .rename path target ∧ w.MissesTarget path target es := by
  have halone : ∀ {α : Type} {p : Remote α} {r : Request}, Misses p (Alone r) →
      p.run.Ends es (.error (.notFound missing)) → w.IsFor path r →
        w.MissesLast path es ∨ ∃ target, c = .rename path target ∧ w.MissesTarget path target es :=
    fun hp hends hr => .inl (missesLast_of_alone (hp es missing hends) hr)
  rcases hc with hpath | ⟨handle, data, rfl, rfl⟩
  · cases c with
    | write | close | seek | stream => cases hpath
    | content own =>
      obtain rfl := Option.some.inj hpath
      exact halone misses_content h ⟨_, _, rfl⟩
    | openRead own | openAppend own =>
      obtain rfl := Option.some.inj hpath
      exact halone (misses_fileStatus.bind fun _ => spares_pure _) h ⟨_, _, rfl⟩
    | create own =>
      obtain rfl := Option.some.inj hpath
      exact halone misses_create h ⟨_, _, rfl⟩
    | remove own | removeTree own =>
      obtain rfl := Option.some.inj hpath
      exact .inl (misses_delete_last es missing h)
    | rename own target =>
      obtain rfl := Option.some.inj hpath
      exact (misses_rename es missing h).imp_right fun htarget => ⟨target, rfl, htarget⟩
    | status own =>
      obtain rfl := Option.some.inj hpath
      exact halone misses_status h ⟨_, _, rfl⟩
    | entries own =>
      obtain rfl := Option.some.inj hpath
      exact halone misses_entries h ⟨_, _, rfl⟩
    | makeDirs own mode =>
      obtain rfl := Option.some.inj hpath
      exact halone misses_makeDirs h ⟨_, _, rfl⟩
  · exact halone misses_append h ⟨_, _, rfl⟩

/-- The requests that are sent for the calls of a log, one call after the other, if nothing interrupts. -/
inductive Conducts (w : WebHdfs) : Work.Log → Exchanges → Prop where
  | nil : Conducts w [] []
  | interruption {log : Work.Log} {es : Exchanges} (rest : Conducts w log es) :
      Conducts w (⟨.interruption, none⟩ :: log) es
  | signal {log : Work.Log} {es : Exchanges} (rest : Conducts w log es) : Conducts w (⟨.signal, none⟩ :: log) es
  | call {c : Call} {r : c.Reply} {log : Work.Log} {sent es : Exchanges} (ends : (w.perform c).Ends sent r)
      (rest : Conducts w log es) : Conducts w (⟨.call c, r⟩ :: log) (sent ++ es)

/-- What is sent over HTTP is sent for the calls that a program makes. -/
theorem exists_conducts {work : Work α} {a : α} (h : (w.live work).Ends es a) :
    ∃ log, work.Ends log a ∧ Work.Live log ∧ w.Conducts log es := by
  have hlive : ∀ {x : Sigma Question.Reply} {log : Work.Log}, (∀ why, x ≠ ⟨.interruption, some why⟩) →
      Work.Live log → Work.Live (x :: log) := by
    intro x log hx hlog why hm
    rcases List.mem_cons.mp hm with he | hm
    · exact hx why he.symm
    · exact hlog why hm
  induction work generalizing es with
  | done b =>
    obtain ⟨rfl, rfl⟩ := Program.ends_done_iff.mp h
    exact ⟨[], .done _, fun _ => nofun, .nil⟩
  | ask q next ih =>
    obtain ⟨sent, r, rest, rfl, hq, hrest⟩ := Program.ends_bind_iff.mp h
    obtain ⟨log, hends, hlog, hconducts⟩ := ih r hrest
    cases q with
    | interruption =>
      obtain ⟨rfl, rfl⟩ := Program.ends_done_iff.mp hq
      exact ⟨_, .ask hends, hlive nofun hlog, .interruption hconducts⟩
    | signal =>
      obtain ⟨rfl, rfl⟩ := Program.ends_done_iff.mp hq
      exact ⟨_, .ask hends, hlive nofun hlog, .signal hconducts⟩
    | call c => exact ⟨_, .ask hends, hlive nofun hlog, .call hq hconducts⟩

theorem Conducts.split {log log' : Work.Log} (h : w.Conducts (log ++ log') es) :
    ∃ first rest, es = first ++ rest ∧ w.Conducts log first ∧ w.Conducts log' rest := by
  induction log generalizing es with
  | nil => exact ⟨[], es, rfl, .nil, h⟩
  | cons x log ih =>
    cases h with
    | interruption h =>
      obtain ⟨first, rest, rfl, hfirst, hrest⟩ := ih h
      exact ⟨first, rest, rfl, .interruption hfirst, hrest⟩
    | signal h =>
      obtain ⟨first, rest, rfl, hfirst, hrest⟩ := ih h
      exact ⟨first, rest, rfl, .signal hfirst, hrest⟩
    | @call _ _ _ sent _ ends h =>
      obtain ⟨first, rest, rfl, hfirst, hrest⟩ := ih h
      exact ⟨sent ++ first, rest, (List.append_assoc ..).symm, .call ends hfirst, hrest⟩

/-- Nothing is sent to close a handle. -/
theorem Conducts.eq_nil {log : Work.Log} (h : w.Conducts log es)
    (hcloses : ∀ c ∈ Work.calls log, ∃ handle, c = .close handle) : es = [] := by
  induction h with
  | nil => rfl
  | interruption _ ih | signal _ ih => exact ih hcloses
  | call ends _ ih =>
    obtain ⟨⟨handle, rfl⟩, hrest⟩ := List.forall_mem_cons.mp hcloses
    obtain ⟨rfl, _⟩ := Program.ends_done_iff.mp ends
    exact ih hrest

/-- The client hands out handles on the paths that it is asked for. -/
theorem isSound_of_ends {c : Call} {r : c.Reply} (h : (w.perform c).Ends es r) : c.IsSound r := by
  cases c with
  | create path =>
    cases r with
    | ok handle => rw [((carries_create.ok _ _).mp h).2, Call.IsSound]
    | error e => trivial
  | openAppend path =>
    cases r with
    | ok handle => rw [((carries_openAppend.ok _ _).mp h).2, Call.IsSound]
    | error e => trivial
  | _ => trivial

theorem Conducts.isSound {log : Work.Log} (h : w.Conducts log es) : ∀ x ∈ log, x.1.IsSound x.2 := by
  induction h with
  | nil => exact fun _ => nofun
  | interruption _ ih | signal _ ih => exact List.forall_mem_cons.mpr ⟨trivial, ih⟩
  | call ends _ ih => exact List.forall_mem_cons.mpr ⟨isSound_of_ends ends, ih⟩

variable {st : Store} {op : Store.Operation} {missing : String}

/-- A call of an operation that finds nothing is about the path that the operation reports. -/
theorem isAbout_of_makes {o : Options} {c : Call} (hc : op.Makes o c) (hconcerns : (op.terms o).Concerns c path)
    (h : (w.perform c).Ends es (.error (.notFound missing))) : c.IsAbout path := by
  have hnamed : ∀ {own : String}, c.path? = some own → c.IsAbout path := by
    intro own hown
    rw [Work.Terms.Concerns, hown] at hconcerns
    rw [hconcerns]
    exact .inl hown
  cases hc with
  | opens _ hc | openWriter _ hc => cases hc <;> exact hnamed rfl
  | stores hfull hc =>
    cases hc with
    | write hpath =>
      obtain ⟨given, hgiven, hpath'⟩ := hconcerns
      obtain rfl := List.mem_singleton.mp hgiven
      exact .inr ⟨_, _, rfl, hpath.trans (Except.ok.inj (hfull.symm.trans hpath'))⟩
    | close => cases (Program.ends_done_iff.mp h).2
    | remove => exact hnamed rfl
  | seek => cases (Program.ends_done_iff.mp h).2
  | content | openRead | status | entries | parents | rename | removeTree => exact hnamed rfl

/-- An operation that ends for a missing path has sent the requests of a call about that path last, and that call
has found nothing. -/
theorem exists_call_of_missing (h : (w.live (st.perform op).run).Ends es (.error (.pathNotFound path))) :
    ∃ before sent c missing, es = before ++ sent ∧ op.Makes st.options c ∧ c.IsAbout path ∧
      (w.perform c).Ends sent (.error (.notFound missing)) := by
  obtain ⟨log, hends, hlive, hconducts⟩ := exists_conducts h
  have hmakes := ((st.obeys_perform op).of_ends hends hconducts.isSound).2
  obtain ⟨before, c, missing, after, rfl, hconcerns, hafter⟩ :=
    (st.accounts_perform op log _ hlive hends).of_pathNotFound
  obtain ⟨first, rest, rfl, _, hrest⟩ := hconducts.split
  cases hrest with
  | @call _ _ _ sent last ends hlast =>
    have hnone : last = [] := by
      refine hlast.eq_nil fun d hd => ?_
      rw [hafter] at hd
      exact Store.Operation.closes_of_mem_aftermath hd
    have hc : op.Makes st.options c := hmakes ⟨.call c, .error (.notFound missing)⟩ (by simp)
    exact ⟨first, sent, c, missing, by rw [hnone, List.append_nil], hc, isAbout_of_makes hc hconcerns ends, ends⟩

/-- A request whose URL stands for a path: what follows the address is decoded to it. -/
def Addresses (w : WebHdfs) (r : Request) (path : String) : Prop :=
  ∃ rest, r.url.path.text = Path.spell (wireBase w.base) ++ rest ∧
    Text.decode? (Url.percentDecode (Text.encode (String.ofList rest))) = some path

/-- A request for a canonical path without dropped characters stands for that path and for no other one. -/
theorem addresses_iff {own : String} (hc : normalize own = own) (hv : IsVisible own.toList) (hr : w.IsFor own r) :
    w.Addresses r path ↔ path = own := by
  obtain ⟨op, parameters, hurl⟩ := hr
  have htext := (congrArg (fun u => u.path.text) hurl).trans (text_url_of_isVisible w hc hv op parameters)
  constructor
  · rintro ⟨rest, hrest, hdecode⟩
    rw [htext] at hrest
    rw [← List.append_cancel_left hrest, decode?_wireSegments hc] at hdecode
    exact (Option.some.inj hdecode).symm
  · rintro rfl
    exact ⟨_, htext, decode?_wireSegments hc⟩

/-- The last answer to a request that stands for a path says that something is missing. -/
def IsReportedMissing (w : WebHdfs) (path : String) (es : Exchanges) : Prop :=
  ∃ before e after, es = before ++ e :: after ∧ w.Addresses e.1 path ∧ ReportsMissing e ∧
    ∀ x ∈ after, ¬ w.Addresses x.1 path

theorem MissesLast.isReportedMissing (h : w.MissesLast path es) (hc : normalize path = path)
    (hv : IsVisible path.toList) : w.IsReportedMissing path es := by
  obtain ⟨before, e, rfl, hr, hmissing⟩ := h
  exact ⟨before, e, [], rfl, (addresses_iff hc hv hr).mpr rfl, hmissing, fun _ => nofun⟩

/-- The last that was heard of a source whose target is gone is that it is a file. -/
theorem MissesTarget.not_isReportedMissing (h : w.MissesTarget source target es) (hs : normalize source = source)
    (ht : normalize target = target) (hvs : IsVisible source.toList) (hvt : IsVisible target.toList)
    (hne : source ≠ target) : ¬ w.IsReportedMissing source (first ++ es) := by
  rintro ⟨before, e, after, hsplit, haddresses, hmissing, hafter⟩
  obtain ⟨files, o, rfl, hfiles, _⟩ := h
  cases hfiles with
  | @intro o₁ o₂ o₃ found other _ sourceFound _ _ _ =>
    have htarget : ∀ x ∈ ([⟨w.statusRequest target, o₃⟩, ⟨w.deleteRequest target false, o⟩] : Exchanges),
        ¬ w.Addresses x.1 source := by
      intro x hx haddresses
      have hr : w.IsFor target x.1 := by
        rcases List.mem_pair.mp hx with rfl | rfl
        · exact ⟨_, _, rfl⟩
        · exact ⟨_, _, rfl⟩
      exact hne ((addresses_iff ht hvt hr).mp haddresses)
    have hsource : w.Addresses (w.statusRequest source) source := (addresses_iff hs hvs ⟨_, _, rfl⟩).mpr rfl
    have hlast : before ++ e :: after =
        (first ++ [⟨w.renameRequest source target, o₁⟩]) ++ ⟨w.statusRequest source, o₂⟩ ::
          [⟨w.statusRequest target, o₃⟩, ⟨w.deleteRequest target false, o⟩] := by
      rw [← hsplit]
      simp
    obtain ⟨rfl, _⟩ := last_unique (p := fun x => w.Addresses x.1 source) hlast haddresses hsource hafter htarget
    rcases hmissing with hmissing | ⟨hdelete, _⟩
    · exact sourceFound.not_saysMissing hmissing
    · cases hdelete

/-- How an operation comes to report a path as missing: the last answer is about that path, or the operation is a
move, and the last answer is about its target. -/
inductive Blames (w : WebHdfs) (o : Options) : Store.Operation → String → Exchanges → Prop where
  | own {op : Store.Operation} {path : String} {es : Exchanges} (last : w.MissesLast path es) : Blames w o op path es
  | target {source target path toPath : String} {before sent : Exchanges} (fromSource : o.resolve source = .ok path)
      (toTarget : o.resolve target = .ok toPath) (distinct : path ≠ toPath)
      (missed : w.MissesTarget path toPath sent) : Blames w o (.move source target) path (before ++ sent)

/-- A target that is missed is the path that is reported if it is the source as well. -/
theorem MissesTarget.last (h : w.MissesTarget source path es) : w.MissesLast path es := by
  obtain ⟨files, o, rfl, _, hmissing⟩ := h
  exact ⟨files, _, rfl, ⟨_, _, rfl⟩, hmissing⟩

/-- Whatever is answered, an operation that reports a missing path has asked for nothing more since it was told that
something is missing. What is missing is the path that it reports; only a move may report its source when its
target is gone, after both were reported to be files. If no characters of the paths are dropped from the URLs, then
the last answer for the path that is reported says that it is missing, except in that case. -/
theorem missing_reported (h : (w.live (st.perform op).run).Ends es (.error (.pathNotFound path))) :
    Blames w st.options op path es ∧
      (IsVisible path.toList →
        (∀ source target toPath, op = .move source target → st.options.resolve target = .ok toPath →
          IsVisible toPath.toList) →
        (w.IsReportedMissing path es ↔ w.MissesLast path es)) := by
  obtain ⟨before, sent, c, missing, rfl, hmakes, habout, hends⟩ := exists_call_of_missing h
  have hc : normalize path = path := hmakes.isConfined.canonical habout
  have hblames : Blames w st.options op path (before ++ sent) := by
    rcases misses_perform habout hends with hlast | ⟨toPath, rfl, htarget⟩
    · exact .own (hlast.append before)
    · by_cases hne : path = toPath
      · obtain rfl := hne
        exact .own (htarget.last.append before)
      · cases hmakes with
        | rename hs ht => exact .target hs ht hne htarget
        | opens _ hc | openWriter _ hc => cases hc
        | stores _ hc => cases hc
  refine ⟨hblames, fun hv hvt => ⟨fun hreported => ?_, fun hlast => hlast.isReportedMissing hc hv⟩⟩
  generalize before ++ sent = es at hblames hreported ⊢
  cases hblames with
  | own last => exact last
  | target fromSource toTarget distinct missed =>
    have ht := Options.normalize_of_resolve toTarget
    exact absurd hreported (missed.not_isReportedMissing hc ht hv (hvt _ _ _ rfl toTarget) distinct)

theorem ends_live_call_error {c : Call} {e : ClientError} (h : (w.perform c).Ends es (.error e)) (path : String) :
    (w.live (Action.call path c).run).Ends es (.error (.ofClient driverName path e)) := by
  rw [live_call]
  exact h.bind_done rfl

theorem ends_live_move (st : Store) {toPath missing : String} {o : Outcome}
    (hsource : st.options.resolve source = .ok path) (htarget : st.options.resolve target = .ok toPath)
    (made : Says boolean? o true) (h : (w.rename path toPath).run.Ends es (.error (.notFound missing))) :
    (w.live (st.perform (.move source target)).run).Ends
      ([⟨w.makeDirsRequest (Path.parent toPath) st.options.mask, o⟩] ++ es) (.error (.pathNotFound path)) := by
  rw [Store.perform, Store.move, Store.resolve_bind_ok hsource, Store.resolve_bind_ok htarget, live_action_bind]
  refine Program.ends_except_bind_iff.mpr (.inr ⟨[_], (), es, rfl, ?_, ?_⟩)
  · exact (carries_makeParents.ok _ _).mpr ⟨.goes made .all, rfl⟩
  · exact ends_live_call_error (c := .rename path toPath) h path

theorem ends_delete_of_gone {o : Outcome} {recursive : Bool} (gone : Says boolean? o false) :
    (w.delete path recursive).run.Ends [⟨w.deleteRequest path recursive, o⟩] (.error (.notFound path)) :=
  Program.ends_except_bind_iff.mpr
    (.inr ⟨_, false, [], rfl, ends_ask_iff.mpr ⟨o, rfl, (says_iff.mpr gone).symm⟩, .done _⟩)

theorem ends_live_delete (st : Store) {given : String} {o : Outcome} (hresolve : st.options.resolve given = .ok path)
    (gone : Says boolean? o false) :
    (w.live (st.perform (.delete given)).run).Ends [⟨w.deleteRequest path true, o⟩] (.error (.pathNotFound path)) := by
  rw [Store.perform, Store.delete, Store.resolve_bind_ok hresolve]
  exact ends_live_call_error (c := .removeTree path) (ends_delete_of_gone gone) path

/-- What is not there cannot be deleted, and is the path that is reported. -/
theorem missing_reported_deleted : ∃ es,
    (sample.live (Store.perform ⟨Options.sample⟩ (.delete "/a")).run).Ends es
        (.error (.pathNotFound "/tmp/hdfs-registry/a")) ∧
      Blames sample Options.sample (.delete "/a") "/tmp/hdfs-registry/a" es ∧
      sample.IsReportedMissing "/tmp/hdfs-registry/a" es := by
  have hresolve : Options.sample.resolve "/a" = .ok "/tmp/hdfs-registry/a" := rfl
  have hends := ends_live_delete (w := sample) ⟨Options.sample⟩ hresolve says_refused
  obtain ⟨hblames, hiff⟩ := missing_reported hends
  refine ⟨_, hends, hblames, (hiff (by simp [IsVisible, isBreak]) nofun).mpr ?_⟩
  exact ⟨[], _, rfl, ⟨_, _, rfl⟩, .inr ⟨rfl, says_refused⟩⟩

/-- A source that was reported to be a file may be reported to be missing. -/
theorem exists_source_blamed :
    ¬ ∀ (w : WebHdfs) (st : Store) (op : Store.Operation) (path : String) (es : Exchanges),
        (w.live (st.perform op).run).Ends es (.error (.pathNotFound path)) → w.IsReportedMissing path es := by
  intro hclaim
  let source := "/tmp/hdfs-registry/a"
  let target := "/tmp/hdfs-registry/b"
  have hsource : Options.sample.resolve "/a" = .ok source := rfl
  have htarget : Options.sample.resolve "/b" = .ok target := rfl
  have hfiles := bothFiles_sample source target
  have hgone : (sample.replaceTarget source target (renameFailed source target)).run.Ends
      [⟨sample.deleteRequest target false, answerOf "\x7b\"boolean\":false\x7d"⟩] (.error (.notFound target)) :=
    Program.ends_except_bind_iff.mpr (.inl ⟨_, ends_delete_of_gone says_refused, rfl⟩)
  have hmove := ends_live_move ⟨Options.sample⟩ hsource htarget says_granted
    (ends_rename_of_bothFiles hfiles hgone)
  have hmissed : sample.MissesTarget source target _ := ⟨_, _, rfl, hfiles, .inr ⟨rfl, says_refused⟩⟩
  have hreported := hclaim _ _ _ _ _ hmove
  refine hmissed.not_isReportedMissing (Options.normalize_of_resolve hsource) (Options.normalize_of_resolve htarget)
    ?_ ?_ (by decide) hreported
  · simp [source, IsVisible, isBreak]
  · simp [target, IsVisible, isBreak]

end WebHdfs

end RootedStore
