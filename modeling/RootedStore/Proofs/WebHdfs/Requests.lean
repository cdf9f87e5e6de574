import RootedStore.Proofs.Options
import RootedStore.Proofs.Program
import RootedStore.WebHdfs.Client

/-!
# Requests over HTTP

What the client sends for a call, and what the answers to it say. Most calls are one request, and succeed
exactly if its answer meets what is demanded of it. Calls that are made one after the other send what each of
them demands, up to the first answer that does not meet it.
-/
namespace RootedStore.WebHdfs

open RootedStore.Json (Tree)

variable {w : WebHdfs} {path : String} {α β ε : Type}

/-- What was exchanged on the way. -/
abbrev Exchanges := List (Sigma fun _ : Request => Outcome)

/-- A successful answer that arrived as a whole and says something. -/
def Says (read : Tree → Option α) (o : Outcome) (a : α) : Prop :=
  ∃ r, o = .ok r ∧ r.isSuccess = true ∧ decoded read r = .ok a

/-- A successful answer, whatever is in its body. -/
def isTaken : Outcome → Bool
  | .ok r => r.isSuccess
  | .error _ => false

/-- The exception that a failed answer reports. -/
def report? (r : Response) : Option (String × String) :=
  (Tree.parse? (if r.complete then r.text else "")).bind exception?

/-- A failed answer that reports that there is nothing at the path, by its exception or else by its status. -/
def SaysMissing (o : Outcome) : Prop :=
  ∃ r, o = .ok r ∧ r.isSuccess = false ∧
    ((∃ message, report? r = some ("FileNotFoundException", message)) ∨ report? r = none ∧ r.status = 404)

def statusRequest (w : WebHdfs) (path : String) : Request := request .get (w.url path "GETFILESTATUS" [])

def deleteRequest (w : WebHdfs) (path : String) (recursive : Bool) : Request :=
  request .delete (w.url path "DELETE" [("recursive", if recursive then "true" else "false")])

def makeDirsRequest (w : WebHdfs) (path : String) (mode : UInt32) : Request :=
  request .put (w.url path "MKDIRS" [("permission", octal mode.toNat)])

def createRequest (w : WebHdfs) (path : String) : Request :=
  ⟨.put, w.url path "CREATE" [("overwrite", "false")], some octets, []⟩

def appendRequest (w : WebHdfs) (path : String) (data : Bytes) : Request :=
  ⟨.post, w.url path "APPEND" [], some octets, data⟩

theorem says_iff {read : Tree → Option α} {o : Outcome} {a : α} :
    accept path o >>= decoded read = .ok a ↔ Says read o a := by
  rw [bind_eq_ok_iff]
  constructor
  · rintro ⟨r, hr, ha⟩
    cases o with
    | error why => cases hr
    | ok answer =>
      rw [accept] at hr
      split at hr
      · rename_i hs
        obtain rfl := Except.ok.inj hr
        exact ⟨answer, rfl, hs, ha⟩
      · cases hr
  · rintro ⟨r, rfl, hs, ha⟩
    exact ⟨r, by rw [accept, if_pos hs], ha⟩

/-- A program sends one request, and what its answer is worth is the result. -/
def Asks (p : Remote α) (r : Request) (reply : Outcome → Except ClientError α) : Prop :=
  ∀ log x, p.run.Ends log x ↔ ∃ o, log = [⟨r, o⟩] ∧ x = reply o

theorem asks_send (r : Request) : Asks (send path r) r (accept path) := by
  intro log x
  have hsend : (send path r).run = .ask r fun o => .done (accept path o) := rfl
  rw [hsend, Program.ends_ask_iff]
  constructor
  · rintro ⟨o, rest, rfl, h⟩
    obtain ⟨rfl, rfl⟩ := Program.ends_done_iff.mp h
    exact ⟨o, rfl, rfl⟩
  · rintro ⟨o, rfl, rfl⟩
    exact ⟨o, [], rfl, .done _⟩

theorem Asks.bind {p : Remote α} {r : Request} {reply : Outcome → Except ClientError α} (h : Asks p r reply)
    {next : α → Remote β} {f : α → Except ClientError β} (hnext : ∀ a, (next a).run = .done (f a)) :
    Asks (p >>= next) r fun o => reply o >>= f := by
  intro log x
  change _ ↔ ∃ o, log = [⟨r, o⟩] ∧ x = reply o >>= f
  rw [Program.ends_except_bind_iff]
  constructor
  · rintro (⟨e, hp, rfl⟩ | ⟨first, a, rest, rfl, hp, hn⟩)
    · obtain ⟨o, rfl, ho⟩ := (h _ _).mp hp
      exact ⟨o, rfl, by rw [← ho]; rfl⟩
    · obtain ⟨o, rfl, ho⟩ := (h _ _).mp hp
      rw [hnext] at hn
      obtain ⟨rfl, rfl⟩ := Program.ends_done_iff.mp hn
      exact ⟨o, rfl, by rw [← ho]; rfl⟩
  · rintro ⟨o, rfl, rfl⟩
    cases ho : reply o with
    | error e => exact .inl ⟨e, (h _ _).mpr ⟨o, rfl, ho.symm⟩, rfl⟩
    | ok a =>
      refine .inr ⟨_, a, [], rfl, (h _ _).mpr ⟨o, rfl, ho.symm⟩, ?_⟩
      rw [hnext]
      exact .done (f a)

theorem asks_ask (r : Request) (read : Tree → Option α) :
    Asks (ask path r read) r fun o => accept path o >>= decoded read :=
  (asks_send r).bind fun _ => rfl

/-- One request is sent, and its result is what the answer says. -/
theorem ends_ask_iff {r : Request} {read : Tree → Option α} {log : Exchanges} {x : Except ClientError α} :
    (ask path r read).run.Ends log x ↔ ∃ o, log = [⟨r, o⟩] ∧ x = accept path o >>= decoded read :=
  asks_ask r read log x

/-- The reply to a request for a status. -/
def statusReply (path : String) (o : Outcome) : Except ClientError FileStatus :=
  accept path o >>= decoded status? >>= fun found => .ok (found.toStatus (Path.baseName path))

theorem asks_status : Asks (w.status path) (w.statusRequest path) (statusReply path) :=
  (asks_ask _ _).bind fun _ => rfl

/-- A request for a status finds something if the answer reports it. -/
theorem statusReply_eq_ok_iff {o : Outcome} {found : FileStatus} :
    statusReply path o = .ok found ↔
      ∃ reported, Says status? o reported ∧ found = reported.toStatus (Path.baseName path) := by
  rw [statusReply, bind_eq_ok_iff]
  constructor
  · rintro ⟨reported, ho, hfound⟩
    exact ⟨reported, says_iff.mp ho, (Except.ok.inj hfound).symm⟩
  · rintro ⟨reported, ho, rfl⟩
    exact ⟨reported, says_iff.mpr ho, rfl⟩

/-- A failed answer reports that nothing is there in one of two ways. -/
theorem failure_isNotFound_iff {status : Nat} {body : String} :
    (failure status body path).isNotFound = true ↔
      (∃ message, (Tree.parse? body).bind exception? = some ("FileNotFoundException", message)) ∨
        (Tree.parse? body).bind exception? = none ∧ status = 404 := by
  rw [failure]
  generalize (Tree.parse? body).bind exception? = report
  split
  · simp [ClientError.isNotFound]
  · simp [ClientError.isNotFound]
  · simp [ClientError.isNotFound]
  · simp [ClientError.isNotFound]
  · rename_i name message hmissing _ _ _
    have hname : name ≠ "FileNotFoundException" := by
      rintro rfl
      exact hmissing rfl
    simp [ClientError.isNotFound, hname]
  · split
    · simp [ClientError.isNotFound, *]
    · rename_i h404
      split <;> simp [ClientError.isNotFound, h404]

/-- A body that does not say what is asked for is no report that something is missing. -/
theorem isNotFound_of_decoded {read : Tree → Option α} {r : Response} {e : ClientError}
    (h : decoded read r = .error e) : e.isNotFound = false := by
  cases hc : r.complete with
  | true =>
    simp only [decoded, Response.content, hc, if_true, bind, Except.bind] at h
    split at h
    · cases h
    · cases h
      rfl
  | false =>
    simp only [decoded, Response.content, hc, bind, Except.bind] at h
    cases h
    rfl

/-- A status is not found exactly if the answer reports that. -/
theorem statusReply_isNotFound_iff {o : Outcome} :
    (∃ e, statusReply path o = .error e ∧ e.isNotFound = true) ↔ SaysMissing o := by
  cases o with
  | error why =>
    refine iff_of_false ?_ ?_
    · rintro ⟨e, he, hmissing⟩
      obtain rfl := Except.error.inj he
      cases hmissing
    · rintro ⟨r, hr, _⟩
      cases hr
  | ok r =>
    cases hs : r.isSuccess with
    | true =>
      have hreply : statusReply path (.ok r) =
          decoded status? r >>= fun found => .ok (found.toStatus (Path.baseName path)) := by
        rw [statusReply, accept, hs]
        rfl
      refine iff_of_false ?_ ?_
      · rintro ⟨e, he, hmissing⟩
        rw [hreply] at he
        cases hd : decoded status? r with
        | ok found =>
          rw [hd] at he
          cases he
        | error e' =>
          rw [hd] at he
          obtain rfl := Except.error.inj he
          rw [isNotFound_of_decoded hd] at hmissing
          cases hmissing
      · rintro ⟨_, hr, hfailed, _⟩
        cases hr
        rw [hs] at hfailed
        cases hfailed
    | false =>
      have hreply : statusReply path (.ok r) =
          .error (failure r.status (if r.complete then r.text else "") path) := by
        rw [statusReply, accept, hs]
        rfl
      rw [hreply]
      constructor
      · rintro ⟨e, he, hmissing⟩
        obtain rfl := Except.error.inj he
        exact ⟨r, rfl, hs, failure_isNotFound_iff.mp hmissing⟩
      · rintro ⟨_, hr, _, hreport⟩
        cases hr
        exact ⟨_, rfl, failure_isNotFound_iff.mpr hreport⟩

theorem Says.unique {read : Tree → Option α} {o : Outcome} {a b : α} (ha : Says read o a)
    (hb : Says read o b) : a = b := by
  have hread : ∀ {x : α}, Says read o x → accept "" o >>= decoded read = .ok x := says_iff.mpr
  exact Except.ok.inj ((hread ha).symm.trans (hread hb))

theorem Says.not_saysMissing {read : Tree → Option α} {o : Outcome} {a : α} (h : Says read o a) :
    ¬ SaysMissing o := by
  rintro ⟨answer, ho, hfailed, _⟩
  obtain ⟨_, rfl, hs, _⟩ := h
  obtain rfl := Except.ok.inj ho
  rw [hs] at hfailed
  cases hfailed

/-- The answer with a body. -/
def answerOf (body : String) : Outcome := .ok ⟨200, Text.encode body, true, body⟩

/-- A request that is to be sent, and when its answer lets what comes next go on. -/
structure Demand where
  request : Request
  met : Outcome → Prop

/-- What is demanded is sent in order, up to the first answer that does not meet the demand, and whether there was
none of those. -/
inductive Follows : List Demand → Exchanges → Bool → Prop where
  | all : Follows [] [] true
  | stops {d : Demand} {demands : List Demand} {o : Outcome} (unmet : ¬ d.met o) :
      Follows (d :: demands) [⟨d.request, o⟩] false
  | goes {d : Demand} {demands : List Demand} {o : Outcome} {log : Exchanges} {all : Bool} (met : d.met o)
      (rest : Follows demands log all) : Follows (d :: demands) (⟨d.request, o⟩ :: log) all

variable {d : Demand} {demands more : List Demand} {log : Exchanges} {all : Bool}

theorem follows_nil_iff : Follows [] log all ↔ log = [] ∧ all = true := by
  constructor
  · rintro ⟨⟩
    exact ⟨rfl, rfl⟩
  · rintro ⟨rfl, rfl⟩
    exact .all

theorem follows_cons_iff : Follows (d :: demands) log all ↔
    (∃ o, ¬ d.met o ∧ log = [⟨d.request, o⟩] ∧ all = false) ∨
      ∃ o rest, d.met o ∧ log = ⟨d.request, o⟩ :: rest ∧ Follows demands rest all := by
  constructor
  · intro h
    cases h with
    | stops unmet => exact .inl ⟨_, unmet, rfl, rfl⟩
    | goes met rest => exact .inr ⟨_, _, met, rfl, rest⟩
  · rintro (⟨o, unmet, rfl, rfl⟩ | ⟨o, rest, met, rfl, hrest⟩)
    · exact .stops unmet
    · exact .goes met hrest

/-- A single demand is one request. -/
theorem follows_single_iff : Follows [d] log all ↔ ∃ o, log = [⟨d.request, o⟩] ∧ (all = true ↔ d.met o) := by
  simp only [follows_cons_iff, follows_nil_iff]
  constructor
  · rintro (⟨o, unmet, rfl, rfl⟩ | ⟨o, _, met, rfl, rfl, rfl⟩)
    · exact ⟨o, rfl, iff_of_false Bool.false_ne_true unmet⟩
    · exact ⟨o, rfl, iff_of_true rfl met⟩
  · rintro ⟨o, rfl, hall⟩
    cases all with
    | true => exact .inr ⟨o, [], hall.mp rfl, rfl, rfl, rfl⟩
    | false => exact .inl ⟨o, fun met => Bool.false_ne_true (hall.mpr met), rfl, rfl⟩

theorem follows_append_iff : Follows (demands ++ more) log all ↔
    (Follows demands log false ∧ all = false) ∨
      ∃ first rest, log = first ++ rest ∧ Follows demands first true ∧ Follows more rest all := by
  induction demands generalizing log with
  | nil =>
    simp [follows_nil_iff]
  | cons d demands ih =>
    rw [List.cons_append, follows_cons_iff, follows_cons_iff]
    constructor
    · rintro (⟨o, unmet, rfl, rfl⟩ | ⟨o, tail, met, rfl, htail⟩)
      · exact .inl ⟨.inl ⟨o, unmet, rfl, rfl⟩, rfl⟩
      · rcases ih.mp htail with ⟨hstop, rfl⟩ | ⟨first, rest, rfl, hfirst, hrest⟩
        · exact .inl ⟨.inr ⟨o, tail, met, rfl, hstop⟩, rfl⟩
        · exact .inr ⟨⟨d.request, o⟩ :: first, rest, rfl, .goes met hfirst, hrest⟩
    · rintro (⟨⟨o, unmet, rfl, _⟩ | ⟨o, tail, met, rfl, htail⟩, rfl⟩ | ⟨first, rest, rfl, hfirst, hrest⟩)
      · exact .inl ⟨o, unmet, rfl, rfl⟩
      · exact .inr ⟨o, tail, met, rfl, ih.mpr (.inl ⟨htail, rfl⟩)⟩
      · rcases follows_cons_iff.mp hfirst with ⟨_, _, _, hfalse⟩ | ⟨o, tail, met, rfl, htail⟩
        · cases hfalse
        · exact .inr ⟨o, tail ++ rest, met, rfl, ih.mpr (.inr ⟨tail, rest, rfl, htail, hrest⟩)⟩

/-- A program sends what is demanded, gives a value if every demand is met and fails otherwise. -/
structure Carries (p : Wire (Except ε α)) (demands : List Demand) (a : α) : Prop where
  ok : ∀ log b, p.Ends log (.ok b) ↔ Follows demands log true ∧ b = a
  error : ∀ log, (∃ e, p.Ends log (.error e)) ↔ Follows demands log false

theorem Carries.follows {p : Wire (Except ε α)} {a : α} {x : Except ε α} (hp : Carries p demands a)
    (h : p.Ends log x) : Follows demands log true ∧ x = .ok a ∨ Follows demands log false ∧ ∃ e, x = .error e := by
  cases x with
  | ok b =>
    obtain ⟨hlog, rfl⟩ := (hp.ok _ _).mp h
    exact .inl ⟨hlog, rfl⟩
  | error e => exact .inr ⟨(hp.error _).mp ⟨e, h⟩, e, rfl⟩

/-- One request is sent for one demand, and its answer decides. -/
theorem Carries.single {p : Wire (Except ε α)} {a : α} {x : Except ε α} (hp : Carries p [d] a) (h : p.Ends log x) :
    ∃ o, log = [⟨d.request, o⟩] ∧ (d.met o ∧ x = .ok a ∨ ¬ d.met o ∧ ∃ e, x = .error e) := by
  rcases hp.follows h with ⟨hlog, hx⟩ | ⟨hlog, hx⟩
  · obtain ⟨o, rfl, ho⟩ := follows_single_iff.mp hlog
    exact ⟨o, rfl, .inl ⟨ho.mp rfl, hx⟩⟩
  · obtain ⟨o, rfl, ho⟩ := follows_single_iff.mp hlog
    exact ⟨o, rfl, .inr ⟨fun hmet => Bool.false_ne_true (ho.mpr hmet), hx⟩⟩

theorem carries_done (a : α) : Carries (.done (.ok a) : Wire (Except ε α)) [] a := by
  constructor
  · intro log b
    rw [Program.ends_done_iff, follows_nil_iff]
    constructor
    · rintro ⟨rfl, h⟩
      exact ⟨⟨rfl, rfl⟩, Except.ok.inj h⟩
    · rintro ⟨⟨rfl, _⟩, rfl⟩
      exact ⟨rfl, rfl⟩
  · intro log
    refine iff_of_false ?_ ?_
    · rintro ⟨e, h⟩
      cases (Program.ends_done_iff.mp h).2
    · rintro ⟨⟩

/-- A single request carries one demand if its reply is good exactly for the answers that meet it. -/
theorem Asks.carries {p : Remote α} {a : α} {reply : Outcome → Except ClientError α} (h : Asks p d.request reply)
    (hreply : ∀ o b, reply o = .ok b ↔ d.met o ∧ b = a) : Carries p.run [d] a := by
  constructor
  · intro log b
    rw [h, follows_single_iff]
    constructor
    · rintro ⟨o, rfl, ho⟩
      have ⟨hmet, hb⟩ := (hreply o b).mp ho.symm
      exact ⟨⟨o, rfl, iff_of_true rfl hmet⟩, hb⟩
    · rintro ⟨⟨o, rfl, hall⟩, rfl⟩
      exact ⟨o, rfl, ((hreply o b).mpr ⟨hall.mp rfl, rfl⟩).symm⟩
  · intro log
    rw [follows_single_iff]
    constructor
    · rintro ⟨e, hp⟩
      obtain ⟨o, rfl, ho⟩ := (h _ _).mp hp
      refine ⟨o, rfl, iff_of_false Bool.false_ne_true fun hmet => ?_⟩
      have hok := (hreply o a).mpr ⟨hmet, rfl⟩
      rw [← ho] at hok
      cases hok
    · rintro ⟨o, rfl, hall⟩
      cases ho : reply o with
      | ok b => exact absurd (hall.mpr ((hreply o b).mp ho).1) Bool.false_ne_true
      | error e => exact ⟨e, (h _ _).mpr ⟨o, rfl, ho.symm⟩⟩

theorem Carries.bind {p : ExceptT ε (Program fun _ : Request => Outcome) α} {a : α} {b : β}
    {next : α → ExceptT ε (Program fun _ : Request => Outcome) β} (hp : Carries p.run demands a)
    (hnext : Carries (next a).run more b) : Carries (p >>= next).run (demands ++ more) b := by
  constructor
  · intro log c
    rw [Program.ends_except_bind_ok_iff, follows_append_iff]
    constructor
    · rintro ⟨first, x, rest, rfl, hx, hc⟩
      obtain ⟨hfirst, rfl⟩ := (hp.ok _ _).mp hx
      obtain ⟨hrest, rfl⟩ := (hnext.ok _ _).mp hc
      exact ⟨.inr ⟨first, rest, rfl, hfirst, hrest⟩, rfl⟩
    · rintro ⟨⟨_, hfalse⟩ | ⟨first, rest, rfl, hfirst, hrest⟩, rfl⟩
      · cases hfalse
      · exact ⟨first, a, rest, rfl, (hp.ok _ _).mpr ⟨hfirst, rfl⟩, (hnext.ok _ _).mpr ⟨hrest, rfl⟩⟩
  · intro log
    rw [follows_append_iff]
    constructor
    · rintro ⟨e, h⟩
      rcases Program.ends_except_bind_iff.mp h with ⟨e', hx, _⟩ | ⟨first, x, rest, rfl, hx, hc⟩
      · exact .inl ⟨(hp.error _).mp ⟨e', hx⟩, rfl⟩
      · obtain ⟨hfirst, rfl⟩ := (hp.ok _ _).mp hx
        exact .inr ⟨first, rest, rfl, hfirst, (hnext.error _).mp ⟨e, hc⟩⟩
    · rintro (⟨hstop, _⟩ | ⟨first, rest, rfl, hfirst, hrest⟩)
      · obtain ⟨e, he⟩ := (hp.error _).mpr hstop
        exact ⟨e, Program.ends_except_bind_iff.mpr (.inl ⟨e, he, rfl⟩)⟩
      · obtain ⟨e, he⟩ := (hnext.error _).mpr hrest
        exact ⟨e, Program.ends_except_bind_iff.mpr (.inr ⟨first, a, rest, rfl, (hp.ok _ _).mpr ⟨hfirst, rfl⟩, he⟩)⟩

/-- What is carried out does not depend on what is made of the result, as long as an error stays one. -/
theorem Carries.reply {p : Wire (Except ε α)} {a : α} (hp : Carries p demands a) {ε' : Type}
    {f : Except ε α → Except ε' β} {b : β} (hok : f (.ok a) = .ok b)
    (herror : ∀ e, ∃ e', f (.error e) = .error e') : Carries (p.bind fun r => .done (f r)) demands b := by
  have hreply {log : Exchanges} {x : Except ε' β} (h : (p.bind fun r => .done (f r)).Ends log x) :
      Follows demands log true ∧ x = .ok b ∨ Follows demands log false ∧ ∃ e, x = .error e := by
    obtain ⟨first, r, rest, rfl, hr, hd⟩ := Program.ends_bind_iff.mp h
    obtain ⟨rfl, rfl⟩ := Program.ends_done_iff.mp hd
    rw [List.append_nil]
    rcases hp.follows hr with ⟨hlog, rfl⟩ | ⟨hlog, e, rfl⟩
    · exact .inl ⟨hlog, hok⟩
    · exact .inr ⟨hlog, herror e⟩
  constructor
  · intro log c
    constructor
    · intro h
      rcases hreply h with ⟨hlog, hc⟩ | ⟨_, _, hc⟩
      · exact ⟨hlog, Except.ok.inj hc⟩
      · cases hc
    · rintro ⟨hlog, rfl⟩
      exact ((hp.ok _ _).mpr ⟨hlog, rfl⟩).bind_done (congrArg Program.done hok)
  · intro log
    constructor
    · rintro ⟨e, h⟩
      rcases hreply h with ⟨_, hc⟩ | ⟨hlog, _⟩
      · cases hc
      · exact hlog
    · intro hlog
      obtain ⟨e, he⟩ := (hp.error _).mpr hlog
      obtain ⟨e', he'⟩ := herror e
      exact ⟨e', he.bind_done (congrArg Program.done he')⟩

/-- What is carried out does not depend on how errors are reported. -/
theorem Carries.mapError {p : Wire (Except ε α)} {a : α} (hp : Carries p demands a) {ε' : Type} (f : ε → ε') :
    Carries (p.bind fun r => .done (r.mapError f)) demands a :=
  hp.reply rfl fun e => ⟨f e, rfl⟩

/-- Directories that are granted. -/
def provision (w : WebHdfs) (path : String) (mode : UInt32) : Demand :=
  ⟨w.makeDirsRequest path mode, (Says boolean? · true)⟩

/-- A removal, not recursive, that is granted. -/
def removal (w : WebHdfs) (path : String) : Demand := ⟨w.deleteRequest path false, (Says boolean? · true)⟩

/-- A new file, in the place of none. -/
def creation (w : WebHdfs) (path : String) : Demand := ⟨w.createRequest path, (isTaken · = true)⟩

/-- A status that is reported, and not to be one of a directory. -/
def fileCheck (w : WebHdfs) (path : String) : Demand :=
  ⟨w.statusRequest path, fun o => ∃ reported, Says status? o reported ∧ reported.isDir = false⟩

/-- Data for the end of a file. -/
def addition (w : WebHdfs) (path : String) (data : Bytes) : Demand :=
  ⟨w.appendRequest path data, (isTaken · = true)⟩

/-- A request that is answered by a truth value is granted if that is true. -/
theorem carries_grant {r : Request} {refused : ClientError} :
    Carries (ask path r boolean? >>= fun done => if !done then throw refused else pure () : Remote Unit).run
      [⟨r, (Says boolean? · true)⟩] () := by
  let grant : Bool → Except ClientError Unit := fun done => if !done then .error refused else .ok ()
  have hasks : Asks (ask path r boolean? >>= fun done => if !done then throw refused else pure ()) r
      fun o => (accept path o >>= decoded boolean?) >>= grant := by
    refine (asks_ask r boolean?).bind fun done => ?_
    cases done <;> rfl
  refine hasks.carries fun o b => ?_
  rw [bind_eq_ok_iff]
  constructor
  · rintro ⟨done, ho, hgrant⟩
    cases done with
    | true => exact ⟨says_iff.mp ho, rfl⟩
    | false => cases hgrant
  · rintro ⟨ho, _⟩
    exact ⟨true, says_iff.mpr ho, rfl⟩

theorem carries_makeDirs {mode : UInt32} :
    Carries (w.perform (.makeDirs path mode)) [w.provision path mode] () := carries_grant

theorem carries_remove : Carries (w.perform (.remove path)) [w.removal path] () := carries_grant

theorem accept_bind_eq_ok_iff {o : Outcome} {a b : α} :
    (accept path o >>= fun _ => .ok a) = .ok b ↔ isTaken o = true ∧ b = a := by
  rw [bind_eq_ok_iff]
  cases o with
  | error why =>
    refine iff_of_false ?_ nofun
    rintro ⟨r, hr, _⟩
    cases hr
  | ok r =>
    rw [accept, isTaken]
    cases r.isSuccess with
    | true =>
      constructor
      · rintro ⟨_, _, hb⟩
        exact ⟨rfl, (Except.ok.inj hb).symm⟩
      · rintro ⟨_, rfl⟩
        exact ⟨r, rfl, rfl⟩
    | false =>
      refine iff_of_false ?_ nofun
      rintro ⟨_, hr, _⟩
      cases hr

theorem carries_create : Carries (w.perform (.create path)) [w.creation path] ⟨path, false⟩ := by
  have hasks : Asks (w.create path) (w.createRequest path) fun o => accept path o >>= fun _ => .ok ⟨path, false⟩ :=
    (asks_send _).bind fun _ => rfl
  exact hasks.carries fun _ _ => accept_bind_eq_ok_iff

theorem carries_openAppend : Carries (w.perform (.openAppend path)) [w.fileCheck path] ⟨path, false⟩ := by
  let check : FileStatus → Except ClientError FileStatus := fun found =>
    if found.isDir then .error (.exception "IOException" ("Path is not a file: " ++ path)) else .ok found
  have hstatus : Asks (w.fileStatus path) (w.statusRequest path) fun o => statusReply path o >>= check := by
    refine asks_status.bind fun found => ?_
    cases hd : found.isDir <;> simp only [check, hd] <;> rfl
  have hasks : Asks (do let _ ← w.fileStatus path; return ⟨path, false⟩ : Remote WriteHandle)
      (w.statusRequest path) fun o => (statusReply path o >>= check) >>= fun _ => .ok ⟨path, false⟩ :=
    hstatus.bind fun _ => rfl
  refine hasks.carries fun o b => ?_
  simp only [bind_eq_ok_iff, statusReply_eq_ok_iff, check]
  constructor
  · rintro ⟨found, ⟨_, ⟨reported, hsays, rfl⟩, hcheck⟩, hb⟩
    split at hcheck
    · cases hcheck
    · rename_i hfile
      exact ⟨⟨reported, hsays, Bool.eq_false_iff.mpr hfile⟩, (Except.ok.inj hb).symm⟩
  · rintro ⟨⟨reported, hsays, hfile⟩, rfl⟩
    have hnot : ¬ (reported.toStatus (Path.baseName path)).isDir = true := Bool.eq_false_iff.mp hfile
    exact ⟨_, ⟨_, ⟨reported, hsays, rfl⟩, if_neg hnot⟩, rfl⟩

/-- Nothing is sent for no data. -/
theorem carries_write {data : Bytes} : Carries (w.perform (.write ⟨path, false⟩ data))
    (if data.isEmpty then [] else [w.addition path data]) () := by
  cases data with
  | nil => exact carries_done ()
  | cons byte bytes =>
    have hasks : Asks (w.append ⟨path, false⟩ (byte :: bytes)) (w.appendRequest path (byte :: bytes))
        fun o => accept path o >>= fun _ => .ok () := (asks_send _).bind fun _ => rfl
    exact hasks.carries fun _ _ => accept_bind_eq_ok_iff

end RootedStore.WebHdfs
