import RootedStore.Cli
import RootedStore.Proofs.WebHdfs.Session

/-!
# A run as a conversation

The command line makes its store over HTTP, so a run is a program that makes exchanges: those that reach the store,
and then those of the command. What a run leaves behind is what that program ends with, whoever answers it, and what
it exchanges is what goes on record.
-/
namespace RootedStore.WebHdfs

variable {α : Type}

/-- The form in which a request goes on record over a link, if it goes out. -/
def Link.recorded? (link : Link) (r : Request) : Option Request :=
  if link.carries r then some { r with url := r.url.bare } else none

/-- What goes on record for a request: itself if it goes out, and then those that it was referred to. -/
structure Records (link : Link) (r : Request) (hops : List Request) (after : Link) : Prop where
  sent : after.sent.reverse = link.sent.reverse ++ hops
  carries : after.carries = link.carries
  first : hops.head? = link.recorded? r

/-- What went on record for several requests, one after the other. -/
def OnRecord (link : Link) (log : Exchanges) (after : Link) : Prop :=
  ∃ hops : List (List Request), after.sent.reverse = link.sent.reverse ++ hops.flatten ∧
    List.Forall₂ (fun e hop => hop.head? = link.recorded? e.1) log hops

/-- A request that goes out is answered, or is made again with less fuel. -/
theorem follow_cases (fuel : Nat) {r : Request} {link : Link} (h : link.carries r = true) :
    ∃ replies, let out := { link with replies, sent := { r with url := r.url.bare } :: link.sent }
      (∃ o, Link.follow fuel r link = (o, out)) ∨
        ∃ less again, fuel = less + 1 ∧ Link.follow fuel r link = Link.follow less again out := by
  generalize hended : Link.follow fuel r link = ended
  unfold Link.follow at hended
  rw [if_neg (by simp [h])] at hended
  dsimp only at hended
  split at hended
  · exact ⟨_, .inl ⟨_, hended.symm⟩⟩
  · exact ⟨_, .inl ⟨_, hended.symm⟩⟩
  · split at hended
    · exact ⟨_, .inl ⟨_, hended.symm⟩⟩
    · exact ⟨_, .inl ⟨_, hended.symm⟩⟩
    · exact ⟨_, .inr ⟨_, _, rfl, hended.symm⟩⟩

theorem records_follow (fuel : Nat) (r : Request) (link : Link) :
    ∃ hops, Records link r hops (Link.follow fuel r link).2 := by
  -- What is made again is another request, over the link as the answer left it.
  induction fuel using Nat.strongRecOn generalizing r link with
  | ind fuel ih =>
    by_cases hout : link.carries r = true
    · obtain ⟨replies, ⟨o, ho⟩ | ⟨less, again, rfl, hagain⟩⟩ := follow_cases fuel hout
      · rw [ho]
        exact ⟨[{ r with url := r.url.bare }], by simp, rfl, by simp [Link.recorded?, hout]⟩
      · obtain ⟨hops, hrest⟩ := ih less (Nat.lt_succ_self _) again
          { link with replies, sent := { r with url := r.url.bare } :: link.sent }
        rw [hagain]
        refine ⟨{ r with url := r.url.bare } :: hops, ?_, hrest.carries, by simp [Link.recorded?, hout]⟩
        rw [hrest.sent]
        simp
    · have hnone : Link.follow fuel r link = (.error .unanswered, link) := by
        unfold Link.follow
        rw [if_pos (by simp [hout])]
      rw [hnone]
      exact ⟨[], by simp, rfl, by simp [Link.recorded?, hout]⟩

/-- What a program exchanges goes on record. -/
theorem onRecord_trace (p : Wire α) (link : Link) :
    OnRecord link (p.trace Link.exchange link) (p.run Link.exchange link).2 := by
  induction p generalizing link with
  | done a => exact ⟨[], by simp [Program.run], .nil⟩
  | ask r next ih =>
    obtain ⟨hop, hrecords⟩ := records_follow 9 r link
    obtain ⟨hops, hsent, hall⟩ := ih (Link.exchange r link).1 (Link.exchange r link).2
    have hcarries : (Link.exchange r link).2.carries = link.carries := hrecords.carries
    simp only [Link.recorded?, hcarries] at hall
    refine ⟨hop :: hops, ?_, .cons hrecords.first hall⟩
    rw [Program.run, hsent, List.flatten_cons, ← List.append_assoc]
    exact congrArg (· ++ hops.flatten) hrecords.sent

end RootedStore.WebHdfs

namespace RootedStore.Cli

open RootedStore.WebHdfs (Wire Exchanges)

/-- Connects to the store of some options and lists its root, whatever comes of that. -/
def reach (options : Json.Value) : Wire (Except StorageError (Store × WebHdfs)) :=
  match Options.ofValue options with
  | .error e => .done (.error e)
  | .ok o =>
    (WebHdfs.connect o).run.bind fun
      | .error e => .done (.error (.connect driverName e))
      | .ok w => (w.live ((Store.mk o).request true (.list "/")).run).bind fun _ => .done (.ok (⟨o⟩, w))

def converse (now : Int) (settings : StoreSettings) (name : String) (args : List String)
    (files : String → LocalFile) : Wire Output :=
  match manager.factories.find? settings.driverType with
  | none => .done (.failed ⟨(ManagerError.unknownType settings.driverType).message, []⟩)
  | some _ =>
    (reach settings.options).bind fun
      | .error e => .done (.failed (.ofStorage e))
      | .ok (st, w) =>
        match Command.parse name args with
        | .error f => .done (.failed f)
        | .ok command => w.live (execute now st files command)

/-- What is exchanged in a run of the program, and its report. -/
def conversation (now : Int) (settingsFile : LocalFile) (args : List String) (files : String → LocalFile) :
    Wire Report :=
  match Settings.load settingsFile with
  | .error e => .done (Output.failed ⟨e.message, []⟩).report
  | .ok loaded =>
    match args with
    | [] => .done ⟨0, [], line usage⟩
    | "info" :: _ => .done (describe loaded.settings.storage.driverType).report
    | name :: args => (converse now loaded.settings.storage name args files).bind fun output => .done output.report

/-- The requests of a run with their final answers, in order, when the answers come over a link. -/
def exchanges (now : Int) (settingsFile : LocalFile) (args : List String) (files : String → LocalFile)
    (link : WebHdfs.Link) : Exchanges :=
  (conversation now settingsFile args files).trace WebHdfs.Link.exchange link

variable {now : Int} {settings : StoreSettings} {name : String} {args : List String} {files : String → LocalFile}

/-- A store behind a link uses that and leaves the rest of the site as it is. -/
theorem run_web {α : Type} (w : WebHdfs) (work : Work α) (site : Site) :
    work.run (Backend.client (.web w)) .good site =
      (((w.live work).run WebHdfs.Link.exchange site.link).1,
        { site with link := ((w.live work).run WebHdfs.Link.exchange site.link).2 }) := by
  rw [WebHdfs.run_live]
  induction work generalizing site with
  | done a => rfl
  | ask q next ih => cases q <;> exact ih _ _

theorem make_web (options : Json.Value) (site : Site) :
    let reached := (reach options).run WebHdfs.Link.exchange site.link
    ∃ listed, Driver.make options .web site =
      (match reached.1 with
        | .error e => .failed e
        | .ok (st, w) => .made ⟨st, .web w⟩ listed,
      { site with link := reached.2 }) := by
  cases ho : Options.ofValue options with
  | error e => exact ⟨.ok (), by simp [Driver.make, reach, ho, Program.run]⟩
  | ok o =>
    cases hc : (WebHdfs.connect o).run.run WebHdfs.Link.exchange site.link with
    | mk connected link =>
      have hconnect : Connector.web.connect o site = (connected.map .web, { site with link }) := by
        rw [Connector.connect, hc]
      cases connected with
      | error e =>
        refine ⟨.ok (), ?_⟩
        simp [Driver.make, reach, ho, hconnect, Except.map, Program.run_bind, hc, Program.run]
      | ok w =>
        refine ⟨((w.live ((Store.mk o).request true (.list "/")).run).run WebHdfs.Link.exchange link).1.map
          fun _ => (), ?_⟩
        simp [Driver.make, Driver.perform, reach, ho, hconnect, Except.map, Program.run_bind, hc, run_web,
          Program.run]

theorem keep_made {F D : Type} (m : Manager F D) (id : String) (d : D) (listed : Except StorageError Unit) :
    ∃ m', m.keep id (.made d listed) = (.ok id, m') ∧ m'.driver? id = some d := by
  cases listed with
  | ok u => exact ⟨_, rfl, by simp [Manager.driver?, Table.find?_insert]⟩
  | error e => exact ⟨_, rfl, by simp [Manager.driver?, Table.find?_insert]⟩

theorem runCommand_eq (site : Site) :
    runCommand now settings name args files site =
      (((converse now settings name args files).run WebHdfs.Link.exchange site.link).1,
        { site with link := ((converse now settings name args files).run WebHdfs.Link.exchange site.link).2 }) := by
  have hfactory : manager.factories.find? settings.driverType =
      if Options.driverType = settings.driverType then some .web else none :=
    Table.find?_insert _ _ _ _
  by_cases htype : Options.driverType = settings.driverType
  · rw [if_pos htype] at hfactory
    obtain ⟨listed, hmake⟩ := make_web settings.options site
    have hcreate : manager.create settings.id settings.driverType (Driver.make settings.options) site =
        (manager.keep settings.id (Driver.make settings.options .web site).1,
          (Driver.make settings.options .web site).2) := by
      rw [Manager.create, hfactory]
      rfl
    rw [runCommand, hcreate, hmake, converse, hfactory]
    simp only [Program.run_bind]
    cases (reach settings.options).run WebHdfs.Link.exchange site.link with
    | mk reached link =>
      cases reached with
      | error e => rfl
      | ok reached =>
        obtain ⟨st, w⟩ := reached
        obtain ⟨m, hkeep, hdriver⟩ := keep_made manager settings.id ⟨st, .web w⟩ listed
        simp only [hkeep, hdriver]
        cases Command.parse name args with
        | error f => rfl
        | ok command => exact run_web w _ _
  · rw [if_neg htype] at hfactory
    rw [runCommand, Manager.create, hfactory, converse, hfactory]
    rfl

/-- What a run reports is what the conversation ends with, and it leaves the link as the conversation does. -/
theorem start_eq (settingsFile : LocalFile) (site : Site) :
    let ended := (conversation now settingsFile args files).run WebHdfs.Link.exchange site.link
    (start now settingsFile args files site).1 = ended.1 ∧
      (start now settingsFile args files site).2.2 = { site with link := ended.2 } := by
  cases hload : Settings.load settingsFile with
  | error e => simp [start, conversation, hload, Program.run]
  | ok loaded =>
    cases args with
    | nil => simp [start, run, conversation, hload, Program.run]
    | cons name args =>
      by_cases hinfo : name = "info"
      · subst hinfo
        simp [start, run, conversation, hload, Program.run]
      · simp [start, run, conversation, hload, runCommand_eq, Program.run_bind, Program.run]

theorem ends_exchanges (settingsFile : LocalFile) (site : Site) :
    (conversation now settingsFile args files).Ends (exchanges now settingsFile args files site.link)
      (start now settingsFile args files site).1 := by
  rw [(start_eq settingsFile site).1]
  exact Program.ends_trace _ _ _

theorem onRecord_exchanges (settingsFile : LocalFile) (site : Site) :
    WebHdfs.OnRecord site.link (exchanges now settingsFile args files site.link)
      (start now settingsFile args files site).2.2.link := by
  rw [(start_eq settingsFile site).2]
  exact WebHdfs.onRecord_trace _ _

open WebHdfs (Asks asks_ask asks_status live_attempt_bind live_bind)

section asking

variable {α β : Type} {p : WebHdfs.Remote α} {r : WebHdfs.Request} {log : Exchanges}
variable {reply : WebHdfs.Outcome → Except ClientError α} {f : Except ClientError α → Wire β}

/-- Nothing is sent beside a request if its reply is all that counts. -/
theorem ends_asks_bind (h : Asks p r reply) (hf : ∀ x, ∃ b, f x = .done b) {b : β}
    (hends : (p.run.bind f).Ends log b) : ∃ o, log = [⟨r, o⟩] := by
  obtain ⟨first, x, rest, rfl, hp, hrest⟩ := Program.ends_bind_iff.mp hends
  obtain ⟨o, rfl, rfl⟩ := (h _ _).mp hp
  obtain ⟨b', hb⟩ := hf (reply o)
  rw [hb] at hrest
  obtain ⟨rfl, _⟩ := Program.ends_done_iff.mp hrest
  exact ⟨o, rfl⟩

end asking

def entriesRequest (w : WebHdfs) (path : String) : WebHdfs.Request :=
  WebHdfs.request .get (w.url path "LISTSTATUS" [])

variable {w : WebHdfs} {o : Options} {log : Exchanges}

theorem ends_entries {path : String} {x : (Call.entries path).Reply} (h : (w.perform (.entries path)).Ends log x) :
    ∃ answer, log = [⟨entriesRequest w path, answer⟩] := by
  refine ends_asks_bind (asks_ask (entriesRequest w path) WebHdfs.statuses?) (f := ExceptT.bindCont _) ?_ h
  intro found
  cases found with
  | error e => exact ⟨_, rfl⟩
  | ok found =>
    dsimp only [ExceptT.bindCont]
    split
    · split <;> exact ⟨_, rfl⟩
    · exact ⟨_, rfl⟩

/-- Connecting sends one request for a status, unless there is no client to connect. -/
theorem ends_connect {connected : Except ClientError WebHdfs} (h : (WebHdfs.connect o).run.Ends log connected) :
    (log = [] ∧ ∃ e, connected = .error e) ∨
      ∃ w answer, WebHdfs.ofOptions o = .ok w ∧ log = [⟨WebHdfs.statusRequest w "/", answer⟩] ∧
        (connected = .ok w ∨ ∃ e, connected = .error e) := by
  rw [WebHdfs.connect] at h
  rcases Program.ends_except_bind_iff.mp h with ⟨e, hclient, rfl⟩ | ⟨first, w, rest, rfl, hclient, hrest⟩
  · obtain ⟨rfl, _⟩ := Program.ends_done_iff.mp hclient
    exact .inl ⟨rfl, e, rfl⟩
  · obtain ⟨rfl, hw⟩ := Program.ends_done_iff.mp hclient
    obtain ⟨asked, found, last, rfl, hstatus, hdone⟩ := Program.ends_lift_bind_iff.mp hrest
    obtain ⟨answer, rfl, _⟩ := (asks_status _ _).mp hstatus
    cases found with
    | ok found =>
      obtain ⟨rfl, rfl⟩ := Program.ends_done_iff.mp hdone
      exact .inr ⟨w, answer, hw.symm, rfl, .inl rfl⟩
    | error e =>
      obtain ⟨rfl, rfl⟩ := Program.ends_done_iff.mp hdone
      exact .inr ⟨w, answer, hw.symm, rfl, .inr ⟨_, rfl⟩⟩

/-- The root of a store is always found. -/
theorem exists_resolve_root {options : Json.Value} (h : Options.ofValue options = .ok o) :
    ∃ root, o.resolve "/" = .ok root := by
  have hplain : Path.above ∉ Path.components "/" := by decide +kernel
  exact ⟨_, Options.resolve_of_plain (Options.normalize_root h) hplain⟩

theorem ends_list {root : String} (h : o.resolve "/" = .ok root) {x : Except StorageError (List String)}
    (hends : (w.live ((Store.mk o).request true (.list "/")).run).Ends log x) :
    ∃ answer, log = [⟨entriesRequest w root, answer⟩] := by
  have hlist : (Store.mk o).request true (.list "/") = (Store.mk o).list "/" := rfl
  rw [hlist, Store.list, Store.resolve_bind_ok h, live_attempt_bind] at hends
  obtain ⟨first, found, rest, rfl, hentries, hrest⟩ := Program.ends_bind_iff.mp hends
  obtain ⟨answer, rfl⟩ := ends_entries hentries
  have hsilent : rest = [] := by
    split at hrest <;> exact (Program.ends_done_iff.mp hrest).1
  exact ⟨answer, by rw [hsilent, List.append_nil]⟩

/-- Reaching a store takes two requests, which only read. A store that was reached has seen both, and it and its client
are those of the options. -/
theorem ends_reach {options : Json.Value} {x : Except StorageError (Store × WebHdfs)}
    (h : (reach options).Ends log x) :
    log.length ≤ 2 ∧ (∀ e ∈ log, e.1.method = .get) ∧ ∀ st w, x = .ok (st, w) →
      log.length = 2 ∧ Options.ofValue options = .ok st.options ∧ WebHdfs.ofOptions st.options = .ok w := by
  rw [reach] at h
  cases ho : Options.ofValue options with
  | error e =>
    rw [ho] at h
    obtain ⟨rfl, rfl⟩ := Program.ends_done_iff.mp h
    simp
  | ok o =>
    simp only [ho] at h
    obtain ⟨first, connected, rest, rfl, hconnect, hrest⟩ := Program.ends_bind_iff.mp h
    obtain ⟨root, hroot⟩ := exists_resolve_root ho
    rcases ends_connect hconnect with ⟨rfl, e, rfl⟩ | ⟨w, answer, hw, rfl, rfl | ⟨e, rfl⟩⟩
    · obtain ⟨rfl, rfl⟩ := Program.ends_done_iff.mp hrest
      simp
    · obtain ⟨listed, found, last, rfl, hlist, hdone⟩ := Program.ends_bind_iff.mp hrest
      obtain ⟨rfl, rfl⟩ := Program.ends_done_iff.mp hdone
      obtain ⟨entries, rfl⟩ := ends_list hroot hlist
      refine ⟨Nat.le_refl 2, by simp [WebHdfs.statusRequest, WebHdfs.request, entriesRequest], ?_⟩
      rintro st w' ⟨⟩
      exact ⟨rfl, rfl, hw⟩
    · obtain ⟨rfl, rfl⟩ := Program.ends_done_iff.mp hrest
      simp [WebHdfs.statusRequest, WebHdfs.request]

end RootedStore.Cli
