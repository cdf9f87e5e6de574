import RootedStore.Proofs.Text.Numeral
import RootedStore.Proofs.Url.Form
import RootedStore.Proofs.WebHdfs.Requests

/-!
# The parameters of a request

A request names its operation, the user and what else the operation needs in the query of its URL, behind the
query that the address of the namenode may have of its own. Whatever characters these texts have, a server that
reads the query as a form gets all of them back and nothing else.
-/
namespace RootedStore.WebHdfs

open RootedStore.Text (IsNumeral)

/-- What the requests for a call name: a path, an operation and the parameters that go with it. -/
inductive Names : Call → String → String → List (String × String) → Prop where
  | content (path : String) : Names (.content path) path "OPEN" []
  | openRead (path : String) : Names (.openRead path) path "GETFILESTATUS" []
  | create (path : String) : Names (.create path) path "CREATE" [("overwrite", "false")]
  | openAppend (path : String) : Names (.openAppend path) path "GETFILESTATUS" []
  | remove (path : String) : Names (.remove path) path "DELETE" [("recursive", "false")]
  | removeTree (path : String) : Names (.removeTree path) path "DELETE" [("recursive", "true")]
  | rename (source target : String) : Names (.rename source target) source "RENAME" [("destination", target)]
  | renameSource (source target : String) : Names (.rename source target) source "GETFILESTATUS" []
  | renameTarget (source target : String) : Names (.rename source target) target "GETFILESTATUS" []
  | renameRemove (source target : String) : Names (.rename source target) target "DELETE" [("recursive", "false")]
  | status (path : String) : Names (.status path) path "GETFILESTATUS" []
  | entries (path : String) : Names (.entries path) path "LISTSTATUS" []
  | makeDirs (path : String) (mode : UInt32) :
      Names (.makeDirs path mode) path "MKDIRS" [("permission", octal mode.toNat)]
  | write (handle : WriteHandle) (data : Bytes) : Names (.write handle data) handle.path "APPEND" []
  | stream (path : String) (length position : UInt64) :
      Names (.stream ⟨.remote path, length, position⟩) path "OPEN" [("offset", toString position.toNat)]

variable {w : WebHdfs} {α β : Type} {path target : String}

/-- The query of a URL is read as the pairs of the address and these pairs behind them, as bytes and as texts. -/
def ReadsAs (base : Url) (pairs : List (String × String)) (u : Url) : Prop :=
  ∃ query, u.query = some query ∧
    Url.formPairs query = Url.formPairs (base.query.getD []) ++ pairs.map Url.encodePair ∧
    Url.formTexts query = Url.formTexts (base.query.getD []) ++ pairs

theorem readsAs_url (w : WebHdfs) (path op : String) (extra : List (String × String)) :
    ReadsAs w.base (("op", op) :: ("user.name", w.user) :: extra) (w.url path op extra) :=
  ⟨_, rfl, Url.formPairs_formAppend .., Url.formTexts_formAppend ..⟩

/-- Whatever the answers are, a program sends requests of one kind only. -/
def Sends (p : Remote α) (allowed : Request → Prop) : Prop := ∀ es x, p.run.Ends es x → ∀ e ∈ es, allowed e.1

variable {allowed : Request → Prop}

theorem sends_done (x : Except ClientError α) : Sends (ExceptT.mk (.done x)) allowed := by
  intro es _ h e he
  obtain ⟨rfl, _⟩ := Program.ends_done_iff.mp h
  cases he

theorem sends_pure (a : α) : Sends (pure a) allowed := sends_done (.ok a)

theorem sends_throw (e : ClientError) : Sends (throw e : Remote α) allowed := sends_done (.error e)

theorem Sends.bind {p : Remote α} {next : α → Remote β} (hp : Sends p allowed) (hnext : ∀ a, Sends (next a) allowed) :
    Sends (p >>= next) allowed := by
  intro es x h
  rcases Program.ends_except_bind_iff.mp h with ⟨e, hends, _⟩ | ⟨first, a, rest, rfl, hfirst, hrest⟩
  · exact hp es _ hends
  · exact List.forall_mem_append.mpr ⟨hp first _ hfirst, hnext a rest x hrest⟩

/-- What is tried is sent, whatever comes of it. -/
theorem Sends.lift {p : Remote α} (hp : Sends p allowed) :
    Sends (ExceptT.lift p.run : Remote (Except ClientError α)) allowed := by
  intro es x h
  obtain ⟨outcome, hends, _⟩ := Program.ends_lift_iff.mp h
  exact hp es outcome hends

theorem Asks.sends {p : Remote α} {r : Request} {reply : Outcome → Except ClientError α} (h : Asks p r reply)
    (hr : allowed r) : Sends p allowed := by
  intro es x hends e he
  obtain ⟨o, rfl, _⟩ := (h es x).mp hends
  rw [List.mem_singleton.mp he]
  exact hr

/-- The URL of a request names what is named for a call. -/
def IsNamed (w : WebHdfs) (c : Call) (r : Request) : Prop :=
  ∃ path op extra, Names c path op extra ∧ r.url = w.url path op extra

theorem isNamed {c : Call} {op : String} {extra : List (String × String)} {r : Request} (h : Names c path op extra)
    (hr : r.url = w.url path op extra) : w.IsNamed c r := ⟨path, op, extra, h, hr⟩

theorem sends_fileStatus (h : allowed (w.statusRequest path)) : Sends (w.fileStatus path) allowed := by
  refine (asks_status.sends h).bind fun found => ?_
  dsimp only
  split
  · exact sends_throw _
  · exact sends_pure _

/-- A request that is answered by a truth value. -/
theorem sends_grant {r : Request} {refused : ClientError} (h : allowed r) :
    Sends (ask path r boolean? >>= fun done => if !done then throw refused else pure () : Remote Unit) allowed := by
  refine ((asks_ask r boolean?).sends h).bind fun done => ?_
  cases done with
  | true => exact sends_pure ()
  | false => exact sends_throw refused

theorem sends_entries (h : allowed (request .get (w.url path "LISTSTATUS" []))) :
    Sends (w.entries path) allowed := by
  refine ((asks_ask _ _).sends h).bind fun found => ?_
  dsimp only
  split
  · split
    · exact sends_throw _
    · exact sends_pure _
  · exact sends_pure _

/-- A renaming asks for itself, for both statuses and for the removal of its target. -/
theorem sends_rename : Sends (w.rename path target) (w.IsNamed (.rename path target)) := by
  have htry : Sends (w.tryRename path target) (w.IsNamed (.rename path target)) :=
    (asks_ask _ _).sends (isNamed (.rename path target) rfl)
  have hsource : Sends (w.status path) (w.IsNamed (.rename path target)) :=
    asks_status.sends (isNamed (.renameSource path target) rfl)
  have htarget : Sends (w.status target) (w.IsNamed (.rename path target)) :=
    asks_status.sends (isNamed (.renameTarget path target) rfl)
  have hdelete : Sends (w.delete target false) (w.IsNamed (.rename path target)) :=
    sends_grant (isNamed (.renameRemove path target) rfl)
  refine htry.bind fun renamed => ?_
  split
  · exact sends_pure ()
  · refine hsource.bind fun found => htarget.lift.bind fun other => ?_
    split
    · split
      · exact sends_throw _
      · refine hdelete.bind fun _ => htry.bind fun again => ?_
        split
        · exact sends_pure ()
        · exact sends_throw _
    · exact sends_throw _
    · exact sends_throw _

/-- The requests of a call name what is named for it. -/
theorem sends_perform (c : Call) : Sends (ExceptT.mk (w.perform c)) (w.IsNamed c) := by
  cases c with
  | content path => exact ((asks_send _).sends (isNamed (.content path) rfl)).bind fun _ => sends_done _
  | openRead path => exact (sends_fileStatus (isNamed (.openRead path) rfl)).bind fun _ => sends_pure _
  | create path => exact ((asks_send _).sends (isNamed (.create path) rfl)).bind fun _ => sends_pure _
  | openAppend path => exact (sends_fileStatus (isNamed (.openAppend path) rfl)).bind fun _ => sends_pure _
  | remove path => exact sends_grant (isNamed (.remove path) rfl)
  | removeTree path => exact sends_grant (isNamed (.removeTree path) rfl)
  | rename path target => exact sends_rename
  | status path => exact asks_status.sends (isNamed (.status path) rfl)
  | entries path => exact sends_entries (isNamed (.entries path) rfl)
  | makeDirs path mode => exact sends_grant (isNamed (.makeDirs path mode) rfl)
  | write handle data =>
    change Sends (w.append handle data) _
    rw [append]
    split
    · exact sends_throw _
    · split
      · exact sends_pure ()
      · exact ((asks_send _).sends (isNamed (.write handle data) rfl)).bind fun _ => sends_pure _
  | close handle => exact sends_pure ()
  | seek handle offset => exact sends_pure _
  | stream handle =>
    obtain ⟨source, length, position⟩ := handle
    cases source with
    | snapshot content => exact sends_pure _
    | remote path =>
      change Sends (w.stream ⟨.remote path, length, position⟩) _
      rw [stream]
      dsimp only
      split
      · exact sends_pure _
      · exact ((asks_send _).sends (isNamed (.stream path length position) rfl)).bind fun _ => sends_pure _

theorem user_of_ofOptions {o : Options} (h : ofOptions o = .ok w) : w.user = o.user := by
  rw [ofOptions] at h
  cases ha : address o.namenode with
  | error e =>
    rw [ha] at h
    cases h
  | ok base =>
    rw [ha] at h
    rw [← Except.ok.inj h]

/-- The query of every URL that is made is read as the pairs of the address, the operation, the user and the
parameters, in this order. The requests of a call have URLs that are made for what is named for it, whatever the
answers to them are. Modes are octal numerals and offsets decimal ones. -/
theorem parameters_exact {o : Options} (h : ofOptions o = .ok w) :
    (∀ path op extra, ReadsAs w.base (("op", op) :: ("user.name", o.user) :: extra) (w.url path op extra)) ∧
      (∀ (c : Call) es x, (w.perform c).Ends es x → ∀ e ∈ es, w.IsNamed c e.1) ∧
        ∀ n, IsNumeral 8 (octal n).toList n ∧ IsNumeral 10 (toString n).toList n := by
  refine ⟨fun path op extra => ?_, fun c => sends_perform c, fun n => ⟨?_, ?_⟩⟩
  · rw [← user_of_ofOptions h]
    exact readsAs_url w path op extra
  · rw [octal, String.toList_ofList]
    exact Text.isNumeral_toDigits (by decide) (by decide)
  · rw [Nat.toString_eq_ofList_toDigits, String.toList_ofList]
    exact Text.isNumeral_toDigits (by decide) (by decide)

/-- The address has a query of its own, and the user and the target have the signs of a form in them. -/
theorem parameters_exact_signs : ∃ w : WebHdfs,
    ofOptions { Options.sample with namenode := "http://[::1]:9870/?x=1&y", user := "a&b=c +%" } = .ok w ∧
      ∃ query, (w.url "/a" "RENAME" [("destination", "/é&op=DELETE#")]).query = some query ∧
        Url.formTexts query = [("x", "1"), ("y", ""), ("op", "RENAME"), ("user.name", "a&b=c +%"),
          ("destination", "/é&op=DELETE#")] := by
  let base : Url :=
    ⟨"http", [], [], some (.ipv6 [0, 0, 0, 0, 0, 0, 0, 1]), some 9870, .segments [[]], some "x=1&y".toList, none⟩
  have hw : ofOptions { Options.sample with namenode := "http://[::1]:9870/?x=1&y", user := "a&b=c +%" } =
      .ok ⟨base, "a&b=c +%"⟩ := by decide +kernel
  have hbase : Url.formTexts "x=1&y".toList = [("x", "1"), ("y", "")] := by decide +kernel
  obtain ⟨query, hquery, _, htexts⟩ := (parameters_exact hw).1 "/a" "RENAME" [("destination", "/é&op=DELETE#")]
  exact ⟨_, hw, query, hquery, htexts.trans (congrArg (· ++ _) hbase)⟩

end RootedStore.WebHdfs
