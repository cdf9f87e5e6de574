import Mathlib.Data.List.Infix
import RootedStore.Proofs.Cli.Wire

/-!
# Appending a file

The file goes out in pieces, one request for each, once the session is open. A request that fails ends the command,
and the pieces that went out before are the start of the file. The command succeeds if none failed, and then all of
the file went out and the size that it tells is the one that was there before and the length of the file, in a word
of 64 bits.
-/
namespace RootedStore.Cli

open RootedStore.WebHdfs

theorem flatten_map_take_drop (content : Bytes) (size n : Nat) :
    ((List.range n).map fun i => (content.drop (i * size)).take size).flatten = content.take (n * size) := by
  induction n with
  | zero => simp
  | succ n ih => rw [List.range_succ, List.map_append, List.flatten_append, ih, Nat.succ_mul, List.take_add]; simp

/-- The pieces of a file are the file. -/
theorem flatten_filePieces (content : Bytes) : (filePieces content).flatten = content := by
  rw [filePieces, flatten_map_take_drop, List.take_of_length_le]
  rw [pieceSize]
  omega

/-- No piece is empty or larger than a piece may be. -/
theorem length_of_mem_filePieces {content piece : Bytes} (h : piece ∈ filePieces content) :
    piece ≠ [] ∧ piece.length ≤ pieceSize := by
  obtain ⟨i, hi, rfl⟩ := List.mem_map.mp h
  have hi := List.mem_range.mp hi
  have hpositive : 0 < ((content.drop (i * pieceSize)).take pieceSize).length := by
    rw [List.length_take, List.length_drop]
    rw [pieceSize] at hi ⊢
    omega
  exact ⟨List.ne_nil_of_length_pos hpositive, List.length_take_le _ _⟩

variable {w : WebHdfs} {full : String} {size : UInt64} {piece content : Bytes}

/-- Goes on with a session that took a piece, and closes one that did not. -/
def settle : Except StorageError Nat × WriteSession → Run WriteSession
  | (.ok _, s) => pure s
  | (.error e, s) => do
    let _ ← Run.ofSession s.close
    throw (.ofStorage e)

/-- Writes one piece. -/
def writePiece (piece : Bytes) (s : WriteSession) : Run WriteSession := ExceptT.lift (s.write piece) >>= settle

theorem writePieces_cons (rest : List Bytes) (s : WriteSession) :
    writePieces (piece :: rest) s = writePiece piece s >>= writePieces rest := by
  rw [writePieces, writePiece, bind_assoc]
  refine bind_congr fun r => ?_
  obtain ⟨outcome, s⟩ := r
  cases outcome with
  | ok n => exact (pure_bind s (writePieces rest)).symm
  | error e =>
    rw [settle, bind_assoc]
    rfl

theorem live_writePiece : w.live (writePiece piece (sessionAt full size .opened)).run =
    (w.perform (.write ⟨full, false⟩ piece)).bind fun r =>
      .done ((r.map fun _ => sessionAt full (size + UInt64.ofNat piece.length) .opened).mapError
        fun e => .ofStorage ((sessionAt full size .opened).report e)) := by
  have hwrite : w.live (writePiece piece (sessionAt full size .opened)).run =
      (w.live ((sessionAt full size .opened).write piece)).bind fun r => w.live (settle r).run :=
    (congrArg _ (Program.bind_assoc _ _ _)).trans (live_bind _ _)
  -- Closing the session after an error sends nothing.
  refine hwrite.trans ((congrArg (Program.bind · _) (live_bind (Call.write ⟨full, false⟩ piece).guarded _)).trans ?_)
  rw [live_guarded, Program.bind_assoc]
  refine congrArg (Program.bind _) (funext fun r => ?_)
  cases r <;> rfl

theorem carries_writePiece (h : piece ≠ []) :
    Carries (w.live (writePiece piece (sessionAt full size .opened)).run) [w.addition full piece]
      (sessionAt full (size + UInt64.ofNat piece.length) .opened) := by
  have hwrite : Carries (w.perform (.write ⟨full, false⟩ piece))
      (if piece.isEmpty then [] else [w.addition full piece]) () := carries_write
  rw [if_neg (by simpa using h)] at hwrite
  rw [live_writePiece]
  exact hwrite.reply rfl fun e => ⟨_, rfl⟩

/-- Pieces go out one after the other, and the session counts them. -/
theorem carries_writePieces {pieces : List Bytes} (h : ∀ piece ∈ pieces, piece ≠ []) :
    Carries (w.live (writePieces pieces (sessionAt full size .opened)).run) (pieces.map (w.addition full))
      (sessionAt full (size + UInt64.ofNat pieces.flatten.length) .opened) := by
  induction pieces generalizing size with
  | nil =>
    have hsize : size + UInt64.ofNat 0 = size := by simp
    rw [List.flatten_nil, List.length_nil, hsize]
    exact carries_done _
  | cons piece rest ih =>
    have ⟨hpiece, hrest⟩ := List.forall_mem_cons.mp h
    rw [writePieces_cons, List.flatten_cons, List.length_append, UInt64.ofNat_add, ← UInt64.add_assoc]
    exact carries_live_bind (carries_writePiece hpiece) (ih hrest)

/-- What is told of an object that has become so large. -/
def sizeLine (path : String) (size : Nat) : String := line (path ++ " is now " ++ toString size ++ " bytes")

/-- What is done with a file once the session is open. -/
def extend (path : String) (content : Bytes) (s : WriteSession) : Run String := do
  let s ← writePieces (filePieces content) s
  let s ← Run.ofSession s.commit
  let s ← Run.ofSession s.close
  return sizeLine path s.size.toNat

theorem append_file (st : Store) (path name : String) :
    append st path name (.file content) = perform st (.openWriter path true) >>= extend path content := by
  rfl

theorem carries_extend (path : String) :
    Carries (w.live (extend path content (sessionAt full size .opened)).run)
      ((filePieces content).map (w.addition full))
      (sizeLine path ((size.toNat + content.length) % UInt64.size)) := by
  have hsize : (size + UInt64.ofNat content.length).toNat = (size.toNat + content.length) % UInt64.size := by simp
  have hpieces : Carries (w.live (writePieces (filePieces content) (sessionAt full size .opened)).run)
      ((filePieces content).map (w.addition full))
      (sessionAt full (size + UInt64.ofNat (filePieces content).flatten.length) .opened) :=
    carries_writePieces fun piece hp => (length_of_mem_filePieces hp).1
  rw [flatten_filePieces] at hpieces
  rw [← hsize, ← List.append_nil ((filePieces content).map _)]
  exact carries_live_bind hpieces (carries_done _)

/-- The length of what is there before anything is written, as an answer about the target tells it. -/
def Starts (o : Outcome) (length : UInt64) : Prop :=
  (∃ found, Says status? o found ∧ found.length = length) ∨ SaysMissing o ∧ length = 0

/-- A request fails: it is not answered, its answer is a failure, or its answer does not say what was asked for. That
nothing is at a path is an answer to a request for its status. -/
inductive Fails : Request → Outcome → Prop where
  | provision {w : WebHdfs} {path : String} {mode : UInt32} {o : Outcome} (refused : ¬ Says boolean? o true) :
      Fails (w.makeDirsRequest path mode) o
  | status {w : WebHdfs} {path : String} {o : Outcome} (unknown : ∀ length, ¬ Starts o length) :
      Fails (w.statusRequest path) o
  | creation {w : WebHdfs} {path : String} {o : Outcome} (refused : isTaken o = false) :
      Fails (w.createRequest path) o
  | addition {w : WebHdfs} {path : String} {data : Bytes} {o : Outcome} (refused : isTaken o = false) :
      Fails (w.appendRequest path data) o

/-- A status of the target, or that nothing is there. -/
def look (w : WebHdfs) (full : String) : Demand := ⟨w.statusRequest full, fun o => ∃ length, Starts o length⟩

/-- A demand that no request that fails meets. -/
def IsStrict (d : Demand) : Prop := ∀ o, Fails d.request o → ¬ d.met o

theorem isStrict_provision (path : String) (mode : UInt32) : IsStrict (w.provision path mode) := by
  intro o h
  generalize hr : (w.provision path mode).request = r at h
  cases h with
  | provision refused => exact refused
  | status | creation | addition => cases congrArg (fun r => (r.method, r.contentType)) hr

theorem Fails.unknown {o : Outcome} (h : Fails (w.statusRequest full) o) (length : UInt64) : ¬ Starts o length := by
  generalize hr : w.statusRequest full = r at h
  cases h with
  | status unknown => exact unknown length
  | provision | creation | addition => cases congrArg Request.method hr

theorem isStrict_look : IsStrict (look w full) := fun _ h => not_exists.mpr h.unknown

theorem isStrict_creation : IsStrict (w.creation full) := by
  intro o h
  generalize hr : (w.creation full).request = r at h
  cases h with
  | creation refused => exact Bool.eq_false_iff.mp refused
  | provision | status | addition => cases congrArg (fun r => (r.method, r.contentType)) hr

theorem isStrict_fileCheck : IsStrict (w.fileCheck full) := by
  rintro o h ⟨found, hsays, _⟩
  exact h.unknown found.length (.inl ⟨found, hsays, rfl⟩)

theorem isStrict_addition : IsStrict (w.addition full piece) := by
  intro o h
  generalize hr : (w.addition full piece).request = r at h
  cases h with
  | addition refused => exact Bool.eq_false_iff.mp refused
  | provision | status | creation => cases congrArg Request.method hr

variable {demands : List Demand} {log : Exchanges} {all : Bool} {mode : UInt32}

/-- Nothing is sent after a request that fails. -/
theorem eq_nil_of_fails (h : Follows demands log all) (hstrict : ∀ d ∈ demands, IsStrict d)
    {before after : Exchanges} {e : Sigma fun _ : Request => Outcome} (hlog : log = before ++ e :: after)
    (hfails : Fails e.1 e.2) : after = [] ∧ all = false := by
  -- Only the request at which the demands stop can fail, as the others met what was demanded.
  induction h generalizing before with
  | all => simp at hlog
  | stops unmet =>
    obtain ⟨rfl, hafter⟩ | ⟨_, _, htail⟩ := List.cons_eq_append_iff.mp hlog
    · exact ⟨(List.cons.inj hafter).2, rfl⟩
    · simp at htail
  | goes met rest ih =>
    obtain ⟨rfl, hafter⟩ | ⟨tail, rfl, htail⟩ := List.cons_eq_append_iff.mp hlog
    · obtain ⟨rfl, _⟩ := List.cons.inj hafter
      exact absurd met (hstrict _ List.mem_cons_self _ hfails)
    · exact ih (fun d hd => hstrict d (List.mem_cons_of_mem _ hd)) htail

/-- What is sent is the start of what is demanded, or all of it. -/
theorem requests_of_follows (h : Follows demands log all) :
    log.map (·.1) <+: demands.map (·.request) ∧ (all = true → log.map (·.1) = demands.map (·.request)) := by
  induction h with
  | all => simp
  | stops unmet => simp
  | goes met rest ih => simpa [List.cons_prefix_cons] using ih

/-- What may be demanded after the target was looked at. -/
def IsPlan (w : WebHdfs) (full : String) (plan : List Demand) : Prop :=
  ∀ d ∈ plan, d = w.creation full ∨ d = w.fileCheck full

/-- What opening a session to extend something demands. -/
def openingDemands (w : WebHdfs) (full : String) (mode : UInt32) (plan : List Demand) : List Demand :=
  w.provision (Path.parent full) mode :: look w full :: plan

/-- A plan starts from a length. -/
theorem starts_of_plan {o : Outcome} (h : w.Plan full true o demands size) :
    Starts o size ∧ IsPlan w full demands := by
  cases h with
  | created missing => exact ⟨.inr ⟨missing, rfl⟩, by simp [IsPlan]⟩
  | extended present => exact ⟨.inl ⟨_, present, rfl⟩, by simp [IsPlan]⟩

theorem exists_plan {o : Outcome} (h : Starts o size) : ∃ demands, w.Plan full true o demands size := by
  obtain ⟨found, present, rfl⟩ | ⟨missing, rfl⟩ := h
  · exact ⟨_, .extended present⟩
  · exact ⟨_, .created missing⟩

/-- How a part of the command goes that opens a session at a path and has more demands: it is refused before anything
is sent, it stops at a request whose answer is not good enough, or it is done. What it gives then depends on the length
that the target was seen with. -/
inductive Proceeds {α : Type} (w : WebHdfs) (mode : UInt32) (full : String) (more : List Demand) (value : UInt64 → α) :
    Exchanges → Except Failure α → Prop where
  | refused {f : Failure} : Proceeds w mode full more value [] (.error f)
  | stopped {plan : List Demand} {log : Exchanges} {f : Failure} (hplan : IsPlan w full plan)
      (follows : Follows (openingDemands w full mode plan ++ more) log false) :
      Proceeds w mode full more value log (.error f)
  | done {plan : List Demand} {log : Exchanges} {o : Outcome} {length : UInt64}
      (hplan : IsPlan w full plan) (follows : Follows (openingDemands w full mode plan ++ more) log true)
      (seen : log[1]? = some ⟨w.statusRequest full, o⟩) (starts : Starts o length) :
      Proceeds w mode full more value log (.ok (value length))

/-- The session that opening gives, with nothing more demanded. -/
abbrev Opens (w : WebHdfs) (mode : UInt32) (full : String) : Exchanges → Except Failure WriteSession → Prop :=
  Proceeds w mode full [] fun size => sessionAt full size .opened

theorem opens_of_opening {opened : Except StorageError WriteSession} (h : Opening w mode full true log opened) :
    Opens w mode full log (opened.mapError .ofStorage) := by
  have hnone (plan : List Demand) : openingDemands w full mode plan ++ [] = openingDemands w full mode plan :=
    List.append_nil _
  have hnoPlan : IsPlan w full [] := by simp [IsPlan]
  cases h with
  | unprovisioned refused => exact .stopped hnoPlan (.stops refused)
  | unclear granted unknown =>
    refine .stopped hnoPlan (.goes granted (.stops ?_))
    rintro ⟨length, hstarts⟩
    obtain ⟨demands, hplan⟩ := exists_plan hstarts
    exact unknown demands length hplan
  | stopped granted plan follows =>
    have ⟨hstarts, hplan⟩ := starts_of_plan plan
    refine .stopped hplan ?_
    rw [hnone]
    exact .goes granted (.goes ⟨_, hstarts⟩ follows)
  | opened granted plan follows =>
    have ⟨hstarts, hplan⟩ := starts_of_plan plan
    refine .done hplan ?_ rfl hstarts
    rw [hnone]
    exact .goes granted (.goes ⟨_, hstarts⟩ follows)

section opening

variable {st : Store} {path : String}

/-- Opening a session for a caller that is held to the grammar of keys is refused, or goes as for any other caller. -/
theorem ends_perform_openWriter {x : Except Failure WriteSession}
    (h : (w.live (perform st (.openWriter path true)).run).Ends log x) :
    (log = [] ∧ ∃ f, x = .error f) ∨
      ∃ opened, (w.live (st.openWriter path true).run).Ends log opened ∧ x = opened.mapError .ofStorage := by
  have hlive : w.live (perform st (.openWriter path true)).run =
      (w.live (st.request true (.openWriter path true)).run).bind fun r => .done (r.mapError .ofStorage) :=
    live_bind _ _
  rw [hlive] at h
  obtain ⟨first, opened, rest, rfl, hopen, hdone⟩ := Program.ends_bind_iff.mp h
  obtain ⟨rfl, rfl⟩ := Program.ends_done_iff.mp hdone
  rw [List.append_nil]
  cases hkey : Store.Operation.check (.openWriter path true) with
  | error e =>
    rw [Store.request, if_pos rfl, hkey] at hopen
    have hrefused : (w.live (throw e : Action WriteSession).run).Ends first opened := hopen
    obtain ⟨rfl, rfl⟩ := Program.ends_done_iff.mp hrefused
    exact .inl ⟨rfl, _, rfl⟩
  | ok u =>
    rw [Store.request, if_pos rfl, hkey] at hopen
    exact .inr ⟨opened, hopen, rfl⟩

theorem opens_of_ends (hresolve : st.options.resolve path = .ok full) {x : Except Failure WriteSession}
    (h : (w.live (perform st (.openWriter path true)).run).Ends log x) : Opens w st.options.mask full log x := by
  rcases ends_perform_openWriter h with ⟨rfl, f, rfl⟩ | ⟨opened, hopen, rfl⟩
  · exact .refused
  · exact opens_of_opening (opening_of_ends hresolve hopen)

/-- Nothing is sent for a path that leads nowhere. -/
theorem nothing_of_ends {e : StorageError} (hresolve : st.options.resolve path = .error e)
    {x : Except Failure WriteSession} (h : (w.live (perform st (.openWriter path true)).run).Ends log x) :
    log = [] ∧ ∃ f, x = .error f := by
  rcases ends_perform_openWriter h with hrefused | ⟨opened, hopen, rfl⟩
  · exact hrefused
  · rw [Store.openWriter_eq_seen, Store.resolve_bind_error hresolve] at hopen
    obtain ⟨rfl, rfl⟩ := Program.ends_done_iff.mp hopen
    exact ⟨rfl, _, rfl⟩

end opening

/-- What appending a file demands. -/
def appendDemands (w : WebHdfs) (full : String) (mode : UInt32) (plan : List Demand) (content : Bytes) :
    List Demand :=
  openingDemands w full mode plan ++ (filePieces content).map (w.addition full)

/-- The text of the command, once the pieces of the file went out as well. -/
abbrev AppendsFile (w : WebHdfs) (mode : UInt32) (full path : String) (content : Bytes) :
    Exchanges → Except Failure String → Prop :=
  Proceeds w mode full ((filePieces content).map (w.addition full)) fun length =>
    sizeLine path ((length.toNat + content.length) % UInt64.size)

section command

variable {st : Store} {path name : String} {x : Except Failure String}

theorem appendsFile_of_ends (hresolve : st.options.resolve path = .ok full)
    (h : (w.live (append st path name (.file content)).run).Ends log x) :
    AppendsFile w st.options.mask full path content log x := by
  rw [append_file, live_action_bind] at h
  rcases Program.ends_except_bind_iff.mp h with ⟨f, hopen, rfl⟩ | ⟨first, s, rest, rfl, hopen, hextend⟩
  · cases opens_of_ends hresolve hopen with
    | refused => exact .refused
    | stopped hplan follows =>
      rw [List.append_nil] at follows
      exact .stopped hplan (follows_append_iff.mpr (.inl ⟨follows, rfl⟩))
  · cases opens_of_ends hresolve hopen with
    | done hplan follows seen starts =>
      rw [List.append_nil] at follows
      rw [ExceptT.run_mk] at hextend
      rcases (carries_extend path).follows hextend with ⟨hrest, rfl⟩ | ⟨hrest, f, rfl⟩
      · refine .done hplan (follows_append_iff.mpr (.inr ⟨first, rest, rfl, follows, hrest⟩)) ?_ starts
        obtain ⟨hshort, _⟩ := List.getElem?_eq_some_iff.mp seen
        rw [List.getElem?_append_left hshort, seen]
      · exact .stopped hplan (follows_append_iff.mpr (.inr ⟨first, rest, rfl, follows, hrest⟩))

theorem appends_nothing_of_ends {e : StorageError} (hresolve : st.options.resolve path = .error e)
    (h : (w.live (append st path name (.file content)).run).Ends log x) : log = [] ∧ ∃ f, x = .error f := by
  rw [append_file, live_action_bind] at h
  rcases Program.ends_except_bind_iff.mp h with ⟨f, hopen, rfl⟩ | ⟨first, s, rest, rfl, hopen, _⟩
  · exact ⟨(nothing_of_ends hresolve hopen).1, f, rfl⟩
  · obtain ⟨_, f, hf⟩ := nothing_of_ends hresolve hopen
    cases hf

end command

/-- What is written of a text, or of a failure. -/
def outputOf : Except Failure String → Output
  | .error f => .failed f
  | .ok s => .ofText s

theorem live_execute_append (now : Int) (st : Store) (files : String → LocalFile) (path name : String) :
    w.live (execute now st files (.append path name)) =
      (w.live (append st path name (files name)).run).bind fun x => .done (outputOf x) := by
  refine (live_bind (append st path name (files name)).run _).trans (congrArg (Program.bind _) (funext fun x => ?_))
  cases x <;> rfl

variable {now : Int} {settingsFile : LocalFile} {settings : StoreSettings} {path name : String}
variable {files : String → LocalFile}

/-- How a run of the command goes beside what it exchanges for the command itself: there is no store and it fails, or
it is run on the store of some options, over their client. -/
inductive Runs (options : Json.Value) (path name : String) (files : String → LocalFile) : Exchanges → Output → Prop where
  | failed (f : Failure) : Runs options path name files [] (.failed f)
  | ran {st : Store} {w : WebHdfs} {command : Exchanges} {x : Except Failure String}
      (store : Options.ofValue options = .ok st.options) (client : WebHdfs.ofOptions st.options = .ok w)
      (ends : (w.live (append st path name (files name)).run).Ends command x) :
      Runs options path name files command (outputOf x)

/-- Two requests reach the store, and all others are those of the command. Without a store the command fails. -/
theorem ends_converse {output : Output} (h : (converse now settings "append" [path, name] files).Ends log output) :
    (∀ e ∈ log.take 2, e.1.method = .get) ∧ Runs settings.options path name files (log.drop 2) output := by
  have hparse : Command.parse "append" [path, name] = .ok (.append path name) := rfl
  rw [converse, hparse] at h
  split at h
  · obtain ⟨rfl, rfl⟩ := Program.ends_done_iff.mp h
    exact ⟨by simp, .failed _⟩
  · obtain ⟨setup, reached, command, rfl, hreach, hcommand⟩ := Program.ends_bind_iff.mp h
    obtain ⟨hshort, hget, hreached⟩ := ends_reach hreach
    cases reached with
    | error e =>
      obtain ⟨rfl, rfl⟩ := Program.ends_done_iff.mp hcommand
      rw [List.append_nil, List.drop_eq_nil_of_le hshort]
      exact ⟨fun e he => hget e (List.mem_of_mem_take he), .failed _⟩
    | ok reached =>
      obtain ⟨st, w⟩ := reached
      have hcommand : (w.live (execute now st files (.append path name))).Ends command output := hcommand
      rw [live_execute_append] at hcommand
      obtain ⟨sent, x, rest, rfl, hsent, hdone⟩ := Program.ends_bind_iff.mp hcommand
      obtain ⟨rfl, rfl⟩ := Program.ends_done_iff.mp hdone
      obtain ⟨hlength, hoptions, hclient⟩ := hreached st w rfl
      rw [List.append_nil, List.take_left' hlength, List.drop_left' hlength]
      exact ⟨hget, .ran hoptions hclient hsent⟩

/-- The client and the full path to which settings lead a path. -/
def target? (settingsFile : LocalFile) (path : String) : Option (WebHdfs × String) := do
  let loaded ← (Settings.load settingsFile).toOption
  let o ← (Options.ofValue loaded.settings.storage.options).toOption
  return (← (WebHdfs.ofOptions o).toOption, ← (o.resolve path).toOption)

/-- The requests that add data, with their answers. No others are posted. -/
def additions (log : Exchanges) : Exchanges := log.filter fun e => e.1.method = .post

theorem map_additions (log : Exchanges) :
    (additions log).map (·.1) = (log.map (·.1)).filter (·.method = .post) := by
  rw [List.filter_map]
  rfl

/-- Of what the command demands, the pieces of the file are posted. -/
theorem posted_appendDemands {plan : List Demand} (hplan : IsPlan w full plan) :
    ((appendDemands w full mode plan content).map (·.request)).filter (·.method = .post) =
      (filePieces content).map (w.appendRequest full) := by
  have hopening : ((openingDemands w full mode plan).map (·.request)).filter (·.method = .post) = [] := by
    rw [List.filter_eq_nil_iff]
    intro r hr
    obtain ⟨d, hd, rfl⟩ := List.mem_map.mp hr
    rcases List.mem_cons.mp hd with rfl | hd
    · exact Bool.false_ne_true
    rcases List.mem_cons.mp hd with rfl | hd
    · exact Bool.false_ne_true
    rcases hplan d hd with rfl | rfl <;> exact Bool.false_ne_true
  have hpieces : ((filePieces content).map (w.appendRequest full)).filter (·.method = .post) =
      (filePieces content).map (w.appendRequest full) := by
    rw [List.filter_eq_self]
    intro r hr
    obtain ⟨piece, _, rfl⟩ := List.mem_map.mp hr
    rfl
  rw [appendDemands, List.map_append, List.filter_append, hopening, List.nil_append, List.map_map]
  exact hpieces

theorem additions_of_follows {plan : List Demand} (hplan : IsPlan w full plan)
    (h : Follows (appendDemands w full mode plan content) log all) :
    (additions log).map (·.1) <+: (filePieces content).map (w.appendRequest full) ∧
      (all = true → (additions log).map (·.1) = (filePieces content).map (w.appendRequest full)) := by
  obtain ⟨hbegins, hequal⟩ := requests_of_follows h
  rw [map_additions, ← posted_appendDemands hplan]
  exact ⟨hbegins.filter _, fun hall => by rw [hequal hall]⟩

theorem strict_appendDemands {plan : List Demand} (hplan : IsPlan w full plan) :
    ∀ d ∈ appendDemands w full mode plan content, IsStrict d := by
  intro d hd
  rcases List.mem_append.mp hd with hd | hd
  · rcases List.mem_cons.mp hd with rfl | hd
    · exact isStrict_provision _ _
    rcases List.mem_cons.mp hd with rfl | hd
    · exact isStrict_look
    rcases hplan d hd with rfl | rfl
    · exact isStrict_creation
    · exact isStrict_fileCheck
  · obtain ⟨piece, _, rfl⟩ := List.mem_map.mp hd
    exact isStrict_addition

/-- The data that went out. -/
def added (log : Exchanges) : Bytes := (additions log).flatMap (·.1.body)

theorem added_eq (log : Exchanges) : added log = ((additions log).map (·.1)).flatMap (·.body) := by
  rw [added, List.flatMap_map]

theorem flatMap_body (w : WebHdfs) (full : String) (pieces : List Bytes) :
    (pieces.map (w.appendRequest full)).flatMap (·.body) = pieces.flatten := by
  rw [List.flatMap_map]
  exact List.flatMap_id

/-- What the requests of a command, its text and the way it ends have to do with the file and with the target, which
one client knows by its full path. -/
structure Appends (w : WebHdfs) (full path : String) (content : Bytes) (command : Exchanges) (report : Report) :
    Prop where
  posted : ∀ e ∈ additions command, e.1 = w.appendRequest full e.1.body ∧ e.1.body ≠ [] ∧ e.1.body.length ≤ pieceSize
  begins : added command <+: content
  /-- A request that fails is the last one, and the command fails with it. -/
  last : ∀ before e after, command = before ++ e :: after → Fails e.1 e.2 → after = [] ∧ report.code = 1
  code : report.code = 0 ∨ report.code = 1
  /-- The first thing that a command reads is the status of its target. -/
  whole : report.code = 0 → added command = content ∧
    ∃ o length, command.find? (·.1.method = .get) = some ⟨w.statusRequest full, o⟩ ∧ Starts o length ∧
      report.stdout = Text.encode (sizeLine path ((length.toNat + content.length) % UInt64.size))

theorem appends_nil {report : Report} (h : report.code = 1) : Appends w full path content [] report where
  posted := by simp [additions]
  begins := List.nil_prefix
  last := by simp
  code := .inr h
  whole hzero := by omega

/-- The status of the target is the first thing that the command reads. -/
theorem find?_status {plan : List Demand} {o : Outcome} (h : Follows (appendDemands w full mode plan content) log all)
    (hseen : log[1]? = some ⟨w.statusRequest full, o⟩) :
    log.find? (·.1.method = .get) = some ⟨w.statusRequest full, o⟩ := by
  have ⟨hbegins, _⟩ := requests_of_follows h
  match log, hseen with
  | first :: second :: rest, hseen =>
    obtain rfl : second = ⟨w.statusRequest full, o⟩ := by simpa using hseen
    have hfirst : first.1 = w.makeDirsRequest (Path.parent full) mode := (List.cons_prefix_cons.mp hbegins).1
    have hput : first.1.method = .put := by
      rw [hfirst]
      rfl
    simp [hput, WebHdfs.statusRequest, WebHdfs.request]

theorem appends_of_follows {plan : List Demand} {report : Report} (hplan : IsPlan w full plan)
    (h : Follows (appendDemands w full mode plan content) log all) (hcode : report.code = if all then 0 else 1)
    (hdone : all = true → ∃ o length, log[1]? = some ⟨w.statusRequest full, o⟩ ∧ Starts o length ∧
      report.stdout = Text.encode (sizeLine path ((length.toNat + content.length) % UInt64.size))) :
    Appends w full path content log report := by
  obtain ⟨hbegins, hequal⟩ := additions_of_follows hplan h
  constructor
  case posted =>
    intro e he
    obtain ⟨piece, hpiece, hrequest⟩ := List.mem_map.mp (hbegins.subset (List.mem_map_of_mem he))
    rw [← hrequest]
    exact ⟨rfl, length_of_mem_filePieces hpiece⟩
  case begins =>
    rw [added_eq, ← flatten_filePieces content, ← flatMap_body w full]
    exact hbegins.flatMap _
  case last =>
    intro before e after hlog hfails
    obtain ⟨hafter, rfl⟩ := eq_nil_of_fails h (strict_appendDemands hplan) hlog hfails
    exact ⟨hafter, hcode⟩
  case code => cases all <;> simp [hcode]
  case whole =>
    intro hzero
    obtain rfl : all = true := by
      cases all with
      | true => rfl
      | false => cases hcode.symm.trans hzero
    obtain ⟨o, length, hseen, hstarts, htext⟩ := hdone rfl
    refine ⟨?_, o, length, find?_status h hseen, hstarts, htext⟩
    rw [added_eq, hequal rfl, flatMap_body, flatten_filePieces]

theorem appends_of_ends {st : Store} (hresolve : st.options.resolve path = .ok full) {x : Except Failure String}
    (h : (w.live (append st path name (.file content)).run).Ends log x) :
    Appends w full path content log (outputOf x).report := by
  cases appendsFile_of_ends hresolve h with
  | refused => exact appends_nil rfl
  | stopped hplan follows => exact appends_of_follows hplan follows rfl fun h => absurd h Bool.false_ne_true
  | done hplan follows seen starts =>
    exact appends_of_follows hplan follows rfl fun _ => ⟨_, _, seen, starts, rfl⟩

/-- What a run of the command comes to, with a target or without one. -/
def Outcomes : Option (WebHdfs × String) → String → Bytes → Exchanges → Report → Prop
  | some (w, full), path, content, command, report => Appends w full path content command report
  | none, _, _, command, report => command = [] ∧ report.code = 1

/-- A failure before anything was sent is an outcome in any case. -/
theorem outcomes_nil (target : Option (WebHdfs × String)) {report : Report} (h : report.code = 1) :
    Outcomes target path content [] report := by
  cases target with
  | none => exact ⟨rfl, h⟩
  | some target => exact appends_nil h

variable {loaded : Settings.Loaded}

theorem target?_eq {o : Options} (hload : Settings.load settingsFile = .ok loaded)
    (ho : Options.ofValue loaded.settings.storage.options = .ok o) (hw : WebHdfs.ofOptions o = .ok w) :
    target? settingsFile path = (o.resolve path).toOption.map (w, ·) := by
  cases hresolve : o.resolve path <;> simp [target?, hload, ho, hw, hresolve, Except.toOption]

theorem Runs.outcomes {command : Exchanges} {output : Output}
    (h : Runs loaded.settings.storage.options path name files command output)
    (hload : Settings.load settingsFile = .ok loaded) (hfile : files name = .file content) :
    Outcomes (target? settingsFile path) path content command output.report := by
  cases h with
  | failed f => exact outcomes_nil _ rfl
  | ran hoptions hclient hends =>
    rw [hfile] at hends
    rw [target?_eq hload hoptions hclient]
    cases hresolve : Options.resolve _ path with
    | error e =>
      obtain ⟨rfl, f, rfl⟩ := appends_nothing_of_ends hresolve hends
      exact ⟨rfl, rfl⟩
    | ok full => exact appends_of_ends hresolve hends

theorem outcomes_of_ends (hfile : files name = .file content) {report : Report}
    (h : (conversation now settingsFile ["append", path, name] files).Ends log report) :
    (∀ e ∈ log.take 2, e.1.method = .get) ∧
      Outcomes (target? settingsFile path) path content (log.drop 2) report := by
  rw [conversation] at h
  cases hload : Settings.load settingsFile with
  | error e =>
    rw [hload] at h
    obtain ⟨rfl, rfl⟩ := Program.ends_done_iff.mp h
    exact ⟨by simp, outcomes_nil _ rfl⟩
  | ok loaded =>
    rw [hload] at h
    obtain ⟨sent, output, rest, rfl, hconverse, hdone⟩ := Program.ends_bind_iff.mp h
    obtain ⟨rfl, rfl⟩ := Program.ends_done_iff.mp hdone
    rw [List.append_nil]
    obtain ⟨hget, hruns⟩ := ends_converse hconverse
    exact ⟨hget, hruns.outcomes hload hfile⟩

/-- Appending a file loses nothing of it, whatever answers there are. Of the requests of a run the first two reach the
store and only read, the others are those of the command: they go to the client and the path to which the settings
lead, and none goes out if they lead nowhere. Over a link these are the requests that go on record. -/
theorem append_loses_nothing (hfile : files name = .file content) (now : Int) (settingsFile : LocalFile)
    (path : String) :
    (∀ log report, (conversation now settingsFile ["append", path, name] files).Ends log report →
      (∀ e ∈ log.take 2, e.1.method = .get) ∧
      Outcomes (target? settingsFile path) path content (log.drop 2) report) ∧
    ∀ site : Site, let left := start now settingsFile ["append", path, name] files site
      let log := exchanges now settingsFile ["append", path, name] files site.link
      (conversation now settingsFile ["append", path, name] files).Ends log left.1 ∧
        OnRecord site.link log left.2.2.link := by
  constructor
  · intro log report hends
    exact outcomes_of_ends hfile hends
  · intro site
    exact ⟨ends_exchanges settingsFile site, onRecord_exchanges settingsFile site⟩

def oneSettings : LocalFile :=
  .file (Text.encode "[\"\",[\"s\",\"hdfs\",\x7b\"hdfsnamenode\":\"[::1]\"\x7d]]")

def oneFiles (_ : String) : LocalFile := .file [7]

/-- Nothing is at the target at first, and all else is granted. -/
def oneSite : Site :=
  let answer (status : Nat) (body : String) : Reply := .answer status (Text.encode body) none none
  ⟨[], .ofReplies true
    [ answer 200 "\x7b\"FileStatus\":\x7b\"type\":\"DIRECTORY\"\x7d\x7d",
      answer 200 "\x7b\"FileStatuses\":\x7b\x7d\x7d", answer 200 "\x7b\"boolean\":true\x7d",
      answer 404 "", answer 201 "", answer 200 "" ]⟩

def oneClient : WebHdfs :=
  ⟨⟨"http", [], [], some (.ipv6 [0, 0, 0, 0, 0, 0, 0, 1]), none, .segments [[]], none, none⟩, "hdfs"⟩

theorem append_loses_nothing_created :
    let log := exchanges 0 oneSettings ["append", "/a", "f"] oneFiles oneSite.link
    oneFiles "f" = .file [7] ∧
      (conversation 0 oneSettings ["append", "/a", "f"] oneFiles).Ends log ⟨0, Text.encode "/a is now 1 bytes\n", ""⟩ ∧
      target? oneSettings "/a" = some (oneClient, "/tmp/hdfs-registry/a") ∧
      added (log.drop 2) = [7] ∧
      ∀ e ∈ additions (log.drop 2), e.1 = oneClient.appendRequest "/tmp/hdfs-registry/a" e.1.body := by
  intro log
  have hfile : oneFiles "f" = .file [7] := rfl
  have hreport : (start 0 oneSettings ["append", "/a", "f"] oneFiles oneSite).1 =
      ⟨0, Text.encode "/a is now 1 bytes\n", ""⟩ := by decide +kernel
  have htarget : target? oneSettings "/a" = some (oneClient, "/tmp/hdfs-registry/a") := by decide +kernel
  obtain ⟨hall, hlink⟩ := append_loses_nothing hfile 0 oneSettings "/a"
  have hends := (hlink oneSite).1
  have houtcomes := (hall _ _ hends).2
  rw [htarget] at houtcomes
  have happends : Appends oneClient "/tmp/hdfs-registry/a" "/a" [7] (log.drop 2) _ := houtcomes
  rw [hreport] at hends happends
  exact ⟨hfile, hends, htarget, (happends.whole rfl).1, fun e he => (happends.posted e he).1⟩

end RootedStore.Cli
