import RootedStore.Proofs.WebHdfs.Requests
import RootedStore.Proofs.WebHdfs.WirePath

/-!
# Renaming over HTTP

A renaming that is refused comes with no reason, so the client asks for the status of both paths, and
removes the target and tries again if both are files. What is removed is the target and nothing else; that
spares the source as long as the target is not the source itself.
-/
namespace RootedStore.WebHdfs

open RootedStore.Json (Tree)

variable {w : WebHdfs} {path source target : String} {α : Type}

def renameRequest (w : WebHdfs) (source target : String) : Request :=
  request .put (w.url source "RENAME" [("destination", target)])

theorem ends_tryRename {log : Exchanges} {x : Except ClientError Bool}
    (h : (w.tryRename source target).run.Ends log x) :
    ∃ o, log = [⟨w.renameRequest source target, o⟩] ∧ ∀ b, x = .ok b ↔ Says boolean? o b := by
  obtain ⟨o, rfl, rfl⟩ := ends_ask_iff.mp h
  exact ⟨o, rfl, fun _ => says_iff⟩

theorem ends_status {log : Exchanges} {x : Except ClientError FileStatus}
    (h : (w.status path).run.Ends log x) :
    ∃ o, log = [⟨w.statusRequest path, o⟩] ∧
      ∀ found, x = .ok found → ∃ reported, Says status? o reported ∧ reported.isDir = found.isDir := by
  obtain ⟨o, rfl, rfl⟩ := (asks_status _ _).mp h
  refine ⟨o, rfl, ?_⟩
  intro found hfound
  obtain ⟨reported, hreported, rfl⟩ := statusReply_eq_ok_iff.mp hfound
  exact ⟨reported, hreported, rfl⟩

theorem ends_delete {recursive : Bool} {log : Exchanges} {x : Except ClientError Unit}
    (h : (w.delete path recursive).run.Ends log x) : ∃ o, log = [⟨w.deleteRequest path recursive, o⟩] := by
  obtain ⟨o, rfl, _⟩ := carries_grant.single h
  exact ⟨o, rfl⟩

/-- A renaming was refused, and both paths were reported to be files after that. -/
inductive BothFiles (w : WebHdfs) (source target : String) : Exchanges → Prop where
  | intro {o₁ o₂ o₃ : Outcome} {found other : WireStatus} (refused : Says boolean? o₁ false)
      (sourceFound : Says status? o₂ found) (sourceFile : found.isDir = false)
      (targetFound : Says status? o₃ other) (targetFile : other.isDir = false) :
      BothFiles w source target
        [⟨w.renameRequest source target, o₁⟩, ⟨w.statusRequest source, o₂⟩, ⟨w.statusRequest target, o₃⟩]

/-- The ways in which a renaming goes. -/
inductive Renames (w : WebHdfs) (source target : String) : Exchanges → Except ClientError Unit → Prop where
  | asked {o : Outcome} {outcome : Except ClientError Unit}
      (answer : outcome = .ok () ↔ Says boolean? o true) :
      Renames w source target [⟨w.renameRequest source target, o⟩] outcome
  | refused {o : Outcome} {looks : Exchanges} {e : ClientError} (answer : Says boolean? o false)
      (looksOnly : ∀ x ∈ looks, x.1.method = .get) :
      Renames w source target (⟨w.renameRequest source target, o⟩ :: looks) (.error e)
  | stuck {before : Exchanges} {o : Outcome} {e : ClientError} (files : BothFiles w source target before) :
      Renames w source target (before ++ [⟨w.deleteRequest target false, o⟩]) (.error e)
  | again {before : Exchanges} {o o' : Outcome} {outcome : Except ClientError Unit}
      (files : BothFiles w source target before) (answer : outcome = .ok () ↔ Says boolean? o' true) :
      Renames w source target
        (before ++ [⟨w.deleteRequest target false, o⟩, ⟨w.renameRequest source target, o'⟩]) outcome

/-- What a renaming does once it was refused and both paths are files. -/
def replaceTarget (w : WebHdfs) (source target : String) (failed : ClientError) : Remote Unit := do
  w.delete target false
  if ← w.tryRename source target then return
  throw failed

/-- What a renaming does once it was refused. -/
def afterRefusal (w : WebHdfs) (source target : String) (failed : ClientError) : Remote Unit := do
  let found ← w.status source
  match ← ExceptT.lift (w.status target).run with
  | .ok other =>
    if other.isDir || found.isDir then throw (.alreadyExists target)
    w.replaceTarget source target failed
  | .error (.notFound _) => throw failed
  | .error e => throw e

theorem rename_eq (w : WebHdfs) (source target : String) : w.rename source target = (do
    let failed : ClientError :=
      .exception "IOException" ("rename " ++ source ++ " -> " ++ target ++ " failed")
    if ← w.tryRename source target then return
    w.afterRefusal source target failed) := rfl

variable {log : Exchanges} {outcome : Except ClientError Unit} {failed : ClientError}

/-- A renaming that is asked for ends there, unless it is refused. -/
theorem ends_unless_refused {refused : Remote Unit}
    (h : (w.tryRename source target >>= fun renamed => if renamed = true then pure () else refused).run.Ends
      log outcome) :
    ∃ o, (log = [⟨w.renameRequest source target, o⟩] ∧ (outcome = .ok () ↔ Says boolean? o true)) ∨
      ∃ rest, log = ⟨w.renameRequest source target, o⟩ :: rest ∧ Says boolean? o false ∧
        refused.run.Ends rest outcome := by
  rcases Program.ends_except_bind_iff.mp h with ⟨e, ha, rfl⟩ | ⟨first, renamed, rest, rfl, ha, hd⟩
  · obtain ⟨o, rfl, ho⟩ := ends_tryRename ha
    refine ⟨o, .inl ⟨rfl, ?_⟩⟩
    rw [← ho]
    exact ⟨nofun, nofun⟩
  · obtain ⟨o, rfl, ho⟩ := ends_tryRename ha
    have hsays := (ho renamed).mp rfl
    cases renamed with
    | true =>
      obtain ⟨rfl, rfl⟩ := Program.ends_done_iff.mp hd
      exact ⟨o, .inl ⟨rfl, iff_of_true rfl hsays⟩⟩
    | false => exact ⟨o, .inr ⟨rest, rfl, hsays, hd⟩⟩

theorem ends_replaceTarget (h : (w.replaceTarget source target failed).run.Ends log outcome) :
    ∃ o, (log = [⟨w.deleteRequest target false, o⟩] ∧ ∃ e, outcome = .error e) ∨
      ∃ o', log = [⟨w.deleteRequest target false, o⟩, ⟨w.renameRequest source target, o'⟩] ∧
        (outcome = .ok () ↔ Says boolean? o' true) := by
  rcases Program.ends_except_bind_iff.mp h with ⟨e, ha, rfl⟩ | ⟨first, _, rest, rfl, ha, hd⟩
  · obtain ⟨o, rfl⟩ := ends_delete ha
    exact ⟨o, .inl ⟨rfl, e, rfl⟩⟩
  · obtain ⟨o, rfl⟩ := ends_delete ha
    obtain ⟨o', ⟨rfl, hanswer⟩ | ⟨last, rfl, hrefused, hthrow⟩⟩ := ends_unless_refused hd
    · exact ⟨o, .inr ⟨o', rfl, hanswer⟩⟩
    · obtain ⟨rfl, rfl⟩ := Program.ends_done_iff.mp hthrow
      refine ⟨o, .inr ⟨o', rfl, nofun, fun htrue => ?_⟩⟩
      cases htrue.unique hrefused

/-- After a refusal the client only looks, unless both paths are files. -/
theorem ends_afterRefusal (h : (w.afterRefusal source target failed).run.Ends log outcome) :
    ((∀ x ∈ log, x.1.method = .get) ∧ ∃ e, outcome = .error e) ∨
      ∃ o₂ o₃ found other rest, log = [⟨w.statusRequest source, o₂⟩, ⟨w.statusRequest target, o₃⟩] ++ rest ∧
        Says status? o₂ found ∧ found.isDir = false ∧ Says status? o₃ other ∧ other.isDir = false ∧
        (w.replaceTarget source target failed).run.Ends rest outcome := by
  have hget : ∀ {o : Outcome} {path : String}, ∀ x ∈ ([⟨w.statusRequest path, o⟩] : Exchanges),
      x.1.method = .get := by
    intro o path x hx
    rw [List.mem_singleton.mp hx]
    rfl
  rcases Program.ends_except_bind_iff.mp h with ⟨e, ha, rfl⟩ | ⟨first, found, rest, rfl, ha, hd⟩
  · obtain ⟨o₂, rfl, _⟩ := ends_status ha
    exact .inl ⟨hget, e, rfl⟩
  · obtain ⟨o₂, rfl, ho₂⟩ := ends_status ha
    obtain ⟨reported, hfound, hfile⟩ := ho₂ found rfl
    obtain ⟨second, x, rest, rfl, ht, hd⟩ := Program.ends_lift_bind_iff.mp hd
    obtain ⟨o₃, rfl, ho₃⟩ := ends_status ht
    have hlooks : ∀ y ∈ ([⟨w.statusRequest source, o₂⟩] ++ [⟨w.statusRequest target, o₃⟩] : Exchanges),
        y.1.method = .get := by
      intro y hy
      rcases List.mem_append.mp hy with hy | hy
      · exact hget y hy
      · exact hget y hy
    cases x with
    | error e =>
      have hthrow : rest = [] ∧ ∃ e, outcome = .error e := by
        cases e with
        | notFound _ | _ =>
          obtain ⟨hrest, hout⟩ := Program.ends_done_iff.mp hd
          exact ⟨hrest, _, hout⟩
      obtain ⟨rfl, herror⟩ := hthrow
      exact .inl ⟨hlooks, herror⟩
    | ok other =>
      obtain ⟨reported', hother, hfile'⟩ := ho₃ other rfl
      dsimp only at hd
      split at hd
      · obtain ⟨rfl, rfl⟩ := Program.ends_done_iff.mp hd
        exact .inl ⟨hlooks, _, rfl⟩
      · rename_i hdirs
        have hdirs : other.isDir = false ∧ found.isDir = false := by simpa using hdirs
        exact .inr ⟨o₂, o₃, reported, reported', rest, rfl, hfound, hfile.trans hdirs.2, hother,
          hfile'.trans hdirs.1, hd⟩

theorem renames_of_ends (h : (w.rename source target).run.Ends log outcome) :
    Renames w source target log outcome := by
  rw [rename_eq] at h
  obtain ⟨o₁, ⟨rfl, hanswer⟩ | ⟨rest, rfl, hrefused, hd⟩⟩ := ends_unless_refused h
  · exact .asked hanswer
  · rcases ends_afterRefusal hd with ⟨hlooks, e, rfl⟩ |
      ⟨o₂, o₃, found, other, last, rfl, hfound, hfile, hother, hfile', hr⟩
    · exact .refused hrefused hlooks
    · have hfiles : BothFiles w source target _ := .intro hrefused hfound hfile hother hfile'
      obtain ⟨o, ⟨rfl, e, rfl⟩ | ⟨o', rfl, hanswer⟩⟩ := ends_replaceTarget hr
      · exact .stuck hfiles
      · exact .again hfiles hanswer

theorem ends_status_of_says {o : Outcome} {found : WireStatus} (h : Says status? o found) :
    (w.status path).run.Ends [⟨w.statusRequest path, o⟩] (.ok (found.toStatus (Path.baseName path))) :=
  (asks_status _ _).mpr ⟨o, rfl, (statusReply_eq_ok_iff.mpr ⟨found, h, rfl⟩).symm⟩

/-- The report of a renaming that was refused without a reason. -/
def renameFailed (source target : String) : ClientError :=
  .exception "IOException" ("rename " ++ source ++ " -> " ++ target ++ " failed")

/-- A renaming goes on to remove the target once both paths are files. -/
theorem ends_rename_of_bothFiles {before rest : Exchanges} (files : BothFiles w source target before)
    (h : (w.replaceTarget source target (renameFailed source target)).run.Ends rest outcome) :
    (w.rename source target).run.Ends (before ++ rest) outcome := by
  cases files with
  | intro refused sourceFound sourceFile targetFound targetFile =>
    rename_i o₁ o₂ o₃ found other
    rw [rename_eq]
    refine Program.ends_except_bind_iff.mpr (.inr ⟨[⟨_, o₁⟩], false, ⟨w.statusRequest source, o₂⟩ ::
      ⟨w.statusRequest target, o₃⟩ :: rest, rfl, ends_ask_iff.mpr ⟨o₁, rfl, (says_iff.mpr refused).symm⟩, ?_⟩)
    refine Program.ends_except_bind_iff.mpr (.inr ⟨_, _, ⟨w.statusRequest target, o₃⟩ :: rest, rfl,
      ends_status_of_says sourceFound, ?_⟩)
    refine Program.ends_lift_bind_iff.mpr ⟨_, _, rest, rfl, ends_status_of_says targetFound, ?_⟩
    have hdirs : ¬ ((other.toStatus (Path.baseName target)).isDir ||
        (found.toStatus (Path.baseName source)).isDir) = true := by
      change ¬ (other.isDir || found.isDir) = true
      rw [targetFile, sourceFile]
      exact nofun
    dsimp only
    rw [if_neg hdirs]
    exact h

/-- The target is removed whenever both paths are files, whatever comes of that. -/
theorem exists_ends_of_bothFiles {before : Exchanges} (files : BothFiles w source target before) (o : Outcome) :
    ∃ after outcome, (w.rename source target).run.Ends
      (before ++ ⟨w.deleteRequest target false, o⟩ :: after) outcome := by
  have hreplace : ∀ failed, ∃ next, (w.replaceTarget source target failed).run =
      .ask (w.deleteRequest target false) next := fun failed => ⟨_, rfl⟩
  obtain ⟨next, hnext⟩ := hreplace (renameFailed source target)
  obtain ⟨after, outcome, hafter⟩ := Program.exists_ends (fun _ => ⟨.error .unanswered⟩) (next o)
  refine ⟨after, outcome, ends_rename_of_bothFiles files ?_⟩
  rw [hnext]
  exact .ask hafter

theorem says_refused : Says boolean? (answerOf "\x7b\"boolean\":false\x7d") false :=
  ⟨_, rfl, rfl, by decide +kernel⟩

theorem says_file : Says status? (answerOf "\x7b\"FileStatus\":\x7b\"type\":\"FILE\"\x7d\x7d") ⟨"", 0, 0, "FILE"⟩ :=
  ⟨_, rfl, rfl, by decide +kernel⟩

/-- Whether a renaming was granted. -/
def Granted (w : WebHdfs) (source target : String) (log : Exchanges) : Prop :=
  ∃ e ∈ log, e.1 = w.renameRequest source target ∧ Says boolean? e.2 true

theorem not_granted_of_get (h : ∀ x ∈ log, x.1.method = .get) : ¬ Granted w source target log := by
  rintro ⟨e, he, hrequest, _⟩
  have hmethod := h e he
  rw [hrequest] at hmethod
  cases hmethod

theorem granted_cons {e : Sigma fun _ : Request => Outcome} : Granted w source target (e :: log) ↔
    (e.1 = w.renameRequest source target ∧ Says boolean? e.2 true) ∨ Granted w source target log := by
  simp [Granted]

theorem granted_append {log' : Exchanges} : Granted w source target (log ++ log') ↔
    Granted w source target log ∨ Granted w source target log' := by
  simp only [Granted, List.mem_append, or_and_right, exists_or]

theorem BothFiles.not_granted (h : BothFiles w source target log) : ¬ Granted w source target log := by
  cases h with
  | intro refused =>
    rw [granted_cons]
    rintro (⟨_, htrue⟩ | hlooks)
    · cases htrue.unique refused
    · refine not_granted_of_get ?_ hlooks
      intro x hx
      rcases List.mem_pair.mp hx with rfl | rfl
      · rfl
      · rfl

theorem BothFiles.not_delete (h : BothFiles w source target log) : ∀ e ∈ log, e.1.method ≠ .delete := by
  cases h with
  | intro =>
    intro e he
    simp only [List.mem_cons, List.not_mem_nil, or_false] at he
    rcases he with rfl | rfl | rfl
    · exact nofun
    · exact nofun
    · exact nofun

/-- What the exchanges of a renaming keep to. -/
structure Careful (w : WebHdfs) (source target : String) (log : Exchanges)
    (outcome : Except ClientError Unit) : Prop where
  deletesOnce : log.countP (fun e => e.1.method = .delete) ≤ 1
  /-- Only the target is removed, not recursively, and only once both paths are known to be files. -/
  deletes : ∀ before e after, log = before ++ e :: after → e.1.method = .delete →
    e.1 = w.deleteRequest target false ∧ BothFiles w source target before
  succeeds : outcome = .ok () ↔ Granted w source target log

/-- Exchanges with one removal in them, at a known place. -/
theorem careful_of_bothFiles {before after : Exchanges} {o : Outcome}
    (files : BothFiles w source target before) (hafter : ∀ e ∈ after, e.1.method ≠ .delete)
    (hsucceeds : outcome = .ok () ↔ Granted w source target after) :
    Careful w source target (before ++ ⟨w.deleteRequest target false, o⟩ :: after) outcome := by
  have hnone : ∀ {es : Exchanges}, (∀ e ∈ es, e.1.method ≠ .delete) →
      es.countP (fun e => e.1.method = .delete) = 0 := by
    intro es hes
    exact List.countP_eq_zero.mpr fun e he => by simpa using hes e he
  constructor
  · rw [List.countP_append, List.countP_cons, hnone files.not_delete, hnone hafter]
    split
    · exact Nat.le_refl _
    · exact Nat.zero_le _
  · intro first e last hsplit he
    rcases List.append_eq_append_iff.mp hsplit with ⟨more, hfirst, hrest⟩ | ⟨more, hbefore, hrest⟩
    · cases more with
      | nil =>
        rw [List.append_nil] at hfirst
        obtain ⟨rfl, _⟩ := List.cons.inj hrest
        exact ⟨rfl, hfirst ▸ files⟩
      | cons d more =>
        -- a second removal would come after the first one
        have hmem : e ∈ after := by
          rw [(List.cons.inj hrest).2]
          exact List.mem_append_right _ List.mem_cons_self
        exact absurd he (hafter e hmem)
    · cases more with
      | nil =>
        rw [List.append_nil] at hbefore
        obtain ⟨rfl, _⟩ := List.cons.inj hrest
        exact ⟨rfl, hbefore ▸ files⟩
      | cons d more =>
        obtain ⟨rfl, _⟩ := List.cons.inj hrest
        have hmem : e ∈ before := by
          rw [hbefore]
          exact List.mem_append_right _ List.mem_cons_self
        exact absurd he (files.not_delete e hmem)
  · have hdelete : ¬ (w.deleteRequest target false = w.renameRequest source target ∧
        Says boolean? o true) := fun h => by cases congrArg Request.method h.1
    rw [granted_append, granted_cons, or_iff_right files.not_granted, or_iff_right hdelete, hsucceeds]

/-- Exchanges without any removal. -/
theorem careful_of_not_delete (hlog : ∀ e ∈ log, e.1.method ≠ .delete)
    (hsucceeds : outcome = .ok () ↔ Granted w source target log) : Careful w source target log outcome := by
  constructor
  · have hnone : log.countP (fun e => e.1.method = .delete) = 0 :=
      List.countP_eq_zero.mpr fun e he => by simpa using hlog e he
    omega
  · rintro before e after rfl he
    exact absurd he (hlog e (List.mem_append_right _ List.mem_cons_self))
  · exact hsucceeds

theorem careful_of_renames (h : Renames w source target log outcome) : Careful w source target log outcome := by
  have hone : ∀ {o : Outcome}, Granted w source target [⟨w.renameRequest source target, o⟩] ↔
      Says boolean? o true := by
    intro o
    simp [Granted]
  cases h with
  | asked answer =>
    refine careful_of_not_delete ?_ (answer.trans hone.symm)
    intro e he
    rw [List.mem_singleton.mp he]
    exact nofun
  | refused answer looksOnly =>
    refine careful_of_not_delete ?_ ?_
    · intro e he
      rcases List.mem_cons.mp he with rfl | he
      · exact nofun
      · rw [looksOnly e he]
        exact nofun
    · rw [granted_cons, or_iff_left (not_granted_of_get looksOnly)]
      refine ⟨nofun, fun htrue => ?_⟩
      cases htrue.2.unique answer
  | stuck files =>
    refine careful_of_bothFiles files (by simp) ?_
    simp [Granted]
  | again files answer =>
    refine careful_of_bothFiles files ?_ (answer.trans hone.symm)
    intro e he
    rw [List.mem_singleton.mp he]
    exact nofun

/-- Different canonical paths without dropped characters have different URLs. -/
theorem eq_of_url_path_eq {f g : String} (hf : Path.normalize f = f) (hg : Path.normalize g = g)
    (hvf : IsVisible f.toList) (hvg : IsVisible g.toList) {op op' : String}
    {parameters parameters' : List (String × String)}
    (h : (w.url f op parameters).path = (w.url g op' parameters').path) : f = g := by
  have htexts := congrArg UrlPath.text h
  rw [text_url_of_isVisible w hf hvf, text_url_of_isVisible w hg hvg] at htexts
  exact eq_of_wireSegments_eq hf hg (List.append_cancel_left htexts)

/-- Whatever is answered, a renaming removes nothing but the target, once at most, not recursively, and only
after it was refused and both paths were reported to be files. It succeeds exactly if a request to rename
was granted. For canonical paths without dropped characters, what is removed is the source exactly if the
source is the target. -/
theorem rename_careful (h : (w.rename source target).run.Ends log outcome) :
    Careful w source target log outcome ∧
      (Path.normalize source = source → Path.normalize target = target → IsVisible source.toList →
        IsVisible target.toList → ∀ e ∈ log, e.1.method = .delete → ∀ op parameters,
          e.1.url.path = (w.url source op parameters).path ↔ source = target) := by
  have hcareful := careful_of_renames (renames_of_ends h)
  refine ⟨hcareful, ?_⟩
  intro hs ht hvs hvt e he hdelete op parameters
  obtain ⟨before, after, rfl⟩ := List.append_of_mem he
  rw [(hcareful.deletes before e after rfl hdelete).1]
  constructor
  · intro hpath
    exact (eq_of_url_path_eq ht hs hvt hvs hpath).symm
  · rintro rfl
    rfl

theorem bothFiles_sample (source target : String) : BothFiles sample source target
    [⟨sample.renameRequest source target, answerOf "\x7b\"boolean\":false\x7d"⟩,
      ⟨sample.statusRequest source, answerOf "\x7b\"FileStatus\":\x7b\"type\":\"FILE\"\x7d\x7d"⟩,
      ⟨sample.statusRequest target, answerOf "\x7b\"FileStatus\":\x7b\"type\":\"FILE\"\x7d\x7d"⟩] :=
  .intro says_refused says_file rfl says_file rfl

/-- Where a file is in the way of another one it is removed, and the other one is not. -/
theorem rename_careful_replaced :
    ∃ log outcome, (sample.rename "/a" "/b").run.Ends log outcome ∧
      Careful sample "/a" "/b" log outcome ∧ (∃ e ∈ log, e.1.method = .delete) ∧
      ∀ e ∈ log, e.1.method = .delete → e.1.url.path ≠ (sample.url "/a" "RENAME" []).path := by
  obtain ⟨after, outcome, hrun⟩ := exists_ends_of_bothFiles (bothFiles_sample "/a" "/b") (.error .unanswered)
  have ⟨hcareful, hspared⟩ := rename_careful hrun
  refine ⟨_, outcome, hrun, hcareful, ⟨_, List.mem_append_right _ List.mem_cons_self, rfl⟩, ?_⟩
  intro e he hdelete hpath
  have hsame := (hspared rfl rfl (by simp [IsVisible, isBreak]) (by simp [IsVisible, isBreak]) e he hdelete
    "RENAME" []).mp hpath
  exact absurd hsame (by decide)

/-- A file that is to be renamed to itself is removed if the request is refused. -/
theorem rename_removes_source :
    ¬ ∀ (w : WebHdfs) (source target : String) (log : Exchanges) (outcome : Except ClientError Unit),
        (w.rename source target).run.Ends log outcome → ∀ e ∈ log, e.1.method = .delete →
          ∀ op parameters, e.1.url.path ≠ (w.url source op parameters).path := by
  intro hclaim
  obtain ⟨after, outcome, hrun⟩ := exists_ends_of_bothFiles (bothFiles_sample "/a" "/a") (.error .unanswered)
  exact hclaim _ _ _ _ _ hrun _ (List.mem_append_right _ List.mem_cons_self) rfl "DELETE" [] rfl

end RootedStore.WebHdfs
