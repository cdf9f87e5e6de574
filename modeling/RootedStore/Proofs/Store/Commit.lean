import RootedStore.Proofs.Options
import RootedStore.Proofs.Store.History

/-!
# What a commit that succeeds says

A commit succeeds if the handle was closed, or if there was none left to close. There is none left after
a commit that failed, and such a commit leaves the session open. So the success of the first commit means
that the object was closed, and the success of a later one means that it never was.
-/
namespace RootedStore

def Episode.Closes (e : Episode) : Prop := ∃ handle, ⟨.call (.close handle), .ok ()⟩ ∈ e.log

namespace WriteSession

variable {s s' : WriteSession} {log : Work.Log} {outcome : Except StorageError Unit}

/-- Releasing the handle closes it if there is one and no error is reported. -/
theorem closes_releaseHandle_iff (h : s.releaseHandle.Ends log (outcome, s')) :
    (∃ handle, ⟨.call (.close handle), .ok ()⟩ ∈ log) ↔ s.handle ≠ none ∧ outcome = .ok () := by
  rcases (ends_releaseHandle h).2 with ⟨hn, rfl, _⟩ | ⟨held, r, hh, hc, rfl⟩
  · simp [hn]
  · rw [mapError_eq_ok_iff]
    rcases Call.ends_guarded_iff.mp hc with ⟨why, rfl, rfl⟩ | rfl
    · simp
    · cases r with
      | ok _ => simp [hh]
      | error e => simp

end WriteSession

namespace Episode

variable {e : Episode}

theorem IsRun.committed (h : e.IsRun) (hr : e.request = .use .commit) (ho : e.outcome = .ok ()) :
    e.before.state = .opened ∧ e.after.state = .committed := by
  rw [IsRun, hr] at h
  rcases WriteSession.ends_commit h with ⟨hs, released, _, ⟨_, ha⟩ | ⟨_, he, _⟩⟩ | ⟨_, _, he, _⟩
  · exact ⟨hs, by rw [ha]⟩
  · rw [ho] at he
    cases he
  · rw [ho] at he
    cases he

theorem IsRun.closes_commit_iff (h : e.IsRun) (hr : e.request = .use .commit) :
    e.Closes ↔ e.before.handle ≠ none ∧ e.outcome = .ok () := by
  rw [IsRun, hr] at h
  rcases WriteSession.ends_commit h with ⟨_, released, hrelease, _⟩ | ⟨_, hlog, he, _⟩
  · exact WriteSession.closes_releaseHandle_iff hrelease
  · simp [Closes, hlog, he]

theorem Closes.mem_calls (h : e.Closes) : ∃ handle, .close handle ∈ e.calls := by
  obtain ⟨handle, hc⟩ := h
  exact ⟨handle, Work.mem_calls hc⟩

theorem IsRun.not_closes (h : e.IsRun) (hh : e.before.handle = none) : ¬ e.Closes := by
  intro hc
  obtain ⟨handle, hmem⟩ := hc.mem_calls
  rcases WriteSession.mem_mayCall (h.turn.calls.subset hmem) with ⟨held, hsome, _⟩ | ⟨_, _, hcall⟩
  · simp [hh] at hsome
  · cases hcall

/-- Whoever closed the handle, the session is not open any more. -/
theorem IsRun.ne_opened (h : e.IsRun) (hc : e.Closes) : e.after.state ≠ .opened := by
  by_cases hr : e.request = .use .commit
  · rw [(h.committed hr ((h.closes_commit_iff hr).mp hc).2).2]
    nofun
  · obtain ⟨handle, hmem⟩ := hc.mem_calls
    rcases WriteSession.mem_mayCall (h.turn.calls.subset hmem) with
      ⟨_, _, ⟨_, _, hcall⟩ | ⟨hs, _⟩⟩ | ⟨_, _, hcall⟩
    · cases hcall
    · exact h.turn.ne_opened hs hr
    · cases hcall

end Episode

namespace WriteSession

variable {s : WriteSession} {before after : List Episode} {e : Episode}

/-- A session that is still open was open all along. -/
theorem History.opened_before (h : s.History (before ++ e :: after)) (he : e.before.state = .opened) :
    ∀ f ∈ before, f.before.state = .opened ∧ f.after.state = .opened := by
  intro f hf
  obtain ⟨first, rest, rfl⟩ := List.append_of_mem hf
  rw [List.append_assoc] at h
  have ⟨_, hrun, hlater⟩ := h.split
  have hafter : f.after.state = .opened := Decidable.byContradiction fun hne =>
    hlater.holds (p := fun s => s.state ≠ .opened) hne (fun _ _ hg => hg.turn.moves.ne_opened) he
  have hbefore : f.before.state = .opened := Decidable.byContradiction fun hne =>
    hrun.turn.moves.ne_opened hne hafter
  exact ⟨hbefore, hafter⟩

/-- An open session keeps its handle as long as nobody tries to commit it. -/
theorem History.handle_ne_none (h : s.History (before ++ e :: after)) (hs : s.handle ≠ none)
    (he : e.before.state = .opened) (hno : ∀ f ∈ before, f.request ≠ .use .commit) :
    e.before.handle ≠ none := by
  have hkeeps : e.before.handle ≠ none ∨ e.before.state ≠ .opened := by
    refine h.holds (p := fun s => s.handle ≠ none ∨ s.state ≠ .opened) (.inl hs) ?_
    intro f hf hrun hkeeps
    by_cases hseals : f.Seals
    · exact .inr (hrun.turn.ne_opened hseals (hno f hf))
    · have ⟨hhandle, hstate⟩ := hrun.turn.kept hseals
      rwa [hhandle, hstate]
  exact hkeeps.resolve_right fun hne => hne he

/-- A commit that succeeds says that the handle was closed if it is the first commit of the session, and
that it was not if it is a later one. The commits before it have all failed. -/
theorem History.closes_iff_first_commit (before after : List Episode) {handle : WriteHandle} {path : String}
    {size : UInt64} (h : (start handle path size).History (before ++ e :: after)) (hr : e.request = .use .commit)
    (ho : e.outcome = .ok ()) :
    ((∃ f ∈ before ++ e :: after, f.Closes) ↔ ∀ f ∈ before, f.request ≠ .use .commit) ∧
      ∀ f ∈ before, f.request = .use .commit → f.outcome ≠ .ok () := by
  have ⟨hbefore, hrun, _⟩ := h.split
  have hopened := (hrun.committed hr ho).1
  have hearlier := h.opened_before hopened
  have hfail : ∀ f ∈ before, f.request = .use .commit → f.outcome ≠ .ok () := by
    intro f hf hcommit hok
    have hstate := ((hbefore.isRun hf).committed hcommit hok).2
    rw [(hearlier f hf).2] at hstate
    cases hstate
  refine ⟨⟨?_, ?_⟩, hfail⟩
  · rintro ⟨g, hg, hcloses⟩ f hf hcommit
    have hseals : f.Seals := by
      rw [Episode.Seals, hcommit]
      exact (hearlier f hf).1
    rcases List.mem_append.mp hg with hfirst | hlater
    · exact (hbefore.isRun hfirst).ne_opened hcloses (hearlier g hfirst).2
    · obtain ⟨first, rest, rfl⟩ := List.append_of_mem hf
      have hrunning := h.isRun hg
      rw [List.append_assoc] at h
      have hnone := h.handle_eq_none hseals g (List.mem_append_right rest hlater)
      exact hrunning.not_closes hnone hcloses
  · intro hno
    have hhandle := h.handle_ne_none nofun hopened hno
    exact ⟨e, List.mem_append_right _ List.mem_cons_self, (hrun.closes_commit_iff hr).mpr ⟨hhandle, ho⟩⟩

/-- After a commit that was interrupted the next one succeeds, and the handle is never closed. -/
theorem History.closes_iff_first_commit_retried :
    let skipped := [⟨.interruption, some .cancelled⟩]
    let es := retried ⟨"/a", false⟩ "/a" 0 skipped (.interrupted .cancelled) []
    (start ⟨"/a", false⟩ "/a" 0).History es ∧ ¬ ∃ f ∈ es, f.Closes := by
  have hskip := Call.ends_guarded_iff (c := .close ⟨"/a", false⟩).mpr (.inl ⟨.cancelled, rfl, rfl⟩)
  have h := history_retried hskip "/a" 0 []
  refine ⟨h, fun hcloses => ?_⟩
  have hfirst := (History.closes_iff_first_commit [_, _] [] h rfl rfl).1.mp hcloses
  exact hfirst _ List.mem_cons_self rfl

/-- A commit that fails since the handle cannot be closed, and then one that succeeds without closing it. -/
theorem History.exists_commit_unclosed :
    ¬ ∀ (handle : WriteHandle) (path : String) (size : UInt64) (es : List Episode),
        (start handle path size).History es →
        ∀ e ∈ es, e.request = .use .commit → e.outcome = .ok () → ∃ f ∈ es, f.Closes := by
  intro hclaim
  have hfail : (Call.close ⟨"/a", false⟩).guarded.Ends
      [⟨.interruption, none⟩, ⟨.call (.close ⟨"/a", false⟩), .error (.io "")⟩] (.error (.io "")) :=
    Call.ends_guarded_iff.mpr (.inr rfl)
  have h := history_retried hfail "/a" 0 []
  obtain ⟨f, hf, handle, hcloses⟩ := hclaim _ _ _ _ h _ (List.mem_of_getElem? (i := 2) rfl) rfl rfl
  rcases hf with _ | ⟨_, _ | ⟨_, _ | ⟨_, hf⟩⟩⟩
  · simp at hcloses
  · simp at hcloses
  · simp at hcloses
  · cases hf

end WriteSession

end RootedStore
