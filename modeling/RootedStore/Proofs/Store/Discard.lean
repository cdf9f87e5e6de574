import RootedStore.Proofs.Store.Upload

/-!
# Discarding an upload

Whoever cancels an upload gives it up first and removes the object after that, for the request to which the
session belongs. The object is gone if that request goes on, whatever comes of closing the handle. If the request
is over by then the object stays, with all that was written; and as the session is given up already, it refuses
to be cancelled once more, so it does not remove the object any more.
-/
namespace RootedStore

open Namespace (IsTree client subtree)

namespace Namespace

variable {full : String} {content : Bytes} {modified : Timestamp} {ns mid : Namespace}

/-- Nothing is counted below a file but the file. -/
theorem IsTree.length_subtree_file {nodes : Table Node} (h : IsTree nodes)
    (hf : nodes.find? full = some (.file content modified)) : (subtree nodes full).length ≤ 1 := by
  refine (h.length_subtree_le_iff ⟨_, hf⟩).mpr ?_
  rintro key ⟨node, hnode⟩ hw
  exact h.eq_of_within_file hf rfl hnode hw

theorem client_remove_file {r : (Call.remove full).Reply} (tree : IsTree ns.nodes)
    (hf : ns.node? full = some (.file content modified)) (reply : client (.remove full) ns = (r, mid)) :
    r = .ok () ∧ mid.node? full = none ∨ r = .error (injected .remove) := by
  rw [client] at reply
  split at reply
  · rename_i kind hkind
    obtain ⟨hkind, _⟩ := Option.filter_eq_some_iff.mp hkind
    cases hkind
    exact .inr (congrArg Prod.fst reply).symm
  · have hcontains : ns.nodes.contains full = true := Table.contains_eq_true.mpr ⟨_, hf⟩
    have hne : full ≠ "/" := by
      rintro rfl
      obtain ⟨mode, changed, hroot⟩ := tree.root
      cases hroot.symm.trans hf
    have hlength : ¬ 1 < (subtree ns.nodes full).length := Nat.not_lt.mpr (tree.length_subtree_file hf)
    simp only [serve, remove, hcontains, Bool.not_true, Bool.false_eq_true, if_false, hne, hlength, or_self,
      apply, Prod.mk.injEq] at reply
    obtain ⟨rfl, rfl⟩ := reply
    exact .inl ⟨rfl, by simp [node?, Table.find?_erase]⟩

end Namespace

namespace WriteSession

variable {s : WriteSession} {es done later : List Episode} {e : Episode}

/-- A session that can still be discarded was not cancelled before. -/
theorem History.not_cancel_of_discardable (h : s.History (done ++ e :: later))
    (he : e.before.state.isDiscardable = true) : ∀ f ∈ done, f.request ≠ .use .cancel := by
  intro f hf hcancel
  obtain ⟨before, after, rfl⟩ := List.append_of_mem hf
  rw [List.append_assoc, List.cons_append] at h
  obtain ⟨_, hrun, hafter⟩ := h.split
  have hover : f.after.state.isDiscardable = false := by
    by_cases hseals : f.before.Seals f.request
    · rw [hrun.turn.cancelled hcancel hseals]
      rfl
    · rw [(hrun.turn.kept hseals).2]
      rw [hcancel] at hseals
      exact Bool.eq_false_iff.mpr hseals
  have hstays := hafter.holds (p := fun s => s.state.isDiscardable = false) hover fun g _ hg hs => by
    have hle := hg.turn.moves.isDiscardable_le
    simpa [hs] using hle
  rw [he] at hstays
  cases hstays

theorem History.of_ended (h : s.History es) (hs : s.state = .committed ∨ s.state = .cancelled)
    (hh : s.handle = none) : ∀ e ∈ es, e.log = [] ∧ e.outcome = s.verdict e.request ∧ e.after = s := by
  induction es with
  | nil => exact fun _ he => nomatch he
  | cons e es ih =>
    obtain ⟨rfl, hrun, hrest⟩ := h
    rw [Episode.IsRun, serve_of_ended hs hh] at hrun
    obtain ⟨hlog, hend⟩ := Program.ends_done_iff.mp hrun
    obtain ⟨houtcome, hafter⟩ := Prod.mk.inj hend
    rw [hafter] at hrest
    exact List.forall_mem_cons.mpr ⟨⟨hlog, houtcome, hafter⟩, ih hrest⟩

end WriteSession

/-- Cancelling tries to close the handle, and then asks for the object to be removed. -/
theorem Episode.IsRun.cancels {e : Episode} (h : e.IsRun) (hcancel : e.request = .use .cancel)
    (hopen : e.before.state.isDiscardable = true) :
    e.after.state = .cancelled ∧ e.after.handle = none ∧ ∃ first rest r, e.log = first ++ rest ∧
      (∀ c ∈ Work.calls first, ∃ handle, c = .close handle) ∧
        (Call.remove e.before.path).guarded.Ends rest r ∧ e.outcome = e.before.tolerate r := by
  rw [IsRun, hcancel, WriteSession.serve, WriteSession.cancel_eq, if_pos hopen] at h
  obtain ⟨hafter, first, released, rest, r, hlog, hrelease, hremove, houtcome⟩ := WriteSession.ends_discard h
  refine ⟨by rw [hafter], by rw [hafter], first, rest, r, hlog, ?_, hremove, houtcome⟩
  intro c hc
  obtain ⟨handle, _, rfl⟩ := List.mem_map.mp ((WriteSession.calls_releaseHandle hrelease).subset hc)
  exact ⟨handle, rfl⟩

namespace Upload

variable {st : Store} {u : Upload st} {done : List Episode} {e : Episode} {now : Namespace}

/-- How an upload ends that is cancelled: the object is gone, or the request was over when it was to be removed.
Nothing more is called by the session after that. -/
structure Discards (u : Upload st) (done : List Episode) (e : Episode) (now : Namespace) : Prop where
  outcome : e.outcome = .ok () ∧ now.node? u.full = none ∨
    ∃ why modified, e.outcome = .error (.interrupted why) ∧ ⟨.interruption, some why⟩ ∈ e.log ∧
      now.node? u.full = some (.file (u.content done) modified)
  ended : ∀ es, e.after.History es →
    ∀ f ∈ es, f.log = [] ∧ f.outcome = e.after.verdict f.request ∧ f.after = e.after
  refused : e.after.verdict (.use .cancel) = .error (.writerClosed .cancelled)

/-- An upload that is cancelled is discarded if the request goes on until the object is removed, and only then. -/
theorem discards (h : u.Passes (done ++ [e]) now) (hcancel : e.request = .use .cancel)
    (hopen : e.before.state.isDiscardable = true)
    (hfault : ⟨.call (.remove u.full), .error (Namespace.injected .remove)⟩ ∉ e.log) : u.Discards done e now := by
  obtain ⟨handle, _, hpath, hsession, hhistory, _⟩ := exists_opened h
  obtain ⟨_, hrun, _⟩ := hhistory.split
  have hbefore : e.before.path = u.full := by
    rw [hsession] at hhistory
    exact (hhistory.isFrom e (List.mem_append_right _ List.mem_cons_self)).path
  obtain ⟨hstate, hhandle, first, rest, r, hlog, hcloses, hremove, houtcome⟩ := hrun.cancels hcancel hopen
  constructor
  · obtain ⟨modified, hfollows⟩ := exists_content h (hhistory.not_cancel_of_discardable hopen)
    rw [List.flatMap_singleton, hlog] at hfollows
    obtain ⟨mid, hfirst, hrest⟩ := hfollows.split
    obtain rfl := hfirst.eq_of_not_touches fun c hc => by
      obtain ⟨held, rfl⟩ := hcloses c hc
      exact ⟨rfl, id⟩
    rw [hbefore] at hremove
    rcases Call.ends_guarded_iff.mp hremove with ⟨why, rfl, rfl⟩ | rfl
    · have hstays := hrest.eq_of_not_touches fun c hc => absurd hc List.not_mem_nil
      refine .inr ⟨why, modified, houtcome, ?_, hstays⟩
      rw [hlog]
      exact List.mem_append_right _ List.mem_cons_self
    · rw [← Call.made, ← List.append_nil ((Call.remove u.full).made r)] at hrest
      obtain ⟨ns, _, tree, hnode, reply, hend⟩ := hrest.made
      rcases Namespace.client_remove_file tree hnode.symm reply with ⟨rfl, hgone⟩ | rfl
      · exact .inl ⟨houtcome, hend.eq_of_nil.trans hgone⟩
      · refine absurd ?_ hfault
        rw [hlog]
        exact List.mem_append_right _ (List.mem_of_getElem? (i := 1) rfl)
  · exact fun es hes f hf => hes.of_ended (.inr hstate) hhandle f hf
  · rw [WriteSession.verdict, hstate]

/-- A byte is written, then the request is cancelled, and after that the session. -/
def abandonedEpisodes (full : String) : List Episode :=
  let opened := WriteSession.start ⟨full, false⟩ full 0
  let written := { opened with size := 1 }
  [⟨.use (.write [120]), opened, (Call.write ⟨full, false⟩ [120]).made (.ok ()), .ok (), written⟩,
    ⟨.use .cancel, written, [⟨.interruption, some .cancelled⟩, ⟨.interruption, some .cancelled⟩],
      .error (.interrupted .cancelled), { written with handle := none, state := .cancelled }⟩]

/-- There is such an upload, with nobody else and no failure, and its object is there at the end. -/
theorem exists_abandoned : ∃ (u : Upload ⟨Options.sample⟩) (written e : Episode),
    u.episodes = [written, e] ∧ u.space.faults = [] ∧
      Client.Serves client u.space (Work.merged u.trace) u.after ∧ Work.own false u.trace = [] ∧
        e.request = .use .cancel ∧ e.before.state.isDiscardable = true ∧ Work.calls e.log = [] ∧
          e.after.state = .cancelled ∧ e.after.handle = none ∧ u.after.node? u.full = some (.file [120] .present) := by
  let trace : Work.Trace := (sampleOpening "/tmp/hdfs-registry/a" ++
    (abandonedEpisodes "/tmp/hdfs-registry/a").flatMap Episode.log).map (true, ·)
  obtain ⟨after, hserves, hnode⟩ : ∃ after, Client.Serves client Namespace.initial (Work.merged trace) after ∧
      after.node? "/tmp/hdfs-registry/a" = some (.file [120] .present) :=
    ⟨_, .interruption _ (.call rfl (.interruption _ (.call rfl (.interruption _ (.call rfl (.interruption _ (.call rfl
      (.interruption _ (.interruption _ (.nil _)))))))))), rfl⟩
  let u : Upload ⟨Options.sample⟩ := {
    path := "/a"
    append := false
    full := "/tmp/hdfs-registry/a"
    space := Namespace.initial
    opening := sampleOpening "/tmp/hdfs-registry/a"
    session := .start ⟨"/tmp/hdfs-registry/a", false⟩ "/tmp/hdfs-registry/a" 0
    episodes := abandonedEpisodes "/tmp/hdfs-registry/a"
    trace
    after
    resolved := rfl
    reachable := ⟨[], rfl⟩
    opens := .ask (.ask (.ask (.ask (.ask (.ask (.done _))))))
    history := ⟨rfl, .ask (.ask (.done _)), rfl, .ask (.ask (.done _)), trivial⟩
    own := rfl
    foreign := fun c hc => nomatch hc
    attends := .of_serves hserves }
  exact ⟨u, _, _, rfl, rfl, hserves, rfl, rfl, rfl, rfl, rfl, rfl, hnode⟩

theorem discards_abandoned : ∃ (u : Upload ⟨Options.sample⟩) (done : List Episode) (e : Episode) (now : Namespace),
    u.Passes (done ++ [e]) now ∧ e.request = .use .cancel ∧ e.before.state.isDiscardable = true ∧
      ⟨.call (.remove u.full), .error (Namespace.injected .remove)⟩ ∉ e.log ∧ u.Discards done e now := by
  obtain ⟨u, written, e, hepisodes, _, _, _, hcancel, hopen, hcalls, _⟩ := exists_abandoned
  have hpasses : u.Passes ([written] ++ [e]) u.after := by
    rw [List.singleton_append, ← hepisodes]
    exact u.passes_all
  have hfault : ⟨.call (.remove u.full), .error (Namespace.injected .remove)⟩ ∉ e.log := by
    intro hm
    have hc := Work.mem_calls hm
    rw [hcalls] at hc
    cases hc
  exact ⟨u, [written], e, u.after, hpasses, hcancel, hopen, hfault, discards hpasses hcancel hopen hfault⟩

/-- An upload may be cancelled, with nobody else and no failure, and leave an object that the session will not
remove any more. -/
theorem exists_object_left :
    ¬ ∀ (st : Store) (u : Upload st) (done : List Episode) (e : Episode), u.episodes = done ++ [e] →
        u.space.faults = [] → Client.Serves client u.space (Work.merged u.trace) u.after →
          Work.own false u.trace = [] → e.request = .use .cancel → e.before.state.isDiscardable = true →
            u.after.node? u.full = none ∨
              ∃ es, e.after.History es ∧ ∃ f ∈ es, f.request = .use .cancel ∧ .remove u.full ∈ f.calls := by
  intro hclaim
  obtain ⟨u, written, e, hepisodes, hfaults, hserves, hother, hcancel, hopen, _, hstate, hhandle, hnode⟩ :=
    exists_abandoned
  rcases hclaim _ u [written] e hepisodes hfaults hserves hother hcancel hopen with hgone | ⟨es, hes, f, hf, _, hcall⟩
  · rw [hnode] at hgone
    cases hgone
  · rw [Episode.calls, (hes.of_ended (.inr hstate) hhandle f hf).1] at hcall
    cases hcall

end Upload

end RootedStore
