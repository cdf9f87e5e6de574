import RootedStore.Proofs.Store.Discard
import RootedStore.Proofs.Store.Move

/-!
# Directories where objects are stored

An object may be named as a directory is. To read such a path, and to append to it, fails and changes nothing,
wherever the request is interrupted and whatever failures are arranged. To write it anew fails as well as long as
something is in the directory: the truncating open does not look at what is there but leaves it to the namenode to
refuse the removal. The namenode removes a directory that has nothing in it, and then a file is created in its
place.
-/
namespace RootedStore

open Namespace (IsTree IsDirAt client serve subtree)
open RootedStore.Path (Within)

variable {α β : Type} {nodes : Table Node} {path full : String}

/-- What a client replies to a program makes a log that ends as the run does. -/
theorem Client.serves_run {σ : Type} (client : Client σ) (standing : Standing) (work : Work α) (s : σ) :
    ∃ log, work.Ends log (work.run client standing s).1 ∧ client.Serves s log (work.run client standing s).2 := by
  induction work generalizing s with
  | done a => exact ⟨[], .done a, .nil s⟩
  | ask q next ih =>
    obtain ⟨log, hends, hserves⟩ := ih (client.answer standing q s).1 (client.answer standing q s).2
    cases q with
    | interruption => exact ⟨_, .ask hends, .interruption _ hserves⟩
    | signal => exact ⟨_, .ask hends, .signal _ hserves⟩
    | call c => exact ⟨_, .ask hends, .call rfl hserves⟩

/-- On a table an action fails and leaves the table as it is, whatever failures are arranged and wherever its request
is interrupted. -/
def Action.FailsOn (nodes : Table Node) (action : Action α) : Prop :=
  ∀ faults log r after, action.run.Ends log r → Client.Serves client ⟨nodes, faults⟩ log after →
    (∃ e, r = .error e) ∧ after.nodes = nodes

/-- A call gets a reply that does not depend on the failures that are arranged, and changes nothing. -/
def Call.GetsOn (c : Call) (nodes : Table Node) (reply : c.Reply) : Prop :=
  ∀ faults, serve c ⟨nodes, faults⟩ = (reply, ⟨nodes, faults⟩)

/-- A call that changes nothing gets the reply of the namespace, or fails otherwise than for a missing path. -/
theorem Call.GetsOn.of_guarded {c : Call} {reply r : c.Reply} {faults : List CallKind} {log : Work.Log}
    {after : Namespace} (h : c.GetsOn nodes reply) (hends : c.guarded.Ends log r)
    (hserves : Client.Serves client ⟨nodes, faults⟩ log after) :
    after.nodes = nodes ∧ (r = reply ∨ ∃ e, r = .error e ∧ e.isNotFound = false) := by
  rcases Call.ends_guarded_iff.mp hends with ⟨why, rfl, rfl⟩ | rfl
  · cases hserves with
    | interruption _ hrest =>
      cases hrest
      exact ⟨rfl, .inr ⟨_, rfl, rfl⟩⟩
  · cases hserves with
    | interruption _ hrest =>
      cases hrest with
      | call hreply hrest =>
        cases hrest
        rw [client] at hreply
        split at hreply
        · cases hreply
          exact ⟨rfl, .inr ⟨_, rfl, rfl⟩⟩
        · rw [h faults] at hreply
          cases hreply
          exact ⟨rfl, .inl rfl⟩

namespace Action

theorem failsOn_throw (e : StorageError) : FailsOn nodes (throw e : Action α) := by
  intro faults log r after hends hserves
  obtain ⟨rfl, rfl⟩ := Program.ends_done_iff.mp hends
  cases hserves
  exact ⟨⟨e, rfl⟩, rfl⟩

theorem FailsOn.bind {action : Action α} (h : FailsOn nodes action) (next : α → Action β) :
    FailsOn nodes (action >>= next) := by
  intro faults log r after hends hserves
  rcases Program.ends_except_bind_iff.mp hends with ⟨e, haction, rfl⟩ | ⟨first, a, rest, rfl, haction, _⟩
  · exact ⟨⟨e, rfl⟩, (h _ _ _ _ haction hserves).2⟩
  · obtain ⟨mid, hfirst, _⟩ := hserves.split
    obtain ⟨⟨e, he⟩, _⟩ := h _ _ _ _ haction hfirst
    cases he

/-- What comes after a call fails with the reply that it gets, and with every failure but for a missing path. -/
theorem failsOn_attempt_bind {c : Call} {reply : c.Reply} (hc : c.GetsOn nodes reply) {next : c.Reply → Action β}
    (h : FailsOn nodes (next reply)) (herror : ∀ e, e.isNotFound = false → FailsOn nodes (next (.error e))) :
    FailsOn nodes (attempt c >>= next) := by
  intro faults log r after hends hserves
  obtain ⟨first, given, rest, rfl, hcall, hnext⟩ := Program.ends_lift_bind_iff.mp hends
  obtain ⟨⟨nodes', faults'⟩, hfirst, hrest⟩ := hserves.split
  obtain ⟨hsame, hgiven⟩ := hc.of_guarded hcall hfirst
  obtain rfl : nodes' = nodes := hsame
  rcases hgiven with rfl | ⟨e, rfl, he⟩
  · exact h _ _ _ _ hnext hrest
  · exact herror e he _ _ _ _ hnext hrest

/-- A call is an attempt of which an error is reported. -/
theorem call_eq (path : String) (c : Call) :
    call path c = attempt c >>= fun r => ExceptT.mk (.done (r.mapError (.ofClient driverName path))) := by
  have hrun : ∀ work : Work c.Reply,
      (work.bind fun r => (.done (r.mapError (.ofClient driverName path)) : Work (Except StorageError c.Result))) =
        (work.bind fun r => (.done (.ok r) : Work (Except StorageError c.Reply))).bind
          (ExceptT.bindCont fun r => ExceptT.mk (.done (r.mapError (.ofClient driverName path)))) := by
    intro work
    rw [Program.bind_assoc]
    rfl
  exact hrun c.guarded

theorem failsOn_call {c : Call} {e : ClientError} (hc : c.GetsOn nodes (.error e)) (path : String) :
    FailsOn nodes (call path c) := by
  rw [call_eq]
  exact failsOn_attempt_bind hc (failsOn_throw _) fun e _ => failsOn_throw _

theorem failsOn_call_bind {c : Call} {a : c.Result} (hc : c.GetsOn nodes (.ok a)) {path : String}
    {next : c.Result → Action β} (h : FailsOn nodes (next a)) : FailsOn nodes (call path c >>= next) := by
  rw [call_eq, bind_assoc]
  exact failsOn_attempt_bind hc h fun e _ => (failsOn_throw _).bind _

/-- A request whose standing does not change fails as well. -/
theorem FailsOn.run {action : Action α} (h : FailsOn nodes action) (standing : Standing) (faults : List CallKind) :
    ∃ e after, Work.run action.run client standing ⟨nodes, faults⟩ = (.error e, after) ∧ after.nodes = nodes := by
  obtain ⟨log, hends, hserves⟩ := Client.serves_run client standing action.run ⟨nodes, faults⟩
  obtain ⟨⟨e, he⟩, hnodes⟩ := h _ _ _ _ hends hserves
  exact ⟨e, _, Prod.ext he rfl, hnodes⟩

end Action

namespace Namespace

theorem getsOn_remove_occupied (h : IsTree nodes) (hd : IsDirAt nodes path) (ho : IsOccupied nodes path) :
    ∃ e, (Call.remove path).GetsOn nodes (.error e) := by
  have hcontains : nodes.contains path = true := by
    obtain ⟨mode, modified, hd⟩ := hd
    exact Table.contains_eq_true.mpr ⟨_, hd⟩
  refine ⟨.exception "PathIsNotEmptyDirectoryException" (path ++ " is non empty"), fun faults => ?_⟩
  simp [serve, remove, hcontains, (isOccupied_iff h hd).mp ho, apply]

/-- A directory that has nothing in it is no obstacle, and no file is above it. -/
theorem isStorable_of_vacant (h : IsTree nodes) (hd : IsDirAt nodes path) (ho : ¬ IsOccupied nodes path) :
    IsStorable nodes path where
  clear a ha hfile := by
    obtain ⟨mode, modified, hd⟩ := hd
    exact hfile.not_isDirAt (h.isDirAt_of_isAncestor hd ha)
  place := fun hplace => ho hplace.2

theorem fileAt_of_isDirAt (hd : IsDirAt nodes path) : fileAt nodes path = .error (notAFile path) := by
  obtain ⟨mode, modified, hd⟩ := hd
  rw [fileAt, hd]

theorem getsOn_content (hd : IsDirAt nodes path) : (Call.content path).GetsOn nodes (.error (notAFile path)) := by
  intro faults
  rw [serve, fileAt_of_isDirAt hd]

theorem getsOn_openRead (hd : IsDirAt nodes path) : (Call.openRead path).GetsOn nodes (.error (notAFile path)) := by
  intro faults
  rw [serve, fileAt_of_isDirAt hd]
  rfl

theorem getsOn_openAppend (hd : IsDirAt nodes path) :
    (Call.openAppend path).GetsOn nodes (.error (notAFile path)) := by
  intro faults
  rw [serve, fileAt_of_isDirAt hd]
  rfl

theorem getsOn_status {node : Node} (hn : nodes.find? path = some node) :
    (Call.status path).GetsOn nodes (.ok (node.status path)) := fun _ => serve_status hn

theorem getsOn_makeDirs (h : IsTree nodes) {node : Node} (hn : nodes.find? path = some node) (mode : UInt32) :
    (Call.makeDirs (Path.parent path) mode).GetsOn nodes (.ok ()) := by
  intro faults
  simp only [serve, h.makeEach_above hn]

end Namespace

namespace Store

variable {st : Store}

section

variable (hr : st.options.resolve path = .ok full) (hd : IsDirAt nodes full)
include hr hd

theorem failsOn_get : (st.get path).FailsOn nodes := by
  rw [Store.get, resolve_bind_ok hr]
  exact Action.failsOn_call (Namespace.getsOn_content hd) full

theorem failsOn_openReader (offset : UInt64) : (st.openReader path offset).FailsOn nodes := by
  rw [Store.openReader, resolve_bind_ok hr]
  exact (Action.failsOn_call (Namespace.getsOn_openRead hd) full).bind _

/-- No session that appends is opened at a directory, and none that writes anew if something is in it. -/
theorem failsOn_openWriter (h : IsTree nodes) {append : Bool} (ho : append = false → Namespace.IsOccupied nodes full) :
    (st.openWriter path append).FailsOn nodes := by
  obtain ⟨mode, modified, hn⟩ := id hd
  rw [Store.openWriter, resolve_bind_ok hr]
  refine Action.failsOn_call_bind (Namespace.getsOn_makeDirs h hn _) ?_
  refine Action.failsOn_attempt_bind (Namespace.getsOn_status hn) ?_ ?_
  · cases append with
    | true => exact (Action.failsOn_call (Namespace.getsOn_openAppend hd) full).bind _
    | false =>
      obtain ⟨e, hremove⟩ := Namespace.getsOn_remove_occupied h hd (ho rfl)
      exact (Action.failsOn_call hremove full).bind _
  · intro e he
    cases e with
    | notFound missing => cases he
    | _ => exact Action.failsOn_throw _

theorem failsOn_put (h : IsTree nodes) (ho : Namespace.IsOccupied nodes full) (content : Bytes) :
    (st.put path content).FailsOn nodes :=
  (st.failsOn_openWriter hr hd h fun _ => ho).bind _

/-- A directory that has nothing in it gives way to an empty file. -/
theorem alone_openWriter_vacant (h : IsTree nodes) (ho : ¬ Namespace.IsOccupied nodes full) :
    (st.openWriter path false).alone ⟨nodes, []⟩ =
      (.ok (.start ⟨full, false⟩ full 0), ⟨nodes.insert full (.file [] .present), []⟩) := by
  rcases st.alone_openWriter h path with ⟨hnot, _⟩ | ⟨other, hother, _, _, hopen⟩
  · exact absurd (Namespace.isStorable_of_vacant h hd ho) (hnot full hr)
  · obtain rfl := Except.ok.inj (hr.symm.trans hother)
    rw [hopen, provisioned_of_isDirAt h hd]

theorem alone_put_vacant (h : IsTree nodes) (ho : ¬ Namespace.IsOccupied nodes full) (content : Bytes) :
    (st.put path content).alone ⟨nodes, []⟩ = (.ok (), ⟨nodes.insert full (.file content .present), []⟩) := by
  rcases st.alone_put h path content with ⟨hnot, _⟩ | ⟨other, hother, _, _, hput⟩
  · exact absurd (Namespace.isStorable_of_vacant h hd ho) (hnot full hr)
  · obtain rfl := Except.ok.inj (hr.symm.trans hother)
    rw [hput, provisioned_of_isDirAt h hd]

end

/-- At a directory, reading and appending fail and change nothing. So does writing anew if something is in the
directory, or if it is the root; if it is empty, a file takes its place. -/
theorem at_directory (hs : Namespace.Reached nodes) (hr : st.options.resolve path = .ok full)
    (hd : IsDirAt nodes full) :
    (st.get path).FailsOn nodes ∧ (∀ offset, (st.openReader path offset).FailsOn nodes) ∧
      (st.openWriter path true).FailsOn nodes ∧
      (Namespace.IsOccupied nodes full →
        (st.openWriter path false).FailsOn nodes ∧ ∀ content, (st.put path content).FailsOn nodes) ∧
      (¬ Namespace.IsOccupied nodes full →
        (st.openWriter path false).alone ⟨nodes, []⟩ =
            (.ok (.start ⟨full, false⟩ full 0), ⟨nodes.insert full (.file [] .present), []⟩) ∧
          ∀ content, (st.put path content).alone ⟨nodes, []⟩ =
            (.ok (), ⟨nodes.insert full (.file content .present), []⟩)) := by
  have h : IsTree nodes := hs.isTree
  refine ⟨failsOn_get hr hd, failsOn_openReader hr hd, failsOn_openWriter hr hd h nofun, ?_, ?_⟩
  · exact fun ho => ⟨failsOn_openWriter hr hd h fun _ => ho, failsOn_put hr hd h ho⟩
  · exact fun ho => ⟨alone_openWriter_vacant hr hd h ho, alone_put_vacant hr hd h ho⟩

/-- Content cannot be stored in the place of the directory of an object. -/
theorem at_directory_stocked :
    Namespace.Reached Namespace.stocked.nodes ∧ Options.sample.resolve "b" = .ok "/tmp/hdfs-registry/b" ∧
      IsDirAt Namespace.stocked.nodes "/tmp/hdfs-registry/b" ∧
      (Store.put ⟨Options.sample⟩ "b" [7]).FailsOn Namespace.stocked.nodes ∧
      ∃ e after, (Store.put ⟨Options.sample⟩ "b" [7]).alone ⟨Namespace.stocked.nodes, []⟩ = (.error e, after) ∧
        after.nodes = Namespace.stocked.nodes := by
  have hinitial : System.Reachable ⟨Options.sample⟩ Namespace.initial := ⟨[], rfl⟩
  have hstocked : System.Reachable ⟨Options.sample⟩ Namespace.stocked :=
    hinitial.request false (.put "b/c" [7]) .good
  obtain ⟨hdir, hinside⟩ : Namespace.stocked.nodes.find? "/tmp/hdfs-registry/b" = some (.dir 0o755 .present) ∧
      Namespace.stocked.nodes.find? "/tmp/hdfs-registry/b/c" = some (.file [7] .present) := by decide +kernel
  have hd : IsDirAt Namespace.stocked.nodes "/tmp/hdfs-registry/b" := ⟨_, _, hdir⟩
  have hw : Within "/tmp/hdfs-registry/b" "/tmp/hdfs-registry/b/c" := ⟨by decide, by decide⟩
  have hr : (Store.mk Options.sample).options.resolve "b" = .ok "/tmp/hdfs-registry/b" := rfl
  have hfails := (at_directory hstocked.reached hr hd).2.2.2.1 (.inr ⟨_, ⟨_, hinside⟩, hw, by decide⟩)
  exact ⟨hstocked.reached, hr, hd, hfails.2 [7], (hfails.2 [7]).run .good []⟩

/-- An object was stored in a directory and deleted, so that nothing is in the directory any more. -/
def vacated : Namespace := ((Store.delete ⟨Options.sample⟩ "b/c").alone Namespace.stocked).2

/-- Content may be stored in the place of a directory, which is lost. -/
theorem exists_directory_lost :
    ¬ ∀ (st : Store) (space : Namespace) (path full : String) (content : Bytes),
        Namespace.Reached space.nodes → space.faults = [] → st.options.resolve path = .ok full →
          IsDirAt space.nodes full →
            ∃ e, (st.put path content).alone space = (.error e, space) := by
  intro hclaim
  have hinitial : System.Reachable ⟨Options.sample⟩ Namespace.initial := ⟨[], rfl⟩
  have hvacated : System.Reachable ⟨Options.sample⟩ vacated :=
    (hinitial.request false (.put "b/c" [7]) .good).request false (.delete "b/c") .good
  obtain ⟨hf, hdir, hput⟩ : vacated.faults.isEmpty = true ∧
      vacated.nodes.find? "/tmp/hdfs-registry/b" = some (.dir 0o755 .present) ∧
      ((Store.put ⟨Options.sample⟩ "b" [7]).alone vacated).1.isOk = true := by decide +kernel
  obtain ⟨e, he⟩ := hclaim ⟨Options.sample⟩ vacated "b" _ [7] hvacated.reached (List.isEmpty_iff.mp hf) rfl
    ⟨_, _, hdir⟩
  rw [he] at hput
  cases hput

end Store

end RootedStore
