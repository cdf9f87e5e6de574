import RootedStore.Proofs.Namespace.Atomic
import RootedStore.Proofs.Store.Apart
import RootedStore.Proofs.Store.Put
import RootedStore.Proofs.Store.Writers

/-!
# An upload among other requests

A caller opens a session and uses it. In between others make calls, at paths that are unrelated to the path of
the session or to look at something, and failures may be arranged at any time. None of that changes what is at
the path, so there the caller's own calls follow each other as if nobody else were there. What was written with
success is in the file, behind what an append has found, and the size of the session counts it.
-/
namespace RootedStore

open Namespace (IsTree client)
open RootedStore.Path (normalize)

variable {o : Options} {st : Store} {full key : String} {log first rest : Work.Log}

namespace Namespace

/-- The replies of a log are those of a namespace, of which the next call of a kind may be made to fail at any
time. -/
inductive Attends : Namespace → Work.Log → Namespace → Prop where
  | nil (ns : Namespace) : Attends ns [] ns
  | fault {ns ns' : Namespace} {log : Work.Log} (kind : CallKind) (rest : Attends (ns.failNext kind) log ns') :
      Attends ns log ns'
  | interruption {ns ns' : Namespace} {log : Work.Log} (why : Option Interruption) (rest : Attends ns log ns') :
      Attends ns (⟨.interruption, why⟩ :: log) ns'
  | signal {ns ns' : Namespace} {log : Work.Log} (why : Option Interruption) (rest : Attends ns log ns') :
      Attends ns (⟨.signal, why⟩ :: log) ns'
  | call {ns mid ns' : Namespace} {log : Work.Log} {c : Call} {r : c.Reply} (reply : client c ns = (r, mid))
      (rest : Attends mid log ns') : Attends ns (⟨.call c, r⟩ :: log) ns'

theorem Attends.of_serves {ns ns' : Namespace} {log : Work.Log} (h : Client.Serves client ns log ns') :
    ns.Attends log ns' := by
  induction h with
  | nil ns => exact .nil ns
  | interruption why _ ih => exact .interruption why ih
  | signal why _ ih => exact .signal why ih
  | call reply _ ih => exact .call reply ih

/-- What becomes of the node at a path through the calls of a log, if nobody else changes it. Each call finds
it in some namespace or other. -/
inductive Follows (full : String) : Option Node → Work.Log → Option Node → Prop where
  | nil (node? : Option Node) : Follows full node? [] node?
  | interruption {node? node?' : Option Node} {log : Work.Log} (why : Option Interruption)
      (rest : Follows full node? log node?') : Follows full node? (⟨.interruption, why⟩ :: log) node?'
  | signal {node? node?' : Option Node} {log : Work.Log} (why : Option Interruption)
      (rest : Follows full node? log node?') : Follows full node? (⟨.signal, why⟩ :: log) node?'
  | call {ns mid : Namespace} {node?' : Option Node} {log : Work.Log} {c : Call} {r : c.Reply}
      (tree : IsTree ns.nodes) (reply : client c ns = (r, mid))
      (rest : Follows full (mid.node? full) log node?') :
      Follows full (ns.node? full) (⟨.call c, r⟩ :: log) node?'

variable {ns mid ns' : Namespace} {node? node?' : Option Node} {c : Call} {r : c.Reply}

/-- A caller sees nothing of the others at a path with which they have nothing to do. -/
theorem Attends.follows {trace : Work.Trace} (h : ns.Attends (Work.merged trace) ns') (tree : IsTree ns.nodes)
    (placed : ∀ c ∈ Work.calls (Work.own true trace), ∀ path ∈ c.placed?, normalize path = path)
    (foreign : ∀ c ∈ Work.calls (Work.own false trace), c.IsForeign o full) :
    Follows full (ns.node? full) (Work.own true trace) (ns'.node? full) := by
  generalize hlog : Work.merged trace = log at h
  induction h generalizing trace with
  | nil ns =>
    obtain rfl : trace = [] := List.map_eq_nil_iff.mp hlog
    exact .nil _
  | fault kind rest ih => exact ih tree placed foreign hlog
  | interruption why rest ih | signal why rest ih =>
    obtain ⟨⟨who, x⟩, trace, rfl, rfl, hrest⟩ := List.map_eq_cons_iff.mp hlog
    cases who with
    | true =>
      rw [Work.own_cons_self] at placed ⊢
      rw [Work.own_cons_other (by decide)] at foreign
      constructor
      exact ih tree placed foreign hrest
    | false =>
      rw [Work.own_cons_other (by decide)] at placed ⊢
      rw [Work.own_cons_self] at foreign
      exact ih tree placed foreign hrest
  | @call ns mid ns' log c r reply rest ih =>
    obtain ⟨⟨who, x⟩, trace, rfl, rfl, hrest⟩ := List.map_eq_cons_iff.mp hlog
    obtain rfl : (client c ns).2 = mid := congrArg Prod.snd reply
    cases who with
    | true =>
      rw [Work.own_cons_self] at placed ⊢
      rw [Work.own_cons_other (by decide)] at foreign
      obtain ⟨hc, hplaced⟩ := List.forall_mem_cons.mp placed
      exact .call tree reply (ih (isTree_client tree hc) hplaced foreign hrest)
    | false =>
      rw [Work.own_cons_other (by decide)] at placed ⊢
      rw [Work.own_cons_self] at foreign
      obtain ⟨hc, hforeign⟩ := List.forall_mem_cons.mp foreign
      rw [← node?_client tree hc.placed hc.not_touches]
      exact ih (isTree_client tree hc.placed) placed hforeign hrest

theorem Follows.split (h : Follows full node? (first ++ rest) node?') :
    ∃ mid, Follows full node? first mid ∧ Follows full mid rest node?' := by
  induction first generalizing node? with
  | nil => exact ⟨node?, .nil node?, h⟩
  | cons x first ih =>
    cases h with
    | interruption why h =>
      obtain ⟨mid, hfirst, hrest⟩ := ih h
      exact ⟨mid, .interruption why hfirst, hrest⟩
    | signal why h =>
      obtain ⟨mid, hfirst, hrest⟩ := ih h
      exact ⟨mid, .signal why hfirst, hrest⟩
    | call tree reply h =>
      obtain ⟨mid, hfirst, hrest⟩ := ih h
      exact ⟨mid, .call tree reply hfirst, hrest⟩

theorem Follows.eq_of_not_touches (h : Follows full node? log node?')
    (hlog : ∀ c ∈ Work.calls log, c.placed? = none ∧ ¬ c.Touches full) : node?' = node? := by
  induction h with
  | nil node? => rfl
  | interruption why rest ih | signal why rest ih => exact ih hlog
  | call tree reply rest ih =>
    obtain ⟨⟨hp, hk⟩, hrest⟩ := List.forall_mem_cons.mp hlog
    rw [ih hrest, ← node?_client tree (by simp [hp]) hk, reply]

theorem Follows.eq_of_nil (h : Follows full node? [] node?') : node?' = node? := by
  cases h
  rfl

theorem Follows.made (h : Follows full node? (c.made r ++ rest) node?') :
    ∃ ns mid : Namespace, IsTree ns.nodes ∧ node? = ns.node? full ∧ client c ns = (r, mid) ∧
      Follows full (mid.node? full) rest node?' := by
  cases h with
  | interruption why h =>
    cases h with
    | call tree reply rest => exact ⟨_, _, tree, rfl, reply, rest⟩

theorem Follows.made_elsewhere (h : Follows full node? (c.made r ++ rest) node?') (hp : c.placed? = none)
    (hk : ¬ c.Touches full) : Follows full node? rest node?' := by
  obtain ⟨ns, mid, tree, rfl, reply, hrest⟩ := h.made
  rwa [← node?_client tree (by simp [hp]) hk, reply]

theorem client_status {found : FileStatus} (h : client (.status full) ns = (.ok found, mid)) :
    ∃ node, ns.node? full = some node ∧ found = node.status full := by
  have hserve := client_eq_serve h
  simp only [serve] at hserve
  split at hserve
  · rename_i node hnode
    cases hserve
    exact ⟨node, hnode, rfl⟩
  · cases hserve

theorem client_status_missing {missing : String}
    (h : client (.status full) ns = (.error (.notFound missing), mid)) : ns.node? full = none := by
  rw [client] at h
  split at h
  · cases h
  · simp only [serve] at h
    split at h
    · cases h
    · assumption

theorem client_openAppend {handle : WriteHandle} (h : client (.openAppend full) ns = (.ok handle, mid)) :
    handle.path = full ∧ mid = ns ∧ ∃ content modified, ns.node? full = some (.file content modified) := by
  have hserve := client_eq_serve h
  simp only [serve, fileAt] at hserve
  split at hserve
  · rename_i content modified hnode
    cases hserve
    exact ⟨rfl, rfl, content, modified, hnode⟩
  · cases hserve
  · cases hserve

end Namespace

/-- What a session finds at its path: an append keeps the content of a file, any other session starts anew. -/
def WriteSession.found (append : Bool) : Option Node → Bytes
  | some (.file content _) => if append then content else []
  | _ => []

namespace Store

variable {node? node?' : Option Node}

theorem follows_create {handle : WriteHandle}
    (h : Namespace.Follows full node? ((Call.create full).made (.ok handle)) node?') :
    handle.path = full ∧ node?' = some (.file [] .present) := by
  rw [← List.append_nil ((Call.create full).made (.ok handle))] at h
  obtain ⟨ns, mid, _, rfl, reply, hrest⟩ := h.made
  obtain ⟨hpath, hnode⟩ := Namespace.client_create reply
  exact ⟨hpath, hrest.eq_of_nil.trans hnode⟩

/-- A session that is open at a path has an empty file there, or the file that it extends. -/
theorem Opens.follows {append : Bool} {s : WriteSession} (h : st.Opens full append log s)
    (hfollows : Namespace.Follows full node? log node?') :
    ∃ handle modified, handle.path = full ∧
      s = .start handle full (UInt64.ofNat (WriteSession.found append node?).length) ∧
      node?' = some (.file (WriteSession.found append node?) modified) := by
  have hparents : ¬ (Call.makeDirs (Path.parent full) st.options.mask).Touches full :=
    fun hm => (Path.mem_lineage_parent.mp hm).1.ne rfl
  cases h with
  | @created _ missing handle =>
    have hlook := hfollows.made_elsewhere rfl hparents
    have hcreate := hlook.made_elsewhere rfl id
    obtain ⟨ns, _, _, rfl, reply, _⟩ := hlook.made
    rw [Namespace.client_status_missing reply]
    obtain ⟨hpath, hnode⟩ := follows_create hcreate
    exact ⟨handle, .present, hpath, rfl, hnode⟩
  | @replaced found handle =>
    have hremove := (hfollows.made_elsewhere rfl hparents).made_elsewhere rfl id
    obtain ⟨ns, mid, _, rfl, _, hcreate⟩ := hremove.made
    have hnothing : WriteSession.found false (ns.node? full) = [] := by
      rw [WriteSession.found.eq_def]
      split <;> rfl
    rw [hnothing]
    obtain ⟨hpath, hnode⟩ := follows_create hcreate
    exact ⟨handle, .present, hpath, rfl, hnode⟩
  | @extended found handle =>
    have hlook := hfollows.made_elsewhere rfl hparents
    have happend := hlook.made_elsewhere rfl id
    obtain ⟨ns, _, _, rfl, reply, _⟩ := hlook.made
    obtain ⟨node, hnode, rfl⟩ := Namespace.client_status reply
    rw [← List.append_nil ((Call.openAppend full).made (.ok handle))] at happend
    obtain ⟨ns', _, _, hsame, reply', hrest⟩ := happend.made
    obtain ⟨hpath, rfl, content, modified, hfile⟩ := Namespace.client_openAppend reply'
    rw [hsame] at hnode ⊢
    obtain rfl := Option.some.inj (hnode.symm.trans hfile)
    rw [hfile]
    exact ⟨handle, modified, hpath, rfl, hrest.eq_of_nil.trans hfile⟩

theorem Opens.placed {append : Bool} {s : WriteSession} (h : st.Opens full append log s) :
    ∀ c ∈ Work.calls log, ∀ path ∈ c.placed?, path = full := by
  intro c hc path hp
  cases h <;>
    simp only [Call.made, Work.calls, List.cons_append, List.nil_append, List.filterMap_cons, List.filterMap_nil,
      Question.call?, List.mem_cons, List.not_mem_nil, or_false] at hc <;>
    rcases hc with rfl | rfl | rfl | rfl <;> simp_all [Call.placed?]

end Store

def Episode.accepted (e : Episode) : Bytes :=
  match e.outcome with
  | .ok _ => e.request.data
  | .error _ => []

namespace WriteSession

variable {s s' : WriteSession} {outcome : Except StorageError Unit}

theorem size_write {data : Bytes} {r : Except StorageError Nat} (h : (s.write data).Ends log (r, s')) :
    (∃ n, r = .ok n) ∧ s'.size = s.size + UInt64.ofNat data.length ∨ (∃ e, r = .error e) ∧ s'.size = s.size := by
  rw [write] at h
  split at h
  · obtain ⟨_, reply, _, _, _, hd⟩ := Program.ends_bind_iff.mp h
    cases reply with
    | ok _ =>
      obtain ⟨rfl, rfl⟩ := Prod.mk.inj (Program.ends_done_iff.mp hd).2
      exact .inl ⟨⟨_, rfl⟩, rfl⟩
    | error e =>
      obtain ⟨rfl, rfl⟩ := Prod.mk.inj (Program.ends_done_iff.mp hd).2
      exact .inr ⟨⟨_, rfl⟩, rfl⟩
  · obtain ⟨rfl, rfl⟩ := Prod.mk.inj (Program.ends_done_iff.mp h).2
    exact .inr ⟨⟨_, rfl⟩, rfl⟩
  · obtain ⟨rfl, rfl⟩ := Prod.mk.inj (Program.ends_done_iff.mp h).2
    exact .inr ⟨⟨_, rfl⟩, rfl⟩

theorem size_releaseHandle (h : s.releaseHandle.Ends log (outcome, s')) : s'.size = s.size := by
  rw [(ends_releaseHandle h).1]

theorem size_close (h : s.close.Ends log (outcome, s')) : s'.size = s.size := by
  rw [close_eq] at h
  have hsize := size_releaseHandle h
  exact hsize

theorem size_cancel (h : s.cancel.Ends log (outcome, s')) : s'.size = s.size := by
  rw [cancel_eq] at h
  split at h
  · rw [(ends_discard h).1]
  · exact congrArg (fun r => r.2.size) (Program.ends_done_iff.mp h).2

theorem size_commit (h : s.commit.Ends log (outcome, s')) : s'.size = s.size := by
  rcases ends_commit h with ⟨_, released, hr, hs⟩ | ⟨_, _, _, rfl⟩
  · rw [← size_releaseHandle hr]
    rcases hs with ⟨_, rfl⟩ | ⟨_, _, rfl⟩ <;> rfl
  · rfl

end WriteSession

namespace Episode

variable {e : Episode}

theorem accepted_of_data (h : e.request.data = []) : e.accepted = [] := by
  rw [accepted]
  split
  · exact h
  · rfl

/-- The size counts what the session takes. -/
theorem IsRun.size (h : e.IsRun) : e.after.size = e.before.size + UInt64.ofNat e.accepted.length := by
  have hsame : e.request.data = [] → e.after.size = e.before.size →
      e.after.size = e.before.size + UInt64.ofNat e.accepted.length := by
    intro hdata hsize
    rw [accepted_of_data hdata, hsize]
    exact (UInt64.add_zero _).symm
  have hrun := h
  rw [IsRun] at hrun
  cases hreq : e.request with
  | size =>
    rw [hreq] at hrun hsame
    exact hsame rfl (congrArg (fun r => r.2.size) (Program.ends_done_iff.mp hrun).2)
  | use how =>
    rw [hreq] at hrun hsame
    cases how with
    | write data =>
      obtain ⟨_, ⟨r, written⟩, _, _, hw, hd⟩ := Program.ends_bind_iff.mp hrun
      obtain ⟨houtcome, rfl⟩ := Prod.mk.inj (Program.ends_done_iff.mp hd).2
      rcases WriteSession.size_write hw with ⟨⟨n, rfl⟩, hsize⟩ | ⟨⟨failure, rfl⟩, hsize⟩
      · rw [accepted, houtcome, hreq]
        exact hsize
      · rw [accepted, houtcome, hsize]
        exact (UInt64.add_zero _).symm
    | close => exact hsame rfl (WriteSession.size_close hrun)
    | commit => exact hsame rfl (WriteSession.size_commit hrun)
    | cancel => exact hsame rfl (WriteSession.size_cancel hrun)

variable {handle : WriteHandle} {content : Bytes} {modified : Timestamp} {node?' : Option Node}

/-- Data is added to the file if that is reported, and not if a failure is. -/
theorem follows_write {data : Bytes} {r : (Call.write handle data).Reply}
    (h : (Call.write handle data).guarded.Ends log r)
    (hfollows : Namespace.Follows handle.path (some (.file content modified)) log node?') :
    ∃ modified', node?' = some (.file (content ++ match r with | .ok _ => data | .error _ => []) modified') := by
  rcases Call.ends_guarded_iff.mp h with ⟨why, rfl, rfl⟩ | rfl
  · have hsame := hfollows.eq_of_not_touches fun c hc => absurd hc List.not_mem_nil
    exact ⟨modified, by rw [hsame, List.append_nil]⟩
  · rw [← Call.made, ← List.append_nil ((Call.write handle data).made r)] at hfollows
    obtain ⟨ns, mid, _, hnode, reply, hrest⟩ := hfollows.made
    rw [hrest.eq_of_nil]
    cases r with
    | ok _ => exact ⟨.present, Namespace.client_write reply hnode.symm⟩
    | error e =>
      have hsame := Namespace.client_error reply fun path mode hc => by cases hc
      refine ⟨modified, ?_⟩
      rw [Namespace.node?, hsame, ← Namespace.node?, ← hnode, List.append_nil]

/-- What the session takes is added to the file, and nothing else happens there unless it is cancelled. -/
theorem IsRun.follows (h : e.IsRun) (hfrom : e.before.IsFrom handle handle.path) (hno : e.request ≠ .use .cancel)
    (hfollows : Namespace.Follows handle.path (some (.file content modified)) e.log node?') :
    ∃ modified', node?' = some (.file (content ++ e.accepted) modified') := by
  by_cases hwrite : ∃ data, e.request = .use (.write data)
  · obtain ⟨data, hreq⟩ := hwrite
    have hrun := h
    rw [IsRun, hreq] at hrun
    obtain ⟨first, ⟨r, written⟩, rest, hlog, hw, hd⟩ := Program.ends_bind_iff.mp hrun
    obtain ⟨rfl, hr⟩ := Program.ends_done_iff.mp hd
    obtain ⟨houtcome, _⟩ := Prod.mk.inj hr
    rw [hlog, List.append_nil] at hfollows
    rcases WriteSession.ends_write hw with ⟨_, held, reply, hheld, hc, rfl, _⟩ | ⟨_, rfl, rfl, _⟩
    · obtain rfl := hfrom.onlyHandle held hheld
      obtain ⟨modified', hnode⟩ := follows_write hc hfollows
      refine ⟨modified', hnode.trans ?_⟩
      rw [accepted, houtcome, hreq]
      cases reply <;> rfl
    · refine ⟨modified, hfollows.eq_of_nil.trans ?_⟩
      rw [accepted, houtcome]
      simp [Except.map]
  · obtain ⟨hdata, hcloses⟩ := WriteSession.calls_of_not_write h hfrom (not_exists.mp hwrite) hno
    rw [accepted_of_data hdata, List.append_nil]
    refine ⟨modified, hfollows.eq_of_not_touches fun c hc => ?_⟩
    rw [hcloses c hc]
    exact ⟨rfl, id⟩

end Episode

namespace WriteSession

variable {s : WriteSession} {es done later : List Episode}

def latest : WriteSession → List Episode → WriteSession
  | s, [] => s
  | _, e :: es => e.after.latest es

theorem History.of_append (h : s.History (done ++ later)) : s.History done := by
  induction done generalizing s with
  | nil => trivial
  | cons e done ih =>
    obtain ⟨hs, he, hrest⟩ := h
    exact ⟨hs, he, ih hrest⟩

theorem History.placed (h : s.History es) : ∀ c ∈ Work.calls (es.flatMap Episode.log), c.placed? = none := by
  induction es generalizing s with
  | nil => exact fun _ hc => nomatch hc
  | cons e es ih =>
    obtain ⟨_, hrun, hrest⟩ := h
    intro c hc
    rw [List.flatMap_cons, Work.calls_append] at hc
    rcases List.mem_append.mp hc with hc | hc
    · rcases mem_mayCall (hrun.turn.calls.subset hc) with ⟨_, _, ⟨_, _, rfl⟩ | ⟨_, rfl⟩⟩ | ⟨_, _, rfl⟩ <;> rfl
    · exact ih hrest c hc

theorem History.size (h : s.History es) :
    (s.latest es).size = s.size + UInt64.ofNat (es.flatMap Episode.accepted).length := by
  induction es generalizing s with
  | nil => exact (UInt64.add_zero _).symm
  | cons e es ih =>
    obtain ⟨rfl, hrun, hrest⟩ := h
    rw [latest, ih hrest, hrun.size, List.flatMap_cons, List.length_append, UInt64.ofNat_add, UInt64.add_assoc]

/-- As long as a session is not cancelled, all that it takes is added to its file. -/
theorem History.follows {handle : WriteHandle} {content : Bytes} {modified : Timestamp} {node?' : Option Node}
    (h : s.History es) (hfrom : s.IsFrom handle handle.path) (hno : ∀ e ∈ es, e.request ≠ .use .cancel)
    (hfollows : Namespace.Follows handle.path (some (.file content modified)) (es.flatMap Episode.log) node?') :
    ∃ modified', node?' = some (.file (content ++ es.flatMap Episode.accepted) modified') := by
  induction es generalizing s content modified with
  | nil => exact ⟨modified, by simpa using hfollows.eq_of_nil⟩
  | cons e es ih =>
    obtain ⟨rfl, hrun, hrest⟩ := h
    obtain ⟨hfirst, hlater⟩ := List.forall_mem_cons.mp hno
    rw [List.flatMap_cons] at hfollows
    obtain ⟨mid, hmid, hend⟩ := hfollows.split
    obtain ⟨changed, rfl⟩ := hrun.follows hfrom hfirst hmid
    obtain ⟨modified', hnode⟩ := ih hrest (hfrom.turn hrun.turn) hlater hend
    exact ⟨modified', by rw [hnode, List.flatMap_cons, List.append_assoc]⟩

end WriteSession

/-- A session that a caller opens on a namespace within reach, what the caller asks of it, and what others call
in between. -/
structure Upload (st : Store) where
  path : String
  append : Bool
  /-- What the path resolves to. -/
  full : String
  space : Namespace
  opening : Work.Log
  session : WriteSession
  episodes : List Episode
  /-- The caller is `true`, whoever else is `false`. -/
  trace : Work.Trace
  after : Namespace
  resolved : st.options.resolve path = .ok full
  reachable : System.Reachable st space
  opens : (st.openWriter path append).run.Ends opening (.ok session)
  history : session.History episodes
  own : Work.own true trace = opening ++ episodes.flatMap Episode.log
  foreign : ∀ c ∈ Work.calls (Work.own false trace), c.IsForeign st.options full
  attends : space.Attends (Work.merged trace) after

namespace Upload

variable {u : Upload st} {done later : List Episode} {now : Namespace}

/-- What the file holds after some requests: what the session found, and then what it took. -/
def content (u : Upload st) (done : List Episode) : Bytes :=
  WriteSession.found u.append (u.space.node? u.full) ++ done.flatMap Episode.accepted

/-- Some requests are done, no other one has begun, and this is the namespace then. -/
structure Passes (u : Upload st) (done : List Episode) (now : Namespace) : Prop where
  prefix_done : done <+: u.episodes
  exists_trace : ∃ earlier later, u.trace = earlier ++ later ∧
    Work.own true earlier = u.opening ++ done.flatMap Episode.log ∧
      u.space.Attends (Work.merged earlier) now ∧ now.Attends (Work.merged later) u.after

theorem passes_all (u : Upload st) : u.Passes u.episodes u.after :=
  ⟨List.prefix_refl _, u.trace, [], (List.append_nil _).symm, u.own, u.attends, .nil _⟩

theorem exists_opened (h : u.Passes done now) : ∃ handle modified, handle.path = u.full ∧
    u.session = .start handle u.full (UInt64.ofNat (u.content []).length) ∧ u.session.History done ∧
      Namespace.Follows u.full (some (.file (u.content []) modified)) (done.flatMap Episode.log)
        (now.node? u.full) := by
  obtain ⟨earlier, later, htrace, hown, hearlier, _⟩ := h.exists_trace
  obtain ⟨full, hfull, hopens⟩ := Store.opens_of_ends u.opens
  obtain rfl : u.full = full := Except.ok.inj (u.resolved.symm.trans hfull)
  have hhistory : u.session.History done := by
    obtain ⟨rest, hrest⟩ := h.prefix_done
    exact WriteSession.History.of_append (hrest ▸ u.history)
  have hplaced : ∀ c ∈ Work.calls (Work.own true earlier), ∀ path ∈ c.placed?, normalize path = path := by
    rw [hown, Work.calls_append]
    intro c hc path hp
    rcases List.mem_append.mp hc with hc | hc
    · rw [hopens.placed c hc path hp]
      exact Options.normalize_of_resolve u.resolved
    · simp [hhistory.placed c hc] at hp
  have hforeign : ∀ c ∈ Work.calls (Work.own false earlier), c.IsForeign st.options u.full := by
    intro c hc
    refine u.foreign c ?_
    rw [htrace, Work.own_append, Work.calls_append]
    exact List.mem_append_left _ hc
  have hfollows := hearlier.follows u.reachable.isTree hplaced hforeign
  rw [hown] at hfollows
  obtain ⟨mid, hopening, hdone⟩ := hfollows.split
  obtain ⟨handle, modified, hpath, hsession, rfl⟩ := hopens.follows hopening
  have hfound : u.content [] = WriteSession.found u.append (u.space.node? u.full) := List.append_nil _
  rw [hfound]
  exact ⟨handle, modified, hpath, hsession, hhistory, hdone⟩

/-- As long as the upload is not cancelled, its file holds what is accounted for. -/
theorem exists_content (h : u.Passes (done ++ later) now) (hno : ∀ e ∈ done, e.request ≠ .use .cancel) :
    ∃ modified, Namespace.Follows u.full (some (.file (u.content done) modified)) (later.flatMap Episode.log)
      (now.node? u.full) := by
  obtain ⟨handle, modified, hpath, hsession, hhistory, hfollows⟩ := exists_opened h
  have hfrom : u.session.IsFrom handle handle.path := by
    rw [hsession, hpath]
    exact WriteSession.isFrom_start handle u.full _
  rw [← hpath, List.flatMap_append] at hfollows
  obtain ⟨mid, hdone, hlater⟩ := hfollows.split
  obtain ⟨modified', rfl⟩ := hhistory.of_append.follows hfrom hno hdone
  have hcontent : u.content [] ++ done.flatMap Episode.accepted = u.content done := by
    rw [content, content, List.flatMap_nil, List.append_nil]
  rw [hcontent, hpath] at hlater
  exact ⟨modified', hlater⟩

/-- The account of an upload after some requests: what is in the file, what the size of the session says, and
what is reported of the file under every name. -/
structure Accounts (u : Upload st) (done : List Episode) (now : Namespace) : Prop where
  content : ∃ modified, now.node? u.full = some (.file (u.content done) modified)
  size : (u.session.latest done).size = UInt64.ofNat (u.content done).length
  stat : ∀ path, st.options.resolve path = .ok u.full → ∃ modified,
    (st.stat path).alone ⟨now.nodes, []⟩ =
      (.ok ⟨u.full, (u.session.latest done).size, modified, false⟩, ⟨now.nodes, []⟩)
  failed : ∀ e ∈ done, ∀ failure, e.outcome = .error failure → e.accepted = [] ∧ e.after.size = e.before.size

/-- Until it is cancelled an upload is accounted for: at any time between its requests the file holds what the
session found, followed by all data that it took, and the size is the length of that. -/
theorem accounts (h : u.Passes done now) (hno : ∀ e ∈ done, e.request ≠ .use .cancel) : u.Accounts done now := by
  obtain ⟨_, _, _, hsession, hhistory, _⟩ := exists_opened h
  obtain ⟨modified, hfollows⟩ := exists_content ((List.append_nil done).symm ▸ h : u.Passes (done ++ []) now) hno
  have hnode : now.node? u.full = some (.file (u.content done) modified) := hfollows.eq_of_nil
  have hsize : (u.session.latest done).size = UInt64.ofNat (u.content done).length := by
    rw [hhistory.size, hsession, content, content, List.flatMap_nil, List.append_nil, List.length_append,
      UInt64.ofNat_add]
    rfl
  constructor
  · exact ⟨modified, hnode⟩
  · exact hsize
  · intro path hr
    refine ⟨modified, ?_⟩
    rw [Store.alone_stat hr hnode, hsize]
    rfl
  · intro e he failure houtcome
    have hnothing : e.accepted = [] := by rw [Episode.accepted, houtcome]
    refine ⟨hnothing, ?_⟩
    rw [(hhistory.isRun he).size, hnothing]
    exact UInt64.add_zero _

/-- Two bytes are written to a new file, of which the first one is refused; in between somebody reads it. -/
def sampleOpening (full : String) : Work.Log :=
  (Call.makeDirs (Path.parent full) Options.defaultMask).made (.ok ()) ++
    ((Call.status full).made (.error (.notFound full)) ++ (Call.create full).made (.ok ⟨full, false⟩))

def sampleEpisodes (full : String) : List Episode :=
  let handle : WriteHandle := ⟨full, false⟩
  let opened := WriteSession.start handle full 0
  let refusal := Namespace.injected .write
  [⟨.use (.write [1]), opened, (Call.write handle [1]).made (.error refusal), .error (opened.report refusal), opened⟩,
    ⟨.use (.write [2]), opened, (Call.write handle [2]).made (.ok ()), .ok (), { opened with size := 1 }⟩]

def sampleTrace (full : String) : Work.Trace :=
  (sampleOpening full).map (true, ·) ++ (((Call.content full).made (.ok [])).map (false, ·) ++
    ((sampleEpisodes full).flatMap Episode.log).map (true, ·))

theorem accounts_sample : ∃ (u : Upload ⟨Options.sample⟩) (done : List Episode) (now : Namespace),
    u.Passes done now ∧ (∀ e ∈ done, e.request ≠ .use .cancel) ∧ u.Accounts done now ∧ u.content done = [2] := by
  have hattends : ∃ after, Namespace.initial.Attends (Work.merged (sampleTrace "/tmp/hdfs-registry/a")) after :=
    ⟨_, .interruption _ (.call rfl (.interruption _ (.call rfl (.interruption _ (.call rfl (.interruption _ (.call rfl
      (.fault .write (.interruption _ (.call rfl (.interruption _ (.call rfl (.nil _)))))))))))))⟩
  obtain ⟨after, hattends⟩ := hattends
  let u : Upload ⟨Options.sample⟩ := {
    path := "/a"
    append := false
    full := "/tmp/hdfs-registry/a"
    space := Namespace.initial
    opening := sampleOpening "/tmp/hdfs-registry/a"
    session := .start ⟨"/tmp/hdfs-registry/a", false⟩ "/tmp/hdfs-registry/a" 0
    episodes := sampleEpisodes "/tmp/hdfs-registry/a"
    trace := sampleTrace "/tmp/hdfs-registry/a"
    after
    resolved := rfl
    reachable := ⟨[], rfl⟩
    opens := .ask (.ask (.ask (.ask (.ask (.ask (.done _))))))
    history := ⟨rfl, .ask (.ask (.done _)), rfl, .ask (.ask (.done _)), trivial⟩
    own := rfl
    foreign := fun c hc => .read (by rw [List.mem_singleton.mp hc]; trivial)
    attends := hattends }
  have hno : ∀ e ∈ u.episodes, e.request ≠ .use .cancel := by
    intro e he
    rcases List.mem_cons.mp he with rfl | he
    · nofun
    · rw [List.mem_singleton.mp he]
      nofun
  exact ⟨u, u.episodes, after, u.passes_all, hno, accounts u.passes_all hno, rfl⟩

end Upload

end RootedStore
