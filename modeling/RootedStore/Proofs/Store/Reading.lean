import RootedStore.Proofs.Store.Put

/-!
# Reading from an offset

A file that is opened is read as it was then. Its content arrives in chunks, of which a session holds one, and
a read gives bytes of that one only. So the reads of a session give pieces of various lengths; put one after the
other they are what the file held from the offset on, whatever becomes of the file in the meantime.
-/
namespace RootedStore

open Namespace (chunks chunkSize notAFile serve)

namespace Namespace

/-- As many chunks as there are give that much of a content. -/
theorem flatten_chunks_take (content : Bytes) (count : Nat) :
    ((List.range count).map fun i => (content.drop (i * chunkSize)).take chunkSize).flatten =
      content.take (count * chunkSize) := by
  induction count with
  | zero => simp
  | succ count ih =>
    rw [List.range_succ, List.map_append, List.flatten_append, ih, Nat.succ_mul, List.take_add]
    simp

theorem flatten_chunks (content : Bytes) : (chunks content).flatten = content := by
  rw [chunks, flatten_chunks_take]
  refine List.take_of_length_le ?_
  simp only [chunkSize]
  omega

theorem client_stream_snapshot (content : Bytes) (length position : UInt64) (ns : Namespace) :
    client (.stream ⟨.snapshot content, length, position⟩) ns =
      (.ok ((chunks (content.drop position.toNat)).map .chunk), ns) := rfl

end Namespace

namespace Feed

/-- The bytes that are still to be read from a feed without failures. -/
inductive Holds : Feed → Bytes → Prop where
  | unopened (content : Bytes) (length position : UInt64) :
      Holds (.unopened ⟨.snapshot content, length, position⟩) (content.drop position.toNat)
  | flowing (chunk : Bytes) (rest : List Bytes) :
      Holds (.flowing chunk (rest.map .chunk)) (chunk ++ rest.flatten)

/-- How a read of at most `n` bytes leaves a feed that held `left`. -/
structure Gives (n : Nat) (left piece : Bytes) (feed : Feed) : Prop where
  fits : piece.length ≤ n
  holds : ∃ later, feed.Holds later ∧ left = piece ++ later
  nothing : piece = [] ↔ n = 0 ∨ left = []
  flows : n ≠ 0 → ∃ chunk rest, feed = .flowing chunk rest

/-- The chunks themselves say how many reads are enough. -/
theorem Holds.bound_eq {chunk left : Bytes} {rest : List StreamItem}
    (h : (Feed.flowing chunk rest).Holds left) : (Feed.flowing chunk rest).bound = left.length + 1 := by
  cases h with
  | flowing chunk rest =>
    have hbytes : (rest.map StreamItem.chunk).flatMap itemBytes = rest.flatten := by
      rw [List.flatMap_map]
      exact List.flatMap_id
    rw [bound, hbytes, List.length_append]

variable {n : Nat}

theorem gives_of_chunk (hn : n ≠ 0) (b : UInt8) (chunk : Bytes) (rest : List Bytes) :
    Gives n (b :: chunk ++ rest.flatten) ((b :: chunk).take n)
      (.flowing ((b :: chunk).drop n) (rest.map .chunk)) := by
  refine ⟨List.length_take_le _ _, ⟨_, .flowing _ rest, ?_⟩, by simp [hn], fun _ => ⟨_, _, rfl⟩⟩
  rw [← List.append_assoc, List.take_append_drop]

/-- A read with room goes on to the first chunk that has any bytes. -/
theorem take_gives (hn : n ≠ 0) (chunk : Bytes) (rest : List Bytes) :
    ∃ piece feed, take n chunk (rest.map .chunk) = (.chunk piece, feed) ∧
      Gives n (chunk ++ rest.flatten) piece feed := by
  induction rest generalizing chunk with
  | nil =>
    cases chunk with
    | nil =>
      refine ⟨[], .flowing [] [], by simp [take], Nat.zero_le n, ⟨[], .flowing [] [], rfl⟩, by simp, ?_⟩
      exact fun _ => ⟨_, _, rfl⟩
    | cons b chunk => exact ⟨_, _, by rw [take], gives_of_chunk hn b chunk []⟩
  | cons next rest ih =>
    cases chunk with
    | nil =>
      obtain ⟨piece, feed, htake, hgives⟩ := ih next
      exact ⟨piece, feed, by rw [List.map_cons, take, htake], by simpa using hgives⟩
    | cons b chunk => exact ⟨_, _, by rw [take], gives_of_chunk hn b chunk (next :: rest)⟩

end Feed

namespace ReadSession

variable {s : ReadSession} {left : Bytes}

/-- One read of a session that is not interrupted, on whatever the namespace has become. -/
theorem alone_readOnce (h : s.feed.Holds left) (n : Nat) (ns : Namespace) :
    ∃ piece feed, Work.alone (s.readOnce n) ns = ((.chunk piece, { s with feed }), ns) ∧
      Feed.Gives n left piece feed := by
  by_cases hn : n = 0
  · refine ⟨[], s.feed, ?_, Nat.zero_le n, ⟨left, h, rfl⟩, by simp [hn], fun h => absurd hn h⟩
    simp [Work.alone, Work.run, Program.run, readOnce, Client.answer, Standing.good, hn]
  · obtain ⟨path, offset, feed⟩ := s
    cases h with
    | unopened content length position =>
      obtain ⟨piece, feed, htake, hgives⟩ := Feed.take_gives hn [] (chunks (content.drop position.toNat))
      rw [List.nil_append, Namespace.flatten_chunks] at hgives
      refine ⟨piece, feed, ?_, hgives⟩
      simp [Work.alone, Work.run, Program.run, readOnce, Client.answer, Standing.good, hn,
        Namespace.client_stream_snapshot, items, draw, htake]
    | flowing chunk rest =>
      obtain ⟨piece, feed, htake, hgives⟩ := Feed.take_gives hn chunk rest
      refine ⟨piece, feed, ?_, hgives⟩
      simp [Work.alone, Work.run, Program.run, readOnce, Client.answer, Standing.good, hn, draw, htake]

def wanted (limit : Option Nat) (content : Bytes) : Bytes := limit.elim content content.take

theorem wanted_nil (limit : Option Nat) : wanted limit [] = [] := by cases limit <;> simp [wanted]

/-- A piece within the limit is the first part of what is wanted. -/
theorem append_wanted {limit : Option Nat} {piece : Bytes} (h : piece.length ≤ limit.getD room)
    (later : Bytes) : piece ++ wanted (limit.map (· - piece.length)) later = wanted limit (piece ++ later) := by
  cases limit with
  | none => rfl
  | some n =>
    have hn : n = piece.length + (n - piece.length) := by
      have hle : piece.length ≤ n := h
      omega
    simp only [wanted, Option.map_some, Option.elim_some]
    conv_rhs => rw [hn, List.take_length_add_append]

/-- A read gives the whole of what is wanted, or gives the first piece and goes on after it. -/
theorem alone_readThen (h : s.feed.Holds left) (limit : Option Nat) (read : Bytes) (ns : Namespace)
    (next : Option Nat → Bytes → ReadSession → Step Reading) :
    (Work.alone (s.readThen limit read next) ns).1.1 = ⟨read ++ wanted limit left, none⟩ ∨
      ∃ piece later feed, left = piece ++ later ∧ piece ≠ [] ∧ piece.length ≤ limit.getD room ∧
        feed.Holds later ∧ feed.bound = later.length + 1 ∧
        Work.alone (s.readThen limit read next) ns =
          Work.alone (next (limit.map (· - piece.length)) (read ++ piece) { s with feed }) ns := by
  obtain ⟨piece, feed, halone, hgives⟩ := alone_readOnce h (limit.getD room) ns
  rw [readThen, Work.alone_bind, halone]
  cases piece with
  | nil =>
    left
    have hnothing : wanted limit left = [] := by
      rcases hgives.nothing.mp rfl with hn | rfl
      · cases limit with
        | none => exact absurd hn (by decide)
        | some n =>
          obtain rfl : n = 0 := hn
          rfl
      · exact wanted_nil limit
    rw [hnothing, List.append_nil]
    rfl
  | cons b piece =>
    obtain ⟨later, hlater, rfl⟩ := hgives.holds
    have hroom : limit.getD room ≠ 0 := fun hn => nomatch hgives.nothing.mpr (.inl hn)
    obtain ⟨chunk, rest, rfl⟩ := hgives.flows hroom
    exact .inr ⟨_, later, _, rfl, nofun, hgives.fits, hlater, hlater.bound_eq, rfl⟩

theorem alone_readOn {fuel : Nat} (h : s.feed.Holds left) (hfuel : left.length < fuel) (limit : Option Nat)
    (read : Bytes) (ns : Namespace) :
    (Work.alone (readOn fuel limit read s) ns).1.1 = ⟨read ++ wanted limit left, none⟩ := by
  induction fuel generalizing limit read s left with
  | zero => omega
  | succ fuel ih =>
    rw [readOn]
    split
    · rename_i hlimit
      have hnothing : wanted limit left = [] := by rw [hlimit]; rfl
      rw [hnothing, List.append_nil]
      rfl
    · rcases alone_readThen h limit read ns (readOn fuel) with hdone |
        ⟨piece, later, feed, rfl, hpiece, hfits, hlater, _, halone⟩
      · exact hdone
      · have hlength := List.length_pos_iff.mpr hpiece
        rw [List.length_append] at hfuel
        rw [halone, ih (s := { s with feed }) hlater (by omega), List.append_assoc, append_wanted hfits]

theorem alone_read (h : s.feed.Holds left) (limit : Option Nat) (ns : Namespace) :
    (Work.alone (s.read limit) ns).1.1 = ⟨wanted limit left, none⟩ := by
  rcases alone_readThen h limit [] ns fun limit bytes s' => readOn s'.feed.bound limit bytes s' with hdone |
    ⟨piece, later, feed, rfl, _, hfits, hlater, hbound, halone⟩
  · exact hdone
  · have hfuel : later.length < feed.bound := by omega
    have hheld : ({ s with feed } : ReadSession).feed.Holds later := hlater
    have hon := alone_readOn hheld hfuel (limit.map (· - piece.length)) piece ns
    rw [append_wanted hfits] at hon
    rw [read, halone]
    exact hon

abbrev Plan := List (Nat × Namespace)

def follow (s : ReadSession) : Plan → List StreamItem × ReadSession
  | [] => ([], s)
  | (n, ns) :: plan =>
    let (item, s') := (Work.alone (s.readOnce n) ns).1
    (item :: (s'.follow plan).1, (s'.follow plan).2)

theorem follow_cons {n : Nat} {ns : Namespace} {item : StreamItem} {s' : ReadSession}
    (h : Work.alone (s.readOnce n) ns = ((item, s'), ns)) (plan : Plan) :
    s.follow ((n, ns) :: plan) = (item :: (s'.follow plan).1, (s'.follow plan).2) := by
  simp only [follow, h]

def bytesOf (s : ReadSession) (plan : Plan) : Bytes := (s.follow plan).1.flatMap Feed.itemBytes

/-- Reads give a content from its start: nothing is left out, repeated or added, and no read with room comes
back empty before the end. -/
structure Yields (s : ReadSession) (content : Bytes) : Prop where
  /-- What a read gives after the reads of a plan. -/
  next : ∀ plan n ns, ∃ piece s', Work.alone ((s.follow plan).2.readOnce n) ns = ((.chunk piece, s'), ns) ∧
    piece.length ≤ n ∧ s.bytesOf plan ++ piece <+: content ∧
      (piece = [] ↔ n = 0 ∨ s.bytesOf plan = content)
  /-- As many reads with room as there are bytes get to the end. -/
  ends : ∀ plan, content.length ≤ plan.countP (0 < ·.1) → s.bytesOf plan = content
  /-- Reading goes on up to a limit, or to the end. -/
  read : ∀ limit ns, (Work.alone (s.read limit) ns).1.1 = ⟨wanted limit content, none⟩

theorem follow_holds (h : s.feed.Holds left) (plan : Plan) :
    ∃ later, (s.follow plan).2.feed.Holds later ∧ left = s.bytesOf plan ++ later ∧
      (plan.countP (0 < ·.1) ≤ (s.bytesOf plan).length ∨ later = []) := by
  induction plan generalizing s left with
  | nil => exact ⟨left, h, rfl, .inl (Nat.le_refl 0)⟩
  | cons entry plan ih =>
    obtain ⟨n, ns⟩ := entry
    obtain ⟨piece, feed, halone, hgives⟩ := alone_readOnce h n ns
    obtain ⟨mid, hmid, rfl⟩ := hgives.holds
    obtain ⟨later, hlater, rfl, hcount⟩ := ih (s := { s with feed }) hmid
    have hfollow := follow_cons halone plan
    have hbytes : s.bytesOf ((n, ns) :: plan) = piece ++ { s with feed }.bytesOf plan := by
      rw [bytesOf, hfollow]
      rfl
    refine ⟨later, by rwa [hfollow], by rw [hbytes, List.append_assoc], ?_⟩
    rw [hbytes, List.length_append, List.countP_cons]
    rcases hcount with hcount | hend
    · by_cases hpiece : piece = []
      · rcases hgives.nothing.mp hpiece with hn | hleft
        · left
          simpa [hn] using Nat.le_add_left_of_le hcount
        · exact .inr (List.append_eq_nil_iff.mp (List.append_eq_nil_iff.mp hleft).2).2
      · have hlength := List.length_pos_iff.mpr hpiece
        left
        split <;> omega
    · exact .inr hend

theorem yields_of_holds (h : s.feed.Holds left) : s.Yields left := by
  constructor
  · intro plan n ns
    obtain ⟨later, hlater, hleft, _⟩ := follow_holds h plan
    obtain ⟨piece, feed, halone, hgives⟩ := alone_readOnce hlater n ns
    obtain ⟨last, _, rfl⟩ := hgives.holds
    refine ⟨piece, _, halone, hgives.fits, ⟨last, by rw [hleft, List.append_assoc]⟩, ?_⟩
    rw [hgives.nothing, hleft, List.self_eq_append_right]
  · intro plan hplan
    obtain ⟨later, _, rfl, hcount⟩ := follow_holds h plan
    rcases hcount with hcount | rfl
    · rw [List.length_append] at hplan
      rw [List.length_eq_zero_iff.mp (by omega : later.length = 0), List.append_nil]
    · rw [List.append_nil]
  · exact fun limit ns => alone_read h limit ns

end ReadSession

namespace Store

variable {st : Store} {space : Namespace} {path full : String} {offset : UInt64}

theorem alone_openReader_error (hf : space.faults = []) (hr : st.options.resolve path = .ok full) {e : ClientError}
    (hopen : Namespace.fileAt space.nodes full = .error e) :
    (st.openReader path offset).alone space = (.error (.ofClient driverName full e), space) := by
  have hserve : serve (.openRead full) space = (.error e, space) := by
    simp only [serve, hopen]
    rfl
  refine (alone_resolve hr _).trans ?_
  exact Action.alone_bind_error (Action.alone_call_error hf hserve full) _

theorem alone_openReader (hf : space.faults = []) (hr : st.options.resolve path = .ok full) {content : Bytes}
    (hopen : Namespace.fileAt space.nodes full = .ok content) :
    (st.openReader path offset).alone space =
      (if offset ≤ UInt64.ofNat content.length then
        .ok ⟨full, offset, .unopened ⟨.snapshot content, UInt64.ofNat content.length, offset⟩⟩
      else .error (.invalidOffset full offset), space) := by
  have hserve : serve (.openRead full) space =
      (.ok ⟨.snapshot content, UInt64.ofNat content.length, 0⟩, space) := by
    simp only [serve, hopen]
    rfl
  refine (alone_resolve hr _).trans ?_
  refine (Action.alone_bind_ok (Action.alone_call_ok hf hserve full) _).trans ?_
  have hlt : UInt64.ofNat content.length < offset ↔ ¬ offset ≤ UInt64.ofNat content.length := UInt64.not_le.symm
  by_cases hk : offset ≤ UInt64.ofNat content.length
  · have hmin : min offset (UInt64.ofNat content.length) = offset := if_pos hk
    have hseek : serve (.seek ⟨.snapshot content, UInt64.ofNat content.length, 0⟩ offset) space =
        (.ok ⟨.snapshot content, UInt64.ofNat content.length, offset⟩, space) := by
      simp only [serve, hmin]
    simp only [hlt, hk, not_true_eq_false, if_false, if_true]
    refine (Action.alone_bind_ok (Action.alone_call_ok hf hseek full) _).trans ?_
    have hself : ¬ offset < offset := UInt64.lt_irrefl offset
    simp only [hself, if_false]
    rfl
  · simp only [hlt, hk, not_false_eq_true, if_false, if_true]
    rfl

/-- How an object is read, as a whole and from an offset on. Whether the offset lies within the file is decided
by the length that is reported, which is the length of the content unless that is beyond all numbers. -/
structure Reads (st : Store) (path full : String) (offset : UInt64) (space : Namespace) : Prop where
  suffix : ∀ content modified, space.node? full = some (.file content modified) →
    offset ≤ UInt64.ofNat content.length →
      ∃ s, (st.openReader path offset).alone space = (.ok s, space) ∧ s.Yields (content.drop offset.toNat)
  whole : ∀ content modified, space.node? full = some (.file content modified) →
    (st.get path).alone space = (.ok content, space)
  beyond : ∀ content modified, space.node? full = some (.file content modified) →
    UInt64.ofNat content.length < offset →
      (st.openReader path offset).alone space = (.error (.invalidOffset full offset), space)
  directory : ∀ mode modified, space.node? full = some (.dir mode modified) →
    (st.openReader path offset).alone space = (.error (.backend driverName (notAFile full)), space)
  missing : space.node? full = none →
    (st.openReader path offset).alone space = (.error (.pathNotFound full), space)
  within_iff : ∀ content : Bytes, content.length < UInt64.size →
    (offset ≤ UInt64.ofNat content.length ↔ offset.toNat ≤ content.length)

/-- From every namespace without arranged failures an object is read from any offset on as it is when it is
opened: every sequence of reads, each on a namespace of its own, gives what follows the offset, piece by piece. -/
theorem reads_suffix (hf : space.faults = []) (hr : st.options.resolve path = .ok full) (offset : UInt64) :
    st.Reads path full offset space := by
  have hopen : ∀ {content modified}, space.node? full = some (.file content modified) →
      Namespace.fileAt space.nodes full = .ok content := by
    intro content modified h
    rw [Namespace.node?] at h
    rw [Namespace.fileAt, h]
  constructor
  · intro content modified h hk
    refine ⟨_, by rw [alone_openReader hf hr (hopen h), if_pos hk], ReadSession.yields_of_holds ?_⟩
    exact .unopened content _ offset
  · intro content modified h
    obtain ⟨nodes, faults⟩ := space
    obtain rfl : faults = [] := hf
    exact alone_get hr h
  · intro content modified h hk
    rw [alone_openReader hf hr (hopen h), if_neg (UInt64.not_le.mpr hk)]
  · intro mode modified h
    rw [Namespace.node?] at h
    exact alone_openReader_error hf hr (by rw [Namespace.fileAt, h])
  · intro h
    rw [Namespace.node?] at h
    exact alone_openReader_error (e := .notFound full) hf hr (by rw [Namespace.fileAt, h])
  · intro content hlength
    rw [UInt64.le_iff_toNat_le, UInt64.toNat_ofNat_of_lt' hlength]

/-- A file of three bytes, read from the second one on. -/
theorem reads_suffix_three :
    let space : Namespace :=
      ⟨Namespace.initial.nodes.insert "/tmp/hdfs-registry/a" (.file [1, 2, 3] .present), []⟩
    space.faults = [] ∧ Options.sample.resolve "a" = .ok "/tmp/hdfs-registry/a" ∧
      Reads ⟨Options.sample⟩ "a" "/tmp/hdfs-registry/a" 1 space := by
  intro space
  have hf : space.faults = [] := rfl
  have hr : Options.sample.resolve "a" = .ok "/tmp/hdfs-registry/a" := rfl
  exact ⟨hf, hr, reads_suffix hf hr 1⟩

end Store

end RootedStore
