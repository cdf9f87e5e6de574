import RootedStore.Proofs.Store.Reading

/-!
# Streams with failures

A stream is chunks of any length, with failures between them. A session passes on what is in it, whatever the room of
its reads: the borders of chunks are lost, the order of bytes and failures is not. A read gives a part of one chunk,
or one failure, or nothing at the end, and what a read gives depends only on how much was given before.
-/
namespace RootedStore

/-- What a reader comes upon in a stream: a byte, or a failure. -/
abbrev Arrival : Type := UInt8 ⊕ StreamError

namespace Feed

/-- What items bring, in order and without the borders of chunks. -/
def arrivals (items : List StreamItem) : List Arrival :=
  items.flatMap fun
    | .chunk bytes => bytes.map .inl
    | .failure e => [.inr e]

@[simp] theorem arrivals_nil : arrivals [] = [] := rfl

@[simp] theorem arrivals_chunk (bytes : Bytes) (items : List StreamItem) :
    arrivals (.chunk bytes :: items) = bytes.map .inl ++ arrivals items := List.flatMap_cons

@[simp] theorem arrivals_failure (e : StreamError) (items : List StreamItem) :
    arrivals (.failure e :: items) = .inr e :: arrivals items := List.flatMap_cons

@[simp] theorem arrivals_append (first rest : List StreamItem) :
    arrivals (first ++ rest) = arrivals first ++ arrivals rest := List.flatMap_append

theorem arrivals_cons (item : StreamItem) (items : List StreamItem) :
    arrivals (item :: items) = arrivals [item] ++ arrivals items := arrivals_append [item] items

theorem filterMap_arrivals (items : List StreamItem) :
    (arrivals items).filterMap Sum.getLeft? = items.flatMap itemBytes := by
  induction items with
  | nil => rfl
  | cons item items ih =>
    cases item with
    | chunk bytes =>
      have hbytes : (bytes.map Sum.inl : List Arrival).filterMap Sum.getLeft? = bytes := by
        simp [List.filterMap_map, Function.comp_def]
      rw [arrivals_chunk, List.filterMap_append, hbytes, ih]
      rfl
    | failure e =>
      rw [arrivals_failure, List.filterMap_cons, Sum.getLeft?, ih]
      rfl

variable {items : List StreamItem} {delivered : List Arrival} {n : Nat}

/-- Where a session stands in a stream when so much was delivered: behind a part of a chunk, or between two items. -/
inductive Stands (items : List StreamItem) (delivered : List Arrival) : Feed → Prop where
  | within {before rest : List StreamItem} {done chunk : Bytes}
      (place : items = before ++ .chunk (done ++ chunk) :: rest)
      (reached : delivered = arrivals before ++ done.map .inl) : Stands items delivered (.flowing chunk rest)
  | between {before rest : List StreamItem} (place : items = before ++ rest) (reached : delivered = arrivals before) :
      Stands items delivered (.flowing [] rest)

/-- What a read with room for `n` bytes may give when so much was delivered before: a part of the next chunk that has
any bytes left, or the failure that is next, or nothing at the end. -/
inductive Delivers (items : List StreamItem) (delivered : List Arrival) (n : Nat) : StreamItem → Prop where
  | piece {before after : List StreamItem} {done piece left : Bytes}
      (place : items = before ++ .chunk (done ++ piece ++ left) :: after)
      (reached : delivered = arrivals before ++ done.map .inl) (nonempty : piece ≠ []) (fits : piece.length ≤ n) :
      Delivers items delivered n (.chunk piece)
  | failure {before after : List StreamItem} {e : StreamError} (place : items = before ++ .failure e :: after)
      (reached : delivered = arrivals before) : Delivers items delivered n (.failure e)
  | atEnd (reached : delivered = arrivals items) : Delivers items delivered n (.chunk [])

theorem Stands.exists_before {rest : List StreamItem} (h : Stands items delivered (.flowing [] rest)) :
    ∃ before, items = before ++ rest ∧ delivered = arrivals before := by
  cases h with
  | @within before _ done _ place reached =>
    exact ⟨before ++ [.chunk done], by simpa using place, by simpa using reached⟩
  | @between before _ place reached => exact ⟨before, place, reached⟩

/-- What was delivered is the start of the stream. -/
theorem Stands.prefix_arrivals {feed : Feed} (h : Stands items delivered feed) : delivered <+: arrivals items := by
  cases h with
  | within place reached => simp [place, reached]
  | between place reached => simp [place, reached]

theorem Stands.take_cons (hn : n ≠ 0) {b : UInt8} {chunk : Bytes} {rest : List StreamItem}
    (h : Stands items delivered (.flowing (b :: chunk) rest)) :
    Delivers items delivered n (.chunk ((b :: chunk).take n)) ∧
      Stands items (delivered ++ ((b :: chunk).take n).map .inl) (.flowing ((b :: chunk).drop n) rest) := by
  cases h with
  | @within before _ done _ place reached =>
    have hsplit : done ++ b :: chunk = done ++ (b :: chunk).take n ++ (b :: chunk).drop n := by
      rw [List.append_assoc, List.take_append_drop]
    rw [hsplit] at place
    constructor
    · exact .piece place reached (by simp [hn]) (List.length_take_le _ _)
    · exact .within place (by rw [reached, List.map_append, List.append_assoc])

/-- A read gives what is next, and the session stands behind it. -/
theorem Stands.take (hn : n ≠ 0) {chunk : Bytes} {rest : List StreamItem}
    (h : Stands items delivered (.flowing chunk rest)) :
    Delivers items delivered n (Feed.take n chunk rest).1 ∧
      Stands items (delivered ++ arrivals [(Feed.take n chunk rest).1]) (Feed.take n chunk rest).2 := by
  induction rest generalizing chunk with
  | nil =>
    cases chunk with
    | cons b chunk => simpa [Feed.take] using h.take_cons hn
    | nil =>
      obtain ⟨before, place, reached⟩ := h.exists_before
      rw [List.append_nil] at place
      subst place
      simpa [Feed.take] using ⟨Delivers.atEnd reached, h⟩
  | cons item rest ih =>
    cases chunk with
    | cons b chunk => simpa [Feed.take] using h.take_cons hn
    | nil =>
      obtain ⟨before, place, reached⟩ := h.exists_before
      cases item with
      | chunk bytes =>
        rw [Feed.take]
        have hdone : items = before ++ .chunk ([] ++ bytes) :: rest := place
        exact ih (.within hdone (by simp [reached]))
      | failure e =>
        rw [Feed.take]
        have hnext : items = (before ++ [.failure e]) ++ rest := by simp [place]
        exact ⟨.failure place reached, .between hnext (by simp [reached])⟩

theorem Delivers.exists_arrival {item : StreamItem} (h : Delivers items delivered n item) :
    arrivals [item] ≠ [] ∨ delivered = arrivals items := by
  cases h with
  | piece place reached nonempty fits => exact .inl (by simpa using nonempty)
  | failure place reached => exact .inl (by simp)
  | atEnd reached => exact .inr reached

theorem Delivers.eq_of_nil (h : Delivers items delivered n (.chunk [])) : delivered = arrivals items := by
  cases h with
  | piece place reached nonempty fits => exact absurd rfl nonempty
  | atEnd reached => exact reached

/-- A failure among what items bring is one of the items, with what comes before and after it. -/
theorem exists_failure {results : List StreamItem} {first later : List Arrival} {e : StreamError}
    (h : arrivals results = first ++ .inr e :: later) :
    ∃ before after, results = before ++ .failure e :: after ∧ arrivals before = first ∧ arrivals after = later := by
  induction results generalizing first with
  | nil => simp at h
  | cons item results ih =>
    cases item with
    | failure e' =>
      rw [arrivals_failure] at h
      cases first with
      | nil =>
        obtain ⟨he, hlater⟩ := List.cons.inj h
        obtain rfl : e' = e := Sum.inr.inj he
        exact ⟨[], results, rfl, rfl, hlater⟩
      | cons x first =>
        obtain ⟨rfl, hrest⟩ := List.cons.inj h
        obtain ⟨before, after, rfl, rfl, hafter⟩ := ih hrest
        exact ⟨.failure e' :: before, after, rfl, by simp, hafter⟩
    | chunk bytes =>
      rw [arrivals_chunk] at h
      -- a failure is not one of the bytes, so it comes behind all of them
      have hbehind : ∃ first', first = bytes.map .inl ++ first' ∧ arrivals results = first' ++ .inr e :: later := by
        rcases List.append_eq_append_iff.mp h with ⟨first', hfirst, hrest⟩ | ⟨last, hbytes, hrest⟩
        · exact ⟨first', hfirst, hrest⟩
        · cases last with
          | nil => exact ⟨[], by simpa using hbytes.symm, by simpa using hrest.symm⟩
          | cons x last =>
            obtain rfl : .inr e = x := (List.cons.inj hrest).1
            have hmem : .inr e ∈ bytes.map (.inl : UInt8 → Arrival) := by simp [hbytes]
            simp at hmem
      obtain ⟨first', rfl, hrest⟩ := hbehind
      obtain ⟨before, after, rfl, rfl, hafter⟩ := ih hrest
      exact ⟨.chunk bytes :: before, after, rfl, by simp, hafter⟩

/-- What is the start of a stream with a failure in it either ends before the failure or goes on behind it. -/
theorem prefix_failure {delivered first later : List Arrival} {e : StreamError}
    (h : delivered <+: first ++ .inr e :: later) :
    delivered <+: first ∨ ∃ behind, delivered = first ++ .inr e :: behind ∧ behind <+: later := by
  rcases List.prefix_or_prefix_of_prefix h (List.prefix_append first _) with hp | ⟨rest, rfl⟩
  · exact .inl hp
  · rw [List.prefix_append_right_inj] at h
    cases rest with
    | nil => exact .inl (by simp)
    | cons x rest =>
      obtain ⟨rfl, hrest⟩ := List.cons_prefix_cons.mp h
      exact .inr ⟨rest, rfl, hrest⟩

/-- Only one of the items that are given is the failure at a place in the stream. -/
theorem failure_unique {results first first' later later' : List StreamItem} {e : StreamError}
    (h : results = first ++ .failure e :: later) (h' : results = first' ++ .failure e :: later')
    (he : arrivals first = arrivals first') : first = first' := by
  rw [h] at h'
  -- anything between the two would begin with the failure, and so bring something
  have hnone : ∀ {middle rest rest' : List StreamItem}, .failure e :: rest = middle ++ rest' →
      arrivals middle = [] → middle = [] := by
    intro middle rest rest' hmiddle hempty
    cases middle with
    | nil => rfl
    | cons item middle =>
      obtain rfl := (List.cons.inj hmiddle).1
      simp at hempty
  rcases List.append_eq_append_iff.mp h' with ⟨middle, rfl, hrest⟩ | ⟨middle, rfl, hrest⟩
  · rw [hnone hrest (by simpa using he), List.append_nil]
  · rw [hnone hrest (by simpa using he), List.append_nil]

end Feed

namespace ReadSession

variable {s : ReadSession} {items : List StreamItem} {delivered : List Arrival}

/-- One read with room of a session that is not interrupted. -/
theorem alone_readOnce_stands (h : Feed.Stands items delivered s.feed) {n : Nat} (hn : n ≠ 0) (ns : Namespace) :
    ∃ item feed, Work.alone (s.readOnce n) ns = ((item, { s with feed }), ns) ∧
      Feed.Delivers items delivered n item ∧ Feed.Stands items (delivered ++ Feed.arrivals [item]) feed := by
  obtain ⟨path, offset, feed⟩ := s
  have hflows : ∃ chunk rest, feed = .flowing chunk rest := by
    cases h <;> exact ⟨_, _, rfl⟩
  obtain ⟨chunk, rest, rfl⟩ := hflows
  obtain ⟨hdelivers, hstands⟩ := h.take hn
  refine ⟨_, _, ?_, hdelivers, hstands⟩
  simp [Work.alone, Work.run, Program.run, readOnce, Client.answer, Standing.good, hn, draw]

theorem alone_readOnce_zero (s : ReadSession) (ns : Namespace) :
    Work.alone (s.readOnce 0) ns = ((.chunk [], s), ns) := by
  simp [Work.alone, Work.run, Program.run, readOnce, Client.answer, Standing.good]

/-- After the reads of a plan the session stands behind all that they gave, and each read with room has given
something or the end is reached. -/
theorem follow_stands (h : Feed.Stands items delivered s.feed) (plan : Plan) :
    Feed.Stands items (delivered ++ Feed.arrivals (s.follow plan).1) (s.follow plan).2.feed ∧
      (plan.countP (0 < ·.1) ≤ (Feed.arrivals (s.follow plan).1).length ∨
        delivered ++ Feed.arrivals (s.follow plan).1 = Feed.arrivals items) := by
  induction plan generalizing s delivered with
  | nil => exact ⟨by simpa [follow] using h, .inl (Nat.zero_le _)⟩
  | cons entry plan ih =>
    obtain ⟨n, ns⟩ := entry
    by_cases hn : n = 0
    · subst hn
      rw [follow_cons (alone_readOnce_zero s ns) plan]
      simpa using ih h
    · obtain ⟨item, feed, halone, hdelivers, hstands⟩ := alone_readOnce_stands h hn ns
      obtain ⟨hlast, hcount⟩ := ih (s := { s with feed }) hstands
      rw [follow_cons halone plan, Feed.arrivals_cons, ← List.append_assoc]
      refine ⟨hlast, ?_⟩
      rcases hcount with hcount | hend
      · rcases hdelivers.exists_arrival with hitem | hend
        · have hlength := List.length_pos_iff.mpr hitem
          left
          rw [List.countP_cons, List.length_append]
          split <;> omega
        · -- nothing comes behind the end
          right
          exact hlast.prefix_arrivals.eq_of_length_le (by simp [← hend])
      · exact .inr hend

/-- Reads pass a stream on: bytes and failures in order, nothing left out, repeated or added. -/
structure Relays (s : ReadSession) (items : List StreamItem) : Prop where
  /-- What one more read with room gives after the reads of a plan. -/
  next : ∀ plan n ns, n ≠ 0 → ∃ item s', Work.alone ((s.follow plan).2.readOnce n) ns = ((item, s'), ns) ∧
    Feed.Delivers items (Feed.arrivals (s.follow plan).1) n item
  /-- All bytes that the reads of a plan give are the first ones of the stream. -/
  bytes : ∀ plan, s.bytesOf plan <+: items.flatMap Feed.itemBytes
  /-- A read with room that gives no bytes, and no failure either, comes after all of them. -/
  atEnd : ∀ plan n ns s', n ≠ 0 → Work.alone ((s.follow plan).2.readOnce n) ns = ((.chunk [], s'), ns) →
    s.bytesOf plan = items.flatMap Feed.itemBytes
  /-- A failure in the stream is given by one read only, after all that is before it and before all that is behind
  it, or the reads have not got there. -/
  failures : ∀ plan before e after, items = before ++ .failure e :: after →
    Feed.arrivals (s.follow plan).1 <+: Feed.arrivals before ∨
      ∃! first, ∃ later, (s.follow plan).1 = first ++ .failure e :: later ∧
        Feed.arrivals first = Feed.arrivals before ∧ Feed.arrivals later <+: Feed.arrivals after
  /-- As many reads with room as there are bytes and failures get to the end. -/
  ends : ∀ plan, (Feed.arrivals items).length ≤ plan.countP (0 < ·.1) →
    Feed.arrivals (s.follow plan).1 = Feed.arrivals items

/-- A session that is not interrupted relays its stream, whatever chunks and failures are in it, and with whatever room
it is read. -/
theorem relays_items (path : String) (offset : UInt64) (items : List StreamItem) :
    (ofItems path offset items).Relays items := by
  have hstart : Feed.Stands items [] (ofItems path offset items).feed := @Feed.Stands.between _ _ [] _ rfl rfl
  have hreached : ∀ plan, Feed.Stands items (Feed.arrivals ((ofItems path offset items).follow plan).1)
      ((ofItems path offset items).follow plan).2.feed := fun plan => (follow_stands hstart plan).1
  have hlead : ∀ plan, Feed.arrivals ((ofItems path offset items).follow plan).1 <+: Feed.arrivals items :=
    fun plan => (hreached plan).prefix_arrivals
  constructor
  · intro plan n ns hn
    obtain ⟨item, feed, halone, hdelivers, _⟩ := alone_readOnce_stands (hreached plan) hn ns
    exact ⟨item, _, halone, hdelivers⟩
  · intro plan
    rw [bytesOf, ← Feed.filterMap_arrivals, ← Feed.filterMap_arrivals]
    exact (hlead plan).filterMap _
  · intro plan n ns s' hn hread
    obtain ⟨item, feed, halone, hdelivers, _⟩ := alone_readOnce_stands (hreached plan) hn ns
    rw [halone] at hread
    obtain rfl : item = .chunk [] := congrArg (fun r => r.1.1) hread
    rw [bytesOf, ← Feed.filterMap_arrivals, hdelivers.eq_of_nil, Feed.filterMap_arrivals]
  · rintro plan before e after rfl
    have hp := hlead plan
    rw [Feed.arrivals_append, Feed.arrivals_failure] at hp
    rcases Feed.prefix_failure hp with hbefore | ⟨behind, hgiven, hbehind⟩
    · exact .inl hbefore
    · obtain ⟨first, later, hresults, hfirst, rfl⟩ := Feed.exists_failure hgiven
      refine .inr ⟨first, ⟨later, hresults, hfirst, hbehind⟩, ?_⟩
      rintro other ⟨later', hother, hsame, _⟩
      exact Feed.failure_unique hother hresults (hsame.trans hfirst.symm)
  · intro plan hplan
    rcases (follow_stands hstart plan).2 with hcount | hend
    · exact (hlead plan).eq_of_length_le (by omega)
    · exact hend

end ReadSession

end RootedStore
