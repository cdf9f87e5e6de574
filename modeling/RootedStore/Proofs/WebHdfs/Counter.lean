import RootedStore.Proofs.WebHdfs.Session

/-!
# The size of an extended file

A session that extends a file starts with the length that the namenode reports for it, whatever that is, and
counts what it writes in a word of 64 bits. The size is the exact sum as long as the sum fits such a word. It
goes back with the first write that makes the sum too large.
-/
namespace RootedStore.WebHdfs

variable {w : WebHdfs} {st : Store} {path full : String} {found : WireStatus} {s s' : WriteSession}
variable {size : UInt64} {state : WriteState} {visits : List Visit}

/-- How many bytes a session took. -/
def taken (visits : List Visit) : Nat := (visits.flatMap (·.accepted)).length

@[simp] theorem taken_nil : taken [] = 0 := rfl

@[simp] theorem taken_cons (v : Visit) (visits : List Visit) :
    taken (v :: visits) = v.accepted.length + taken visits := by
  simp [taken]

theorem taken_append (before after : List Visit) : taken (before ++ after) = taken before + taken after := by
  simp [taken]

/-- A session that was opened to extend what was found at a path. -/
def Extending (w : WebHdfs) (st : Store) (path full : String) (found : WireStatus) (s : WriteSession) : Prop :=
  st.options.resolve path = .ok full ∧ ∃ log o, (w.live (st.openWriter path true).run).Ends log (.ok s) ∧
    log[1]? = some ⟨w.statusRequest full, o⟩ ∧ Says status? o found

/-- Whatever a session is asked for next, its size is no smaller then. -/
def NeverFalls (w : WebHdfs) (s : WriteSession) (visits : List Visit) : Prop :=
  ∀ before v after s₁ s₂, visits = before ++ v :: after → w.Serves s before s₁ → w.Serves s₁ [v] s₂ →
    s₁.size ≤ s₂.size

theorem Extending.session (h : w.Extending st path full found s) : s = sessionAt full found.length .opened := by
  obtain ⟨hresolve, log, o, hends, hlog, hfound⟩ := h
  cases opening_of_ends hresolve hends with
  | opened granted plan follows =>
    obtain rfl : _ = o := by simpa using hlog
    cases plan with
    | created missing => exact absurd missing hfound.not_saysMissing
    | extended present =>
      rw [hfound.unique present]
      rfl

theorem toNat_add_ofNat (a : UInt64) (n : Nat) : (a + UInt64.ofNat n).toNat = (a.toNat + n) % UInt64.size := by
  simp

theorem size_of_serves (h : w.Serves (sessionAt full size state) visits s') :
    s'.size.toNat = (size.toNat + taken visits) % UInt64.size := by
  obtain ⟨_, _, rfl⟩ := serves_sessionAt h
  exact toNat_add_ofNat _ _

/-- One more request of a caller. -/
theorem size_of_visit {before : List Visit} {v : Visit} {s₁ s₂ : WriteSession}
    (hbefore : w.Serves (sessionAt full size state) before s₁) (hv : w.Serves s₁ [v] s₂) :
    s₂.size.toNat = (s₁.size.toNat + v.accepted.length) % UInt64.size := by
  obtain ⟨_, _, rfl⟩ := serves_sessionAt hbefore
  have hsize := size_of_serves hv
  rwa [taken_cons, taken_nil] at hsize

theorem neverFalls_of_lt (h : size.toNat + taken visits < UInt64.size) :
    w.NeverFalls (sessionAt full size state) visits := by
  rintro before v after s₁ s₂ rfl hbefore hv
  have hfirst := size_of_serves hbefore
  have hnext := size_of_visit hbefore hv
  rw [taken_append, taken_cons] at h
  rw [UInt64.le_iff_toNat_le]
  unfold UInt64.size at h hfirst hnext
  omega

theorem NeverFalls.tail {v : Visit} {next : WriteSession} (h : w.NeverFalls s (v :: visits))
    (hv : w.Serves s [v] next) : w.NeverFalls next visits := by
  rintro before u after s₁ s₂ rfl hbefore hu
  obtain ⟨_, hrun, rfl⟩ := hv
  exact h (v :: before) u after s₁ s₂ rfl ⟨_, hrun, hbefore⟩ hu

/-- A write that makes the sum too large for a word takes the size back, as what it adds is less than a whole
turn. -/
theorem lt_of_neverFalls (hserves : w.Serves (sessionAt full size state) visits s')
    (hword : ∀ v ∈ visits, v.accepted.length < UInt64.size) (h : w.NeverFalls (sessionAt full size state) visits) :
    size.toNat + taken visits < UInt64.size := by
  -- The size after the first request is the start of the rest, and exact as it did not fall.
  induction visits generalizing size state with
  | nil => simpa using size.toNat_lt
  | cons v visits ih =>
    obtain ⟨next, hrun, hrest⟩ := hserves
    have hv : w.Serves (sessionAt full size state) [v] next := ⟨next, hrun, rfl⟩
    have hle := h [] v visits _ _ rfl rfl hv
    have hnever := h.tail hv
    have hsize := size_of_serves hv
    obtain ⟨_, _, rfl⟩ := serves_sessionAt hv
    have hsum := ih hrest (fun u hu => hword u (List.mem_cons_of_mem _ hu)) hnever
    have hsmall := hword v List.mem_cons_self
    have hfits := size.toNat_lt
    rw [UInt64.le_iff_toNat_le] at hle
    simp only [sessionAt, taken_cons, taken_nil, UInt64.size] at hle hsize hsum hsmall ⊢
    omega

/-- The size of a session that extends a file is the reported length and what was taken, in a word of 64 bits. It
is the exact sum if and only if that fits, and it never falls if and only if that fits, provided that no single
request adds as much as a word can count. -/
theorem counts_modulo_word (h : w.Extending st path full found s) (hserves : w.Serves s visits s') :
    s'.size.toNat = (found.length.toNat + taken visits) % UInt64.size ∧
      (s'.size.toNat = found.length.toNat + taken visits ↔ found.length.toNat + taken visits < UInt64.size) ∧
      ((∀ v ∈ visits, v.accepted.length < UInt64.size) →
        (w.NeverFalls s visits ↔ found.length.toNat + taken visits < UInt64.size)) := by
  obtain rfl := h.session
  have hsize := size_of_serves hserves
  refine ⟨hsize, ?_, ?_⟩
  · rw [hsize]
    constructor
    · intro hexact
      rw [← hexact]
      exact Nat.mod_lt _ (by decide)
    · exact Nat.mod_eq_of_lt
  · intro hword
    exact ⟨lt_of_neverFalls hserves hword, neverFalls_of_lt⟩

def longest : WireStatus := ⟨"", 18446744073709551615, 0, "FILE"⟩

theorem says_longest : Says status?
    (answerOf "\x7b\"FileStatus\":\x7b\"length\":18446744073709551615,\"type\":\"FILE\"\x7d\x7d") longest :=
  ⟨_, rfl, rfl, by decide +kernel⟩

theorem extending_longest : sample.Extending ⟨Options.sample⟩ "/a" "/tmp/hdfs-registry/a" longest
    (sessionAt "/tmp/hdfs-registry/a" longest.length .opened) := by
  have hresolve : Options.sample.resolve "/a" = .ok "/tmp/hdfs-registry/a" := rfl
  have hchecked : Follows [sample.fileCheck "/tmp/hdfs-registry/a"] [⟨_, _⟩] true :=
    .goes ⟨longest, says_longest, rfl⟩ .all
  exact ⟨hresolve, _, _, ends_openWriter_of_plan hresolve says_granted (.extended says_longest) hchecked, rfl,
    says_longest⟩

/-- One byte more. -/
def oneByte : Visit :=
  ⟨.use (.write [7]), [⟨sample.appendRequest "/tmp/hdfs-registry/a" [7], .ok ⟨200, [], true, ""⟩⟩], .ok ()⟩

theorem serves_oneByte : sample.Serves (sessionAt "/tmp/hdfs-registry/a" longest.length .opened) [oneByte]
    (sessionAt "/tmp/hdfs-registry/a" 0 .opened) := by
  have hwrite : (sample.live ((sessionAt "/tmp/hdfs-registry/a" longest.length .opened).serve oneByte.request)).Ends
      oneByte.log (oneByte.outcome, sessionAt "/tmp/hdfs-registry/a" 0 .opened) := by
    rw [oneByte, live_write]
    exact Program.ends_bind_iff.mpr
      ⟨oneByte.log, .ok (), [], rfl, (carries_write.ok _ _).mpr ⟨.goes rfl .all, rfl⟩, .done _⟩
  exact ⟨_, hwrite, rfl⟩

/-- The size of a session that extends the longest file falls to zero with the first byte. -/
theorem counts_modulo_word_longest : ∃ s s',
    sample.Extending ⟨Options.sample⟩ "/a" "/tmp/hdfs-registry/a" longest s ∧ sample.Serves s [oneByte] s' ∧
      s.size.toNat = UInt64.size - 1 ∧ s'.size.toNat = 0 ∧ ¬ sample.NeverFalls s [oneByte] := by
  have h := counts_modulo_word extending_longest serves_oneByte
  have htaken : taken [oneByte] = 1 := rfl
  refine ⟨_, _, extending_longest, serves_oneByte, rfl, ?_, fun hnever => ?_⟩
  · rw [h.1, htaken]
    rfl
  · have hfits := (h.2.2 (by simp [oneByte, Visit.accepted, SessionRequest.accepted, UInt64.size])).mp hnever
    rw [htaken] at hfits
    exact absurd hfits (by decide)

/-- The size of a session is not always the reported length and the number of bytes that were taken, and it is not
always kept or raised. -/
theorem exists_size_lost :
    ¬ ∀ (w : WebHdfs) (st : Store) (path full : String) (found : WireStatus) (s : WriteSession),
        w.Extending st path full found s → ∀ visits s', w.Serves s visits s' →
          s'.size.toNat = found.length.toNat + taken visits ∧ w.NeverFalls s visits := by
  intro hclaim
  have h := (hclaim _ _ _ _ _ _ extending_longest _ _ serves_oneByte).1
  exact absurd h (by decide)

end RootedStore.WebHdfs
