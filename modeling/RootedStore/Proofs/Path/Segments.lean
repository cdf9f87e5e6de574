import Mathlib.Logic.Function.Iterate
import Mathlib.Order.Defs.Unbundled
import RootedStore.Proofs.Path.Evaluation

/-!
# Segments

The functions on paths work on text: one tests whether a text starts with another, one cuts a text at its
last slash. On canonical paths they do to the text what is meant for the list of its segments. The test is
the order of prefixes, in which the root is the least path, and what lies properly above a path is found by
taking the parent until the root is reached. Cut at its last slash, a path gives its parent and its base
name, and joining undoes the cut.
-/
namespace RootedStore.Path

/-- What stands between the slashes of a path, less what is empty. -/
def segments (path : String) : List (List Char) := (path.toList.splitOn '/').filter (· ≠ [])

/-- The segments of a canonical path are the names that it is evaluated to. -/
theorem segments_eq_names {path : String} (hp : normalize path = path) : segments path = names path := by
  have hn : ∀ w ∈ names path, IsName w := fun _ hw => isName_of_mem_names hw
  have hunbroken : ∀ w ∈ names path, ∀ c ∈ w, (c == '/') = false := fun w hw c hc =>
    ne_slash_of_isSeparator ((hn w hw).unbroken c hc)
  have hfilter : (names path).filter (· ≠ []) = names path :=
    List.filter_eq_self.mpr fun w hw => decide_eq_true (hn w hw).ne_nil
  rw [segments, toList_of_canonical hp, List.splitOn, ← pieces_eq_splitOnP]
  by_cases hne : names path = []
  · rw [hne]
    rfl
  · have hpieces : pieces (· == '/') (spell (names path)) = [] :: names path :=
      pieces_spell rfl hunbroken (v := []) (by simp)
    rw [render_of_ne_nil hne, hpieces, List.filter_cons_of_neg (by simp), hfilter]

theorem isUnder_iff_segments {path root : String} (hp : normalize path = path) (hr : normalize root = root) :
    isUnder path root = true ↔ segments root <+: segments path := by
  rw [isUnder_iff hp hr, segments_eq_names hp, segments_eq_names hr]

theorem isPartialOrder_isUnder :
    IsPartialOrder { path // IsCanonical path } fun root path => isUnder path.val root.val = true := by
  have hiff : ∀ root path : { path // IsCanonical path },
      isUnder path.val root.val = true ↔ Within root.val path.val := fun root path =>
    isUnder_iff_within (isCanonical_iff.mp path.property) (isCanonical_iff.mp root.property)
  refine { refl := ?_, trans := ?_, antisymm := ?_ }
  · intro path
    exact (hiff path path).mpr (Within.refl (isCanonical_iff.mp path.property))
  · intro root mid path h h'
    exact (hiff root path).mpr (((hiff root mid).mp h).trans ((hiff mid path).mp h'))
  · intro root path h h'
    exact Subtype.ext (((hiff root path).mp h).antisymm ((hiff path root).mp h'))

/-- What lies properly above a path is found by the test. -/
theorem isUnder_ne_iff_isAncestor {a path : String} (hp : normalize path = path) :
    (normalize a = a ∧ isUnder path a = true ∧ a ≠ path) ↔ IsAncestor a path := by
  constructor
  · rintro ⟨ha, hu, hne⟩
    exact isAncestor_of_within ha ((isUnder_iff_within hp ha).mp hu) hne
  · intro h
    exact ⟨h.1, (isUnder_iff hp h.1).mpr h.2.1, h.ne⟩

theorem names_iterate_parent (path : String) (n : Nat) :
    names (parent^[n] path) = (names path).take ((names path).length - n) := by
  induction n with
  | zero => simp
  | succ n ih =>
    -- at the root nothing is left to drop, and the subtraction stays at zero
    rw [Function.iterate_succ_apply', names_parent, ih, List.dropLast_eq_take, List.take_take,
      List.length_take]
    congr 1
    omega

section canonical

variable {path : String} (hp : normalize path = path)
include hp

theorem normalize_iterate_parent (n : Nat) : normalize (parent^[n] path) = parent^[n] path := by
  cases n with
  | zero => exact hp
  | succ n =>
    rw [Function.iterate_succ_apply']
    exact normalize_parent _

/-- Taking the parent as often as a path has names reaches the root, and stays there. -/
theorem iterate_parent_eq_root {n : Nat} (h : (names path).length ≤ n) : parent^[n] path = "/" := by
  rw [← names_eq_nil_iff (normalize_iterate_parent hp n), names_iterate_parent, Nat.sub_eq_zero_of_le h,
    List.take_zero]

/-- What lies above a path is its parent, the parent of that, and so on up to the root. -/
theorem isAncestor_iff_iterate {a : String} :
    IsAncestor a path ↔ ∃ n < (names path).length, parent^[n + 1] path = a := by
  constructor
  · rintro ⟨ha, hlead, hne⟩
    have hlt : (names a).length < (names path).length :=
      Nat.lt_of_le_of_ne hlead.length_le fun he => hne (hlead.eq_of_length he)
    -- the parent is taken once for each name that is one too many
    refine ⟨(names path).length - (names a).length - 1, by omega, ?_⟩
    refine eq_of_names_eq (normalize_iterate_parent hp _) ha ?_
    have hcount : (names path).length - ((names path).length - (names a).length - 1 + 1) = (names a).length := by
      omega
    rw [names_iterate_parent, hcount, ← List.prefix_iff_eq_take.mp hlead]
  · rintro ⟨n, hn, rfl⟩
    refine ⟨normalize_iterate_parent hp _, ?_, ?_⟩
    · rw [names_iterate_parent]
      exact List.take_prefix _ _
    · intro he
      have hlength := congrArg List.length he
      rw [names_iterate_parent, List.length_take] at hlength
      omega

/-- What stands before the last slash of a path is its parent, with the slash alone where nothing does, and
what stands behind it is the base name. -/
theorem exists_last_slash :
    ∃ lead, path.toList = lead ++ '/' :: (baseName path).toList ∧ '/' ∉ (baseName path).toList ∧
      (parent path).toList = if lead = [] then ['/'] else lead := by
  by_cases hne : path = "/"
  · rw [hne]
    exact ⟨[], by decide⟩
  · have hnames := names_eq_parent_concat hp hne
    refine ⟨spell (names (parent path)), ?_, (isName_baseName hp hne).slash_not_mem, ?_⟩
    · rw [toList_of_canonical hp, hnames, render_of_ne_nil (by simp), spell_append]
      simp
    · rw [toList_of_canonical (normalize_parent path)]
      split
      · rename_i hlead
        rw [spell_eq_nil hlead]
        rfl
      · rename_i hlead
        refine render_of_ne_nil fun hroot => hlead ?_
        rw [hroot, spell_nil]

end canonical

/-- A canonical path lies under another one exactly if the segments of that one are a prefix of its own. This is
a partial order with the root as its least path. What lies properly above a path are its parents, taken one
after the other as often as it has segments; then the root is reached, which is its own parent and has nothing
above it. The parent is what stands before the last slash of a path, the base name what stands behind it. The two
make up the path again when they are joined, and what is joined from a directory and a single name falls apart
into these. -/
theorem ordered_by_segments :
    (∀ path root, IsCanonical path → IsCanonical root →
      (isUnder path root = true ↔ segments root <+: segments path)) ∧
    IsPartialOrder { path // IsCanonical path } (fun root path => isUnder path.val root.val = true) ∧
    (IsCanonical "/" ∧ ∀ path, IsCanonical path → isUnder path "/" = true) ∧
    (∀ path, IsCanonical path →
      (∀ a, (IsCanonical a ∧ isUnder path a = true ∧ a ≠ path) ↔
        ∃ n < (segments path).length, parent^[n + 1] path = a) ∧
      ∀ n, (segments path).length ≤ n → parent^[n] path = "/") ∧
    (∀ path, IsCanonical path →
      ∃ lead, path.toList = lead ++ '/' :: (baseName path).toList ∧ '/' ∉ (baseName path).toList ∧
        (parent path).toList = if lead = [] then ['/'] else lead) ∧
    (∀ path, IsCanonical path → path ≠ "/" →
      join (parent path) (baseName path) = path ∧ IsName (baseName path).toList) ∧
    ∀ dir name, IsCanonical dir → IsName name.toList →
      parent (join dir name) = dir ∧ baseName (join dir name) = name := by
  have hroot : normalize "/" = "/" := rfl
  simp only [isCanonical_iff]
  refine ⟨fun path root => isUnder_iff_segments, isPartialOrder_isUnder, ⟨hroot, ?_⟩, ?_,
    fun path => exists_last_slash, ?_, ?_⟩
  · intro path hp
    exact (isUnder_iff hp hroot).mpr List.nil_prefix
  · intro path hp
    rw [segments_eq_names hp]
    exact ⟨fun a => (isUnder_ne_iff_isAncestor hp).trans (isAncestor_iff_iterate hp), fun n => iterate_parent_eq_root hp⟩
  · intro path hp hne
    exact ⟨join_parent_baseName hp hne, isName_baseName hp hne⟩
  · intro dir name hd hn
    exact ⟨parent_join hd hn, baseName_join dir hn⟩

theorem ordered_by_segments_registry :
    IsCanonical "/tmp/registry" ∧ IsCanonical "/tmp/reg" ∧ IsName "registry".toList ∧
      (isUnder "/tmp/registry" "/tmp/reg" = true ↔ segments "/tmp/reg" <+: segments "/tmp/registry") ∧
      isUnder "/tmp/registry" "/tmp/reg" = false ∧
      (IsCanonical (parent^[2] "/tmp/registry") ∧ isUnder "/tmp/registry" (parent^[2] "/tmp/registry") = true ∧
        parent^[2] "/tmp/registry" ≠ "/tmp/registry") ∧
      parent^[2] "/tmp/registry" = "/" ∧
      join (parent "/tmp/registry") (baseName "/tmp/registry") = "/tmp/registry" ∧
      parent (join "/tmp/reg" "registry") = "/tmp/reg" ∧ baseName (join "/tmp/reg" "registry") = "registry" := by
  have hp : IsCanonical "/tmp/registry" := isCanonical_iff.mpr rfl
  have hr : IsCanonical "/tmp/reg" := isCanonical_iff.mpr rfl
  have hn : IsName "registry".toList := ⟨by decide, by decide, by decide, by simp [isSeparator]⟩
  have htwo : (segments "/tmp/registry").length = 2 := rfl
  obtain ⟨order, -, -, above, -, parts, joined⟩ := ordered_by_segments
  obtain ⟨hparent, hbase⟩ := joined _ _ hr hn
  refine ⟨hp, hr, hn, order _ _ hp hr, rfl, ((above _ hp).1 _).mpr ⟨1, htwo ▸ Nat.one_lt_two, rfl⟩, ?_, ?_, hparent, hbase⟩
  · exact (above _ hp).2 2 (Nat.le_of_eq htwo)
  · exact (parts _ hp (by decide)).1

end RootedStore.Path
