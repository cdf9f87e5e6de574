import RootedStore.Proofs.Options.Field

/-!
# Accepted options, given again

Accepted options make a map themselves, with every option in it. All but the root is read back from that map as it
is. A root is trimmed before its components are evaluated, so that blanks in front of a slash may come to its end, and
are taken from there when it is read again. What is left of the last component then stands for itself, for nothing
at all, or for the parent directory, which is refused.
-/
namespace RootedStore

namespace Path

theorem ofNames_ne_empty (ws : List (List Char)) : ofNames ws ≠ "" := by
  intro h
  have hrender : render ws = [] := by
    rw [← toList_ofNames, h]
    rfl
  cases ws <;> cases hrender

variable {init : List (List Char)} {w : List Char}

/-- Blanks at the end of a canonical path are those at the end of its last name. -/
theorem trim_ofNames (h : ∀ v ∈ init ++ [w], IsName v) :
    Text.trim (ofNames (init ++ [w])) = ofNames (init ++ [w.rdropWhile Text.isBlank]) := by
  have hspell : ∀ v : List Char, render (init ++ [v]) = spell init ++ '/' :: v := by
    intro v
    rw [render_of_ne_nil (by simp)]
    simp
  have hhead : ∀ c, (render (init ++ [w])).head? = some c → Text.isBlank c = false := by
    have hrooted := (isCanonical_ofNames h).rooted
    rw [toList_ofNames] at hrooted
    intro c hc
    rw [hrooted] at hc
    rw [← Option.some.inj hc]
    decide
  rw [Text.trim, toList_ofNames, Text.trimBoth_eq, Text.dropWhile_eq_self_of_head? hhead, hspell,
    Text.rdropWhile_append_cons (by decide), ← hspell]
  rfl

theorem unbroken_rdropWhile (h : ∀ v ∈ init ++ [w], IsName v) (p : Char → Bool) :
    ∀ c ∈ w.rdropWhile p, isSeparator c = false :=
  fun c hc => (h w (by simp)).unbroken c ((List.rdropWhile_prefix p w).subset hc)

/-- The components of names are read back even if the last one would be dropped. -/
theorem components_ofNames_concat (hinit : ∀ v ∈ init, IsName v) (hw : ∀ c ∈ w, isSeparator c = false) :
    components (ofNames (init ++ [w])) = [] :: (init ++ [w]) := by
  have hunbroken : ∀ v ∈ init ++ [w], ∀ c ∈ v, isSeparator c = false := by
    intro v hv
    rcases List.mem_append.mp hv with hv | hv
    · exact (hinit v hv).unbroken
    · rw [List.mem_singleton.mp hv]
      exact hw
  refine components_of_unbroken ?_ hunbroken
  rw [toList_ofNames, render_of_ne_nil (by simp)]

section concat

variable (hinit : ∀ v ∈ init, IsName v) (hw : ∀ c ∈ w, isSeparator c = false)
include hinit hw

theorem above_mem_components_iff : above ∈ components (ofNames (init ++ [w])) ↔ w = above := by
  rw [components_ofNames_concat hinit hw]
  simp only [List.mem_cons, List.mem_append, List.not_mem_nil, or_false, not_mem_above hinit, false_or]
  exact ⟨fun hm => (hm.resolve_left (by decide)).symm, fun e => .inr e.symm⟩

theorem names_ofNames_concat (habove : w ≠ above) : names (ofNames (init ++ [w])) = init ++ [w].filter isKept := by
  have hplain : above ∉ components (ofNames (init ++ [w])) :=
    fun hm => habove ((above_mem_components_iff hinit hw).mp hm)
  rw [names, resolve, foldl_push_plain hplain, components_ofNames_concat hinit hw]
  simp [isKept, filter_isKept hinit]

end concat

/-- A canonical path has no double dot. -/
theorem above_not_mem_components {path : String} (h : normalize path = path) : above ∉ components path := by
  by_cases hne : names path = []
  · rw [← h, normalize_eq, hne]
    decide
  · have hnames : ∀ w ∈ names path, IsName w := fun _ => isName_of_mem_names
    rw [← h, normalize_eq, components_ofNames hne hnames, List.mem_cons, not_or]
    exact ⟨by decide, not_mem_above hnames⟩

end Path

namespace Options

open RootedStore.Path (IsName names ofNames)
open RootedStore.Text (IsTrimmed)

/-- Options as a map that has every one of them. -/
def fields (o : Options) : List (String × Json.Value) :=
  [(maskKey, .number (.natural o.mask.toUInt64)), (namenodeKey, .string o.namenode), (rootKey, .string o.root),
    (userKey, .string o.user), (timeoutKey, .number (.natural o.timeout))]

def toValue (o : Options) : Json.Value := .object o.fields

theorem isFilled_trim {s : String} (h : IsFilled s) : IsFilled (Text.trim s) := by
  refine isFilled_of_trim fun hempty => ?_
  rw [Text.trim_eq_self (Text.isTrimmed_trim s)] at hempty
  exact isAllBlank_iff.mp (Text.trim_isEmpty_iff.mp hempty) h

section accepted

variable {v : Json.Value} {o : Options} (h : ofValue v = .ok o)
include h

theorem readNamenode_accepted : readNamenode o.namenode = .ok o.namenode := by
  obtain ⟨_, hfields⟩ := ofValue_eq_ok h
  obtain ⟨_, ⟨_, _, hnamenode⟩, _⟩ := ofFields_eq_ok_iff.mp hfields
  obtain ⟨hfilled, hs⟩ := readNamenode_eq_ok_iff.mp hnamenode
  rw [readNamenode_eq_ok_iff, hs, Text.trim_eq_self (Text.isTrimmed_trim _)]
  exact ⟨isFilled_trim hfilled, rfl⟩

theorem readUser_accepted : readUser o.user = .ok o.user := by
  obtain ⟨_, hfields⟩ := ofValue_eq_ok h
  obtain ⟨_, _, ⟨_, _, huser⟩, _⟩ := ofFields_eq_ok_iff.mp hfields
  obtain ⟨hfilled, hs⟩ := readUser_eq_ok_iff.mp huser
  rw [readUser_eq_ok_iff, hs]
  exact ⟨hfilled, rfl⟩

theorem readMode_accepted : readMode (.number (.natural o.mask.toUInt64)) = .ok o.mask :=
  readMode_natural_eq_ok_iff.mpr ⟨UInt32.toNat_toUInt64 _, (isUsable_of_ofValue h).mask⟩

theorem readTimeout_accepted : readTimeout (.number (.natural o.timeout)) = .ok o.timeout := by
  refine readTimeout_eq_ok_iff.mpr ⟨rfl, UInt64.lt_iff_toNat_lt.mpr ?_⟩
  exact UInt64.le_iff_toNat_le.mp (isUsable_of_ofValue h).timeout

/-- The root is the only option that may not come back as it is. -/
theorem ofValue_toValue :
    ofValue o.toValue = ((readRoot o.root).map fun root => { o with root }).mapError .invalidConfig := by
  have hroot : text? o.fields rootKey = .ok (some o.root) := rfl
  have hnamenode : text? o.fields namenodeKey = .ok (some o.namenode) := rfl
  have huser : text? o.fields userKey = .ok (some o.user) := rfl
  have hmask : value? o.fields maskKey = some (.number (.natural o.mask.toUInt64)) := rfl
  have htimeout : value? o.fields timeoutKey = some (.number (.natural o.timeout)) := rfl
  rw [toValue, ofValue, ofFields, hroot, hnamenode, huser, hmask, htimeout]
  simp only [Option.getD_some, Option.map_some, bind, Except.bind, readNamenode_accepted h, readUser_accepted h,
    readMode_accepted h, readTimeout_accepted h]
  cases readRoot o.root <;> rfl

theorem ofValue_toValue_eq_iff : ofValue o.toValue = .ok o ↔ readRoot o.root = .ok o.root := by
  rw [ofValue_toValue h, mapError_eq_ok_iff]
  cases readRoot o.root with
  | error why => exact iff_of_false nofun nofun
  | ok root =>
    constructor
    · intro he
      exact congrArg (fun o : Options => Except.ok o.root) (Except.ok.inj he)
    · intro he
      rw [Except.ok.inj he]
      rfl

end accepted

theorem readRoot_of_trim {s root : String} (htrim : Text.trim s = root) (hne : root ≠ "") :
    readRoot s = if Path.above ∈ Path.components root then .error (.parentReference rootKey root)
      else .ok (Path.normalize root) := by
  rw [readRoot, htrim]
  split
  · exact absurd (String.isEmpty_iff.mp ‹_›) hne
  · split
    · rw [if_pos (hasParentRef_iff.mp ‹_›)]
    · rw [if_neg fun hm => ‹¬ _› (hasParentRef_iff.mpr hm)]

section names

variable {init : List (List Char)} {w : List Char} (h : ∀ v ∈ init ++ [w], IsName v)
include h

/-- What is left of the last name is read in its place. -/
theorem readRoot_ofNames : readRoot (ofNames (init ++ [w])) =
    if w.rdropWhile Text.isBlank = Path.above then .error (.parentReference rootKey (ofNames (init ++ [Path.above])))
      else .ok (ofNames (init ++ [w.rdropWhile Text.isBlank].filter Path.isKept)) := by
  have hinit : ∀ v ∈ init, IsName v := fun v hv => h v (List.mem_append_left _ hv)
  have hleft := Path.unbroken_rdropWhile h Text.isBlank
  simp only [readRoot_of_trim (Path.trim_ofNames h) (Path.ofNames_ne_empty _),
    Path.above_mem_components_iff hinit hleft]
  split
  · rw [‹w.rdropWhile Text.isBlank = Path.above›]
  · rw [Path.normalize_eq, Path.names_ofNames_concat hinit hleft ‹_›]

/-- If names make a root that is read as it is, no blank is taken from them. -/
theorem trim_ofNames_of_readRoot (hread : readRoot (ofNames (init ++ [w])) = .ok (ofNames (init ++ [w]))) :
    Text.trim (ofNames (init ++ [w])) = ofNames (init ++ [w]) := by
  have hinit : ∀ v ∈ init, IsName v := fun v hv => h v (List.mem_append_left _ hv)
  have hleft := Path.unbroken_rdropWhile h Text.isBlank
  have ⟨_, hplain, hroot⟩ := readRoot_eq_ok_iff.mp hread
  have hnames := congrArg names hroot
  rw [Path.trim_ofNames h, Path.above_mem_components_iff hinit hleft] at hplain
  rw [Path.names_normalize, Path.trim_ofNames h, Path.names_ofNames h, Path.names_ofNames_concat hinit hleft hplain,
    List.append_cancel_left_eq] at hnames
  have hmem : w ∈ [w.rdropWhile Text.isBlank].filter Path.isKept := hnames ▸ List.mem_singleton_self w
  rw [Path.trim_ofNames h, ← List.mem_singleton.mp (List.mem_of_mem_filter hmem)]

end names

/-- A canonical root is read as it is exactly if it is trimmed. -/
theorem readRoot_eq_self_iff {root : String} (h : Path.normalize root = root) :
    readRoot root = .ok root ↔ IsTrimmed Text.isBlank root.toList := by
  constructor
  · -- the last name must be what is left of it, so nothing is taken from the root
    intro hread
    have hroot : root = ofNames (names root) := h.symm
    have hnames : ∀ w ∈ names root, IsName w := fun _ => Path.isName_of_mem_names
    have htrim : Text.trim root = root := by
      rcases List.eq_nil_or_concat' (names root) with hnil | ⟨init, w, hconcat⟩
      · rw [hroot, hnil]
        decide
      · rw [hconcat] at hroot hnames
        rw [hroot] at hread ⊢
        exact trim_ofNames_of_readRoot hnames hread
    rw [← htrim]
    exact Text.isTrimmed_trim root
  · intro htrimmed
    have hne : root ≠ "" := by
      rw [← h]
      exact Path.ofNames_ne_empty _
    rw [readRoot_of_trim (Text.trim_eq_self htrimmed) hne, if_neg (Path.above_not_mem_components h), h]

/-- Accepted options come back as they are exactly if their root is trimmed. Otherwise the blanks at its end are lost.
The options are refused if the double dot is left of the last name, and else they come back with what is left
of it. -/
theorem resolved_again {v : Json.Value} {o : Options} (h : ofValue v = .ok o) :
    (ofValue o.toValue = .ok o ↔ IsTrimmed Text.isBlank o.root.toList) ∧
    ∀ init w, names o.root = init ++ [w] → ofValue o.toValue =
      if w.rdropWhile Text.isBlank = Path.above
      then .error (.invalidConfig (.parentReference rootKey (ofNames (init ++ [Path.above]))))
      else .ok { o with root := ofNames (init ++ [w.rdropWhile Text.isBlank].filter Path.isKept) } := by
  have hcanonical := normalize_root h
  constructor
  · rw [ofValue_toValue_eq_iff h, readRoot_eq_self_iff hcanonical]
  · intro init w hnames
    have hroot : o.root = ofNames (init ++ [w]) := by rw [← hnames, ← Path.normalize_eq, hcanonical]
    have hall : ∀ v ∈ init ++ [w], IsName v := by
      rw [← hnames]
      exact fun _ => Path.isName_of_mem_names
    rw [ofValue_toValue h, hroot, readRoot_ofNames hall]
    split <;> rfl

/-- A blank in front of a slash is still there in the root, and lost when the options are given again. -/
theorem resolved_again_blank :
    ofValue (.object [(namenodeKey, .string "nn"), (rootKey, .string "/a /")]) = .ok { sample with root := "/a " } ∧
      ofValue (toValue { sample with root := "/a " }) = .ok { sample with root := "/a" } := by
  have h : ofValue (.object [(namenodeKey, .string "nn"), (rootKey, .string "/a /")]) =
    .ok { sample with root := "/a " } := rfl
  exact ⟨h, (resolved_again h).2 [] ['a', ' '] rfl⟩

/-- Two dots and a blank are a name, and a double dot when the options are given again. -/
theorem resolved_refused :
    ofValue (.object [(namenodeKey, .string "nn"), (rootKey, .string "/.. /")]) = .ok { sample with root := "/.. " } ∧
      ofValue (toValue { sample with root := "/.. " }) = .error (.invalidConfig (.parentReference rootKey "/..")) :=
  ⟨rfl, rfl⟩

end Options

end RootedStore
