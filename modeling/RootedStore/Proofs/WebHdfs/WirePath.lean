import RootedStore.Proofs.Path.Order
import RootedStore.Proofs.Store.Confinement
import RootedStore.Proofs.Url.Percent
import RootedStore.WebHdfs.Client

/-!
# The path of a request

A resolved path goes into the URL of a request below the address of the namenode, each name as a segment of
its own. The URL drops tabs and line breaks, and only afterwards is a segment of dots recognised. So the
segments are the names of the path exactly if the path has no such characters, and then the path is decoded
from the URL. Whatever is dropped makes the path of the URL shorter than the path that was meant.
-/
namespace RootedStore.WebHdfs

open RootedStore.Path (names spell spell_cons spell_append IsName)

/-- The characters that a URL drops. -/
def isBreak (c : Char) : Bool := c = '\t' || c = '\n' || c = '\r'

/-- Nothing in the text is dropped. -/
def IsVisible (s : List Char) : Prop := ∀ c ∈ s, isBreak c = false

/-- A name as a segment. -/
def encodeName (w : List Char) : List Char := Url.percentEncode Url.inSegmentSet w

/-- The segments that a path with some names is to have: one for each name, an empty one for the root. -/
def wireSegments (ws : List (List Char)) : List (List Char) := if ws = [] then [[]] else ws.map encodeName

/-- Segments without an empty one at their end. -/
def withoutTrailing (ws : List (List Char)) : List (List Char) :=
  if ws.getLast? = some [] then ws.dropLast else ws

/-- The segments below which the paths of requests are. -/
def wireBase (base : Url) : List (List Char) := baseSegments base ++ ["webhdfs".toList, "v1".toList]

theorem isVisible_iff_filter {s : List Char} : IsVisible s ↔ s.filter (!isBreak ·) = s := by
  simp [IsVisible, List.filter_eq_self]

theorem addSegment_eq_filter (ws : List (List Char)) (w : List Char) : addSegment ws w =
    if w = Path.here ∨ w = Path.above then ws
    else if w.filter (!isBreak ·) = Path.above then ws.dropLast ++ [[]]
    else if w.filter (!isBreak ·) = Path.here then ws ++ [[]]
    else ws ++ [encodeName (w.filter (!isBreak ·))] := by
  have hfilter : w.filter (fun c => c ≠ '\t' && c ≠ '\n' && c ≠ '\r') = w.filter (!isBreak ·) :=
    List.filter_congr fun c _ => by simp [isBreak]
  rw [addSegment, hfilter]
  rfl

theorem addSegment_of_isVisible (ws : List (List Char)) {w : List Char} (hw : IsName w) (hv : IsVisible w) :
    addSegment ws w = ws ++ [encodeName w] := by
  rw [addSegment_eq_filter, if_neg (not_or.mpr ⟨hw.ne_here, hw.ne_above⟩), isVisible_iff_filter.mp hv,
    if_neg hw.ne_above, if_neg hw.ne_here]

theorem foldl_addSegment_of_isVisible {ws : List (List Char)} (hw : ∀ w ∈ ws, IsName w)
    (hv : ∀ w ∈ ws, IsVisible w) (start : List (List Char)) :
    ws.foldl addSegment start = start ++ ws.map encodeName := by
  induction ws generalizing start with
  | nil => simp
  | cons w ws ih =>
    rw [List.foldl_cons, addSegment_of_isVisible start (hw w List.mem_cons_self) (hv w List.mem_cons_self),
      ih (fun v hm => hw v (List.mem_cons_of_mem w hm)) (fun v hm => hv v (List.mem_cons_of_mem w hm)),
      List.append_assoc]
    rfl

theorem length_encodeName_cons (c : Char) (w : List Char) :
    1 + (encodeName w).length ≤ (encodeName (c :: w)).length := by
  have hone : 1 ≤ (Url.encodeChar Url.inSegmentSet c).length :=
    List.length_pos_iff.mpr (Url.encodeChar_ne_nil _ c)
  rw [encodeName, encodeName, Url.percentEncode, Url.percentEncode, List.flatMap_cons, List.length_append]
  omega

theorem length_le_encodeName (w : List Char) : w.length ≤ (encodeName w).length := by
  induction w with
  | nil => exact Nat.le_refl _
  | cons c w ih =>
    have hcons := length_encodeName_cons c w
    rw [List.length_cons]
    omega

/-- Every character that is dropped makes the encoding shorter. -/
theorem length_encodeName_filter (w : List Char) :
    (encodeName (w.filter (!isBreak ·))).length + w.countP isBreak ≤ (encodeName w).length := by
  induction w with
  | nil => exact Nat.le_refl _
  | cons c w ih =>
    by_cases hc : isBreak c = true
    · have hcons := length_encodeName_cons c w
      rw [List.filter_cons_of_neg (by simp [hc]), List.countP_cons_of_pos hc]
      omega
    · have hcons : ∀ v, (encodeName (c :: v)).length =
          (Url.encodeChar Url.inSegmentSet c).length + (encodeName v).length := fun v => List.length_append
      rw [List.filter_cons_of_pos (by simp [hc]), List.countP_cons_of_neg hc, hcons, hcons]
      omega

theorem length_spell_concat (ws : List (List Char)) (w : List Char) :
    (spell (ws ++ [w])).length = (spell ws).length + 1 + w.length := by
  simp [Nat.add_assoc]
  omega

/-- A segment makes the path no longer than the encoded name would, less what is dropped of the name. -/
theorem length_spell_addSegment (ws : List (List Char)) (w : List Char) :
    (spell (addSegment ws w)).length + w.countP isBreak ≤ (spell ws).length + 1 + (encodeName w).length := by
  have hcount : w.countP isBreak ≤ w.length := List.countP_le_length
  have hlength := length_le_encodeName w
  have hfilter := length_encodeName_filter w
  have hdrop : (spell ws.dropLast).length ≤ (spell ws).length := by
    rcases List.eq_nil_or_concat ws with rfl | ⟨init, last, rfl⟩
    · exact Nat.le_refl _
    · simp
  rw [addSegment_eq_filter]
  split
  · omega
  · split
    · rw [length_spell_concat]
      simp only [List.length_nil]
      omega
    · split
      · rw [length_spell_concat]
        simp only [List.length_nil]
        omega
      · rw [length_spell_concat]
        omega

theorem length_spell_foldl_addSegment (ws start : List (List Char)) :
    (spell (ws.foldl addSegment start)).length + (spell ws).countP isBreak ≤
      (spell (start ++ ws.map encodeName)).length := by
  induction ws generalizing start with
  | nil => simp
  | cons w ws ih =>
    have hone := length_spell_addSegment start w
    have hrest := ih (addSegment start w)
    have hcount : (spell (w :: ws)).countP isBreak = w.countP isBreak + (spell ws).countP isBreak := by
      rw [spell_cons, List.cons_append, List.countP_cons_of_neg (by decide), List.countP_append]
    rw [List.foldl_cons, hcount]
    simp only [spell_append, List.length_append, List.map_cons, spell_cons, List.cons_append,
      List.length_cons] at hrest ⊢
    omega

theorem pathSegments_of_canonical {f : String} (hf : Path.normalize f = f) : pathSegments f = names f := by
  have hn : ∀ w ∈ names f, IsName w := fun _ hw => Path.isName_of_mem_names hw
  have hunbroken : ∀ w ∈ names f, ∀ c ∈ w, decide (c = '/') = false :=
    fun w hw c hc => Path.ne_slash_of_isSeparator ((hn w hw).unbroken c hc)
  rw [pathSegments, Path.toList_of_canonical hf]
  by_cases hne : names f = []
  · rw [hne]
    rfl
  · have hpieces : Path.pieces (· = '/') (spell (names f)) = [] :: names f :=
      Path.pieces_spell rfl hunbroken (v := []) (by simp)
    rw [Path.render_of_ne_nil hne, hpieces, List.filter_cons_of_neg (by simp)]
    refine List.filter_eq_self.mpr fun w hw => ?_
    simpa using (hn w hw).ne_nil

theorem urlSegments_eq (base : Url) {f : String} (hf : Path.normalize f = f) : urlSegments base f =
    if names f = [] then wireBase base ++ [[]] else (names f).foldl addSegment (wireBase base) := by
  have hbase : addSegment (addSegment (baseSegments base) "webhdfs".toList) "v1".toList = wireBase base := by
    have hname : IsName "webhdfs".toList := ⟨by decide, by decide, by decide, by simp [Path.isSeparator]⟩
    have hversion : IsName "v1".toList := ⟨by decide, by decide, by decide, by simp [Path.isSeparator]⟩
    rw [addSegment_of_isVisible _ hname (by simp [IsVisible, isBreak]),
      addSegment_of_isVisible _ hversion (by simp [IsVisible, isBreak]), List.append_assoc]
    rfl
  rw [urlSegments, pathSegments_of_canonical hf, hbase]
  by_cases hne : names f = []
  · rw [hne]
    rfl
  · simp [hne]

/-- The names of a path are visible if the path is. -/
theorem countP_spell_names {f : String} (hf : Path.normalize f = f) :
    (spell (names f)).countP isBreak = f.toList.countP isBreak := by
  rw [Path.toList_of_canonical hf]
  by_cases hne : names f = []
  · rw [hne]
    rfl
  · rw [Path.render_of_ne_nil hne]

theorem isVisible_of_mem_names {f : String} (hf : Path.normalize f = f) (hv : IsVisible f.toList) :
    ∀ w ∈ names f, IsVisible w := by
  have hnone : ∀ c ∈ spell (names f), ¬ isBreak c = true := by
    refine List.countP_eq_zero.mp ?_
    rw [countP_spell_names hf]
    exact List.countP_eq_zero.mpr fun c hc => by simp [hv c hc]
  intro w hw c hc
  have hmem : c ∈ spell (names f) := List.mem_flatMap.mpr ⟨w, hw, List.mem_cons_of_mem _ hc⟩
  simpa using hnone c hmem

theorem urlSegments_of_isVisible (base : Url) {f : String} (hf : Path.normalize f = f)
    (hv : IsVisible f.toList) : urlSegments base f = wireBase base ++ wireSegments (names f) := by
  rw [urlSegments_eq base hf, wireSegments]
  split
  · rfl
  · exact foldl_addSegment_of_isVisible (fun _ hw => Path.isName_of_mem_names hw)
      (isVisible_of_mem_names hf hv) _

/-- The segments of a path with dropped characters spell less than its names do. -/
theorem length_spell_urlSegments_lt (base : Url) {f : String} (hf : Path.normalize f = f)
    (hv : ¬ IsVisible f.toList) :
    (spell (urlSegments base f)).length < (spell (wireBase base ++ wireSegments (names f))).length := by
  have hcount : 0 < (spell (names f)).countP isBreak := by
    rw [countP_spell_names hf, List.countP_pos_iff]
    simpa [IsVisible] using hv
  have hne : names f ≠ [] := by
    intro he
    simp [he] at hcount
  have hlength := length_spell_foldl_addSegment (names f) (wireBase base)
  rw [urlSegments_eq base hf, if_neg hne, wireSegments, if_neg hne]
  omega

theorem baseSegments_eq (base : Url) :
    baseSegments base = if withoutTrailing base.segments = [[]] then [] else withoutTrailing base.segments := rfl

theorem withoutTrailing_eq_iff {ws : List (List Char)} : withoutTrailing ws = [[]] ↔ ws = [[], []] := by
  constructor
  · intro h
    rw [withoutTrailing] at h
    split at h
    · rename_i hlast
      have hne : ws ≠ [] := by
        rintro rfl
        cases hlast
      rw [List.getLast?_eq_some_getLast hne] at hlast
      rw [← List.dropLast_append_getLast hne, h, Option.some.inj hlast]
      rfl
    · rename_i hlast
      rw [h] at hlast
      exact absurd rfl hlast
  · rintro rfl
    rfl

theorem length_spell_baseSegments_le (base : Url) :
    (spell (baseSegments base)).length ≤ (spell (withoutTrailing base.segments)).length := by
  rw [baseSegments_eq]
  split
  · exact Nat.zero_le _
  · exact Nat.le_refl _

/-- The names of a path are decoded from its segments. -/
theorem percentDecode_spell (ws : List (List Char)) :
    Url.percentDecode ((spell (ws.map encodeName)).flatMap String.utf8EncodeChar) =
      (spell ws).flatMap String.utf8EncodeChar := by
  induction ws with
  | nil => rfl
  | cons w ws ih =>
    have hslash : String.utf8EncodeChar '/' = [0x2F] := rfl
    rw [List.map_cons, spell_cons, spell_cons, List.cons_append, List.cons_append, List.flatMap_cons,
      List.flatMap_cons, hslash, List.cons_append, List.nil_append, Url.percentDecode_cons (by decide),
      List.flatMap_append, encodeName, Url.percentDecode_percentEncode (by decide), ih, List.flatMap_append]
    rfl

/-- The path is decoded from the segments that it is to have. -/
theorem decode?_wireSegments {f : String} (hf : Path.normalize f = f) :
    Text.decode? (Url.percentDecode (Text.encode (String.ofList (spell (wireSegments (names f)))))) =
      some f := by
  have hbytes : Url.percentDecode (Text.encode (String.ofList (spell (wireSegments (names f))))) =
      Text.encode f := by
    rw [Text.encode, Text.encode, String.toList_ofList, Path.toList_of_canonical hf, wireSegments]
    by_cases hne : names f = []
    · rw [hne]
      rfl
    · rw [if_neg hne, percentDecode_spell, Path.render_of_ne_nil hne]
  rw [hbytes, Text.decode?_encode]

theorem eq_of_wireSegments_eq {f g : String} (hf : Path.normalize f = f) (hg : Path.normalize g = g)
    (h : spell (wireSegments (names f)) = spell (wireSegments (names g))) : f = g := by
  have hdecoded := decode?_wireSegments hf
  rw [h, decode?_wireSegments hg] at hdecoded
  exact (Option.some.inj hdecoded).symm

/-- The segments are the encoded names of the path below the address, as long as nothing is dropped and the
address is not nothing but two slashes. -/
theorem urlSegments_eq_iff (base : Url) {f : String} (hf : Path.normalize f = f) :
    urlSegments base f = withoutTrailing base.segments ++ ["webhdfs".toList, "v1".toList] ++
        wireSegments (names f) ↔ IsVisible f.toList ∧ base.segments ≠ [[], []] := by
  have hbase : wireBase base = baseSegments base ++ ["webhdfs".toList, "v1".toList] := rfl
  constructor
  · intro he
    have hv : IsVisible f.toList := by
      by_contra hv
      have hlt := length_spell_urlSegments_lt base hf hv
      have hle := length_spell_baseSegments_le base
      rw [he, hbase] at hlt
      simp only [spell_append, List.length_append] at hlt
      omega
    refine ⟨hv, fun htwo => ?_⟩
    rw [urlSegments_of_isVisible base hf hv, hbase, baseSegments_eq, withoutTrailing_eq_iff.mpr htwo,
      if_pos rfl] at he
    exact absurd (congrArg List.length he) (by simp)
  · rintro ⟨hv, htwo⟩
    rw [urlSegments_of_isVisible base hf hv, hbase, baseSegments_eq,
      if_neg fun hb => htwo (withoutTrailing_eq_iff.mp hb)]

theorem text_url_of_isVisible (w : WebHdfs) {f : String} (hf : Path.normalize f = f)
    (hv : IsVisible f.toList) (op : String) (parameters : List (String × String)) :
    (w.url f op parameters).path.text = spell (wireBase w.base) ++ spell (wireSegments (names f)) := by
  rw [← spell_append, ← urlSegments_of_isVisible w.base hf hv]
  rfl

/-- The segments of the URL for a resolved path are those of the address, without an empty one at the end,
the fixed ones, and the encoded names of the path, exactly if nothing of the path is dropped and the address
is not nothing but two slashes. If nothing is dropped the path is decoded from what follows the fixed
segments, so no two such paths have one URL path. -/
theorem wire_path_exact {o : Options} {s f : String} (h : o.resolve s = .ok f) (w : WebHdfs) (op : String)
    (parameters : List (String × String)) :
    ((w.url f op parameters).segments = withoutTrailing w.base.segments ++ ["webhdfs".toList, "v1".toList] ++
        wireSegments (names f) ↔ IsVisible f.toList ∧ w.base.segments ≠ [[], []]) ∧
      (IsVisible f.toList →
        (∃ rest, (w.url f op parameters).path.text = spell (wireBase w.base) ++ rest ∧
          Text.decode? (Url.percentDecode (Text.encode (String.ofList rest))) = some f) ∧
        ∀ s' f' op' parameters', o.resolve s' = .ok f' → IsVisible f'.toList →
          (w.url f op parameters).path = (w.url f' op' parameters').path → f = f') := by
  have hf := Options.normalize_of_resolve h
  refine ⟨urlSegments_eq_iff w.base hf, fun hv => ⟨?_, ?_⟩⟩
  · exact ⟨_, text_url_of_isVisible w hf hv op parameters, decode?_wireSegments hf⟩
  · intro s' f' op' parameters' h' hv' he
    have hf' := Options.normalize_of_resolve h'
    have htexts := congrArg UrlPath.text he
    rw [text_url_of_isVisible w hf hv, text_url_of_isVisible w hf' hv'] at htexts
    exact eq_of_wireSegments_eq hf hf' (List.append_cancel_left htexts)

/-- The client of the options that name a namenode only. -/
def sample : WebHdfs := ⟨⟨"http", [], [], some (.domain "nn"), none, .segments [[]], none, none⟩, "hdfs"⟩

/-- A blank and a percent sign are encoded, and nothing is dropped. -/
theorem wire_path_exact_sample :
    Options.sample.resolve "/a b%" = .ok "/tmp/hdfs-registry/a b%" ∧
      (sample.url "/tmp/hdfs-registry/a b%" "OPEN" []).segments =
        ["webhdfs".toList, "v1".toList, "tmp".toList, "hdfs-registry".toList, "a%20b%25".toList] := by
  have hresolve : Options.sample.resolve "/a b%" = .ok "/tmp/hdfs-registry/a b%" := rfl
  have hexact := wire_path_exact hresolve sample "OPEN" []
  exact ⟨hresolve, hexact.1.mpr ⟨by simp [IsVisible, isBreak], by decide⟩⟩

/-- With a tab in it a path has the URL of another one, and dots lead out of the root. -/
theorem wire_path_break :
    (∃ f g, Options.sample.resolve "/a\tb" = .ok f ∧ Options.sample.resolve "/ab" = .ok g ∧ f ≠ g ∧
        sample.url f "OPEN" [] = sample.url g "OPEN" []) ∧
      ∃ f, Options.sample.resolve "/.\t." = .ok f ∧
        (sample.url f "DELETE" []).segments = ["webhdfs".toList, "v1".toList, "tmp".toList, []] := by
  refine ⟨⟨"/tmp/hdfs-registry/a\tb", "/tmp/hdfs-registry/ab", rfl, rfl, by decide, ?_⟩,
    "/tmp/hdfs-registry/.\t.", rfl, ?_⟩
  · decide
  · decide

end RootedStore.WebHdfs
