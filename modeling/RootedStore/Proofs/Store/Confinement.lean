import RootedStore.Proofs.Options
import RootedStore.Proofs.Path.Order
import RootedStore.Store.Resolve

/-!
# Confinement of paths

The root of accepted options is canonical, so the test that keeps paths below it is the order of names.
A resolved path is canonical, starts with the names of the root and resolves to itself. Only a double
dot can lead out, and a path that does is reported as it was given.
-/
namespace RootedStore

open RootedStore.Path (names ofNames components isKept above IsName isName_of_mem_names)

namespace Options

/-- Where a path is put before it is normalised. -/
def placed (o : Options) (path : String) : String :=
  if Path.isUnder path o.root then path else o.root ++ "/" ++ path

theorem resolve_eq (o : Options) (path : String) :
    o.resolve path = if Path.isUnder (Path.normalize (o.placed path)) o.root then
      .ok (Path.normalize (o.placed path)) else .error (.invalidPath path) := rfl

/-- What a path resolves to is canonical, whatever the root is. -/
theorem normalize_of_resolve {o : Options} {path full : String} (h : o.resolve path = .ok full) :
    Path.normalize full = full := by
  rw [resolve_eq] at h
  split at h
  · rw [← Except.ok.inj h, Path.normalize_normalize]
  · simp at h

section canonicalRoot

variable {o : Options} (hroot : Path.normalize o.root = o.root)
include hroot

/-- A path resolves to the normal form of where it is put, if that lies within the root. -/
theorem resolve_eq_ok_iff {path full : String} :
    o.resolve path = .ok full ↔ full = Path.normalize (o.placed path) ∧ Path.Within o.root full := by
  have hn : Path.normalize (Path.normalize (o.placed path)) = Path.normalize (o.placed path) :=
    Path.normalize_normalize _
  rw [resolve_eq]
  split
  · rename_i hu
    have hw := (Path.isUnder_iff_within hn hroot).mp hu
    constructor
    · intro h
      rw [← Except.ok.inj h]
      exact ⟨rfl, hw⟩
    · rintro ⟨rfl, _⟩
      rfl
  · rename_i hu
    constructor
    · intro h
      simp at h
    · rintro ⟨rfl, hw⟩
      exact absurd ((Path.isUnder_iff_within hn hroot).mpr hw) hu

theorem within_of_resolve {path full : String} (h : o.resolve path = .ok full) :
    Path.Within o.root full :=
  ((resolve_eq_ok_iff hroot).mp h).2

/-- What lies within the root stays where it is. -/
theorem resolve_of_within {full : String} (h : Path.Within o.root full) : o.resolve full = .ok full := by
  have hu : Path.isUnder full o.root = true := (Path.isUnder_iff_within h.canonical hroot).mpr h
  refine (resolve_eq_ok_iff hroot).mpr ⟨?_, h⟩
  rw [placed, if_pos hu, h.canonical]

omit hroot in
/-- The names of a path outside the root are those of the root, gone on from with its components. -/
theorem names_placed_outside {path : String} (h : ¬ Path.isUnder path o.root = true) :
    names (o.placed path) = ((components path).foldl Path.push (names o.root).reverse).reverse := by
  rw [placed, if_neg h, names, Path.components_append, Path.resolve_append]
  rfl

/-- Without double dots nothing leads out of the root. -/
theorem names_placed_of_plain {path : String} (h : above ∉ components path) :
    names o.root <+: names (o.placed path) := by
  have hn : ∀ w ∈ names o.root, IsName w := fun _ hw => isName_of_mem_names hw
  by_cases hu : Path.isUnder path o.root = true
  · rw [placed, if_pos hu]
    rw [← hroot, Path.normalize_eq] at hu
    obtain ⟨vs, hc⟩ := Path.components_of_isUnder hn hu
    have hvs : above ∉ vs := fun hm => h (by rw [hc]; exact List.mem_append_right _ hm)
    rw [Path.names_eq_of_components hn hc, Path.foldl_push_plain hvs]
    simp
  · rw [names_placed_outside hu, Path.foldl_push_plain h]
    simp

theorem resolve_of_plain {path : String} (h : above ∉ components path) :
    o.resolve path = .ok (Path.normalize (o.placed path)) := by
  refine (resolve_eq_ok_iff hroot).mpr ⟨rfl, Path.normalize_normalize _, ?_⟩
  rw [Path.names_normalize]
  exact names_placed_of_plain hroot h

end canonicalRoot

theorem hasParentRef_eq_false {path : String} :
    Path.hasParentRef path = false ↔ above ∉ components path := by
  simp only [Path.hasParentRef, List.any_eq_false, decide_eq_true_eq]
  exact ⟨fun h hm => h _ hm rfl, fun h w hw he => h (he ▸ hw)⟩

theorem resolve_eq_error {o : Options} {path : String} {e : StorageError}
    (h : o.resolve path = .error e) : e = .invalidPath path := by
  rw [resolve_eq] at h
  split at h
  · simp at h
  · exact (Except.error.inj h).symm

/-- Resolving confines every path to the root, refuses only paths with a double dot, and changes no
path that it gave. -/
theorem resolve_confines {v : Json.Value} {o : Options} (h : ofValue v = .ok o) (path : String) :
    (∀ full, o.resolve path = .ok full →
      Path.IsCanonical full ∧ names o.root <+: names full ∧ o.resolve full = .ok full) ∧
    (∀ e, o.resolve path = .error e → e = .invalidPath path ∧ Path.hasParentRef path = true) ∧
    (Path.hasParentRef path = false → o.resolve path = .ok
      (if Path.isUnder path o.root then Path.normalize path
        else ofNames (names o.root ++ (components path).filter isKept))) := by
  have hroot := normalize_root h
  refine ⟨?_, ?_, ?_⟩
  · intro full hf
    have hw := within_of_resolve hroot hf
    exact ⟨Path.isCanonical_iff.mpr hw.canonical, hw.2, resolve_of_within hroot hw⟩
  · intro e he
    refine ⟨resolve_eq_error he, ?_⟩
    cases hp : Path.hasParentRef path with
    | true => rfl
    | false =>
      simp [resolve_of_plain hroot (hasParentRef_eq_false.mp hp)] at he
  · intro hp
    have hplain := hasParentRef_eq_false.mp hp
    rw [resolve_of_plain hroot hplain]
    split
    · rename_i hu
      rw [placed, if_pos hu]
    · rename_i hu
      rw [Path.normalize_eq, names_placed_outside hu, Path.foldl_push_plain hplain]
      simp

theorem resolve_confines_sample :
    ofValue (.object [(namenodeKey, .string "nn")]) = .ok sample ∧
      sample.resolve "a\\./b" = .ok "/tmp/hdfs-registry/a/b" :=
  ⟨ofValue_sample, (resolve_confines ofValue_sample "a\\./b").2.2 rfl⟩

end Options

end RootedStore
