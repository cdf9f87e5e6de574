import RootedStore.Proofs.Path.Key
import RootedStore.Proofs.Store.Confinement

/-!
# Which keys name the same object

A key without dots is a canonical path. It names itself if it lies under the root, and otherwise what it spells
behind the root. So two keys name one object if they are equal, or if one is the root followed by the other and
the other does not start at the root itself. A key that does is not taken to be relative, and the root followed
by it is something else.
-/
namespace RootedStore

open RootedStore.Path (names ofNames spell IsWordChar isKey isUnder HasDots)

namespace Options

variable {o : Options} {p q : String}

/-- What stands before a path to put it below the root. -/
def lead (o : Options) : String := if o.root = "/" then "" else o.root

theorem toList_lead (hroot : Path.normalize o.root = o.root) : o.lead.toList = spell (names o.root) := by
  rw [lead]
  split
  · rename_i h
    rw [h]
    rfl
  · rename_i h
    have hne : names o.root ≠ [] := fun hn => h ((Path.names_eq_nil_iff hroot).mp hn)
    rw [Path.toList_of_canonical hroot, Path.render_of_ne_nil hne]

theorem lead_append (hroot : Path.normalize o.root = o.root) (hp : Path.normalize p = p) (hne : names p ≠ []) :
    o.lead ++ p = ofNames (names o.root ++ names p) := by
  have happ : names o.root ++ names p ≠ [] := List.append_ne_nil_of_right_ne_nil _ hne
  apply String.toList_injective
  rw [String.toList_append, toList_lead hroot, Path.toList_of_canonical hp, Path.render_of_ne_nil hne,
    Path.toList_ofNames, Path.render_of_ne_nil happ, Path.spell_append]

theorem isUnder_lead_append (hroot : Path.normalize o.root = o.root) (hp : Path.normalize p = p)
    (hne : names p ≠ []) : isUnder (o.lead ++ p) o.root = true := by
  have hw : Path.Within o.root (ofNames (names o.root ++ names p)) :=
    Path.within_ofNames_append fun _ hm => Path.isName_of_mem_names hm
  rw [lead_append hroot hp hne]
  exact (Path.isUnder_iff_within hw.canonical hroot).mpr hw

theorem resolve_key (hroot : Path.normalize o.root = o.root) (hkey : isKey p = true) (hdots : ¬ HasDots p) :
    o.resolve p = .ok (if isUnder p o.root then p else o.lead ++ p) := by
  have hplain : Path.above ∉ Path.components p := fun hm => hdots (.inr hm)
  obtain ⟨ws, hne, hnames, hp, hc⟩ := Path.exists_names_of_isKey hkey hdots
  have hcanonical : Path.normalize p = p := hp ▸ Path.normalize_ofNames hnames
  have hpn : names p = ws := hp ▸ Path.names_ofNames hnames
  rw [resolve_of_plain hroot hplain]
  by_cases hu : isUnder p o.root = true
  · rw [placed, if_pos hu, if_pos hu, hcanonical]
  · have hplaced : names (o.placed p) = names o.root ++ names p := by
      rw [names_placed_outside hu, hc, Path.foldl_push_names hnames, hpn]
      simp
    rw [if_neg hu, Path.normalize_eq, hplaced, lead_append hroot hcanonical (hpn ▸ hne)]

/-- Keys without dots resolve. They name the same object exactly if they are equal, or if one of them is the
root followed by the other one, which does not lie under the root itself. The keys are what is spelled by one
or more words, each after a slash. -/
theorem resolve_keys {v : Json.Value} (h : ofValue v = .ok o) (hp : isKey p = true) (hq : isKey q = true)
    (hpd : ¬ HasDots p) (hqd : ¬ HasDots q) :
    (∃ f g, o.resolve p = .ok f ∧ o.resolve q = .ok g ∧
      (f = g ↔ p = q ∨ (p = o.lead ++ q ∧ isUnder q o.root = false) ∨
        (q = o.lead ++ p ∧ isUnder p o.root = false))) ∧
    ∀ path, isKey path = true ↔
      ∃ ws, ws ≠ [] ∧ path.toList = spell ws ∧ ∀ w ∈ ws, w ≠ [] ∧ ∀ c ∈ w, IsWordChar c := by
  have hroot := normalize_root h
  obtain ⟨hpc, hpn⟩ := Path.canonical_of_isKey hp hpd
  obtain ⟨hqc, hqn⟩ := Path.canonical_of_isKey hq hqd
  constructor
  · refine ⟨_, _, resolve_key hroot hp hpd, resolve_key hroot hq hqd, ?_⟩
    -- the root followed by a key lies under the root
    have hpl : p = o.lead ++ q → isUnder p o.root = true := fun he => he ▸ isUnder_lead_append hroot hqc hqn
    have hql : q = o.lead ++ p → isUnder q o.root = true := fun he => he ▸ isUnder_lead_append hroot hpc hpn
    have hcancel : o.lead ++ p = o.lead ++ q ↔ p = q := String.append_right_inj o.lead
    cases hpu : isUnder p o.root <;> cases hqu : isUnder q o.root <;> grind
  · intro path
    simp only [Path.isKey_iff, Path.isKeyWord_iff]

theorem resolve_keys_relative :
    ofValue (.object [(namenodeKey, .string "nn")]) = .ok sample ∧
      isKey "/tmp/hdfs-registry/a" = true ∧ isKey "/a" = true ∧ ¬ HasDots "/tmp/hdfs-registry/a" ∧ ¬ HasDots "/a" ∧
      ∃ f, sample.resolve "/tmp/hdfs-registry/a" = .ok f ∧ sample.resolve "/a" = .ok f := by
  have hlong : isKey "/tmp/hdfs-registry/a" = true := by decide
  have hshort : isKey "/a" = true := by decide
  have hlongDots : ¬ HasDots "/tmp/hdfs-registry/a" := by decide
  have hshortDots : ¬ HasDots "/a" := by decide
  refine ⟨ofValue_sample, hlong, hshort, hlongDots, hshortDots, ?_⟩
  obtain ⟨f, g, hf, hg, hfg⟩ := (resolve_keys ofValue_sample hlong hshort hlongDots hshortDots).1
  obtain rfl : f = g := hfg.mpr (.inr (.inl ⟨by decide, by decide⟩))
  exact ⟨f, hf, hg⟩

/-- A key that lies under the root does not name the same object as the root followed by it. -/
theorem not_keys_coincide :
    ¬ ∀ (v : Json.Value) (o : Options) (p q f g : String), ofValue v = .ok o → isKey p = true → isKey q = true →
        ¬ HasDots p → ¬ HasDots q → o.resolve p = .ok f → o.resolve q = .ok g →
        (f = g ↔ p = q ∨ p = o.lead ++ q ∨ q = o.lead ++ p) := by
  intro hclaim
  have hsame := hclaim _ _ "/tmp/hdfs-registry/tmp/hdfs-registry/a" "/tmp/hdfs-registry/a" _ _ ofValue_sample
    (by decide) (by decide) (by decide) (by decide) rfl rfl
  exact absurd (hsame.mpr (.inr (.inl (by decide)))) (by decide)

end Options

end RootedStore
