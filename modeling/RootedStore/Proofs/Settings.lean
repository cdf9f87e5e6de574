import Mathlib
import RootedStore.Proofs.Json.RoundTrip
import RootedStore.Proofs.Text.Utf8
import RootedStore.Settings

/-!
# Settings kept and had again

Settings are kept in one form and read from many. What was read from any of them is kept in a form that is read as
the same, right up to the limit of nesting: the options of a store are kept at the depth that they were read at.
-/
namespace RootedStore.Settings

open RootedStore.Json (Tree Value)

variable {s : Settings} {f : LocalFile}

/-- Settings whose options are as they are read. -/
def Kept (s : Settings) : Prop := s.storage.options.Kept (optionDepth - 1)

theorem storageOfTree?_kept {t : Tree} {storage : StoreSettings} (h : storageOfTree? t = some storage) :
    storage.options.Kept (optionDepth - 1) := by
  simp only [storageOfTree?, Option.bind_eq_bind, Option.bind_eq_some_iff] at h
  obtain ⟨fields, -, h⟩ := h
  split at h
  · rename_i id driverType options
    simp only [Option.bind_eq_some_iff, Option.pure_def, Option.some.injEq] at h
    obtain ⟨name, -, type, -, value, hvalue, rfl⟩ := h
    cases options with
    | none =>
      cases hvalue
      exact .null
    | some options => exact Json.kept_of_value? hvalue
  · cases h

theorem ofTree?_kept {t : Tree} (h : ofTree? t = some s) : s.Kept := by
  simp only [ofTree?, Option.bind_eq_bind, Option.bind_eq_some_iff] at h
  obtain ⟨fields, -, h⟩ := h
  split at h
  · rename_i logFilter storage
    simp only [Option.bind_eq_some_iff, Option.pure_def, Option.some.injEq] at h
    obtain ⟨filter, -, storageSettings, hstorage, rfl⟩ := h
    obtain ⟨tree, -, htree⟩ := hstorage
    exact storageOfTree?_kept htree
  · cases h

theorem ofTree?_tree (hkept : s.Kept) (hwhole : s.storage.options.IsWhole) :
    ofTree? s.toJson.tree = some s := by
  have hoptions := hkept.value?_tree hwhole
  have hdepth : optionDepth - 1 + 1 = optionDepth := rfl
  rw [hdepth] at hoptions
  simp [ofTree?, storageOfTree?, toJson, Value.tree, Json.fieldTrees, Tree.record?, Tree.single?, Tree.under,
    Tree.string?, hoptions]

theorem toJson_isWhole (h : s.storage.options.IsWhole) : s.toJson.IsWhole := by
  have hstorage : (Value.object
      [("id", .string s.storage.id), ("driver_type", .string s.storage.driverType),
        ("config", s.storage.options)]).IsWhole := by
    refine .object ?_
    simp [Value.IsWhole.string, h]
  refine .object ?_
  simp [Value.IsWhole.string, hstorage]

/-- Settings are read back from the text that they are kept as. -/
theorem parse?_text (hkept : s.Kept) (hwhole : s.storage.options.IsWhole) : parse? s.text = some s := by
  rw [parse?, text, Json.parse?_text (toJson_isWhole hwhole), Option.bind_some, ofTree?_tree hkept hwhole]

theorem readText_file (content : Bytes) :
    (LocalFile.file content).readText = (Text.decode? content).elim (.error .notText) .ok := by
  simp only [LocalFile.readText, LocalFile.read, bind, Except.bind]
  cases Text.decode? content <;> rfl

/-- What loads from a file are the settings that its text holds. -/
theorem load_file_eq_ok_iff {content : Bytes} {loaded : Loaded} :
    load (.file content) = .ok loaded ↔
      ∃ text s, Text.decode? content = some text ∧ parse? text = some s ∧
        loaded = ⟨s, false, .file content⟩ := by
  have hexists : (LocalFile.file content).exists? = true := rfl
  rw [load, if_pos hexists, readText_file]
  cases Text.decode? content with
  | none => exact iff_of_false nofun nofun
  | some text =>
    cases hparse : parse? text with
    | none => simp [Except.mapError, bind, Except.bind, hparse]
    | some s => simp [Except.mapError, bind, Except.bind, hparse, pure, Except.pure, eq_comm]

theorem load_encode {text : String} (h : parse? text = some s) :
    load (.file (Text.encode text)) = .ok ⟨s, false, .file (Text.encode text)⟩ :=
  load_file_eq_ok_iff.mpr ⟨text, s, Text.decode?_encode text, h, rfl⟩

theorem initial_kept : initial.Kept := by
  refine Json.kept_ofFields (n := 124) ?_
  simp [Value.Kept.string]

theorem initial_isWhole : initial.storage.options.IsWhole := by
  refine Json.isWhole_ofFields ?_
  simp [Value.IsWhole.string]

/-- Settings as they are read load again from what they are saved as. -/
theorem load_saved (hkept : s.Kept) (hwhole : s.storage.options.IsWhole) :
    load (.file (Text.encode s.text)) = .ok ⟨s, false, .file (Text.encode s.text)⟩ :=
  load_encode (parse?_text hkept hwhole)

/-- A file can be written where there is one or can be one. -/
theorem save_of_file (s : Settings) (hf : f = .missing ∨ ∃ old, f = .file old) :
    s.save f = .ok (.file (Text.encode s.text)) := by
  rcases hf with rfl | ⟨old, rfl⟩ <;> rfl

theorem eq_of_save {made : LocalFile} (h : s.save f = .ok made) : made = .file (Text.encode s.text) := by
  cases f with
  | missing => exact (Except.ok.inj h).symm
  | nowhere reading writing => cases h
  | directory => cases h
  | file old => exact (Except.ok.inj h).symm

/-- Settings without doubles survive being saved: whatever they were loaded from, they are saved wherever a file can
be, load from there as they were, and are saved again as the same bytes. Loading where there is no file saves the
settings that hold by default and gives what then loads from the file. -/
theorem load_save_load :
    (∀ content loaded, load (.file content) = .ok loaded → loaded.settings.storage.options.IsWhole →
      ∃ saved,
        (∀ f, (f = .missing ∨ ∃ old, f = .file old) → loaded.settings.save f = .ok (.file saved)) ∧
        load (.file saved) = .ok ⟨loaded.settings, false, .file saved⟩ ∧
        ∀ again, load (.file saved) = .ok again → again.settings.save again.file = .ok (.file saved)) ∧
    ∀ f, f.exists? = false →
      load f = (initial.save f).map (fun made => ⟨initial, true, made⟩) ∧
      ∀ made, initial.save f = .ok made → load made = .ok ⟨initial, false, made⟩ := by
  constructor
  · intro content loaded hload hwhole
    obtain ⟨text, s, -, hparse, rfl⟩ := load_file_eq_ok_iff.mp hload
    obtain ⟨tree, -, htree⟩ := Option.bind_eq_some_iff.mp hparse
    have hsaved := load_saved (ofTree?_kept htree) hwhole
    refine ⟨Text.encode s.text, fun f hf => save_of_file s hf, hsaved, fun again hagain => ?_⟩
    rw [hsaved] at hagain
    cases hagain
    exact save_of_file s (.inr ⟨_, rfl⟩)
  · intro f hf
    constructor
    · rw [load, hf]
      cases initial.save f <;> rfl
    · intro made hmade
      rw [eq_of_save hmade]
      exact load_saved initial_kept initial_isWhole

/-- Settings as a list of records, with escapes, a field that nothing asks for, a key that is repeated, and the ends
of whole numbers. -/
def spelled : String :=
  "[\"a\\n\\u00e9\", \x7b\"driver_type\": \"hdfs\", \"more\": 1.5, \"id\": \"\\ud83d\\ude00\", " ++
    "\"config\": \x7b\"b\": [], \"c\": 18446744073709551615, " ++
    "\"a\": [-9223372036854775808, \x7b\x7d], \"b\": null\x7d\x7d]"

def spelledSettings : Settings :=
  ⟨"a\né", ⟨"😀", "hdfs", .object
    [ ("a", .array [.number (.negative 0x7FFFFFFFFFFFFFFF), .object []]),
      ("b", .null),
      ("c", .number (.natural 18446744073709551615)) ]⟩⟩

theorem load_save_load_spelled :
    load (.file (Text.encode spelled)) = .ok ⟨spelledSettings, false, .file (Text.encode spelled)⟩ ∧
      spelledSettings.storage.options.IsWhole ∧
      load (.file (Text.encode spelledSettings.text)) =
        .ok ⟨spelledSettings, false, .file (Text.encode spelledSettings.text)⟩ ∧
      load .missing = .ok ⟨initial, true, .file (Text.encode initial.text)⟩ := by
  have hparse : parse? spelled = some spelledSettings := by cbv
  have hitems : (Value.array [.number (.negative 0x7FFFFFFFFFFFFFFF), .object []]).IsWhole :=
    .array (by simp [Value.isWhole_negative, Value.IsWhole.object])
  have hwhole : spelledSettings.storage.options.IsWhole :=
    .object (by simp [hitems, Value.IsWhole.null, Value.isWhole_natural])
  have hload := load_encode hparse
  obtain ⟨saved, hsave, hagain, -⟩ := load_save_load.1 _ _ hload hwhole
  have hsaved := eq_of_save (hsave .missing (.inl rfl))
  rw [hsaved] at hagain
  exact ⟨hload, hwhole, hagain, (load_save_load.2 .missing rfl).1⟩

end RootedStore.Settings
