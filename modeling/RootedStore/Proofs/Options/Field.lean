import RootedStore.Proofs.Options
import RootedStore.Proofs.Text.Trim

/-!
# The fields of a map of options

Each option is admitted or not by the value of its own key, null standing for a key that is not there. Options are
accepted exactly if each field admits its value, and an error names a field that does not. So nothing else in a
map matters.
-/
namespace RootedStore

/-- The key of the option that is refused. -/
def OptionError.key? : OptionError → Option String
  | .notAMap _ => none
  | .notAString key _ | .notAnInteger key _ | .blank key | .parentReference key _ | .missing key
  | .invalidMode key _ | .notPositive key _ => some key

namespace Options

open RootedStore.Path (IsCanonical)
open RootedStore.Text (IsTrimmed)

inductive Field where
  | root
  | namenode
  | user
  | mask
  | timeout
  deriving DecidableEq, Repr

def Field.key : Field → String
  | .root => rootKey
  | .namenode => namenodeKey
  | .user => userKey
  | .mask => maskKey
  | .timeout => timeoutKey

/-- The value of a key, null if there is none. -/
def valueAt (v : Json.Value) (key : String) : Json.Value :=
  match v with
  | .object fields => (Table.lookup key fields).getD .null
  | _ => .null

/-- A map, or no options at all. -/
def IsMap (v : Json.Value) : Prop := v = .null ∨ ∃ fields, v = .object fields

/-- A text with a character that is not blank. -/
def IsFilled (s : String) : Prop := ∃ c ∈ s.toList, Text.isBlank c = false

/-- What may be given for a field. Only the namenode may not be left out. -/
def Field.Admits : Field → Json.Value → Prop
  | .root, x => x = .null ∨ ∃ s, x = .string s ∧ IsFilled s ∧ Path.above ∉ Path.components (Text.trim s)
  | .namenode, x => ∃ s, x = .string s ∧ IsFilled s
  | .user, x => x = .null ∨ ∃ s, x = .string s ∧ IsFilled s
  | .mask, x => x = .null ∨ ∃ m, readMode x = .ok m
  | .timeout, x => x = .null ∨ ∃ n, x = .number (.natural n) ∧ 0 < n

theorem isAllBlank_iff {s : String} : Text.isAllBlank s = true ↔ ¬ IsFilled s := by
  simp [Text.isAllBlank, IsFilled]

theorem isFilled_of_trim {s : String} (h : ¬ (Text.trim s).isEmpty = true) : IsFilled s :=
  not_not.mp fun hempty => h (Text.trim_isEmpty_iff.mpr (isAllBlank_iff.mpr hempty))

theorem hasParentRef_iff {s : String} : Path.hasParentRef s = true ↔ Path.above ∈ Path.components s := by
  simp [Path.hasParentRef]

theorem readRoot_eq_ok_iff {s root : String} : readRoot s = .ok root ↔
    IsFilled s ∧ Path.above ∉ Path.components (Text.trim s) ∧ root = Path.normalize (Text.trim s) := by
  rw [readRoot]
  split
  · rename_i hblank
    have hempty : ¬ IsFilled s := isAllBlank_iff.mp (Text.trim_isEmpty_iff.mp hblank)
    simp [hempty]
  · rename_i hblank
    have hfilled : IsFilled s := isFilled_of_trim hblank
    split
    · rename_i hdots
      simp [hasParentRef_iff.mp hdots]
    · rename_i hdots
      have hplain : Path.above ∉ Path.components (Text.trim s) := fun hm => hdots (hasParentRef_iff.mpr hm)
      simp [hfilled, hplain, eq_comm]

theorem readNamenode_eq_ok_iff {s namenode : String} :
    readNamenode s = .ok namenode ↔ IsFilled s ∧ namenode = Text.trim s := by
  rw [readNamenode]
  split
  · rename_i hblank
    have hempty : ¬ IsFilled s := isAllBlank_iff.mp (Text.trim_isEmpty_iff.mp hblank)
    simp [hempty]
  · rename_i hblank
    simp [isFilled_of_trim hblank, eq_comm]

theorem readUser_eq_ok_iff {s user : String} : readUser s = .ok user ↔ IsFilled s ∧ user = s := by
  rw [readUser]
  split
  · rename_i hblank
    simp [isAllBlank_iff.mp hblank]
  · rename_i hblank
    have hfilled : IsFilled s := not_not.mp fun hempty => hblank (isAllBlank_iff.mpr hempty)
    simp [hfilled, eq_comm]

/-- A mode from the number that was read. -/
def checkedMode (x : Json.Value) : Option Nat → Except OptionError UInt32
  | some n => if n ≤ 0o7777 then .ok n.toUInt32 else .error (.invalidMode maskKey x)
  | none => .error (.invalidMode maskKey x)

theorem checkedMode_eq_ok_iff {x : Json.Value} {read : Option Nat} {m : UInt32} :
    checkedMode x read = .ok m ↔ read = some m.toNat ∧ m ≤ 0o7777 := by
  have hbound : m ≤ 0o7777 ↔ m.toNat ≤ 0o7777 := UInt32.le_iff_toNat_le
  cases read with
  | none => simp [checkedMode]
  | some n =>
    rw [checkedMode, hbound, Option.some.injEq]
    split
    · rename_i hn
      have hback : n.toUInt32.toNat = n := Nat.mod_eq_of_lt (by omega)
      constructor
      · intro h
        rw [← Except.ok.inj h, hback]
        exact ⟨rfl, hn⟩
      · rintro ⟨rfl, _⟩
        exact congrArg Except.ok UInt32.ofNat_toNat
    · constructor
      · intro h
        cases h
      · rintro ⟨rfl, hm⟩
        exact absurd hm ‹_›

-- the number that was read is made a variable first: unfolding it would compare the texts that it comes from
theorem readMode_number (k : Json.Number) :
    readMode (.number k) = checkedMode (.number k) (k.toUInt64?.map UInt64.toNat) := by
  rw [readMode]
  generalize k.toUInt64?.map UInt64.toNat = read
  cases read <;> rfl

theorem readMode_string (s : String) : readMode (.string s) = checkedMode (.string s) (octal? s) := by
  rw [readMode]
  generalize octal? s = read
  cases read <;> rfl

theorem readMode_natural_eq_ok_iff {k : UInt64} {m : UInt32} :
    readMode (.number (.natural k)) = .ok m ↔ k.toNat = m.toNat ∧ m ≤ 0o7777 := by
  rw [readMode_number, checkedMode_eq_ok_iff]
  simp [Json.Number.toUInt64?]

/-- A mode has no bits beyond the twelve permission bits. -/
theorem le_of_readMode {x : Json.Value} {m : UInt32} (h : readMode x = .ok m) : m ≤ 0o7777 := by
  cases x with
  | number k =>
    rw [readMode_number] at h
    exact (checkedMode_eq_ok_iff.mp h).2
  | string s =>
    rw [readMode_string] at h
    exact (checkedMode_eq_ok_iff.mp h).2
  | _ => cases h

theorem readTimeout_eq_ok_iff {x : Json.Value} {t : UInt64} :
    readTimeout x = .ok t ↔ x = .number (.natural t) ∧ 0 < t := by
  cases x with
  | number k =>
    cases k with
    | natural n =>
      rw [readTimeout]
      dsimp only [Json.Number.toUInt64?]
      split
      · constructor
        · intro h
          obtain rfl := Except.ok.inj h
          exact ⟨rfl, ‹_›⟩
        · rintro ⟨h, _⟩
          cases h
          rfl
      · constructor
        · intro h
          cases h
        · rintro ⟨h, hpos⟩
          cases h
          exact absurd hpos ‹_›
    | _ => simp [readTimeout, Json.Number.toUInt64?]
  | _ => simp [readTimeout]

theorem value?_eq (fields : List (String × Json.Value)) (key : String) : value? fields key =
    match valueAt (.object fields) key with
    | .null => none
    | x => some x := by
  rw [value?, valueAt]
  cases Table.lookup key fields with
  | none => rfl
  | some x => cases x <;> rfl

theorem text?_eq (fields : List (String × Json.Value)) (key : String) : text? fields key =
    match valueAt (.object fields) key with
    | .null => .ok none
    | .string s => .ok (some s)
    | x => .error (.notAString key x.kind) := by
  rw [text?, value?_eq]
  cases valueAt (.object fields) key <;> rfl

/-- What is read for a field is good exactly if the field admits its value; otherwise the error names the field. -/
structure Field.Decides (f : Field) (x : Json.Value) {α : Type} (reading : Except OptionError α) : Prop where
  ok : (∃ a, reading = .ok a) ↔ f.Admits x
  error : ∀ why, reading = .error why → why.key? = some f.key

theorem key?_of_readRoot {s : String} {why : OptionError} (h : readRoot s = .error why) : why.key? = some rootKey := by
  rw [readRoot] at h
  split at h
  · rw [← Except.error.inj h]
    rfl
  · split at h
    · rw [← Except.error.inj h]
      rfl
    · cases h

theorem key?_of_readNamenode {s : String} {why : OptionError} (h : readNamenode s = .error why) :
    why.key? = some namenodeKey := by
  rw [readNamenode] at h
  split at h
  · rw [← Except.error.inj h]
    rfl
  · cases h

theorem key?_of_readUser {s : String} {why : OptionError} (h : readUser s = .error why) : why.key? = some userKey := by
  rw [readUser] at h
  split at h
  · rw [← Except.error.inj h]
    rfl
  · cases h

theorem error_of_checkedMode {x : Json.Value} {read : Option Nat} {why : OptionError}
    (h : checkedMode x read = .error why) : why = .invalidMode maskKey x := by
  cases read with
  | none => exact (Except.error.inj h).symm
  | some n =>
    rw [checkedMode] at h
    split at h
    · cases h
    · exact (Except.error.inj h).symm

theorem key?_of_readMode {x : Json.Value} {why : OptionError} (h : readMode x = .error why) :
    why.key? = some maskKey := by
  cases x with
  | number k =>
    rw [readMode_number] at h
    rw [error_of_checkedMode h]
    rfl
  | string s =>
    rw [readMode_string] at h
    rw [error_of_checkedMode h]
    rfl
  | _ =>
    rw [← Except.error.inj h]
    rfl

theorem key?_of_readTimeout {x : Json.Value} {why : OptionError} (h : readTimeout x = .error why) :
    why.key? = some timeoutKey := by
  cases x with
  | number k =>
    rw [readTimeout] at h
    split at h
    · split at h
      · cases h
      · rw [← Except.error.inj h]
        rfl
    · rw [← Except.error.inj h]
      rfl
  | _ =>
    rw [← Except.error.inj h]
    rfl

section readings

variable (fields : List (String × Json.Value))

/-- A text is missing, or given, or something else is given, which is refused. -/
theorem decides_text {f : Field} {read : Option String → Except OptionError String}
    (hread : ∀ t why, read t = .error why → why.key? = some f.key)
    (hadmits : ∀ x, f.Admits x ↔
      (x = .null ∧ ∃ a, read none = .ok a) ∨ ∃ s, x = .string s ∧ ∃ a, read (some s) = .ok a) :
    f.Decides (valueAt (.object fields) f.key) (text? fields f.key >>= read) := by
  rw [text?_eq]
  generalize valueAt (.object fields) f.key = x
  constructor
  · rw [hadmits]
    cases x <;> simp [bind, Except.bind]
  · intro why h
    cases x with
    | null => exact hread none why h
    | string s => exact hread (some s) why h
    | _ =>
      rw [← Except.error.inj h]
      rfl

/-- A value is missing, and something else taken for it, or it is given. -/
theorem decides_value {α : Type} {f : Field} {read : Json.Value → Except OptionError α} {default : α}
    (hread : ∀ x why, read x = .error why → why.key? = some f.key)
    (hadmits : ∀ x, f.Admits x ↔ x = .null ∨ ∃ a, read x = .ok a) :
    f.Decides (valueAt (.object fields) f.key) (((value? fields f.key).map read).getD (.ok default)) := by
  rw [value?_eq]
  generalize valueAt (.object fields) f.key = x
  constructor
  · rw [hadmits]
    cases x <;> simp
  · intro why h
    cases x with
    | null => cases h
    | _ => exact hread _ why h

theorem decides_root : Field.root.Decides (valueAt (.object fields) Field.root.key)
    (text? fields rootKey >>= fun t => readRoot (t.getD defaultRoot)) := by
  have hdefault : readRoot defaultRoot = .ok defaultRoot := rfl
  have ⟨hfilled, hplain, _⟩ := readRoot_eq_ok_iff.mp hdefault
  refine decides_text (f := .root) fields (fun _ _ h => key?_of_readRoot h) fun x => ?_
  simp [Field.Admits, readRoot_eq_ok_iff, hfilled, hplain]

theorem decides_namenode : Field.namenode.Decides (valueAt (.object fields) Field.namenode.key)
    (text? fields namenodeKey >>= fun t => readNamenode (t.getD "")) := by
  have hempty : ¬ IsFilled "" := by simp [IsFilled]
  refine decides_text (f := .namenode) fields (fun _ _ h => key?_of_readNamenode h) fun x => ?_
  simp [Field.Admits, readNamenode_eq_ok_iff, hempty]

theorem decides_user : Field.user.Decides (valueAt (.object fields) Field.user.key)
    (text? fields userKey >>= fun t => readUser (t.getD defaultUser)) := by
  have hdefault : readUser defaultUser = .ok defaultUser := rfl
  have hfilled := (readUser_eq_ok_iff.mp hdefault).1
  refine decides_text (f := .user) fields (fun _ _ h => key?_of_readUser h) fun x => ?_
  simp [Field.Admits, readUser_eq_ok_iff, hfilled]

theorem decides_mask : Field.mask.Decides (valueAt (.object fields) Field.mask.key)
    (((value? fields maskKey).map readMode).getD (.ok defaultMask)) :=
  decides_value (f := .mask) fields (fun _ _ h => key?_of_readMode h) fun _ => Iff.rfl

theorem decides_timeout : Field.timeout.Decides (valueAt (.object fields) Field.timeout.key)
    (((value? fields timeoutKey).map readTimeout).getD (.ok defaultTimeout)) := by
  refine decides_value (f := .timeout) fields (fun _ _ h => key?_of_readTimeout h) fun x => ?_
  simp [Field.Admits, readTimeout_eq_ok_iff]

end readings

/-- If what starts with a field fails, the field does not admit its value, or it is not to blame. -/
theorem Field.Decides.blame {α β : Type} {f : Field} {x : Json.Value} {reading : Except OptionError α}
    {next : α → Except OptionError β} {why : OptionError} (hf : f.Decides x reading)
    (h : reading >>= next = .error why) :
    (why.key? = some f.key ∧ ¬ f.Admits x) ∨ ∃ a, next a = .error why := by
  cases reading with
  | ok a => exact .inr ⟨a, h⟩
  | error e =>
    obtain rfl : e = why := Except.error.inj h
    refine .inl ⟨hf.error e rfl, fun hadmits => ?_⟩
    obtain ⟨a, ha⟩ := hf.ok.mpr hadmits
    cases ha

variable {fields : List (String × Json.Value)} {why : OptionError}

theorem Field.forall_iff {P : Field → Prop} :
    (∀ f, P f) ↔ P .root ∧ P .namenode ∧ P .user ∧ P .mask ∧ P .timeout := by
  constructor
  · intro h
    exact ⟨h _, h _, h _, h _, h _⟩
  · rintro ⟨hroot, hnamenode, huser, hmask, htimeout⟩ f
    cases f <;> assumption

/-- Options are accepted exactly if every field admits its value. -/
theorem exists_ofFields_iff :
    (∃ o, ofFields fields = .ok o) ↔ ∀ f : Field, f.Admits (valueAt (.object fields) f.key) := by
  rw [Field.forall_iff]
  simp only [ofFields_eq_ok_iff, ← bind_eq_ok_iff]
  rw [← (decides_root fields).ok, ← (decides_namenode fields).ok, ← (decides_user fields).ok,
    ← (decides_mask fields).ok, ← (decides_timeout fields).ok]
  constructor
  · rintro ⟨o, hroot, hnamenode, huser, hmask, htimeout⟩
    exact ⟨⟨_, hroot⟩, ⟨_, hnamenode⟩, ⟨_, huser⟩, ⟨_, hmask⟩, ⟨_, htimeout⟩⟩
  · rintro ⟨⟨root, hroot⟩, ⟨namenode, hnamenode⟩, ⟨user, huser⟩, ⟨mask, hmask⟩, ⟨timeout, htimeout⟩⟩
    exact ⟨⟨root, namenode, user, mask, timeout⟩, hroot, hnamenode, huser, hmask, htimeout⟩

/-- Options are refused for a field that does not admit its value. -/
theorem exists_field_of_error (h : ofFields fields = .error why) :
    ∃ f : Field, why.key? = some f.key ∧ ¬ f.Admits (valueAt (.object fields) f.key) := by
  simp only [ofFields, ← bind_assoc (m := Except OptionError)] at h
  rcases (decides_root fields).blame h with hblame | ⟨_, h⟩
  · exact ⟨_, hblame⟩
  rcases (decides_namenode fields).blame h with hblame | ⟨_, h⟩
  · exact ⟨_, hblame⟩
  rcases (decides_user fields).blame h with hblame | ⟨_, h⟩
  · exact ⟨_, hblame⟩
  rcases (decides_mask fields).blame h with hblame | ⟨_, h⟩
  · exact ⟨_, hblame⟩
  rcases (decides_timeout fields).blame h with hblame | ⟨_, h⟩
  · exact ⟨_, hblame⟩
  cases h

/-- Maps with the same values for all fields have the same outcome. -/
theorem ofFields_congr {fields' : List (String × Json.Value)}
    (h : ∀ f : Field, valueAt (.object fields) f.key = valueAt (.object fields') f.key) :
    ofFields fields = ofFields fields' := by
  have htext : ∀ f : Field, text? fields f.key = text? fields' f.key := by
    intro f
    rw [text?_eq, text?_eq, h f]
  have hvalue : ∀ f : Field, value? fields f.key = value? fields' f.key := by
    intro f
    rw [value?_eq, value?_eq, h f]
  have hroot : text? fields rootKey = _ := htext .root
  have hnamenode : text? fields namenodeKey = _ := htext .namenode
  have huser : text? fields userKey = _ := htext .user
  have hmask : value? fields maskKey = _ := hvalue .mask
  have htimeout : value? fields timeoutKey = _ := hvalue .timeout
  rw [ofFields, hroot, hnamenode, huser, hmask, htimeout]
  rfl

section values

variable {v : Json.Value}

/-- What is accepted or refused of a map is so for its fields; null is the map without any. -/
theorem exists_fields_of_isMap (h : IsMap v) : ∃ fields, ofValue v = (ofFields fields).mapError .invalidConfig ∧
    ∀ key, valueAt v key = valueAt (.object fields) key := by
  rcases h with rfl | ⟨fields, rfl⟩
  · exact ⟨[], rfl, fun _ => rfl⟩
  · exact ⟨fields, rfl, fun _ => rfl⟩

theorem ofValue_of_not_isMap (h : ¬ IsMap v) : ofValue v = .error (.invalidConfig (.notAMap v.kind)) := by
  cases v with
  | null => exact absurd (.inl rfl) h
  | object fields => exact absurd (.inr ⟨fields, rfl⟩) h
  | _ => rfl

theorem exists_ofValue_iff :
    (∃ o, ofValue v = .ok o) ↔ IsMap v ∧ ∀ f : Field, f.Admits (valueAt v f.key) := by
  by_cases hmap : IsMap v
  · obtain ⟨fields, hv, hat⟩ := exists_fields_of_isMap hmap
    simp only [hv, mapError_eq_ok_iff, exists_ofFields_iff, hat, hmap, true_and]
  · simp [ofValue_of_not_isMap hmap, hmap]

/-- Every failure is one of the options: they are no map, or the error names a field that does not admit its value. -/
theorem blame_of_ofValue {e : StorageError} (h : ofValue v = .error e) : ∃ why, e = .invalidConfig why ∧
    (¬ IsMap v ∨ ∃ f : Field, why.key? = some f.key ∧ ¬ f.Admits (valueAt v f.key)) := by
  by_cases hmap : IsMap v
  · obtain ⟨fields, hv, hat⟩ := exists_fields_of_isMap hmap
    rw [hv] at h
    cases ho : ofFields fields with
    | ok o =>
      rw [ho] at h
      cases h
    | error why =>
      rw [ho] at h
      obtain ⟨f, hkey, hadmits⟩ := exists_field_of_error ho
      rw [← hat] at hadmits
      exact ⟨why, (Except.error.inj h).symm, .inr ⟨f, hkey, hadmits⟩⟩
  · rw [ofValue_of_not_isMap hmap] at h
    exact ⟨_, (Except.error.inj h).symm, .inl hmap⟩

/-- What accepted options look like. -/
structure IsUsable (o : Options) : Prop where
  root : IsCanonical o.root
  namenode : IsTrimmed Text.isBlank o.namenode.toList
  mask : o.mask ≤ 0o7777
  timeout : 1 ≤ o.timeout

theorem isUsable_of_ofValue {o : Options} (h : ofValue v = .ok o) : IsUsable o := by
  obtain ⟨fields, hfields⟩ := ofValue_eq_ok h
  obtain ⟨_, ⟨_, _, hnamenode⟩, _, hmask, htimeout⟩ := ofFields_eq_ok_iff.mp hfields
  constructor
  · exact Path.isCanonical_iff.mpr (normalize_root h)
  · rw [(readNamenode_eq_ok_iff.mp hnamenode).2]
    exact Text.isTrimmed_trim _
  · cases hx : value? fields maskKey with
    | none =>
      rw [hx] at hmask
      rw [← Except.ok.inj hmask]
      decide
    | some x =>
      rw [hx, Option.map_some, Option.getD_some] at hmask
      exact le_of_readMode hmask
  · cases hx : value? fields timeoutKey with
    | none =>
      rw [hx] at htimeout
      rw [← Except.ok.inj htimeout]
      decide
    | some x =>
      rw [hx, Option.map_some, Option.getD_some] at htimeout
      have hpos : 0 < o.timeout := (readTimeout_eq_ok_iff.mp htimeout).2
      rw [UInt64.le_iff_toNat_le]
      exact UInt64.lt_iff_toNat_lt.mp hpos

/-- Options are accepted exactly if they are a map of which every field admits its own value. All failures are
reported as such of the options, and accepted options are usable. Two maps with the same values for the fields,
null standing for what is missing, have the same outcome, whatever else is in them. -/
theorem fields_decide (v : Json.Value) :
    ((∃ o, ofValue v = .ok o) ↔ IsMap v ∧ ∀ f : Field, f.Admits (valueAt v f.key)) ∧
      (∀ e, ofValue v = .error e → ∃ why, e = .invalidConfig why ∧
        (¬ IsMap v ∨ ∃ f : Field, why.key? = some f.key ∧ ¬ f.Admits (valueAt v f.key))) ∧
      (∀ o, ofValue v = .ok o → IsUsable o) ∧
      ∀ v', IsMap v → IsMap v' → (∀ f : Field, valueAt v f.key = valueAt v' f.key) → ofValue v = ofValue v' := by
  refine ⟨exists_ofValue_iff, fun _ => blame_of_ofValue, fun _ => isUsable_of_ofValue, ?_⟩
  intro v' hv hv' hsame
  obtain ⟨fields, hfields, hat⟩ := exists_fields_of_isMap hv
  obtain ⟨fields', hfields', hat'⟩ := exists_fields_of_isMap hv'
  have hcongr : ofFields fields = ofFields fields' := by
    refine ofFields_congr fun f => ?_
    rw [← hat, ← hat', hsame]
  rw [hfields, hfields', hcongr]

end values

end Options

end RootedStore
