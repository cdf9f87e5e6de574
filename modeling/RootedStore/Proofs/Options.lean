import RootedStore.Options
import RootedStore.Proofs.Path.Canonical

/-!
# Accepted options

Options are read one field after the other, and each field is read by itself: options are accepted
exactly if every field is. The root of accepted options is a canonical path.
-/
namespace RootedStore

/-- A sequence of two readings succeeds if the first gives a value with which the second succeeds. -/
theorem bind_eq_ok_iff {ε α β : Type} {x : Except ε α} {f : α → Except ε β} {b : β} :
    x >>= f = .ok b ↔ ∃ a, x = .ok a ∧ f a = .ok b := by
  cases x with
  | error e => simp [bind, Except.bind]
  | ok a => simp [bind, Except.bind]

theorem mapError_eq_ok_iff {ε ε' α : Type} {x : Except ε α} {f : ε → ε'} {a : α} :
    x.mapError f = .ok a ↔ x = .ok a := by
  cases x with
  | error e => constructor <;> intro h <;> cases h
  | ok b => exact Iff.rfl.trans ⟨fun h => congrArg _ (Except.ok.inj h), fun h => congrArg _ (Except.ok.inj h)⟩

namespace Options

/-- Options are those of a map if every field is what is read from the map for it. -/
theorem ofFields_eq_ok_iff {fields : List (String × Json.Value)} {o : Options} :
    ofFields fields = .ok o ↔
      (∃ t, text? fields rootKey = .ok t ∧ readRoot (t.getD defaultRoot) = .ok o.root) ∧
      (∃ t, text? fields namenodeKey = .ok t ∧ readNamenode (t.getD "") = .ok o.namenode) ∧
      (∃ t, text? fields userKey = .ok t ∧ readUser (t.getD defaultUser) = .ok o.user) ∧
      ((value? fields maskKey).map readMode).getD (.ok defaultMask) = .ok o.mask ∧
      ((value? fields timeoutKey).map readTimeout).getD (.ok defaultTimeout) = .ok o.timeout := by
  simp only [ofFields, bind_eq_ok_iff]
  constructor
  · rintro ⟨rootText, hr, root, hroot, nodeText, hn, node, hnode, userText, hu, user, huser, mask, hmask,
      timeout, htimeout, ho⟩
    have ho : ⟨root, node, user, mask, timeout⟩ = o := Except.ok.inj ho
    subst ho
    exact ⟨⟨rootText, hr, hroot⟩, ⟨nodeText, hn, hnode⟩, ⟨userText, hu, huser⟩, hmask, htimeout⟩
  · rintro ⟨⟨rootText, hr, hroot⟩, ⟨nodeText, hn, hnode⟩, ⟨userText, hu, huser⟩, hmask, htimeout⟩
    exact ⟨rootText, hr, _, hroot, nodeText, hn, _, hnode, userText, hu, _, huser, _, hmask, _, htimeout, rfl⟩

/-- Accepted options are those of a map, which is empty for null. -/
theorem ofValue_eq_ok {v : Json.Value} {o : Options} (h : ofValue v = .ok o) :
    ∃ fields, ofFields fields = .ok o := by
  cases v with
  | null => exact ⟨[], mapError_eq_ok_iff.mp h⟩
  | object fields => exact ⟨fields, mapError_eq_ok_iff.mp h⟩
  | _ => simp [ofValue] at h

theorem normalize_readRoot {s root : String} (h : readRoot s = .ok root) :
    Path.normalize root = root := by
  rw [readRoot] at h
  split at h
  · simp at h
  · split at h
    · simp at h
    · rw [← Except.ok.inj h, Path.normalize_normalize]

/-- The root of accepted options is a canonical path. -/
theorem normalize_root {v : Json.Value} {o : Options} (h : ofValue v = .ok o) :
    Path.normalize o.root = o.root := by
  obtain ⟨fields, hf⟩ := ofValue_eq_ok h
  obtain ⟨⟨_, _, hroot⟩, _⟩ := ofFields_eq_ok_iff.mp hf
  exact normalize_readRoot hroot

/-- What the least of options gives: the name of a namenode, and all else by default. -/
def sample : Options := ⟨"/tmp/hdfs-registry", "nn", "hdfs", 0o755, 60⟩

theorem ofValue_sample : ofValue (.object [(namenodeKey, .string "nn")]) = .ok sample := rfl

end Options

end RootedStore
