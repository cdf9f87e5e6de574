import RootedStore.Proofs.Effects
import RootedStore.Proofs.Store.Ready

/-!
# Operations that do not depend on each other

Two operations whose paths are all unrelated may run at the same time, so that their calls fall between each other
in any way. Both may provision the directories that their paths share. Still either of them gets the replies that
it gets alone: what the other one changes lies within the paths of the other one, or is a directory more above its
own. Where a path is looked for it does not matter who has provisioned what lies above it.
-/
namespace RootedStore

open Namespace (IsTree)
open RootedStore.Path (Within normalize)

namespace Work

variable {α β : Type}

/-- Work after its next question, if there is one. -/
def step : Work α → Namespace → Work α × Namespace
  | .done a, space => (.done a, space)
  | .ask q next, space =>
    let (r, space) := Client.answer Namespace.client .good q space
    (next r, space)

/-- Two pieces of work at the same time. At each turn one of them asks its next question, the first one if the turn
says so. When there are no more turns, what is left of the first one is done, and then what is left of the second. -/
def together : List Bool → Work α → Work β → Namespace → (α × β) × Namespace
  | [], first, second, space =>
    let (a, space) := first.alone space
    let (b, space) := second.alone space
    ((a, b), space)
  | true :: turns, first, second, space =>
    let (first, space) := first.step space
    together turns first second space
  | false :: turns, first, second, space =>
    let (second, space) := second.step space
    together turns first second space

/-- Without turns the one is done before the other. -/
theorem exists_of_together_nil {first : Work α} {second : Work β} {x : α} {y : β} {space after : Namespace}
    (h : together [] first second space = ((x, y), after)) :
    ∃ mid, first.alone space = (x, mid) ∧ second.alone mid = (y, after) := by
  rw [together] at h
  obtain ⟨hresults, hafter⟩ := Prod.mk.inj h
  obtain ⟨hx, hy⟩ := Prod.mk.inj hresults
  exact ⟨_, Prod.ext hx rfl, Prod.ext hy hafter⟩

theorem alone_ask {q : Question} {next : q.Reply → Work α} {r : q.Reply} {space space' : Namespace}
    (h : Client.answer Namespace.client .good q space = (r, space')) :
    Work.alone (.ask q next) space = (next r).alone space' := by
  have hask : Work.alone (.ask q next) space = (next (Client.answer Namespace.client .good q space).1).alone
      (Client.answer Namespace.client .good q space).2 := rfl
  rw [hask, h]

/-- Work comes to the same end after a step. -/
theorem alone_of_step {work work' : Work α} {space space' : Namespace} (h : work.step space = (work', space')) :
    work'.alone space' = work.alone space := by
  cases work with
  | done a =>
    cases h
    rfl
  | ask q next =>
    rw [step] at h
    cases h
    exact (alone_ask rfl).symm

end Work

/-- Two sets of canonical paths, with each path of the one unrelated to each path of the other. -/
structure Path.Apart (ps qs : String → Prop) : Prop where
  left : ∀ p, ps p → normalize p = p
  right : ∀ q, qs q → normalize q = q
  unrelated : ∀ p q, ps p → qs q → Unrelated p q

variable {mask : UInt32} {ps qs : String → Prop}

theorem Path.Apart.symm (h : Apart ps qs) : Apart qs ps :=
  ⟨h.right, h.left, fun q p hq hp => (h.unrelated p q hp hq).symm⟩

theorem Path.Apart.disjoint (h : Apart ps qs) {p q key : String} (hp : ps p) (hq : qs q) (hw : Within p key) :
    ¬ Within q key :=
  (h.unrelated p q hp hq).disjoint (h.left p hp) (h.right q hq) hw

namespace Namespace

/-- What is at a path for the one, for the other and for both: the same, or a directory that one of them has
provisioned where the other one has nothing. -/
inductive Joined (mask : UInt32) : Option Node → Option Node → Option Node → Prop where
  | same (node : Option Node) : Joined mask node node node
  | left : Joined mask (some (.dir mask .present)) none (some (.dir mask .present))
  | right : Joined mask none (some (.dir mask .present)) (some (.dir mask .present))

theorem Joined.symm {a b both : Option Node} (h : Joined mask a b both) : Joined mask b a both := by
  cases h with
  | same => exact .same _
  | left => exact .right
  | right => exact .left

theorem Joined.unique {a b both both' : Option Node} (h : Joined mask a b both) (h' : Joined mask a b both') :
    both = both' := by
  cases h <;> cases h' <;> rfl

/-- For both there may be a directory more than for the one. -/
theorem Joined.more {a b both : Option Node} (h : Joined mask a b both) :
    both = a ∨ a = none ∧ both = some (.dir mask .present) := by
  cases h with
  | same | left => exact .inl rfl
  | right => exact .inr ⟨rfl, rfl⟩

theorem Joined.provision {a b both : Option Node} (h : Joined mask a b both) :
    Joined mask (some (a.getD (.dir mask .present))) b (some (both.getD (.dir mask .present))) := by
  cases h with
  | same =>
    cases a with
    | none => exact .left
    | some node => exact .same _
  | left => exact .left
  | right => exact .same _

/-- The table that one has made at its paths, that another one has made at other paths, and what they have made
together. -/
structure Merged (mask : UInt32) (ps qs : String → Prop) (a b both : Table Node) : Prop where
  treeLeft : IsTree a
  treeRight : IsTree b
  tree : IsTree both
  left : ∀ p, ps p → ∀ key, Within p key → both.find? key = a.find? key
  right : ∀ q, qs q → ∀ key, Within q key → both.find? key = b.find? key
  common : ∀ key, (∀ p, ps p → ¬ Within p key) → (∀ q, qs q → ¬ Within q key) →
    Joined mask (a.find? key) (b.find? key) (both.find? key)

variable {a b both a' both' : Table Node} {α β : Type}

theorem Merged.refl (h : IsTree a) : Merged mask ps qs a a a :=
  ⟨h, h, h, fun _ _ _ _ => rfl, fun _ _ _ _ => rfl, fun _ _ _ => .same _⟩

theorem Merged.symm (h : Merged mask ps qs a b both) : Merged mask qs ps b a both :=
  ⟨h.treeRight, h.treeLeft, h.tree, h.right, h.left, fun key hq hp => (h.common key hp hq).symm⟩

/-- What two have made together is determined by what either of them has made. -/
theorem Merged.unique (h : Merged mask ps qs a b both) (h' : Merged mask ps qs a b both') : both = both' := by
  refine Table.ext_find? fun key => ?_
  by_cases hp : ∃ p, ps p ∧ Within p key
  · obtain ⟨p, hp, hw⟩ := hp
    rw [h.left p hp key hw, h'.left p hp key hw]
  · by_cases hq : ∃ q, qs q ∧ Within q key
    · obtain ⟨q, hq, hw⟩ := hq
      rw [h.right q hq key hw, h'.right q hq key hw]
    · have hp := fun p hps hw => hp ⟨p, hps, hw⟩
      have hq := fun q hqs hw => hq ⟨q, hqs, hw⟩
      exact (h.common key hp hq).unique (h'.common key hp hq)

variable (hapart : Path.Apart ps qs)
include hapart

/-- Above its own paths either of two may see some more directories among both. -/
theorem Merged.sees (h : Merged mask ps qs a b both) : Sees mask ps a both := by
  refine ⟨h.left, fun path hpath key hk => ?_⟩
  by_cases hp : ∃ p, ps p ∧ Within p key
  · obtain ⟨p, hp, hw⟩ := hp
    exact .inl (h.left p hp key hw)
  · -- nothing of the other one lies above a path of the one, or the one's path would lie within it
    refine (h.common key (fun p hps hw => hp ⟨p, hps, hw⟩) fun q hq hw => ?_).more
    exact (hapart.unrelated path q hpath hq).2 (hw.trans (hk.within (hapart.left path hpath)))

/-- What one of two does, alone and among both, keeps the tables together. -/
theorem Merged.tracks (h : Merged mask ps qs a b both) (ht : Tracks mask ps a both a' both') (ha : IsTree a')
    (hboth : IsTree both') : Merged mask ps qs a' b both' := by
  refine ⟨ha, h.treeRight, hboth, ht.within, fun q hq key hw => ?_, fun key hp hq => ?_⟩
  · rcases ht.outside key fun p hp hwp => hapart.disjoint hp hq hwp hw with ⟨_, hsame⟩ | ⟨⟨p, hp, habove⟩, _⟩
    · rw [hsame, h.right q hq key hw]
    · -- what the one provisions lies above its own paths, so not within those of the other one
      exact absurd (hw.trans (habove.within (hapart.left p hp))) (hapart.unrelated p q hp hq).2
  · rcases ht.outside key hp with ⟨hsame, hsame'⟩ | ⟨_, hnew, hnew'⟩
    · rw [hsame, hsame']
      exact h.common key hp hq
    · rw [hnew, hnew']
      exact (h.common key hp hq).provision

/-- A question of the one is answered among both as if it were alone. -/
theorem Merged.answer (h : Merged mask ps qs a b both) {q : Question} (hq : q.IsReady mask ps a) :
    ∃ r a' both', Client.answer client .good q ⟨a, []⟩ = (r, ⟨a', []⟩) ∧
      Client.answer client .good q ⟨both, []⟩ = (r, ⟨both', []⟩) ∧ Merged mask ps qs a' b both' := by
  cases q with
  | interruption | signal => exact ⟨none, a, both, rfl, rfl, h⟩
  | call c =>
    obtain ⟨hc, hready⟩ := hq
    obtain ⟨hreply, htracks⟩ := (h.sees hapart).serve h.treeLeft h.tree hapart.left hc hready
    have hplaced := fun path hp => hapart.left path (hc.placed path hp)
    have ha := isTree_serve h.treeLeft hplaced
    have hboth := isTree_serve h.tree hplaced
    obtain ⟨r, a', hserve⟩ := exists_serve c a
    obtain ⟨r', both', hserve'⟩ := exists_serve c both
    rw [hserve, hserve'] at hreply htracks
    rw [hserve] at ha
    rw [hserve'] at hboth
    obtain rfl : r' = r := hreply
    exact ⟨r', a', both', (client_of_nil c a).trans hserve, (client_of_nil c both).trans hserve',
      h.tracks hapart htracks ha hboth⟩

theorem Merged.step (h : Merged mask ps qs a b both) {work : Work α} (hw : work.Ready mask ps ⟨a, []⟩) :
    ∃ work' a' both', work.step ⟨a, []⟩ = (work', ⟨a', []⟩) ∧ work.step ⟨both, []⟩ = (work', ⟨both', []⟩) ∧
      work'.Ready mask ps ⟨a', []⟩ ∧ Merged mask ps qs a' b both' := by
  cases work with
  | done x => exact ⟨.done x, a, both, rfl, rfl, trivial, h⟩
  | ask q next =>
    obtain ⟨hq, hnext⟩ := hw
    obtain ⟨r, a', both', hr, hr', hmerged⟩ := h.answer hapart hq
    rw [hr] at hnext
    exact ⟨next r, a', both', by rw [Work.step, hr], by rw [Work.step, hr'], hnext, hmerged⟩

theorem Merged.alone (h : Merged mask ps qs a b both) {work : Work α} (hw : work.Ready mask ps ⟨a, []⟩) :
    ∃ x a' both', work.alone ⟨a, []⟩ = (x, ⟨a', []⟩) ∧ work.alone ⟨both, []⟩ = (x, ⟨both', []⟩) ∧
      Merged mask ps qs a' b both' := by
  induction work generalizing a both with
  | done x => exact ⟨x, a, both, rfl, rfl, h⟩
  | ask q next ih =>
    obtain ⟨hq, hnext⟩ := hw
    obtain ⟨r, a', both', hr, hr', hmerged⟩ := h.answer hapart hq
    rw [hr] at hnext
    rw [Work.alone_ask hr, Work.alone_ask hr']
    exact ih r hmerged hnext

/-- Whoever asks when, either of two comes to the end that it comes to alone. -/
theorem Merged.together (h : Merged mask ps qs a b both) (turns : List Bool) {first : Work α} {second : Work β}
    (hf : first.Ready mask ps ⟨a, []⟩) (hs : second.Ready mask qs ⟨b, []⟩) :
    ∃ x y a' b' both', first.alone ⟨a, []⟩ = (x, ⟨a', []⟩) ∧ second.alone ⟨b, []⟩ = (y, ⟨b', []⟩) ∧
      Work.together turns first second ⟨both, []⟩ = ((x, y), ⟨both', []⟩) ∧ Merged mask ps qs a' b' both' := by
  induction turns generalizing first second a b both with
  | nil =>
    obtain ⟨x, a', mid, hx, hx', hmid⟩ := h.alone hapart hf
    obtain ⟨y, b', both', hy, hy', hboth⟩ := hmid.symm.alone hapart.symm hs
    exact ⟨x, y, a', b', both', hx, hy, by simp only [Work.together, hx', hy'], hboth.symm⟩
  | cons turn turns ih =>
    cases turn with
    | true =>
      obtain ⟨first', a', both', hstep, hstep', hready, hmerged⟩ := h.step hapart hf
      obtain ⟨x, y, a', b', both', hx, hy, htogether, hmerged⟩ := ih hmerged hready hs
      rw [Work.alone_of_step hstep] at hx
      exact ⟨x, y, a', b', both', hx, hy, by simp only [Work.together, hstep', htogether], hmerged⟩
    | false =>
      obtain ⟨second', b', both', hstep, hstep', hready, hmerged⟩ := h.symm.step hapart.symm hs
      obtain ⟨x, y, a', b', both', hx, hy, htogether, hmerged⟩ := ih hmerged.symm hf hready
      rw [Work.alone_of_step hstep] at hy
      exact ⟨x, y, a', b', both', hx, hy, by simp only [Work.together, hstep', htogether], hmerged⟩

end Namespace

namespace Store

variable {st : Store} {space : Namespace} {op other : Operation}

/-- Two operations whose paths are all unrelated, at the same time and with their calls in any order: either of them
has the result that it has when they are done one after the other, whichever is first, and they leave the same
namespace. -/
theorem perform_together (hspace : System.Reachable st space) (hfaults : space.faults = [])
    (hunrelated : ∀ p q, op.Resolved st.options p → other.Resolved st.options q → Path.Unrelated p q)
    (turns : List Bool) :
    ∃ x y after, Work.together turns (st.perform op).run (st.perform other).run space = ((x, y), after) ∧
      (∃ mid, (st.perform op).alone space = (x, mid) ∧ (st.perform other).alone mid = (y, after)) ∧
      ∃ mid, (st.perform other).alone space = (y, mid) ∧ (st.perform op).alone mid = (x, after) := by
  obtain ⟨nodes, faults⟩ := space
  obtain rfl : faults = [] := hfaults
  have htree : IsTree nodes := hspace.isTree
  have hapart : Path.Apart (op.Resolved st.options) (other.Resolved st.options) :=
    ⟨fun _ hp => hp.canonical, fun _ hq => hq.canonical, hunrelated⟩
  have hready := st.ready_perform op htree
  have hready' := st.ready_perform other htree
  have hstart : Namespace.Merged st.options.mask (op.Resolved st.options) (other.Resolved st.options) nodes nodes nodes :=
    .refl htree
  -- the two run by turns, and without any turns in either order: the own tables are the same each time
  obtain ⟨x, y, a, b, after, hx, hy, htogether, hmerged⟩ := hstart.together hapart turns hready hready'
  obtain ⟨_, _, _, _, _, hx', hy', hforth, hmerged'⟩ := hstart.together hapart [] hready hready'
  obtain ⟨_, _, _, _, _, hy'', hx'', hback, hmerged''⟩ := hstart.symm.together hapart.symm [] hready' hready
  cases hx.symm.trans hx'
  cases hy.symm.trans hy'
  cases hx.symm.trans hx''
  cases hy.symm.trans hy''
  obtain rfl := hmerged'.unique hmerged
  obtain rfl := hmerged''.symm.unique hmerged
  exact ⟨x, y, ⟨_, []⟩, htogether, Work.exists_of_together_nil hforth, Work.exists_of_together_nil hback⟩

/-- Two callers who take turns to store data at different paths below an empty root. -/
def takingTurns : (Except StorageError Unit × Except StorageError Unit) × Namespace :=
  Work.together [true, false, true, false, true, false, true, false, true, false]
    (perform ⟨Options.sample⟩ (.put "/a" [1])).run (perform ⟨Options.sample⟩ (.put "/b" [2])).run Namespace.initial

theorem perform_together_takingTurns :
    (∀ p q, (Operation.put "/a" [1]).Resolved Options.sample p → (Operation.put "/b" [2]).Resolved Options.sample q →
      Path.Unrelated p q) ∧
    ∃ after, takingTurns = ((.ok (), .ok ()), after) ∧
      (∃ mid, (perform ⟨Options.sample⟩ (.put "/a" [1])).alone Namespace.initial = (.ok (), mid) ∧
        (perform ⟨Options.sample⟩ (.put "/b" [2])).alone mid = (.ok (), after)) ∧
      (∃ mid, (perform ⟨Options.sample⟩ (.put "/b" [2])).alone Namespace.initial = (.ok (), mid) ∧
        (perform ⟨Options.sample⟩ (.put "/a" [1])).alone mid = (.ok (), after)) ∧
      after.node? "/tmp/hdfs-registry/a" = some (.file [1] .present) ∧
      after.node? "/tmp/hdfs-registry/b" = some (.file [2] .present) := by
  have hunrelated : ∀ p q, (Operation.put "/a" [1]).Resolved Options.sample p →
      (Operation.put "/b" [2]).Resolved Options.sample q → Path.Unrelated p q := by
    rintro p q ⟨_, hp, hrp⟩ ⟨_, hq, hrq⟩
    rw [List.mem_singleton.mp hp] at hrp
    rw [List.mem_singleton.mp hq] at hrq
    obtain rfl : "/tmp/hdfs-registry/a" = p := Except.ok.inj hrp
    obtain rfl : "/tmp/hdfs-registry/b" = q := Except.ok.inj hrq
    exact ⟨fun h => absurd h.2 (by decide), fun h => absurd h.2 (by decide)⟩
  have hdone : takingTurns.1.1.toOption = some () ∧ takingTurns.1.2.toOption = some () ∧
      takingTurns.2.node? "/tmp/hdfs-registry/a" = some (.file [1] .present) ∧
      takingTurns.2.node? "/tmp/hdfs-registry/b" = some (.file [2] .present) := by decide +kernel
  have hok : ∀ r : Except StorageError Unit, r.toOption = some () → r = .ok () := by
    rintro (e | _) hr
    · cases hr
    · rfl
  have hreachable : System.Reachable ⟨Options.sample⟩ Namespace.initial := ⟨[], rfl⟩
  obtain ⟨x, y, after, htogether, hfirst, hsecond⟩ := perform_together hreachable rfl hunrelated
    [true, false, true, false, true, false, true, false, true, false]
  have htaking : takingTurns = ((x, y), after) := htogether
  rw [htaking] at hdone ⊢
  obtain ⟨hx, hy, hnodes⟩ := hdone
  obtain rfl := hok x hx
  obtain rfl := hok y hy
  exact ⟨hunrelated, after, rfl, hfirst, hsecond, hnodes⟩

end Store

end RootedStore
