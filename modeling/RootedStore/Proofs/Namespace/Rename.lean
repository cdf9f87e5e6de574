import Mathlib.Data.List.Nodup
import RootedStore.Proofs.Namespace.Tree

/-!
# Renaming a tree

A rename gives one key of a subtree after another its new name in the same table. In a tree no new name
is a key that has still to be moved, so the whole subtree is found under its new names, nothing is left
under the old ones, and nothing else changes.
-/
namespace RootedStore

open RootedStore.Path (Within IsAncestor IsName names ofNames spell normalize)

namespace Namespace

variable {nodes nodes' : Table Node} {source target : String}

/-- The keys that a rename moves, and the places that it moves them to, are apart. -/
structure Movable (source target : String) (nodes : Table Node) (keys : List String) : Prop where
  present : ∀ key ∈ keys, ∃ node, nodes.find? key = some node
  nodup : keys.Nodup
  apart : ∀ j ∈ keys, ∀ k ∈ keys, rebased source target j ≠ k
  injective : ∀ j ∈ keys, ∀ k ∈ keys, rebased source target j = rebased source target k → j = k

/-- The table after the first key was moved. -/
theorem find?_moveOne {key q : String} {node : Node} :
    ((nodes.erase key).insert (rebased source target key) node).find? q =
      if rebased source target key = q then some node else if q = key then none else nodes.find? q := by
  rw [Table.find?_insert, Table.find?_erase]

theorem Movable.tail {key : String} {keys : List String} (node : Node)
    (h : Movable source target nodes (key :: keys)) :
    Movable source target ((nodes.erase key).insert (rebased source target key) node) keys := by
  have ⟨hnot, hnodup⟩ := List.nodup_cons.mp h.nodup
  constructor
  · intro k hk
    have hne : k ≠ key := fun he => hnot (he ▸ hk)
    have hap : rebased source target key ≠ k :=
      h.apart key List.mem_cons_self k (List.mem_cons_of_mem _ hk)
    obtain ⟨other, hother⟩ := h.present k (List.mem_cons_of_mem _ hk)
    exact ⟨other, by rw [find?_moveOne, if_neg hap, if_neg hne, hother]⟩
  · exact hnodup
  · intro j hj k hk
    exact h.apart j (List.mem_cons_of_mem _ hj) k (List.mem_cons_of_mem _ hk)
  · intro j hj k hk
    exact h.injective j (List.mem_cons_of_mem _ hj) k (List.mem_cons_of_mem _ hk)

/-- Where no key comes from and none goes to, nothing changes. -/
theorem find?_rebaseAll_other {keys : List String} (h : Movable source target nodes keys) {q : String}
    (hq : q ∉ keys) (himage : ∀ key ∈ keys, rebased source target key ≠ q) :
    (rebaseAll source target nodes keys).find? q = nodes.find? q := by
  induction keys generalizing nodes with
  | nil => rfl
  | cons key keys ih =>
    obtain ⟨node, hnode⟩ := h.present key List.mem_cons_self
    have hne : q ≠ key := fun he => hq (he ▸ List.mem_cons_self)
    have hstep := ih (h.tail node) (fun hm => hq (List.mem_cons_of_mem _ hm))
      fun k hk => himage k (List.mem_cons_of_mem _ hk)
    rw [rebaseAll, List.foldl_cons, hnode]
    refine hstep.trans ?_
    rw [find?_moveOne, if_neg (himage key List.mem_cons_self), if_neg hne]

/-- A key is found again where it goes to. -/
theorem find?_rebaseAll_moved {keys : List String} (h : Movable source target nodes keys) {key : String}
    (hk : key ∈ keys) :
    (rebaseAll source target nodes keys).find? (rebased source target key) = nodes.find? key := by
  induction keys generalizing nodes with
  | nil => simp at hk
  | cons first keys ih =>
    obtain ⟨node, hnode⟩ := h.present first List.mem_cons_self
    have ⟨hnot, _⟩ := List.nodup_cons.mp h.nodup
    rw [rebaseAll, List.foldl_cons, hnode]
    rcases List.mem_cons.mp hk with rfl | hk
    · -- later keys go elsewhere
      have hrest := find?_rebaseAll_other (h.tail node) (q := rebased source target key)
        (fun hm => h.apart key List.mem_cons_self _ (List.mem_cons_of_mem _ hm) rfl)
        fun k hm he => hnot (h.injective k (List.mem_cons_of_mem _ hm) key List.mem_cons_self he ▸ hm)
      refine hrest.trans ?_
      rw [find?_moveOne, if_pos rfl, hnode]
    · have hne : key ≠ first := fun he => hnot (he ▸ hk)
      refine (ih (h.tail node) hk).trans ?_
      rw [find?_moveOne, if_neg (h.apart first List.mem_cons_self key (List.mem_cons_of_mem _ hk)),
        if_neg hne]

/-- Nothing is found where a key comes from. -/
theorem find?_rebaseAll_left {keys : List String} (h : Movable source target nodes keys) {key : String}
    (hk : key ∈ keys) : (rebaseAll source target nodes keys).find? key = none := by
  induction keys generalizing nodes with
  | nil => simp at hk
  | cons first keys ih =>
    obtain ⟨node, hnode⟩ := h.present first List.mem_cons_self
    have ⟨hnot, _⟩ := List.nodup_cons.mp h.nodup
    rw [rebaseAll, List.foldl_cons, hnode]
    rcases List.mem_cons.mp hk with rfl | hk
    · have hrest := find?_rebaseAll_other (h.tail node) hnot
        fun k hm => h.apart k (List.mem_cons_of_mem _ hm) key List.mem_cons_self
      refine hrest.trans ?_
      rw [find?_moveOne, if_neg (h.apart key List.mem_cons_self key List.mem_cons_self), if_pos rfl]
    · exact ih (h.tail node) hk

theorem nodup_subtree (path : String) : (subtree nodes path).Nodup := nodes.pairwise_keys.nodup.filter _

/-- Nothing is counted below a path but the path itself if nothing lies below it. -/
theorem IsTree.length_subtree_le_iff (h : IsTree nodes) {path : String}
    (hpath : ∃ node, nodes.find? path = some node) :
    (subtree nodes path).length ≤ 1 ↔
      ∀ key, (∃ node, nodes.find? key = some node) → Within path key → key = path := by
  obtain ⟨node, hn⟩ := hpath
  constructor
  · exact fun hl key hk hw => h.eq_of_subtree_length ⟨node, hn⟩ hl hk hw
  · intro halone
    have honly : ∀ key ∈ subtree nodes path, key = path := by
      intro key hk
      obtain ⟨hnode, hw⟩ := (h.mem_subtree_iff (h.canonical _ _ hn)).mp hk
      exact halone key hnode hw
    have hnodup : (subtree nodes path).Nodup := nodup_subtree path
    rcases hlist : subtree nodes path with _ | ⟨first, _ | ⟨second, rest⟩⟩
    · exact Nat.zero_le 1
    · exact Nat.le_refl 1
    · rw [hlist] at honly hnodup
      have hfirst := honly first List.mem_cons_self
      have hsecond := honly second (List.mem_cons_of_mem _ List.mem_cons_self)
      rw [hfirst, hsecond] at hnodup
      exact absurd List.mem_cons_self (List.nodup_cons.mp hnodup).1

/-- Whether there is something in a directory. The root always counts as if there were. -/
def IsOccupied (nodes : Table Node) (path : String) : Prop :=
  path = "/" ∨ ∃ key, (∃ node, nodes.find? key = some node) ∧ Within path key ∧ key ≠ path

theorem isOccupied_iff (h : IsTree nodes) {path : String} (hd : IsDirAt nodes path) :
    IsOccupied nodes path ↔ path = "/" ∨ 1 < (subtree nodes path).length := by
  obtain ⟨mode, modified, hd⟩ := hd
  rw [IsOccupied, ← Nat.not_le, h.length_subtree_le_iff ⟨_, hd⟩]
  simp only [not_forall, exists_prop, ne_eq]

/-- Only a directory with something in it is refused to be removed. -/
theorem IsTree.refuses_remove_iff (h : IsTree nodes) {path : String} {node : Node} (hn : nodes.find? path = some node) :
    path = "/" ∨ 1 < (subtree nodes path).length ↔ IsDirAt nodes path ∧ IsOccupied nodes path := by
  cases node with
  | dir mode modified =>
    have hd : IsDirAt nodes path := ⟨mode, modified, hn⟩
    rw [isOccupied_iff h hd, and_iff_right hd]
  | file content modified =>
    refine iff_of_false ?_ ?_
    · rintro (rfl | hbelow)
      · obtain ⟨mode, changed, hd⟩ := h.root
        rw [hn] at hd
        cases hd
      · refine Nat.not_le.mpr hbelow ((h.length_subtree_le_iff ⟨_, hn⟩).mpr ?_)
        rintro key ⟨other, hk⟩ hw
        exact h.eq_of_within_file hn rfl hk hw
    · rintro ⟨⟨mode, changed, hd⟩, _⟩
      rw [hn] at hd
      cases hd

/-- The names of the source are exchanged for those of the target. -/
theorem rebased_ofNames {s t u : List (List Char)} (hs : s ≠ []) (ht : t ≠ []) :
    rebased (ofNames s) (ofNames t) (ofNames (s ++ u)) = ofNames (t ++ u) := by
  have hsu : s ++ u ≠ [] := by simp [hs]
  have htu : t ++ u ≠ [] := by simp [ht]
  apply String.toList_injective
  rw [rebased, String.toList_append, String.toList_ofList]
  simp only [Path.toList_ofNames, Path.render_of_ne_nil hs, Path.render_of_ne_nil ht,
    Path.render_of_ne_nil hsu, Path.render_of_ne_nil htu, Path.spell_append, List.drop_left]

/-- A table in which a subtree has another name than before. -/
structure Moved (source target : String) (old new : Table Node) : Prop where
  moved : ∀ us, (∀ w ∈ us, IsName w) →
    new.find? (ofNames (names target ++ us)) = old.find? (ofNames (names source ++ us))
  left : ∀ key, Within source key → new.find? key = none
  other : ∀ key, ¬ Within source key → ¬ Within target key → new.find? key = old.find? key

/-- What a rename finds: the source is there, the target is canonical and not within the source, and it
is a file or missing. -/
structure CanMove (source target : String) (nodes : Table Node) : Prop where
  present : ∃ node, nodes.find? source = some node
  canonical : normalize target = target
  distinct : source ≠ target
  outside : Path.isUnder target source = false
  parent : IsDirAt nodes (Path.parent target)
  free : ∀ node, nodes.find? target = some node → node.isDir = false

section tree

variable (h : IsTree nodes) (hm : CanMove source target nodes)
include h hm

theorem CanMove.normalize_source : normalize source = source := by
  obtain ⟨node, hnode⟩ := hm.present
  exact h.canonical source node hnode

theorem CanMove.not_within : ¬ Within source target := by
  intro hw
  have hu := (Path.isUnder_iff_within hm.canonical (hm.normalize_source h)).mpr hw
  simp [hm.outside] at hu

theorem CanMove.not_within_target : ¬ Within target source := by
  intro hw
  obtain ⟨node, hnode⟩ := hm.present
  obtain ⟨mode, modified, hd⟩ := h.isDirAt_of_isAncestor hnode
    (Path.isAncestor_of_within hm.canonical hw (Ne.symm hm.distinct))
  simpa [Node.isDir] using hm.free _ hd

theorem CanMove.names_source_ne_nil : names source ≠ [] := by
  intro hs
  refine hm.not_within h ⟨hm.canonical, ?_⟩
  rw [hs]
  exact List.nil_prefix

theorem CanMove.names_target_ne_nil : names target ≠ [] := by
  intro ht
  refine hm.not_within_target h ⟨hm.normalize_source h, ?_⟩
  rw [ht]
  exact List.nil_prefix

/-- No path lies within both the source and the target. -/
theorem CanMove.disjoint {key : String} (hs : Within source key) (ht : Within target key) : False := by
  rcases List.prefix_or_prefix_of_prefix hs.2 ht.2 with hp | hp
  · exact hm.not_within h ⟨hm.canonical, hp⟩
  · exact hm.not_within_target h ⟨hm.normalize_source h, hp⟩

theorem CanMove.rebased_eq {us : List (List Char)} :
    rebased source target (ofNames (names source ++ us)) = ofNames (names target ++ us) := by
  have hs : ofNames (names source) = source := hm.normalize_source h
  have ht : ofNames (names target) = target := hm.canonical
  have hr := rebased_ofNames (u := us) (hm.names_source_ne_nil h) (hm.names_target_ne_nil h)
  rwa [hs, ht] at hr

theorem CanMove.mem_subtree {key : String} :
    key ∈ subtree nodes source ↔ (∃ node, nodes.find? key = some node) ∧ Within source key :=
  h.mem_subtree_iff (hm.normalize_source h)

theorem CanMove.not_mem_subtree {key : String} (hw : Within target key) :
    key ∉ subtree nodes source :=
  fun hmem => hm.disjoint h ((hm.mem_subtree h).mp hmem).2 hw

/-- The keys of the source are moved to places that are apart from them. -/
theorem CanMove.movable : Movable source target nodes (subtree nodes source) := by
  have hsplit : ∀ key ∈ subtree nodes source,
      ∃ us, (∀ w ∈ us, IsName w) ∧ key = ofNames (names source ++ us) := by
    intro key hkey
    exact ((hm.mem_subtree h).mp hkey).2.exists_append
  constructor
  · intro key hkey
    exact ((hm.mem_subtree h).mp hkey).1
  · exact nodup_subtree source
  · intro j hj k hk he
    obtain ⟨us, hus, rfl⟩ := hsplit j hj
    rw [hm.rebased_eq h] at he
    exact hm.not_mem_subtree h (he ▸ Path.within_ofNames_append hus) hk
  · intro j hj k hk he
    obtain ⟨us, hus, rfl⟩ := hsplit j hj
    obtain ⟨vs, hvs, rfl⟩ := hsplit k hk
    rw [hm.rebased_eq h, hm.rebased_eq h] at he
    have hnames := congrArg names he
    rw [Path.names_ofNames_append hus, Path.names_ofNames_append hvs] at hnames
    rw [List.append_cancel_left hnames]

/-- A key is moved to where its names are behind those of the target. -/
theorem CanMove.exists_of_rebased {key q : String} (hk : key ∈ subtree nodes source)
    (hq : rebased source target key = q) :
    ∃ us, (∀ w ∈ us, IsName w) ∧ q = ofNames (names target ++ us) ∧ key = ofNames (names source ++ us) := by
  obtain ⟨us, hus, rfl⟩ := ((hm.mem_subtree h).mp hk).2.exists_append
  exact ⟨us, hus, by rw [← hq, hm.rebased_eq h], rfl⟩

/-- Nothing lies below the target, and where the source is there is something. -/
theorem CanMove.find?_target_eq_none {us : List (List Char)} (hus : ∀ w ∈ us, IsName w)
    (hs : nodes.find? (ofNames (names source ++ us)) = none) :
    nodes.find? (ofNames (names target ++ us)) = none := by
  have hw : Within target (ofNames (names target ++ us)) := Path.within_ofNames_append hus
  cases ht : nodes.find? target with
  | none => exact h.find?_eq_none_of_within hm.canonical ht hw
  | some file =>
    by_contra hne
    obtain ⟨node, hnode⟩ := Option.ne_none_iff_exists'.mp hne
    have he := h.eq_of_within_file ht (hm.free file ht) hnode hw
    have hnil : names target ++ us = names target := by rw [← Path.names_ofNames_append hus, he]
    have hsource : ofNames (names source) = source := hm.normalize_source h
    obtain ⟨other, hother⟩ := hm.present
    rw [List.append_right_eq_self.mp hnil, List.append_nil, hsource, hother] at hs
    simp at hs

/-- A rename moves the subtree of the source and changes nothing else. -/
theorem CanMove.moved : Moved source target nodes
    (rebaseAll source target nodes (subtree nodes source)) := by
  have hmov := hm.movable h
  constructor
  · intro us hus
    have hw : Within target (ofNames (names target ++ us)) := Path.within_ofNames_append hus
    cases hs : nodes.find? (ofNames (names source ++ us)) with
    | some node =>
      have hmem := (hm.mem_subtree h).mpr ⟨⟨node, hs⟩, Path.within_ofNames_append hus⟩
      rw [← hm.rebased_eq h, find?_rebaseAll_moved hmov hmem, hs]
    | none =>
      rw [find?_rebaseAll_other hmov (hm.not_mem_subtree h hw), hm.find?_target_eq_none h hus hs]
      intro key hk he
      obtain ⟨vs, hvs, ht, rfl⟩ := hm.exists_of_rebased h hk he
      have hnames := congrArg names ht
      rw [Path.names_ofNames_append hus, Path.names_ofNames_append hvs] at hnames
      obtain ⟨⟨node, hnode⟩, _⟩ := (hm.mem_subtree h).mp hk
      rw [← List.append_cancel_left hnames, hs] at hnode
      simp at hnode
  · intro key hw
    by_cases hk : key ∈ subtree nodes source
    · exact find?_rebaseAll_left hmov hk
    · rw [find?_rebaseAll_other hmov hk]
      · by_contra hne
        exact hk ((hm.mem_subtree h).mpr ⟨Option.ne_none_iff_exists'.mp hne, hw⟩)
      · intro j hj he
        obtain ⟨us, hus, rfl, _⟩ := hm.exists_of_rebased h hj he
        exact hm.disjoint h hw (Path.within_ofNames_append hus)
  · intro key hs ht
    refine find?_rebaseAll_other hmov (fun hk => hs ((hm.mem_subtree h).mp hk).2) ?_
    intro j hj he
    obtain ⟨us, hus, rfl, _⟩ := hm.exists_of_rebased h hj he
    exact ht (Path.within_ofNames_append hus)

/-- Outside the source and the target directories stay. -/
theorem CanMove.isDirAt_of_outside {key : String} (hs : ¬ Within source key) (ht : ¬ Within target key)
    (hd : IsDirAt nodes key) : IsDirAt (rebaseAll source target nodes (subtree nodes source)) key := by
  simpa [IsDirAt, (hm.moved h).other key hs ht] using hd

/-- Below the target directories are those that were below the source. -/
theorem CanMove.isDirAt_parent_of_below {us : List (List Char)} {w : List Char}
    (hus : ∀ v ∈ us ++ [w], IsName v)
    (hk : ∃ node, nodes.find? (ofNames (names source ++ (us ++ [w]))) = some node) :
    IsDirAt (rebaseAll source target nodes (subtree nodes source)) (ofNames (names target ++ us)) := by
  obtain ⟨node, hnode⟩ := hk
  have hnames : ∀ v ∈ names source ++ (us ++ [w]), IsName v := Path.isName_names_append hus
  rw [← List.append_assoc] at hnode hnames
  have hne : ofNames (names source ++ us ++ [w]) ≠ "/" := by
    intro he
    have hnil := congrArg names he
    rw [Path.names_ofNames hnames] at hnil
    exact absurd hnil (by simp [names, Path.resolve, Path.components, Path.pieces, Path.push])
  have hd := h.parent _ node hnode hne
  rw [Path.parent_ofNames_concat hnames] at hd
  simpa [IsDirAt, (hm.moved h).moved us fun v hv => hus v (List.mem_append_left _ hv)] using hd

/-- A rename keeps the tree: the subtree brings its own tree along, and the directory that the target
lies in stays where it is. -/
theorem CanMove.isTree : IsTree (rebaseAll source target nodes (subtree nodes source)) := by
  have hmoved := hm.moved h
  constructor
  · exact hm.isDirAt_of_outside h (Path.not_within_root (hm.names_source_ne_nil h))
      (Path.not_within_root (hm.names_target_ne_nil h)) h.root
  · intro key node hk
    by_cases ht : Within target key
    · exact ht.canonical
    · by_cases hs : Within source key
      · simp [hmoved.left key hs] at hk
      · rw [hmoved.other key hs ht] at hk
        exact h.canonical key node hk
  · intro key node hk hne
    by_cases ht : Within target key
    · obtain ⟨us, hus, rfl⟩ := ht.exists_append
      rw [hmoved.moved us hus] at hk
      rcases List.eq_nil_or_concat us with rfl | ⟨init, w, rfl⟩
      · have htarget : ofNames (names target ++ []) = target := by
          rw [List.append_nil]
          exact hm.canonical
        rw [htarget] at hne ⊢
        refine hm.isDirAt_of_outside h ?_ (Path.isAncestor_parent hm.canonical hne).not_within hm.parent
        exact fun hw => hm.not_within h (hw.of_parent hm.canonical)
      · rw [List.concat_eq_append] at hus hk ⊢
        have hnames : ∀ v ∈ names target ++ (init ++ [w]), IsName v := Path.isName_names_append hus
        rw [← List.append_assoc] at hnames ⊢
        rw [Path.parent_ofNames_concat hnames]
        exact hm.isDirAt_parent_of_below h hus ⟨node, hk⟩
    · by_cases hs : Within source key
      · simp [hmoved.left key hs] at hk
      · rw [hmoved.other key hs ht] at hk
        have hc := h.canonical key node hk
        exact hm.isDirAt_of_outside h (fun hw => hs (hw.of_parent hc)) (fun hw => ht (hw.of_parent hc))
          (h.parent key node hk hne)

end tree

end Namespace

end RootedStore
