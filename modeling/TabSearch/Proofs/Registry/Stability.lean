import TabSearch.Proofs.Registry.Directory
import TabSearch.Proofs.Registry.Order

namespace TabSearch

def withIndex (i : Nat) (tabs : List Tab) : List Tab := tabs.filter fun t => t.index == i

theorem withIndex_append (i : Nat) (xs ys : List Tab) :
    withIndex i (xs ++ ys) = withIndex i xs ++ withIndex i ys := List.filter_append ..

theorem withIndex_cons (i : Nat) (t : Tab) (tabs : List Tab) :
    withIndex i (t :: tabs) = if t.index = i then t :: withIndex i tabs else withIndex i tabs := by
  simp [withIndex, List.filter_cons]

theorem mem_withIndex {i : Nat} {t : Tab} {tabs : List Tab} :
    t ∈ withIndex i tabs ↔ t ∈ tabs ∧ t.index = i := by
  simp [withIndex]

theorem mem_congr_withIndex {xs ys : List Tab} (h : ∀ i, withIndex i xs = withIndex i ys)
    (t : Tab) : t ∈ xs ↔ t ∈ ys := by
  have ht : t ∈ withIndex t.index xs ↔ t ∈ withIndex t.index ys := by rw [h]
  simpa only [mem_withIndex, and_true] using ht

theorem withIndex_move {tab : Tab} {passed : List Tab} (h : ∀ t ∈ passed, t.index ≠ tab.index)
    (before after : List Tab) (i : Nat) :
    withIndex i (before ++ tab :: (passed ++ after)) =
      withIndex i (before ++ (passed ++ tab :: after)) := by
  simp only [withIndex_append, withIndex_cons]
  split
  next hi =>
    have hnone : withIndex i passed = [] := by
      rw [List.eq_nil_iff_forall_not_mem]
      intro t ht
      obtain ⟨hm, ht⟩ := mem_withIndex.mp ht
      exact h t hm (ht.trans hi.symm)
    rw [hnone, List.nil_append, List.nil_append]
  next => rfl

theorem InOrder.head_le {t u : Tab} {tabs : List Tab} (h : InOrder (t :: tabs))
    (hu : u ∈ t :: tabs) : t.index ≤ u.index := by
  rcases List.mem_cons.mp hu with rfl | hu
  · exact Nat.le_refl _
  · exact List.rel_of_pairwise_cons h hu

theorem InOrder.eq_of_withIndex {xs ys : List Tab} (hx : InOrder xs) (hy : InOrder ys)
    (h : ∀ i, withIndex i xs = withIndex i ys) : xs = ys := by
  have hmem := mem_congr_withIndex h
  induction xs generalizing ys with
  | nil =>
      symm
      rw [List.eq_nil_iff_forall_not_mem]
      intro t ht
      exact absurd ((hmem t).mpr ht) List.not_mem_nil
  | cons x xs ih =>
      cases ys with
      | nil => exact absurd ((hmem x).mp (by simp)) List.not_mem_nil
      | cons y ys =>
          -- both heads have the least index, and each is the first tab with it
          have hindex : y.index = x.index :=
            Nat.le_antisymm (hy.head_le ((hmem x).mp (by simp)))
              (hx.head_le ((hmem y).mpr (by simp)))
          have hfirst := h x.index
          rw [withIndex_cons, withIndex_cons, if_pos rfl, if_pos hindex] at hfirst
          obtain ⟨rfl, _⟩ := List.cons.inj hfirst
          have hrest (i : Nat) : withIndex i xs = withIndex i ys := by
            have hi := h i
            rw [withIndex_cons, withIndex_cons] at hi
            split at hi
            · exact (List.cons.inj hi).2
            · exact hi
          rw [ih (List.pairwise_cons.mp hx).2 (List.pairwise_cons.mp hy).2 hrest
            (mem_congr_withIndex hrest)]

structure StableSort (tabs sorted : List Tab) : Prop where
  inOrder : InOrder sorted
  stable : ∀ i, withIndex i sorted = withIndex i tabs

theorem stableSort_sortByIndex (tabs : List Tab) : StableSort tabs (sortByIndex tabs) := by
  refine ⟨inOrder_sortByIndex tabs, fun i => ?_⟩
  have hsame : (withIndex i tabs).Pairwise fun a b => decide (a.index ≤ b.index) = true := by
    refine List.pairwise_of_forall_mem_list ?_
    intro a ha b hb
    rw [(mem_withIndex.mp ha).2, (mem_withIndex.mp hb).2]
    exact decide_eq_true (Nat.le_refl i)
  have hsub : (withIndex i tabs).Sublist (sortByIndex tabs) :=
    List.sublist_mergeSort index_le_trans index_le_total hsame List.filter_sublist
  have hkept : (withIndex i tabs).Sublist (withIndex i (sortByIndex tabs)) := by
    have hidem : withIndex i (withIndex i tabs) = withIndex i tabs := by simp [withIndex]
    exact hidem ▸ hsub.filter _
  have hlength : (withIndex i (sortByIndex tabs)).length = (withIndex i tabs).length :=
    ((sortByIndex_perm tabs).filter _).length_eq
  exact (hkept.eq_of_length hlength.symm).symm

theorem stableSort_iff {tabs sorted : List Tab} :
    StableSort tabs sorted ↔ sorted = sortByIndex tabs := by
  have hsort := stableSort_sortByIndex tabs
  constructor
  · intro h
    exact h.inOrder.eq_of_withIndex hsort.inOrder fun i => (h.stable i).trans (hsort.stable i).symm
  · rintro rfl
    exact hsort

theorem sortByIndex_of_inOrder {tabs : List Tab} (h : InOrder tabs) : sortByIndex tabs = tabs :=
  (stableSort_iff.mp ⟨h, fun _ => rfl⟩).symm

theorem sortByIndex_congr {xs ys : List Tab} (h : ∀ i, withIndex i xs = withIndex i ys) :
    sortByIndex xs = sortByIndex ys := by
  have hsort := stableSort_sortByIndex xs
  exact stableSort_iff.mp ⟨hsort.inOrder, fun i => (hsort.stable i).trans (h i)⟩

theorem InOrder.split {tabs : List Tab} (h : InOrder tabs) {p : Nat → Prop} [DecidablePred p]
    (hp : ∀ m n, m ≤ n → p n → p m) :
    ∃ low high, tabs = low ++ high ∧ (∀ t ∈ low, p t.index) ∧ ∀ t ∈ high, ¬ p t.index := by
  induction tabs with
  | nil => exact ⟨[], [], rfl, by simp, by simp⟩
  | cons t rest ih =>
      rcases Decidable.em (p t.index) with ht | ht
      · obtain ⟨low, high, rfl, hlow, hhigh⟩ := ih (List.pairwise_cons.mp h).2
        exact ⟨t :: low, high, rfl, List.forall_mem_cons.mpr ⟨ht, hlow⟩, hhigh⟩
      · refine ⟨[], t :: rest, rfl, by simp, ?_⟩
        intro u hu hpu
        exact ht (hp t.index u.index (h.head_le hu) hpu)

theorem InOrder.insert {left right : List Tab} {tab : Tab} (h : InOrder (left ++ right))
    (hleft : ∀ t ∈ left, t.index ≤ tab.index) (hright : ∀ t ∈ right, tab.index ≤ t.index) :
    InOrder (left ++ tab :: right) := by
  obtain ⟨hl, hr, hlr⟩ := List.pairwise_append.mp h
  refine List.pairwise_append.mpr ⟨hl, List.pairwise_cons.mpr ⟨hright, hr⟩, ?_⟩
  intro a ha
  exact List.forall_mem_cons.mpr ⟨hleft a ha, hlr a ha⟩

def BehindTies (tab : Tab) (left right : List Tab) : Prop :=
  (∀ t ∈ left, t.index ≤ tab.index) ∧ ∀ t ∈ right, tab.index < t.index

def AheadOfTies (tab : Tab) (left right : List Tab) : Prop :=
  (∀ t ∈ left, t.index < tab.index) ∧ ∀ t ∈ right, tab.index ≤ t.index

theorem BehindTies.sortByIndex_eq {tab : Tab} {left passed after : List Tab}
    (h : BehindTies tab left (passed ++ after)) (ho : InOrder (left ++ (passed ++ after))) :
    sortByIndex (left ++ (passed ++ tab :: after)) = left ++ tab :: (passed ++ after) := by
  obtain ⟨hleft, hright⟩ := h
  have hpassed : ∀ t ∈ passed, t.index ≠ tab.index := fun t ht =>
    (Nat.ne_of_lt (hright t (List.mem_append_left after ht))).symm
  rw [← sortByIndex_congr (withIndex_move hpassed left after)]
  exact sortByIndex_of_inOrder (ho.insert hleft fun t ht => Nat.le_of_lt (hright t ht))

theorem AheadOfTies.sortByIndex_eq {tab : Tab} {before passed right : List Tab}
    (h : AheadOfTies tab (before ++ passed) right) (ho : InOrder (before ++ passed ++ right)) :
    sortByIndex (before ++ tab :: (passed ++ right)) = before ++ passed ++ tab :: right := by
  obtain ⟨hleft, hright⟩ := h
  have hpassed : ∀ t ∈ passed, t.index ≠ tab.index := fun t ht =>
    Nat.ne_of_lt (hleft t (List.mem_append_right before ht))
  rw [sortByIndex_congr (withIndex_move hpassed before right), ← List.append_assoc]
  exact sortByIndex_of_inOrder (ho.insert (fun t ht => Nat.le_of_lt (hleft t ht)) hright)

theorem sortByIndex_concat (tabs : List Tab) (tab : Tab) :
    ∃ left right, sortByIndex tabs = left ++ right ∧
      sortByIndex (tabs ++ [tab]) = left ++ tab :: right ∧ BehindTies tab left right := by
  have hsort := stableSort_sortByIndex tabs
  obtain ⟨left, right, hsplit, hleft, hright⟩ :=
    hsort.inOrder.split (p := (· ≤ tab.index)) fun _ _ => Nat.le_trans
  simp only [Nat.not_le] at hright
  have hties : BehindTies tab left (right ++ []) := ⟨hleft, by rwa [List.append_nil]⟩
  have horder : InOrder (left ++ (right ++ [])) := by
    rw [List.append_nil, ← hsplit]
    exact hsort.inOrder
  have hsame : sortByIndex (tabs ++ [tab]) = sortByIndex (left ++ (right ++ [tab])) := by
    refine sortByIndex_congr fun i => ?_
    rw [← List.append_assoc, ← hsplit, withIndex_append, withIndex_append, hsort.stable]
  refine ⟨left, right, hsplit, ?_, hleft, hright⟩
  rw [hsame, hties.sortByIndex_eq horder, List.append_nil]

structure Lands (old tab : Tab) (before : Nat) (left right : List Tab) : Prop where
  stays : tab.index = old.index → left.length = before
  rises : old.index < tab.index → AheadOfTies tab left right
  falls : tab.index < old.index → BehindTies tab left right

theorem sortByIndex_replaced {before after : List Tab} {old : Tab} (tab : Tab)
    (h : InOrder (before ++ old :: after)) :
    ∃ left right, before ++ after = left ++ right ∧
      sortByIndex (before ++ tab :: after) = left ++ tab :: right ∧
      Lands old tab before.length left right := by
  obtain ⟨hbefore, hrest, hcross⟩ := List.pairwise_append.mp h
  obtain ⟨hold, hafter⟩ := List.pairwise_cons.mp hrest
  have hleft : ∀ t ∈ before, t.index ≤ old.index := fun t ht => hcross t ht old (by simp)
  have hothers : InOrder (before ++ after) := h.sublist (by simp)
  rcases Nat.lt_trichotomy tab.index old.index with hlt | heq | hgt
  · obtain ⟨low, high, rfl, hlow, hhigh⟩ :=
      InOrder.split hbefore (p := (· ≤ tab.index)) fun _ _ => Nat.le_trans
    simp only [Nat.not_le] at hhigh
    have hties : BehindTies tab low (high ++ after) := by
      refine ⟨hlow, List.forall_mem_append.mpr ⟨hhigh, fun t ht => ?_⟩⟩
      exact Nat.lt_of_lt_of_le hlt (hold t ht)
    rw [List.append_assoc] at hothers ⊢
    refine ⟨low, high ++ after, rfl, ?_, by omega, by omega, fun _ => hties⟩
    rw [List.append_assoc]
    exact hties.sortByIndex_eq hothers
  · rw [← heq] at hold hleft
    have hsort := sortByIndex_of_inOrder (hothers.insert hleft hold)
    exact ⟨before, after, rfl, hsort, fun _ => rfl, by omega, by omega⟩
  · obtain ⟨low, high, rfl, hlow, hhigh⟩ :=
      InOrder.split hafter (p := (· < tab.index)) fun _ _ => Nat.lt_of_le_of_lt
    simp only [Nat.not_lt] at hhigh
    have hties : AheadOfTies tab (before ++ low) high := by
      refine ⟨List.forall_mem_append.mpr ⟨fun t ht => ?_, hlow⟩, hhigh⟩
      exact Nat.lt_of_le_of_lt (hleft t ht) hgt
    rw [← List.append_assoc] at hothers ⊢
    exact ⟨before ++ low, high, rfl, hties.sortByIndex_eq hothers, by omega, fun _ => hties,
      by omega⟩

end TabSearch
