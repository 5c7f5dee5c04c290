import TabSearch.Proofs.Registry.Frame
import TabSearch.Proofs.Registry.Stability

namespace TabSearch

theorem replaceFirst_append {id : TabId} {before after : List Tab} {old : Tab} (tab : Tab)
    (hbefore : ∀ t ∈ before, t.id ≠ id) (hold : old.id = id) :
    replaceFirst id tab (before ++ old :: after) = before ++ tab :: after := by
  induction before with
  | nil => exact if_pos hold
  | cons t rest ih =>
      obtain ⟨ht, hrest⟩ := List.forall_mem_cons.mp hbefore
      rw [List.cons_append, replaceFirst, if_neg ht, ih hrest, List.cons_append]

theorem takeFocus_append (id : TabId) (tab : Tab) (xs ys : List Tab) :
    takeFocus id tab (xs ++ ys) = takeFocus id tab xs ++ takeFocus id tab ys := List.map_append

theorem forall_id_takeFocus {id i : TabId} (tab : Tab) {tabs : List Tab}
    (h : ∀ t ∈ tabs, t.id ≠ i) : ∀ t ∈ takeFocus id tab tabs, t.id ≠ i := by
  rw [← isTracked_eq_false] at h ⊢
  rw [isTracked_takeFocus, h]

theorem updatedTabs_land {id : TabId} (tab : Tab) {before after : List Tab} {old : Tab}
    (h : InOrder (before ++ old :: after)) (hbefore : ∀ t ∈ before, t.id ≠ id) (hold : old.id = id) :
    ∃ left right, List.Forall₂ (Spared id tab) (before ++ after) (left ++ right) ∧
      Registry.updatedTabs (before ++ old :: after) id tab = left ++ tab :: right ∧
      Lands old tab before.length left right := by
  have htracked : isTracked id (before ++ old :: after) = true := by simp [isTracked, hold]
  have hfocus : takeFocus id tab (before ++ old :: after) =
      takeFocus id tab before ++ _ :: takeFocus id tab after := takeFocus_append id tab before _
  have horder := h.takeFocus id tab
  rw [hfocus] at horder
  obtain ⟨left, right, hsplit, hsort, hlands⟩ := sortByIndex_replaced tab horder
  refine ⟨left, right, ?_, ?_, ?_⟩
  · rw [← hsplit, ← takeFocus_append]
    exact spared_takeFocus id tab (before ++ after)
  · rw [updatedTabs_of_tracked tab htracked, hfocus,
      replaceFirst_append tab (forall_id_takeFocus tab hbefore) ((id_unfocused id tab old).trans hold),
      hsort]
  · have hlength : (takeFocus id tab before).length = before.length := List.length_map _
    have hindex := index_unfocused id tab old
    rw [hlength] at hlands
    exact ⟨hindex ▸ hlands.stays, hindex ▸ hlands.rises, hindex ▸ hlands.falls⟩

theorem removeFirst_created {tab : Tab} {tabs : List Tab} (h : isTracked tab.id tabs = false) :
    removeFirst tab.id (sortByIndex (tabs ++ [tab])) = sortByIndex tabs := by
  obtain ⟨left, right, hsplit, hcreated, _⟩ := sortByIndex_concat tabs tab
  have hleft : ∀ t ∈ left, t.id ≠ tab.id := by
    intro t ht
    refine isTracked_eq_false.mp h t ((sortByIndex_perm tabs).mem_iff.mp ?_)
    exact hsplit ▸ List.mem_append_left right ht
  rw [hcreated, removeFirst_append hleft rfl, hsplit]

theorem isTracked_created (tabs : List Tab) (tab : Tab) :
    isTracked tab.id (sortByIndex (tabs ++ [tab])) = true := by
  rw [isTracked, (sortByIndex_perm _).any_eq]
  simp

namespace Registry

theorem tabs_land_by_index (r : Registry) (ordered : InOrder r.tabs) :
    (∀ tab, ∃ left right, r.tabs = left ++ right ∧
      (r.create tab).registry.tabs = left ++ tab :: right ∧ BehindTies tab left right) ∧
    ∀ id info tab before old after, r.tabs = before ++ old :: after →
      (∀ t ∈ before, t.id ≠ id) → old.id = id →
      ∃ left right, List.Forall₂ (Spared id tab) (before ++ after) (left ++ right) ∧
        (r.update id info tab).registry.tabs = left ++ tab :: right ∧
        Lands old tab before.length left right := by
  constructor
  · intro tab
    obtain ⟨left, right, hsplit, hcreated, hties⟩ := sortByIndex_concat r.tabs tab
    rw [sortByIndex_of_inOrder ordered] at hsplit
    exact ⟨left, right, hsplit, (tabs_create r tab).trans hcreated, hties⟩
  · intro id info tab before old after hsplit hbefore hold
    rw [hsplit] at ordered
    rw [tabs_update, hsplit]
    exact updatedTabs_land tab ordered hbefore hold

def shelf : Registry where
  tabs := [⟨1, 1, 0, false, none, none, []⟩, ⟨2, 1, 3, true, none, none, []⟩,
    ⟨3, 2, 3, false, none, none, []⟩, ⟨4, 1, 7, false, none, none, []⟩]
  subscriptions := [⟨0, fun _ => false, 1⟩]
  nextId := 1

def shelved (id : TabId) : Tab := ⟨id, 1, 3, true, none, none, []⟩

theorem tabs_land_by_index_shelf :
    InOrder shelf.tabs ∧
    (∃ left right, shelf.tabs = left ++ right ∧
      (shelf.create (shelved 5)).registry.tabs = left ++ shelved 5 :: right ∧
      BehindTies (shelved 5) left right) ∧
    (∃ left right, List.Forall₂ (Spared 1 (shelved 1)) (shelf.tabs.drop 1) (left ++ right) ∧
      (shelf.update 1 {} (shelved 1)).registry.tabs = left ++ shelved 1 :: right ∧
      AheadOfTies (shelved 1) left right) ∧
    ∃ left right, List.Forall₂ (Spared 4 (shelved 4)) (shelf.tabs.take 3) (left ++ right) ∧
      (shelf.update 4 {} (shelved 4)).registry.tabs = left ++ shelved 4 :: right ∧
      BehindTies (shelved 4) left right := by
  have ordered : InOrder shelf.tabs := by decide
  obtain ⟨hcreated, hupdated⟩ := tabs_land_by_index shelf ordered
  refine ⟨ordered, hcreated (shelved 5), ?_, ?_⟩
  · obtain ⟨left, right, hspared, htabs, hlands⟩ :=
      hupdated 1 {} (shelved 1) [] _ _ rfl (by simp) rfl
    exact ⟨left, right, hspared, htabs, hlands.rises (by decide)⟩
  · obtain ⟨left, right, hspared, htabs, hlands⟩ :=
      hupdated 4 {} (shelved 4) [_, _, _] _ [] rfl (by simp) rfl
    exact ⟨left, right, hspared, htabs, hlands.falls (by decide)⟩

theorem create_remove_sorts (r : Registry) (tab : Tab) (info : RemoveInfo)
    (untracked : isTracked tab.id r.tabs = false) :
    (∀ sorted, StableSort r.tabs sorted ↔
      sorted = ((r.create tab).registry.remove tab.id info).registry.tabs) ∧
    (InOrder r.tabs → ((r.create tab).registry.remove tab.id info).registry.tabs = r.tabs) ∧
    ((r.create tab).registry.remove tab.id info).result ≠ .ok false ∧
    (r.Calm → ((r.create tab).registry.remove tab.id info).result = .ok true) := by
  have hundone := removeFirst_created untracked
  have hannounced : (Mutation.removed tab.id info).announces (r.create tab).registry.tabs = true :=
    isTracked_created r.tabs tab
  have hcreate : (r.create tab).registry = (r.mutate (.created tab)).registry := rfl
  have hremove : (r.create tab).registry.remove tab.id info =
      (r.create tab).registry.mutate (.removed tab.id info) := rfl
  rw [tabs_remove, tabs_create, hundone, hremove]
  refine ⟨fun sorted => stableSort_iff, sortByIndex_of_inOrder, ?_, ?_⟩
  · intro hfalse
    rw [mutate_eq_false, hannounced] at hfalse
    cases hfalse
  · intro hcalm
    have hafter : (r.create tab).registry.Calm := hcreate ▸ hcalm.mutate (.created tab)
    rw [(mutate_of_calm hafter (.removed tab.id info)).1, hannounced]

def overturned : Registry := { shelf with tabs := shelf.tabs.reverse }

theorem create_remove_sorts_overturned :
    isTracked 5 overturned.tabs = false ∧
      ((overturned.create (shelved 5)).registry.remove 5 {}).registry.tabs =
        [⟨1, 1, 0, false, none, none, []⟩, ⟨3, 2, 3, false, none, none, []⟩,
          ⟨2, 1, 3, true, none, none, []⟩, ⟨4, 1, 7, false, none, none, []⟩] ∧
      ((overturned.create (shelved 5)).registry.remove 5 {}).result = .ok true := by
  have untracked : isTracked 5 overturned.tabs = false := by decide
  obtain ⟨hsorted, _, _, hcalled⟩ := create_remove_sorts overturned (shelved 5) {} untracked
  have hcalm : overturned.Calm := by simp [Calm, overturned, shelf, Subscription.Calm]
  refine ⟨untracked, ((hsorted _).mp ⟨by decide, fun i => ?_⟩).symm, hcalled hcalm⟩
  -- the two tabs with index 3 stay as they are, and the others have an index of their own
  simp only [overturned, shelf, List.reverse_cons, List.reverse_nil, List.nil_append,
    List.cons_append, withIndex_cons]
  rcases eq_or_ne i 3 with rfl | hi
  · rfl
  · rcases eq_or_ne i 0 with rfl | h0
    · rfl
    · simp [hi.symm, h0.symm]

end Registry

end TabSearch
