import TabSearch.Proofs.Registry.Focus
import TabSearch.Proofs.Registry.Stability

namespace TabSearch

theorem replaceFirst_of_lookup {id : TabId} {tab : Tab} {tabs : List Tab}
    (h : lookup tabs id = some tab) : replaceFirst id tab tabs = tabs := by
  induction tabs with
  | nil => rfl
  | cons t rest ih =>
      rw [lookup_cons] at h
      rw [replaceFirst]
      split at h
      next ht => rw [if_pos ht, Option.some.inj h]
      next ht => rw [if_neg ht, ih h]

theorem losesFocus_takeFocus (id : TabId) (tab : Tab) (tabs : List Tab) :
    ∀ t ∈ takeFocus id tab tabs, losesFocus id tab t = false := by
  intro t ht
  obtain ⟨u, _, rfl⟩ := List.mem_map.mp ht
  cases hu : losesFocus id tab u with
  | true => simp [losesFocus]
  | false => exact hu

theorem losesFocus_updatedTabs {id : TabId} {tab : Tab} (ht : tab.id = id) (tabs : List Tab) :
    (Registry.updatedTabs tabs id tab).any (losesFocus id tab) = false := by
  have hself : losesFocus id tab tab = false := by simp [losesFocus, ht]
  rw [List.any_eq_false]
  intro t hm
  rw [Bool.not_eq_true]
  cases h : isTracked id tabs with
  | true =>
      rcases List.mem_cons.mp ((updatedTabs_perm tab h).mem_iff.mp hm) with rfl | hm
      · exact hself
      · exact losesFocus_takeFocus id tab tabs t ((removeFirst_sublist id _).subset hm)
  | false =>
      rw [updatedTabs_of_untracked tab h] at hm
      exact losesFocus_takeFocus id tab tabs t hm

theorem lookup_updatedTabs_self {id : TabId} {tab : Tab} (ht : tab.id = id) {tabs : List Tab}
    (hn : (idsOf tabs).Nodup) (h : isTracked id tabs = true) :
    lookup (Registry.updatedTabs tabs id tab) id = some tab := by
  have hr : Directory.Represents tabs (lookup tabs) := ⟨hn, rfl⟩
  rw [isTracked_eq_isSome] at h
  rw [(hr.updated {} ht).lookup_eq, Directory.step, if_pos h, Function.update_self]

theorem isTracked_updatedTabs {id : TabId} {tab : Tab} (ht : tab.id = id) {tabs : List Tab}
    (hn : (idsOf tabs).Nodup) :
    isTracked id (Registry.updatedTabs tabs id tab) = isTracked id tabs := by
  cases h : isTracked id tabs with
  | true => rw [isTracked_eq_isSome, lookup_updatedTabs_self ht hn h, Option.isSome_some]
  | false => rw [updatedTabs_of_untracked tab h, isTracked_takeFocus, h]

theorem updatedTabs_again {id : TabId} {tab : Tab} (ht : tab.id = id) {tabs : List Tab}
    (hn : (idsOf tabs).Nodup) :
    Registry.updatedTabs (Registry.updatedTabs tabs id tab) id tab =
      Registry.updatedTabs tabs id tab := by
  have hfocus := takeFocus_of_none (losesFocus_updatedTabs ht tabs)
  have htracked := isTracked_updatedTabs ht hn
  cases h : isTracked id tabs with
  | true =>
      have horder : InOrder (Registry.updatedTabs tabs id tab) := by
        rw [updatedTabs_of_tracked tab h]
        exact inOrder_sortByIndex _
      rw [updatedTabs_of_tracked tab (htracked.trans h), hfocus,
        replaceFirst_of_lookup (lookup_updatedTabs_self ht hn h), sortByIndex_of_inOrder horder]
  | false => rw [updatedTabs_of_untracked tab (htracked.trans h), hfocus]

theorem updateChanges_again {id : TabId} {tab : Tab} (ht : tab.id = id) {tabs : List Tab}
    (hn : (idsOf tabs).Nodup) :
    Registry.updateChanges (Registry.updatedTabs tabs id tab) id tab = isTracked id tabs := by
  rw [Registry.updateChanges, losesFocus_updatedTabs ht, Bool.false_or, isTracked_updatedTabs ht hn]

namespace Registry

theorem redelivery_changes_nothing (r : Registry) (distinct : (idsOf r.tabs).Nodup) :
    (∀ id info, let once := (r.apply (.removed id info)).registry
      (once.apply (.removed id info)).registry = once ∧
      (once.apply (.removed id info)).result = .ok false) ∧
    ∀ id info tab, tab.id = id → let once := (r.apply (.updated id info tab)).registry
      (once.apply (.updated id info tab)).registry.tabs = once.tabs ∧
      (isTracked id r.tabs = false →
        (once.apply (.updated id info tab)).registry = once ∧
        (once.apply (.updated id info tab)).result = .ok false) ∧
      (isTracked id r.tabs = true →
        (once.apply (.updated id info tab)).result ≠ .ok false ∧
        (r.Calm → (once.apply (.updated id info tab)).result = .ok true)) := by
  simp only [apply_eq_mutate]
  constructor
  · intro id info
    have hsilent : (Mutation.removed id info).announces
        (r.mutate (.removed id info)).registry.tabs = false := by
      rw [tabs_mutate]
      exact isTracked_removeFirst distinct
    simp only [Event.mutation, mutate_of_silent hsilent, and_self]
  · intro id info tab ht
    have hannounces : (Mutation.updated id info tab).announces
        (r.mutate (.updated id info tab)).registry.tabs = isTracked id r.tabs := by
      rw [tabs_mutate]
      exact updateChanges_again ht distinct
    refine ⟨?_, ?_, ?_⟩
    · simp only [Event.mutation, tabs_mutate]
      exact updatedTabs_again ht distinct
    · intro huntracked
      rw [huntracked] at hannounces
      simp only [Event.mutation, mutate_of_silent hannounces, and_self]
    · intro htracked
      rw [htracked] at hannounces
      refine ⟨?_, fun hcalm => ?_⟩
      · intro hfalse
        rw [Event.mutation, mutate_eq_false, hannounces] at hfalse
        cases hfalse
      · rw [Event.mutation, (mutate_of_calm (hcalm.mutate _) _).1, hannounces]

def strewn : Registry where
  tabs := [⟨1, 1, 5, true, none, none, []⟩, ⟨2, 1, 3, false, none, none, []⟩,
    ⟨3, 2, 5, true, none, none, []⟩]
  subscriptions := [⟨0, fun _ => false, 1⟩]
  nextId := 1

def focused (id : TabId) : Event := .updated id {} ⟨id, 1, 5, true, none, none, []⟩

theorem redelivery_changes_nothing_strewn :
    (idsOf strewn.tabs).Nodup ∧
    ((strewn.apply (.removed 3 {})).registry.apply (.removed 3 {})).result = .ok false ∧
    ((strewn.apply (focused 2)).registry.apply (focused 2)).registry.tabs =
      (strewn.apply (focused 2)).registry.tabs ∧
    ((strewn.apply (focused 2)).registry.apply (focused 2)).result = .ok true ∧
    ((strewn.apply (focused 9)).registry.apply (focused 9)).result = .ok false := by
  have distinct : (idsOf strewn.tabs).Nodup := by decide
  have hcalm : strewn.Calm := by simp [Calm, strewn, Subscription.Calm]
  obtain ⟨hremoved, hupdated⟩ := redelivery_changes_nothing strewn distinct
  obtain ⟨htabs, _, htracked⟩ := hupdated 2 {} ⟨2, 1, 5, true, none, none, []⟩ rfl
  obtain ⟨_, huntracked, _⟩ := hupdated 9 {} ⟨9, 1, 5, true, none, none, []⟩ rfl
  exact ⟨distinct, (hremoved 3 {}).2, htabs, (htracked rfl).2 hcalm, (huntracked rfl).2⟩

end Registry

end TabSearch
