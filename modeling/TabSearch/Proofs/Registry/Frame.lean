import Mathlib.Data.List.Forall2
import TabSearch.Proofs.Registry.Focus

namespace TabSearch

def Yields (id : TabId) (tab t : Tab) : Prop :=
  t.active = true ∧ tab.active = true ∧ t.windowId = tab.windowId ∧ t.id ≠ id

structure Spared (id : TabId) (tab t u : Tab) : Prop where
  rest : { u with active := t.active } = t
  cleared : (t.active = true ∧ u.active = false) ↔ Yields id tab t
  never_set : u.active = true → t.active = true

theorem losesFocus_iff {id : TabId} {tab t : Tab} :
    losesFocus id tab t = true ↔ Yields id tab t := by
  simp only [losesFocus, Yields, Bool.and_eq_true, beq_iff_eq, bne_iff_ne]
  constructor
  · rintro ⟨⟨⟨hactive, hwindow⟩, hid⟩, hfocus⟩
    exact ⟨hfocus, hactive, hwindow, hid⟩
  · rintro ⟨hfocus, hactive, hwindow, hid⟩
    exact ⟨⟨⟨hactive, hwindow⟩, hid⟩, hfocus⟩

theorem spared_takeFocus (id : TabId) (tab : Tab) (tabs : List Tab) :
    List.Forall₂ (Spared id tab) tabs (takeFocus id tab tabs) := by
  rw [takeFocus, List.forall₂_map_right_iff, List.forall₂_same]
  intro t _
  cases h : losesFocus id tab t with
  | true =>
      have hyields := losesFocus_iff.mp h
      rw [if_pos rfl]
      refine ⟨rfl, ⟨fun _ => hyields, fun _ => ⟨hyields.1, rfl⟩⟩, ?_⟩
      exact fun hset => absurd hset Bool.false_ne_true
  | false =>
      have hkeeps : ¬ Yields id tab t := fun hy => by simp [losesFocus_iff.mpr hy] at h
      rw [if_neg Bool.false_ne_true]
      refine ⟨rfl, ⟨?_, fun hy => absurd hy hkeeps⟩, fun hactive => hactive⟩
      rintro ⟨hset, hclear⟩
      simp [hset] at hclear

theorem removeFirst_append {id : TabId} {before after : List Tab} {old : Tab}
    (hbefore : ∀ t ∈ before, t.id ≠ id) (hold : old.id = id) :
    removeFirst id (before ++ old :: after) = before ++ after := by
  induction before with
  | nil => exact if_pos hold
  | cons t rest ih =>
      obtain ⟨ht, hrest⟩ := List.forall_mem_cons.mp hbefore
      rw [List.cons_append, removeFirst, if_neg ht, ih hrest, List.cons_append]

theorem removeFirst_takeFocus (i id : TabId) (tab : Tab) (tabs : List Tab) :
    removeFirst i (takeFocus id tab tabs) = takeFocus id tab (removeFirst i tabs) := by
  induction tabs with
  | nil => rfl
  | cons t rest ih =>
      simp only [takeFocus, List.map_cons, removeFirst, id_unfocused] at ih ⊢
      split
      · rfl
      · rw [ih, List.map_cons]

theorem length_replaceFirst (id : TabId) (tab : Tab) (tabs : List Tab) :
    (replaceFirst id tab tabs).length = tabs.length := by
  induction tabs with
  | nil => rfl
  | cons t rest ih =>
      rw [replaceFirst]
      split
      · rfl
      · rw [List.length_cons, ih, List.length_cons]

theorem length_updatedTabs (tabs : List Tab) (id : TabId) (tab : Tab) :
    (Registry.updatedTabs tabs id tab).length = tabs.length := by
  have hfocus : (takeFocus id tab tabs).length = tabs.length := List.length_map _
  rw [Registry.updatedTabs]
  split
  · rw [(sortByIndex_perm _).length_eq, length_replaceFirst, hfocus]
  · exact hfocus

theorem updatedTabs_first {id : TabId} (tab : Tab) {before after : List Tab} {old : Tab}
    (hbefore : ∀ t ∈ before, t.id ≠ id) (hold : old.id = id) :
    ∃ others, List.Forall₂ (Spared id tab) (before ++ after) others ∧
      (Registry.updatedTabs (before ++ old :: after) id tab).Perm (tab :: others) := by
  have htracked : isTracked id (before ++ old :: after) = true := by simp [isTracked, hold]
  have hperm := updatedTabs_perm tab htracked
  rw [removeFirst_takeFocus, removeFirst_append hbefore hold] at hperm
  exact ⟨_, spared_takeFocus id tab (before ++ after), hperm⟩

theorem updateChanges_eq_false {id : TabId} {tab : Tab} {tabs : List Tab} :
    Registry.updateChanges tabs id tab = false ↔ ∀ t ∈ tabs, t.id ≠ id ∧ ¬ Yields id tab t := by
  rw [Registry.updateChanges, Bool.or_eq_false_iff, isTracked_eq_false, List.any_eq_false]
  simp only [losesFocus_iff]
  constructor
  · intro h t ht
    exact ⟨h.2 t ht, h.1 t ht⟩
  · intro h
    exact ⟨fun t ht => (h t ht).2, fun t ht => (h t ht).1⟩

namespace Registry

theorem update_spares_others (r : Registry) (id : TabId) (info : ChangeInfo) (tab : Tab) :
    (r.update id info tab).registry.tabs.length = r.tabs.length ∧
    (∀ before old after, r.tabs = before ++ old :: after → (∀ t ∈ before, t.id ≠ id) →
      old.id = id → ∃ others, List.Forall₂ (Spared id tab) (before ++ after) others ∧
        (r.update id info tab).registry.tabs.Perm (tab :: others)) ∧
    ((∀ t ∈ r.tabs, t.id ≠ id) →
      List.Forall₂ (Spared id tab) r.tabs (r.update id info tab).registry.tabs) ∧
    ((r.update id info tab).result = .ok false ↔
      ∀ t ∈ r.tabs, t.id ≠ id ∧ ¬ Yields id tab t) ∧
    ((r.update id info tab).result = .ok false →
      (r.update id info tab).registry = r ∧ (r.update id info tab).deliveries = []) ∧
    (r.Calm → (r.update id info tab).result ≠ .ok false →
      (r.update id info tab).result = .ok true ∧
        (r.update id info tab).deliveries =
          r.ids.map fun i => (i, (r.update id info tab).registry.tabs)) := by
  have hupdate : r.update id info tab = r.mutate (.updated id info tab) := rfl
  have htabs : (r.mutate (.updated id info tab)).registry.tabs = updatedTabs r.tabs id tab :=
    tabs_mutate r _
  rw [hupdate, htabs]
  refine ⟨length_updatedTabs _ _ _, ?_, ?_, ?_, ?_, ?_⟩
  · intro before old after hsplit hbefore hold
    rw [hsplit]
    exact updatedTabs_first tab hbefore hold
  · intro huntracked
    rw [updatedTabs_of_untracked tab (isTracked_eq_false.mpr huntracked)]
    exact spared_takeFocus id tab r.tabs
  · rw [mutate_eq_false]
    exact updateChanges_eq_false
  · intro hfalse
    rw [mutate_of_silent (mutate_eq_false.mp hfalse)]
    exact ⟨rfl, rfl⟩
  · intro hcalm hfalse
    have hchanges : (Mutation.updated id info tab).announces r.tabs = true := by
      rw [← Bool.not_eq_false]
      exact fun h => hfalse (mutate_eq_false.mpr h)
    obtain ⟨hresult, hdeliveries⟩ := mutate_of_calm hcalm (.updated id info tab)
    rw [hchanges] at hresult hdeliveries
    exact ⟨hresult, hdeliveries⟩

def crowded : Registry where
  tabs := [⟨1, 1, 5, true, none, none, []⟩, ⟨2, 1, 3, false, some "a", none, []⟩,
    ⟨2, 1, 9, true, some "b", none, []⟩, ⟨3, 2, 0, true, none, none, []⟩]
  subscriptions := [⟨4, fun _ => false, 1⟩]
  nextId := 5

def stranger : Tab := ⟨7, 1, 4, true, none, none, []⟩

theorem update_spares_others_crowded :
    (∃ others, List.Forall₂ (Spared 2 stranger) [⟨1, 1, 5, true, none, none, []⟩,
        ⟨2, 1, 9, true, some "b", none, []⟩, ⟨3, 2, 0, true, none, none, []⟩] others ∧
      (crowded.update 2 {} stranger).registry.tabs.Perm (stranger :: others)) ∧
    (crowded.Calm ∧ (crowded.update 2 {} stranger).result = .ok true ∧
      (crowded.update 2 {} stranger).deliveries =
        [(4, (crowded.update 2 {} stranger).registry.tabs)]) ∧
    (List.Forall₂ (Spared 9 stranger) crowded.tabs (crowded.update 9 {} stranger).registry.tabs ∧
      (crowded.update 9 {} { stranger with active := false }).result = .ok false ∧
      (crowded.update 9 {} { stranger with active := false }).registry = crowded) := by
  have hcalm : crowded.Calm := by simp [Calm, crowded, Subscription.Calm]
  have hresult : (crowded.update 2 {} stranger).result ≠ .ok false := by
    intro h
    have hnone := (update_spares_others crowded 2 {} stranger).2.2.2.1.mp h
    exact (hnone ⟨2, 1, 3, false, some "a", none, []⟩ (by simp [crowded])).1 rfl
  obtain ⟨_, hfirst, _, _, _, hcalled⟩ := update_spares_others crowded 2 {} stranger
  obtain ⟨_, _, hplaces, _⟩ := update_spares_others crowded 9 {} stranger
  obtain ⟨_, _, _, _, hsilent, _⟩ :=
    update_spares_others crowded 9 {} { stranger with active := false }
  have hfalse : (crowded.update 9 {} { stranger with active := false }).result = .ok false := rfl
  refine ⟨?_, ⟨hcalm, hcalled hcalm hresult⟩, hplaces (by simp [crowded]), hfalse,
    (hsilent hfalse).1⟩
  exact hfirst [_] ⟨2, 1, 3, false, some "a", none, []⟩ _ rfl (by simp) rfl

end Registry

end TabSearch
