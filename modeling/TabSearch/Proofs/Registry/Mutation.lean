import TabSearch.Registry

namespace TabSearch

inductive Mutation where
  | sync (tabs : List Tab)
  | created (tab : Tab)
  | updated (id : TabId) (info : ChangeInfo) (tab : Tab)
  | removed (id : TabId) (info : RemoveInfo)

namespace Mutation

def effect : Mutation → List Tab → List Tab
  | .sync tabs, _ => tabs
  | .created tab, tabs => sortByIndex (tabs ++ [tab])
  | .updated id _ tab, tabs => Registry.updatedTabs tabs id tab
  | .removed id _, tabs => removeFirst id tabs

def announces : Mutation → List Tab → Bool
  | .sync _, _ => true
  | .created _, _ => true
  | .updated id _ tab, tabs => Registry.updateChanges tabs id tab
  | .removed id _, tabs => isTracked id tabs

def note : Mutation → List Tab → Note
  | .sync tabs, _ => .synced tabs.length
  | .created tab, _ => .created tab.id tab.index
  | .updated id info tab, tabs => .updated id info.status (Registry.updateChanges tabs id tab)
  | .removed id info, tabs =>
      if isTracked id tabs then .removed id info.windowId info.isWindowClosing else .notTracked id

end Mutation

def Event.mutation : Event → Mutation
  | .created tab => .created tab
  | .updated id info tab => .updated id info tab
  | .removed id info => .removed id info

theorem takeFocus_of_none {id : TabId} {tab : Tab} {tabs : List Tab}
    (h : tabs.any (losesFocus id tab) = false) : takeFocus id tab tabs = tabs := by
  induction tabs with
  | nil => rfl
  | cons t rest ih =>
      rw [List.any_cons, Bool.or_eq_false_iff] at h
      have ht : takeFocus id tab rest = rest := ih h.2
      simp only [takeFocus, List.map_cons, h.1, Bool.false_eq_true, if_false] at ht ⊢
      rw [ht]

theorem removeFirst_of_untracked {id : TabId} {tabs : List Tab} (h : isTracked id tabs = false) :
    removeFirst id tabs = tabs := by
  induction tabs with
  | nil => rfl
  | cons t rest ih =>
      simp only [isTracked, List.any_cons, Bool.or_eq_false_iff, beq_eq_false_iff_ne] at h
      rw [removeFirst, if_neg h.1, ih h.2]

theorem isTracked_eq_false {id : TabId} {tabs : List Tab} :
    isTracked id tabs = false ↔ ∀ t ∈ tabs, t.id ≠ id := by
  simp [isTracked]

theorem id_unfocused (id : TabId) (tab t : Tab) :
    (if losesFocus id tab t then { t with active := false } else t).id = t.id := by
  split <;> rfl

theorem index_unfocused (id : TabId) (tab t : Tab) :
    (if losesFocus id tab t then { t with active := false } else t).index = t.index := by
  split <;> rfl

theorem isTracked_takeFocus (i id : TabId) (tab : Tab) (tabs : List Tab) :
    isTracked i (takeFocus id tab tabs) = isTracked i tabs := by
  induction tabs with
  | nil => rfl
  | cons t rest ih =>
      simp only [isTracked, takeFocus, List.map_cons, List.any_cons, id_unfocused] at ih ⊢
      rw [ih]

theorem updatedTabs_of_tracked {id : TabId} (tab : Tab) {tabs : List Tab}
    (h : isTracked id tabs = true) :
    Registry.updatedTabs tabs id tab =
      sortByIndex (replaceFirst id tab (takeFocus id tab tabs)) := by
  rw [Registry.updatedTabs, isTracked_takeFocus, if_pos h]

theorem updatedTabs_of_untracked {id : TabId} (tab : Tab) {tabs : List Tab}
    (h : isTracked id tabs = false) :
    Registry.updatedTabs tabs id tab = takeFocus id tab tabs := by
  rw [Registry.updatedTabs, isTracked_takeFocus, h, if_neg Bool.false_ne_true]

theorem updatedTabs_of_unchanged {id : TabId} {tab : Tab} {tabs : List Tab}
    (h : Registry.updateChanges tabs id tab = false) :
    Registry.updatedTabs tabs id tab = tabs := by
  rw [Registry.updateChanges, Bool.or_eq_false_iff] at h
  rw [updatedTabs_of_untracked tab h.2, takeFocus_of_none h.1]

theorem Mutation.effect_of_silent {m : Mutation} {tabs : List Tab}
    (h : m.announces tabs = false) : m.effect tabs = tabs := by
  cases m with
  | sync new => simp [announces] at h
  | created tab => simp [announces] at h
  | updated id info tab => exact updatedTabs_of_unchanged h
  | removed id info => exact removeFirst_of_untracked h

namespace Registry

def mutate (r : Registry) : Mutation → Run Bool
  | .sync tabs => (r.sync tabs).map fun _ => true
  | .created tab => (r.create tab).map fun _ => true
  | .updated id info tab => r.update id info tab
  | .removed id info => r.remove id info

theorem apply_eq_mutate (r : Registry) (e : Event) : r.apply e = r.mutate e.mutation := by
  cases e <;> rfl

theorem mutate_eq (r : Registry) (m : Mutation) :
    r.mutate m =
      if m.announces r.tabs then
        (({ r with tabs := m.effect r.tabs }.notify).map fun _ => true).after
          [.note (m.note r.tabs)]
      else ⟨r, [.note (m.note r.tabs)], .ok false⟩ := by
  cases m with
  | sync tabs => rfl
  | created tab => rfl
  | updated id info tab => rfl
  | removed id info =>
      by_cases h : isTracked id r.tabs = true <;>
        simp [mutate, remove, Mutation.announces, Mutation.effect, Mutation.note, h]

theorem mutate_of_announced {r : Registry} {m : Mutation} (h : m.announces r.tabs = true) :
    r.mutate m = (({ r with tabs := m.effect r.tabs }.notify).map fun _ => true).after
      [.note (m.note r.tabs)] := by
  rw [mutate_eq, h, if_pos rfl]

theorem mutate_of_silent {r : Registry} {m : Mutation} (h : m.announces r.tabs = false) :
    r.mutate m = ⟨r, [.note (m.note r.tabs)], .ok false⟩ := by
  rw [mutate_eq, h, if_neg Bool.false_ne_true]

theorem mutate_eq_false {r : Registry} {m : Mutation} :
    (r.mutate m).result = .ok false ↔ m.announces r.tabs = false := by
  cases h : m.announces r.tabs with
  | true =>
      rw [mutate_of_announced h]
      simp only [Run.after, Run.map, reduceCtorEq, iff_false]
      cases ({ r with tabs := m.effect r.tabs }.notify).result <;> simp [Except.map]
  | false =>
      rw [mutate_of_silent h]
      exact ⟨fun _ => rfl, fun _ => rfl⟩

@[simp] theorem tabs_mutate (r : Registry) (m : Mutation) :
    (r.mutate m).registry.tabs = m.effect r.tabs := by
  cases h : m.announces r.tabs with
  | true => rw [mutate_of_announced h]; rfl
  | false => rw [mutate_of_silent h, Mutation.effect_of_silent h]

theorem tabs_create (r : Registry) (tab : Tab) :
    (r.create tab).registry.tabs = sortByIndex (r.tabs ++ [tab]) := tabs_mutate r (.created tab)

theorem tabs_update (r : Registry) (id : TabId) (info : ChangeInfo) (tab : Tab) :
    (r.update id info tab).registry.tabs = updatedTabs r.tabs id tab :=
  tabs_mutate r (.updated id info tab)

theorem tabs_remove (r : Registry) (id : TabId) (info : RemoveInfo) :
    (r.remove id info).registry.tabs = removeFirst id r.tabs := tabs_mutate r (.removed id info)

@[simp] theorem nextId_mutate (r : Registry) (m : Mutation) :
    (r.mutate m).registry.nextId = r.nextId := by
  cases h : m.announces r.tabs with
  | true => rw [mutate_of_announced h]; rfl
  | false => rw [mutate_of_silent h]

end Registry

end TabSearch
