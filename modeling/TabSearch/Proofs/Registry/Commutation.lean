import Mathlib.Data.List.Permutation
import TabSearch.Proofs.Registry.Directory
import TabSearch.Proofs.Registry.Order

namespace TabSearch

theorem perm_of_lookup_eq {tabs tabs' : List Tab} (hn : (idsOf tabs).Nodup)
    (hn' : (idsOf tabs').Nodup) (h : lookup tabs = lookup tabs') : tabs.Perm tabs' := by
  refine (List.perm_ext_iff_of_nodup (hn.of_map _) (hn'.of_map _)).mpr fun t => ?_
  have hmem : lookup tabs t.id = some t ↔ t ∈ tabs ∧ t.id = t.id := lookup_eq_some_iff hn
  have hmem' : lookup tabs' t.id = some t ↔ t ∈ tabs' ∧ t.id = t.id := lookup_eq_some_iff hn'
  rw [h] at hmem
  simpa using hmem.symm.trans hmem'

theorem filterMap_lookup {tabs : List Tab} (hn : (idsOf tabs).Nodup) :
    (idsOf tabs).filterMap (lookup tabs) = tabs := by
  have hfind : ∀ t ∈ tabs, (lookup tabs ∘ fun t => t.id) t = some t := fun t ht =>
    (lookup_eq_some_iff hn).mpr ⟨ht, rfl⟩
  rw [idsOf, List.filterMap_map, List.filterMap_congr hfind]
  exact List.filterMap_some

theorem InOrder.eq_of_perm {tabs tabs' : List Tab} (h : InOrder tabs) (h' : InOrder tabs')
    (hp : tabs.Perm tabs') (hn : (tabs.map fun t => t.index).Nodup) : tabs = tabs' := by
  refine List.Perm.eq_of_pairwise ?_ h h' hp
  intro a b ha hb hab hba
  exact List.inj_on_of_nodup_map hn ha (hp.mem_iff.mpr hb) (Nat.le_antisymm hab hba)

namespace Event

def tabId : Event → TabId
  | .created tab => tab.id
  | .updated id _ _ => id
  | .removed id _ => id

def tab? : Event → Option Tab
  | .created tab => some tab
  | .updated _ _ tab => some tab
  | .removed _ _ => none

def Rivals (e₁ e₂ : Event) : Prop :=
  ∃ t₁ ∈ e₁.tab?, ∃ t₂ ∈ e₂.tab?, t₁.active = true ∧ t₂.active = true ∧ t₁.windowId = t₂.windowId

theorem Rivals.symm {e₁ e₂ : Event} (h : e₁.Rivals e₂) : e₂.Rivals e₁ := by
  obtain ⟨t₁, h₁, t₂, h₂, ha₁, ha₂, hw⟩ := h
  exact ⟨t₂, h₂, t₁, h₁, ha₂, ha₁, hw.symm⟩

def write : Event → Option Tab → Option Tab
  | .created tab, _ => some tab
  | .updated _ _ tab, old => old.map fun _ => tab
  | .removed _ _, _ => none

def focuses : Event → WindowId → Bool
  | .updated _ _ tab, w => tab.active && w == tab.windowId
  | _, _ => false

def disturb (e : Event) (t : Tab) : Tab :=
  if e.focuses t.windowId then { t with active := false } else t

theorem disturb_comm (e₁ e₂ : Event) (t : Tab) :
    e₁.disturb (e₂.disturb t) = e₂.disturb (e₁.disturb t) := by
  by_cases h₁ : e₁.focuses t.windowId = true <;> by_cases h₂ : e₂.focuses t.windowId = true <;>
    simp [disturb, h₁, h₂]

theorem disturb_carried {e₁ e₂ : Event} (h : ¬ e₁.Rivals e₂) {t : Tab} (ht : t ∈ e₁.tab?) :
    e₂.disturb t = t := by
  cases hf : e₂.focuses t.windowId with
  | false => simp [disturb, hf]
  | true =>
      cases e₂ with
      | updated id info tab =>
          obtain ⟨ha, hw⟩ : tab.active = true ∧ t.windowId = tab.windowId := by
            simpa [focuses] using hf
          have hidle : t.active = false := by
            by_contra hn
            exact h ⟨t, ht, tab, rfl, by simpa using hn, ha, hw⟩
          rw [disturb, if_pos hf, ← hidle]
      | created tab => cases hf
      | removed id info => cases hf

theorem write_disturb {e₁ e₂ : Event} (h : ¬ e₁.Rivals e₂) (old : Option Tab) :
    e₁.write (old.map e₂.disturb) = (e₁.write old).map e₂.disturb := by
  cases e₁ with
  | created tab =>
      have ht : e₂.disturb tab = tab := disturb_carried h rfl
      rw [write, write, Option.map_some, ht]
  | updated id info tab =>
      have ht : e₂.disturb tab = tab := disturb_carried h rfl
      cases old with
      | none => rfl
      | some t =>
          change some tab = some (e₂.disturb tab)
          rw [ht]
  | removed id info => rfl

end Event

namespace Directory

theorem step_apply (e : Event) (d : Directory) (i : TabId) :
    d.step e.mutation i = if i = e.tabId then e.write (d i) else (d i).map e.disturb := by
  by_cases hi : i = e.tabId
  · rw [if_pos hi, hi]
    cases e with
    | created tab => exact Function.update_self _ _ _
    | updated id info tab =>
        cases hd : d id <;> simp [step, Event.mutation, Event.tabId, Event.write, clearOthers, hd]
    | removed id info => exact Function.update_self _ _ _
  · rw [if_neg hi]
    cases e with
    | created tab =>
        have hne : i ≠ tab.id := hi
        have hsame : (Event.created tab).disturb = id := rfl
        rw [Event.mutation, step, Function.update_of_ne hne, hsame, Option.map_id_apply]
    | updated j info tab =>
        have hne : i ≠ j := hi
        have hcleared : d.clearOthers j tab i = (d i).map (Event.updated j info tab).disturb := by
          rw [clearOthers]
          congr 1
          funext t
          simp [Event.disturb, Event.focuses, hne]
        rw [Event.mutation, step]
        split
        · rw [Function.update_of_ne hne, hcleared]
        · exact hcleared
    | removed j info =>
        have hne : i ≠ j := hi
        have hsame : (Event.removed j info).disturb = id := rfl
        rw [Event.mutation, step, Function.update_of_ne hne, hsame, Option.map_id_apply]

theorem step_comm {e₁ e₂ : Event} (hid : e₁.tabId ≠ e₂.tabId) (h : ¬ e₁.Rivals e₂)
    (d : Directory) :
    (d.step e₁.mutation).step e₂.mutation = (d.step e₂.mutation).step e₁.mutation := by
  funext i
  simp only [step_apply]
  by_cases h₁ : i = e₁.tabId
  · have h₂ : i ≠ e₂.tabId := h₁ ▸ hid
    rw [if_neg h₂, if_pos h₁, if_pos h₁, if_neg h₂, Event.write_disturb h]
  · by_cases h₂ : i = e₂.tabId
    · rw [if_pos h₂, if_neg h₁, if_neg h₁, if_pos h₂, Event.write_disturb fun hr => h hr.symm]
    · rw [if_neg h₂, if_neg h₁, if_neg h₁, if_neg h₂, Option.map_map, Option.map_map]
      congr 1
      funext t
      exact Event.disturb_comm e₂ e₁ t

end Directory

namespace Event

variable {tabs : List Tab} {e₁ e₂ : Event}

theorem isTracked_effect (hn : (idsOf tabs).Nodup) (h₁ : e₁.mutation.Admissible tabs) {i : TabId}
    (hi : i ≠ e₁.tabId) : isTracked i (e₁.effect tabs) = isTracked i tabs := by
  have hr : Directory.Represents tabs (lookup tabs) := ⟨hn, rfl⟩
  rw [isTracked_eq_isSome, isTracked_eq_isSome, effect, (hr.effect h₁).lookup_eq,
    Directory.step_apply, if_neg hi, Option.isSome_map]

theorem admissible_effect (hn : (idsOf tabs).Nodup) (h₁ : e₁.mutation.Admissible tabs)
    (h₂ : e₂.mutation.Admissible tabs) (hid : e₂.tabId ≠ e₁.tabId) :
    e₂.mutation.Admissible (e₁.effect tabs) := by
  cases e₂ with
  | created tab => exact (isTracked_effect hn h₁ hid).trans h₂
  | updated id info tab => exact h₂
  | removed id info => trivial

theorem sorts_effect (hn : (idsOf tabs).Nodup) (h₁ : e₁.mutation.Admissible tabs)
    (hid : e₂.tabId ≠ e₁.tabId) : e₂.mutation.sorts (e₁.effect tabs) = e₂.mutation.sorts tabs := by
  cases e₂ with
  | created tab => rfl
  | updated id info tab => exact isTracked_effect hn h₁ hid
  | removed id info => rfl

theorem inOrder_effects (hn : (idsOf tabs).Nodup) (h₁ : e₁.mutation.Admissible tabs)
    (hid : e₂.tabId ≠ e₁.tabId)
    (h : e₁.mutation.sorts tabs = true ∨ e₂.mutation.sorts tabs = true) :
    InOrder (e₂.effect (e₁.effect tabs)) := by
  rcases h with h | h
  · exact Mutation.inOrder_effect e₂.orderly_mutation (Mutation.inOrder_of_sorts h)
  · rw [← sorts_effect hn h₁ hid] at h
    exact Mutation.inOrder_of_sorts h

def leave : Event → List TabId → List TabId
  | .removed id _, ids => ids.erase id
  | _, ids => ids

theorem leave_comm (e₁ e₂ : Event) (ids : List TabId) :
    e₁.leave (e₂.leave ids) = e₂.leave (e₁.leave ids) := by
  cases e₁ with
  | removed i info =>
      cases e₂ with
      | removed j info => exact List.erase_comm j i
      | _ => rfl
  | _ => rfl

theorem idsOf_effect {e : Event} (h : e.mutation.sorts tabs = false) :
    idsOf (e.effect tabs) = e.leave (idsOf tabs) := by
  cases e with
  | created tab => cases h
  | updated id info tab =>
      have heffect : (Event.updated id info tab).effect tabs = takeFocus id tab tabs :=
        updatedTabs_of_untracked tab h
      rw [heffect, idsOf_takeFocus]
      rfl
  | removed id info => exact idsOf_removeFirst_eq id tabs

end Event

namespace Registry

theorem tabs_apply (r : Registry) (e : Event) : (r.apply e).registry.tabs = e.effect r.tabs := by
  rw [apply_eq_mutate, tabs_mutate, Event.effect]

theorem events_commute (r : Registry) {e₁ e₂ : Event} (distinct : (idsOf r.tabs).Nodup)
    (apart : e₁.tabId ≠ e₂.tabId) (h₁ : e₁.mutation.Admissible r.tabs)
    (h₂ : e₂.mutation.Admissible r.tabs) (peace : ¬ e₁.Rivals e₂) :
    ((r.apply e₁).registry.apply e₂).registry.tabs.Perm
        ((r.apply e₂).registry.apply e₁).registry.tabs ∧
      ((((r.apply e₁).registry.apply e₂).registry.tabs.map fun t => t.index).Nodup →
        ((r.apply e₁).registry.apply e₂).registry.tabs =
          ((r.apply e₂).registry.apply e₁).registry.tabs) := by
  simp only [tabs_apply]
  generalize r.tabs = tabs at *
  have hr : Directory.Represents tabs (lookup tabs) := ⟨distinct, rfl⟩
  have h₁₂ : Directory.Represents (e₂.effect (e₁.effect tabs)) _ :=
    (hr.effect h₁).effect (Event.admissible_effect distinct h₁ h₂ apart.symm)
  have h₂₁ : Directory.Represents (e₁.effect (e₂.effect tabs)) _ :=
    (hr.effect h₂).effect (Event.admissible_effect distinct h₂ h₁ apart)
  rw [Directory.step_comm apart peace] at h₁₂
  have hlookup := h₁₂.lookup_eq.trans h₂₁.lookup_eq.symm
  have hperm := perm_of_lookup_eq h₁₂.nodup h₂₁.nodup hlookup
  refine ⟨hperm, fun hindex => ?_⟩
  by_cases hs : e₁.mutation.sorts tabs = true ∨ e₂.mutation.sorts tabs = true
  · exact (Event.inOrder_effects distinct h₁ apart.symm hs).eq_of_perm
      (Event.inOrder_effects distinct h₂ apart hs.symm) hperm hindex
  · -- nothing is sorted: the ids stand in the same places, and so do the records
    simp only [not_or, Bool.not_eq_true] at hs
    have hids : idsOf (e₂.effect (e₁.effect tabs)) = idsOf (e₁.effect (e₂.effect tabs)) := by
      have hs₁ := (Event.sorts_effect distinct h₂ apart).trans hs.1
      have hs₂ := (Event.sorts_effect distinct h₁ apart.symm).trans hs.2
      rw [Event.idsOf_effect hs₁, Event.idsOf_effect hs₂, Event.idsOf_effect hs.1,
        Event.idsOf_effect hs.2, Event.leave_comm]
    have hrebuilt := filterMap_lookup h₂₁.nodup
    rw [← hlookup, ← hids] at hrebuilt
    exact (filterMap_lookup h₁₂.nodup).symm.trans hrebuilt

def windows : Registry where
  tabs := [⟨1, 1, 5, true, none, none, []⟩, ⟨2, 1, 3, false, none, none, []⟩]
  subscriptions := [⟨0, fun n => n == 2, 1⟩]
  nextId := 1

def activated : Event := .updated 2 {} ⟨2, 1, 0, true, none, none, []⟩

def opened : Event := .created ⟨3, 2, 4, true, none, none, []⟩

theorem events_commute_windows :
    activated.tabId ≠ opened.tabId ∧ ¬ activated.Rivals opened ∧
      (((windows.apply activated).registry.apply opened).registry.tabs.map fun t => t.index) =
        [0, 4, 5] ∧
      ((windows.apply activated).registry.apply opened).registry.tabs =
        ((windows.apply opened).registry.apply activated).registry.tabs := by
  have apart : activated.tabId ≠ opened.tabId := by decide
  have peace : ¬ activated.Rivals opened := by
    rintro ⟨t₁, h₁, t₂, h₂, _, _, hw⟩
    obtain rfl := Option.some.inj h₁
    obtain rfl := Option.some.inj h₂
    exact absurd hw (by decide)
  have hindex : (((windows.apply activated).registry.apply opened).registry.tabs.map
      fun t => t.index) = [0, 4, 5] := by cbv
  refine ⟨apart, peace, hindex, ?_⟩
  refine (events_commute windows (by decide) apart rfl rfl peace).2 ?_
  rw [hindex]
  decide

-- with a shared index the tab that was created first stays first
example : idsOf (effects [.created { id := 1, windowId := 1, index := 0 },
      .created { id := 2, windowId := 1, index := 0 }] []) = [1, 2] ∧
    idsOf (effects [.created { id := 2, windowId := 1, index := 0 },
      .created { id := 1, windowId := 1, index := 0 }] []) = [2, 1] := by
  constructor <;> cbv

end Registry

end TabSearch
