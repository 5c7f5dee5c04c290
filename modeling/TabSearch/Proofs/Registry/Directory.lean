import Mathlib.Logic.Function.Basic
import TabSearch.Proofs.Registry.History

namespace TabSearch

def lookup (tabs : List Tab) (id : TabId) : Option Tab := tabs.find? fun t => t.id == id

theorem lookup_cons (t : Tab) (tabs : List Tab) (id : TabId) :
    lookup (t :: tabs) id = if t.id = id then some t else lookup tabs id := by
  by_cases h : t.id = id
  · rw [lookup, List.find?_cons_of_pos (by simpa using h), if_pos h]
  · rw [lookup, List.find?_cons_of_neg (by simpa using h), if_neg h, lookup]

def idsOf (tabs : List Tab) : List TabId := tabs.map fun t => t.id

theorem lookup_eq_some_iff {tabs : List Tab} (hn : (idsOf tabs).Nodup) {id : TabId} {t : Tab} :
    lookup tabs id = some t ↔ t ∈ tabs ∧ t.id = id := by
  induction tabs with
  | nil => simp [lookup]
  | cons u rest ih =>
      obtain ⟨hu, hrest⟩ := List.nodup_cons.mp hn
      rw [lookup_cons, List.mem_cons]
      by_cases hid : u.id = id
      · rw [if_pos hid, Option.some.injEq]
        constructor
        · rintro rfl
          exact ⟨.inl rfl, hid⟩
        · rintro ⟨rfl | hm, ht⟩
          · rfl
          · exact absurd (List.mem_map.mpr ⟨t, hm, ht.trans hid.symm⟩) hu
      · rw [if_neg hid, ih hrest]
        constructor
        · exact fun h => ⟨.inr h.1, h.2⟩
        · rintro ⟨rfl | hm, ht⟩
          · exact absurd ht hid
          · exact ⟨hm, ht⟩

theorem lookup_perm {tabs tabs' : List Tab} (hp : tabs.Perm tabs') (hn : (idsOf tabs).Nodup)
    (id : TabId) : lookup tabs id = lookup tabs' id := by
  have hn' : (idsOf tabs').Nodup := (hp.map _).nodup_iff.mp hn
  ext t
  rw [lookup_eq_some_iff hn, lookup_eq_some_iff hn', hp.mem_iff]

theorem sortByIndex_perm (tabs : List Tab) : (sortByIndex tabs).Perm tabs :=
  List.mergeSort_perm tabs _

theorem nodup_sortByIndex {tabs : List Tab} (hn : (idsOf tabs).Nodup) :
    (idsOf (sortByIndex tabs)).Nodup :=
  ((sortByIndex_perm tabs).map _).nodup_iff.mpr hn

theorem lookup_sortByIndex {tabs : List Tab} (hn : (idsOf tabs).Nodup) (id : TabId) :
    lookup (sortByIndex tabs) id = lookup tabs id :=
  lookup_perm (sortByIndex_perm tabs) (nodup_sortByIndex hn) id

theorem isTracked_eq_isSome (id : TabId) (tabs : List Tab) :
    isTracked id tabs = (lookup tabs id).isSome := by
  induction tabs with
  | nil => rfl
  | cons t rest ih =>
      rw [lookup_cons, isTracked, List.any_cons]
      by_cases h : t.id = id
      · simp [h]
      · rw [beq_eq_false_iff_ne.mpr h, if_neg h]
        exact ih

theorem idsOf_takeFocus (id : TabId) (tab : Tab) (tabs : List Tab) :
    idsOf (takeFocus id tab tabs) = idsOf tabs := by
  rw [idsOf, takeFocus, List.map_map]
  exact List.map_congr_left fun t _ => id_unfocused id tab t

theorem lookup_takeFocus (id : TabId) (tab : Tab) (tabs : List Tab) (i : TabId) :
    lookup (takeFocus id tab tabs) i = (lookup tabs i).map fun t =>
      if losesFocus id tab t then { t with active := false } else t := by
  rw [lookup, takeFocus, List.find?_map]
  have hid : ((fun t : Tab => t.id == i) ∘ fun t =>
      if losesFocus id tab t then { t with active := false } else t) = fun t => t.id == i := by
    funext t
    simp only [Function.comp, id_unfocused]
  rw [hid]
  rfl

theorem idsOf_replaceFirst {id : TabId} {tab : Tab} (ht : tab.id = id) (tabs : List Tab) :
    idsOf (replaceFirst id tab tabs) = idsOf tabs := by
  induction tabs with
  | nil => rfl
  | cons t rest ih =>
      rw [replaceFirst]
      split
      next h => simp [idsOf, ht, h]
      next => simpa [idsOf] using ih

theorem lookup_replaceFirst {id : TabId} {tab : Tab} (ht : tab.id = id) (tabs : List Tab) :
    lookup (replaceFirst id tab tabs) =
      if isTracked id tabs then Function.update (lookup tabs) id (some tab) else lookup tabs := by
  funext i
  induction tabs with
  | nil => rfl
  | cons t rest ih =>
      rw [replaceFirst]
      by_cases h : t.id = id
      · rw [if_pos h, lookup_cons, ht]
        by_cases hi : i = id
        · simp [hi, isTracked, h]
        · simp [isTracked, h, hi, Ne.symm hi, lookup_cons]
      · have hr : isTracked id (t :: rest) = isTracked id rest := by simp [isTracked, h]
        rw [if_neg h, lookup_cons, ih, hr]
        by_cases hi : i = id
        · cases isTracked id rest <;> simp [hi, h, lookup_cons]
        · cases isTracked id rest <;> simp [hi, lookup_cons]

theorem idsOf_removeFirst_eq (id : TabId) (tabs : List Tab) :
    idsOf (removeFirst id tabs) = (idsOf tabs).erase id := by
  induction tabs with
  | nil => rfl
  | cons t rest ih =>
      rw [removeFirst]
      by_cases h : t.id = id
      · simp [idsOf, h]
      · rw [if_neg h, idsOf, List.map_cons, idsOf, List.map_cons,
          List.erase_cons_tail (by simpa using h)]
        exact congrArg _ ih

theorem isTracked_removeFirst {id : TabId} {tabs : List Tab} (hn : (idsOf tabs).Nodup) :
    isTracked id (removeFirst id tabs) = false := by
  rw [isTracked_eq_false]
  intro t ht hid
  have hm : t.id ∈ idsOf (removeFirst id tabs) := List.mem_map_of_mem ht
  rw [idsOf_removeFirst_eq, hid] at hm
  exact hn.not_mem_erase hm

theorem lookup_removeFirst {id : TabId} {tabs : List Tab} (hn : (idsOf tabs).Nodup) :
    lookup (removeFirst id tabs) = Function.update (lookup tabs) id none := by
  funext i
  induction tabs with
  | nil => by_cases hi : i = id <;> simp [removeFirst, lookup, hi]
  | cons t rest ih =>
      obtain ⟨ht, hrest⟩ := List.nodup_cons.mp hn
      have ih := ih hrest
      rw [removeFirst]
      by_cases h : t.id = id
      · have hnone : lookup rest id = none := by
          rw [Option.eq_none_iff_forall_ne_some]
          intro u hu
          obtain ⟨hm, hid⟩ := (lookup_eq_some_iff hrest).mp hu
          exact ht (List.mem_map.mpr ⟨u, hm, hid.trans h.symm⟩)
        rw [if_pos h]
        by_cases hi : i = id
        · simp [hi, hnone]
        · simp [hi, lookup_cons, h, Ne.symm hi]
      · rw [if_neg h, lookup_cons, ih]
        by_cases hi : i = id
        · simp [hi, h]
        · simp [hi, lookup_cons]

theorem lookup_append_singleton {tabs : List Tab} {tab : Tab} (h : isTracked tab.id tabs = false) :
    lookup (tabs ++ [tab]) = Function.update (lookup tabs) tab.id (some tab) := by
  funext i
  rw [isTracked_eq_isSome, Option.isSome_eq_false_iff, Option.isNone_iff_eq_none] at h
  have happ : lookup (tabs ++ [tab]) i = (lookup tabs i).or (lookup [tab] i) := List.find?_append
  rw [happ, lookup_cons]
  by_cases hi : i = tab.id
  · subst hi
    simp [h]
  · rw [if_neg (Ne.symm hi), Function.update_of_ne hi]
    exact Option.or_none

def Mutation.Admissible : Mutation → List Tab → Prop
  | .sync tabs, _ => (idsOf tabs).Nodup
  | .created tab, tabs => isTracked tab.id tabs = false
  | .updated id _ tab, _ => tab.id = id
  | .removed _ _, _ => True

abbrev Directory := TabId → Option Tab

namespace Directory

def ofTabs (tabs : List Tab) : Directory :=
  tabs.foldr (fun t d => Function.update d t.id (some t)) fun _ => none

def clearOthers (id : TabId) (tab : Tab) (d : Directory) : Directory := fun i =>
  (d i).map fun t =>
    if tab.active = true ∧ t.windowId = tab.windowId ∧ i ≠ id then { t with active := false } else t

def step : Mutation → Directory → Directory
  | .sync tabs, _ => ofTabs tabs
  | .created tab, d => Function.update d tab.id (some tab)
  | .updated id _ tab, d =>
      if (d id).isSome then Function.update (d.clearOthers id tab) id (some tab)
      else d.clearOthers id tab
  | .removed id _, d => Function.update d id none

theorem ofTabs_eq_lookup (tabs : List Tab) : ofTabs tabs = lookup tabs := by
  induction tabs with
  | nil => rfl
  | cons t rest ih =>
      funext i
      rw [lookup_cons, ofTabs, List.foldr_cons]
      change Function.update (ofTabs rest) t.id (some t) i = _
      rw [ih]
      by_cases h : t.id = i
      · simp [h]
      · simp [h, Ne.symm h]

structure Represents (tabs : List Tab) (d : Directory) : Prop where
  nodup : (idsOf tabs).Nodup
  lookup_eq : lookup tabs = d

theorem Represents.updated {tabs : List Tab} {d : Directory} (h : Represents tabs d) {id : TabId}
    (info : ChangeInfo) {tab : Tab} (ht : tab.id = id) :
    Represents (Registry.updatedTabs tabs id tab) (step (.updated id info tab) d) := by
  have hcleared : lookup (takeFocus id tab tabs) = d.clearOthers id tab := by
    funext i
    rw [lookup_takeFocus, clearOthers, h.lookup_eq]
    cases hi : d i with
    | none => rfl
    | some t =>
        obtain rfl : t.id = i :=
          ((lookup_eq_some_iff h.nodup).mp ((congrFun h.lookup_eq i).trans hi)).2
        simp only [Option.map_some, losesFocus, Bool.and_eq_true, bne_iff_ne, beq_iff_eq]
        cases ha : t.active with
        | true => simp [and_assoc]
        | false =>
            -- clearing a flag that is not set changes nothing
            have hsame : { t with active := false } = t := by rw [← ha]
            rw [hsame, ite_self, ite_self]
  have hids : (idsOf (takeFocus id tab tabs)).Nodup := idsOf_takeFocus id tab tabs ▸ h.nodup
  have htracked : isTracked id (takeFocus id tab tabs) = (d id).isSome := by
    rw [isTracked_takeFocus, isTracked_eq_isSome, h.lookup_eq]
  rw [Registry.updatedTabs, step, htracked]
  cases hs : (d id).isSome with
  | true =>
      have hn : (idsOf (replaceFirst id tab (takeFocus id tab tabs))).Nodup := by
        rw [idsOf_replaceFirst ht]
        exact hids
      simp only [if_true]
      refine ⟨nodup_sortByIndex hn, funext fun i => ?_⟩
      rw [lookup_sortByIndex hn, lookup_replaceFirst ht, htracked, hs, hcleared]
      rfl
  | false => exact ⟨hids, hcleared⟩

theorem Represents.effect {tabs : List Tab} {d : Directory} (h : Represents tabs d) {m : Mutation}
    (hm : m.Admissible tabs) : Represents (m.effect tabs) (step m d) := by
  cases m with
  | sync new => exact ⟨hm, (ofTabs_eq_lookup new).symm⟩
  | created tab =>
      have hm : isTracked tab.id tabs = false := hm
      have hn : (idsOf (tabs ++ [tab])).Nodup := by
        rw [isTracked_eq_false] at hm
        rw [idsOf, List.map_append, List.nodup_append]
        refine ⟨h.nodup, by simp, ?_⟩
        rintro i hi j hj rfl
        obtain ⟨t, ht, rfl⟩ := List.mem_map.mp hi
        exact hm t ht (by simpa using hj)
      refine ⟨nodup_sortByIndex hn, funext fun i => ?_⟩
      rw [Mutation.effect, lookup_sortByIndex hn, lookup_append_singleton hm, h.lookup_eq, step]
  | updated id info tab => exact h.updated info hm
  | removed id info =>
      refine ⟨idsOf_removeFirst_eq id tabs ▸ h.nodup.erase id, ?_⟩
      rw [Mutation.effect, lookup_removeFirst h.nodup, h.lookup_eq, step]

def run (ms : List Mutation) (d : Directory) : Directory := ms.foldl (fun d m => d.step m) d

end Directory

namespace Registry

def Admits (r : Registry) : List Mutation → Prop
  | [] => True
  | m :: ms => m.Admissible r.tabs ∧ (r.perform (.mutate m)).registry.Admits ms

theorem represents_performAll {r : Registry} {d : Directory} (h : Directory.Represents r.tabs d)
    {ms : List Mutation} (hm : r.Admits ms) :
    Directory.Represents (r.performAll (ms.map .mutate)).tabs (Directory.run ms d) := by
  induction ms generalizing r d with
  | nil => exact h
  | cons m ms ih =>
      have hstep := h.effect hm.1
      rw [← tabs_mutate] at hstep
      exact ih hstep hm.2

theorem registry_refines_directory (subs : List Subscription) (n : Nat) (ms : List Mutation)
    (h : Admits ⟨[], subs, n⟩ ms) :
    (idsOf (performAll ⟨[], subs, n⟩ (ms.map .mutate)).tabs).Nodup ∧
      ∀ id, lookup (performAll ⟨[], subs, n⟩ (ms.map .mutate)).tabs id =
        Directory.run ms (fun _ => none) id := by
  have hr := represents_performAll (r := ⟨[], subs, n⟩) (d := fun _ => none) ⟨List.nodup_nil, rfl⟩ h
  exact ⟨hr.nodup, congrFun hr.lookup_eq⟩

def focusMoves : List Mutation :=
  [.sync [⟨1, 1, 5, true, none, none, []⟩, ⟨2, 1, 3, false, none, none, []⟩],
    .created ⟨3, 1, 4, false, none, none, []⟩,
    .updated 3 {} ⟨3, 1, 0, true, some "c", none, []⟩,
    .removed 2 {}]

theorem registry_refines_directory_focus :
    Admits ⟨[], [], 0⟩ focusMoves ∧
      lookup (performAll ⟨[], [], 0⟩ (focusMoves.map .mutate)).tabs 1 =
        some ⟨1, 1, 5, false, none, none, []⟩ ∧
      lookup (performAll ⟨[], [], 0⟩ (focusMoves.map .mutate)).tabs 2 = none ∧
      lookup (performAll ⟨[], [], 0⟩ (focusMoves.map .mutate)).tabs 3 =
        some ⟨3, 1, 0, true, some "c", none, []⟩ := by
  have h : Admits ⟨[], [], 0⟩ focusMoves :=
    ⟨by simp [Mutation.Admissible, idsOf], rfl, rfl, trivial, trivial⟩
  obtain ⟨_, hl⟩ := registry_refines_directory [] 0 focusMoves h
  exact ⟨h, (hl 1).trans rfl, (hl 2).trans rfl, (hl 3).trans rfl⟩

end Registry

end TabSearch
