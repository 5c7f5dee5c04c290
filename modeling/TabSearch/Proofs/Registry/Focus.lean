import TabSearch.Proofs.Registry.Directory
import TabSearch.Proofs.Registry.Order

namespace TabSearch

def activeIn (w : WindowId) (tabs : List Tab) : List Tab :=
  tabs.filter fun t => t.active && t.windowId == w

theorem mem_activeIn {w : WindowId} {tabs : List Tab} {t : Tab} :
    t ∈ activeIn w tabs ↔ t ∈ tabs ∧ t.active = true ∧ t.windowId = w := by
  simp only [activeIn, List.mem_filter, Bool.and_eq_true, beq_iff_eq]

theorem activeIn_cons (w : WindowId) (t : Tab) (tabs : List Tab) :
    activeIn w (t :: tabs) =
      if t.active = true ∧ t.windowId = w then t :: activeIn w tabs else activeIn w tabs := by
  simp [activeIn, List.filter_cons]

theorem activeIn_perm {tabs tabs' : List Tab} (h : tabs.Perm tabs') (w : WindowId) :
    (activeIn w tabs).Perm (activeIn w tabs') := h.filter _

theorem activeIn_takeFocus (id : TabId) (tab : Tab) (w : WindowId) (tabs : List Tab) :
    activeIn w (takeFocus id tab tabs) =
      (activeIn w tabs).filter fun t => !losesFocus id tab t := by
  induction tabs with
  | nil => rfl
  | cons t rest ih =>
      have hcons : takeFocus id tab (t :: rest) =
          (if losesFocus id tab t then { t with active := false } else t) ::
            takeFocus id tab rest := rfl
      rw [hcons, activeIn_cons, activeIn_cons, ih]
      cases hl : losesFocus id tab t with
      | true =>
          simp only [if_true, Bool.false_eq_true, false_and, if_false]
          split <;> simp [hl]
      | false =>
          simp only [Bool.false_eq_true, if_false]
          split <;> simp [hl]

theorem replaceFirst_perm {id : TabId} (tab : Tab) {tabs : List Tab}
    (h : isTracked id tabs = true) :
    (replaceFirst id tab tabs).Perm (tab :: removeFirst id tabs) := by
  induction tabs with
  | nil => cases h
  | cons t rest ih =>
      rw [replaceFirst, removeFirst]
      by_cases hid : t.id = id
      · rw [if_pos hid, if_pos hid]
      · have hrest : isTracked id rest = true := by simpa [isTracked, hid] using h
        rw [if_neg hid, if_neg hid]
        exact ((ih hrest).cons t).trans (.swap tab t _)

theorem updatedTabs_perm {id : TabId} (tab : Tab) {tabs : List Tab} (h : isTracked id tabs = true) :
    (Registry.updatedTabs tabs id tab).Perm (tab :: removeFirst id (takeFocus id tab tabs)) := by
  have ht : isTracked id (takeFocus id tab tabs) = true := by rw [isTracked_takeFocus, h]
  rw [updatedTabs_of_tracked tab h]
  exact (sortByIndex_perm _).trans (replaceFirst_perm tab ht)

theorem activeIn_others {id : TabId} {tab : Tab} (ha : tab.active = true) {tabs : List Tab}
    (hn : (idsOf tabs).Nodup) :
    activeIn tab.windowId (removeFirst id (takeFocus id tab tabs)) = [] := by
  rw [List.eq_nil_iff_forall_not_mem]
  intro t ht
  obtain ⟨hmem, hactive, hwindow⟩ := mem_activeIn.mp ht
  have hgone : isTracked id (removeFirst id (takeFocus id tab tabs)) = false :=
    isTracked_removeFirst (idsOf_takeFocus id tab tabs ▸ hn)
  have hid : t.id ≠ id := isTracked_eq_false.mp hgone t hmem
  have hkept : t ∈ activeIn tab.windowId (takeFocus id tab tabs) :=
    mem_activeIn.mpr ⟨(removeFirst_sublist id _).subset hmem, hactive, hwindow⟩
  rw [activeIn_takeFocus, List.mem_filter] at hkept
  have hloses : losesFocus id tab t = true := by simp [losesFocus, ha, hactive, hwindow, hid]
  simp [hloses] at hkept

theorem activeIn_updatedTabs {id : TabId} {tab : Tab} (ha : tab.active = true) {tabs : List Tab}
    (hn : (idsOf tabs).Nodup) :
    activeIn tab.windowId (Registry.updatedTabs tabs id tab) =
      if isTracked id tabs then [tab] else [] := by
  have hothers : activeIn tab.windowId (removeFirst id (takeFocus id tab tabs)) = [] :=
    activeIn_others ha hn
  cases ht : isTracked id tabs with
  | true =>
      have hp := activeIn_perm (updatedTabs_perm tab ht) tab.windowId
      rw [activeIn_cons, if_pos ⟨ha, rfl⟩, hothers] at hp
      exact List.perm_singleton.mp hp
  | false =>
      have hgone : isTracked id (takeFocus id tab tabs) = false := by rw [isTracked_takeFocus, ht]
      rw [removeFirst_of_untracked hgone] at hothers
      rw [updatedTabs_of_untracked tab ht]
      exact hothers

structure Focused (tabs : List Tab) : Prop where
  distinct : (idsOf tabs).Nodup
  single : ∀ w, (activeIn w tabs).length ≤ 1

theorem Focused.empty : Focused [] := ⟨List.nodup_nil, fun _ => Nat.zero_le 1⟩

theorem activeIn_length_of_sublist {tabs tabs' : List Tab} (h : tabs.Sublist tabs') (w : WindowId) :
    (activeIn w tabs).length ≤ (activeIn w tabs').length := (h.filter _).length_le

theorem Focused.single_updated {tabs : List Tab} (h : Focused tabs) (id : TabId) (tab : Tab)
    (w : WindowId) : (activeIn w (Registry.updatedTabs tabs id tab)).length ≤ 1 := by
  by_cases hw : tab.active = true ∧ tab.windowId = w
  · obtain ⟨ha, rfl⟩ := hw
    rw [activeIn_updatedTabs ha h.distinct]
    split <;> simp
  · -- the tab is not one of those counted, and the others lose the focus or stay as they were
    have hkept : (activeIn w (takeFocus id tab tabs)).length ≤ 1 := by
      rw [activeIn_takeFocus]
      exact Nat.le_trans (List.length_filter_le _ _) (h.single w)
    cases ht : isTracked id tabs with
    | true =>
        have hp := activeIn_perm (updatedTabs_perm tab ht) w
        have hs := removeFirst_sublist id (takeFocus id tab tabs)
        rw [activeIn_cons, if_neg hw] at hp
        rw [hp.length_eq]
        exact Nat.le_trans (activeIn_length_of_sublist hs w) hkept
    | false =>
        rw [updatedTabs_of_untracked tab ht]
        exact hkept

def Mutation.Unrivalled : Mutation → List Tab → Prop
  | .sync tabs, _ => ∀ w, (activeIn w tabs).length ≤ 1
  | .created tab, tabs => tab.active = true → activeIn tab.windowId tabs = []
  | .updated _ _ _, _ => True
  | .removed _ _, _ => True

theorem Focused.single_created {tabs : List Tab} (h : Focused tabs) {tab : Tab}
    (hu : tab.active = true → activeIn tab.windowId tabs = []) (w : WindowId) :
    (activeIn w (sortByIndex (tabs ++ [tab]))).length ≤ 1 := by
  have hp := activeIn_perm (sortByIndex_perm (tabs ++ [tab])) w
  have happ : activeIn w (tabs ++ [tab]) = activeIn w tabs ++ activeIn w [tab] :=
    List.filter_append ..
  rw [hp.length_eq, happ, activeIn_cons]
  by_cases hw : tab.active = true ∧ tab.windowId = w
  · obtain ⟨ha, rfl⟩ := hw
    rw [hu ha, if_pos ⟨ha, rfl⟩]
    exact Nat.le_refl 1
  · rw [if_neg hw]
    exact (List.append_nil (activeIn w tabs)).symm ▸ h.single w

theorem Focused.effect {tabs : List Tab} (h : Focused tabs) {m : Mutation}
    (hm : m.Admissible tabs) (hu : m.Unrivalled tabs) : Focused (m.effect tabs) := by
  have hr : Directory.Represents tabs (lookup tabs) := ⟨h.distinct, rfl⟩
  refine ⟨(hr.effect hm).nodup, fun w => ?_⟩
  cases m with
  | sync new => exact hu w
  | created tab => exact h.single_created hu w
  | updated id info tab => exact h.single_updated id tab w
  | removed id info =>
      have hs := removeFirst_sublist id tabs
      exact Nat.le_trans (activeIn_length_of_sublist hs w) (h.single w)

def Operation.Careful (op : Operation) (tabs : List Tab) : Prop :=
  ∀ m ∈ op.mutation?, m.Admissible tabs ∧ m.Unrivalled tabs

theorem Focused.step (op : Operation) (tabs : List Tab) (hc : op.Careful tabs) (h : Focused tabs) :
    Focused (op.effect tabs) := by
  rw [Operation.effect]
  cases hm : op.mutation? with
  | none => exact h
  | some m =>
      obtain ⟨hadmissible, hunrivalled⟩ := hc m hm
      exact h.effect hadmissible hunrivalled

namespace Registry

theorem one_active_tab_per_window (ops : List Operation)
    (careful : empty.Meets Operation.Careful (empty.steps ops)) :
    (∀ w, (activeIn w (empty.performAll ops).tabs).length ≤ 1) ∧
    (∀ before, before <+: empty.steps ops →
      ∀ w, (activeIn w (empty.performAll before).tabs).length ≤ 1) ∧
    (∀ d ∈ empty.delivered ops, ∀ w, (activeIn w d.2).length ≤ 1) ∧
    ∀ before op after id info tab, empty.steps ops = before ++ op :: after →
      op.mutation? = some (.updated id info tab) → tab.active = true →
      activeIn tab.windowId ((empty.performAll before).perform op).registry.tabs =
        if isTracked id (empty.performAll before).tabs then [tab] else [] := by
  have hsingle : ∀ op ∈ empty.steps ops, op.Single := fun op h => (mem_steps h).1
  have hempty : Focused empty.tabs := Focused.empty
  have hreached : ∀ before, before <+: empty.steps ops →
      Focused (empty.performAll before).tabs := by
    rintro before ⟨after, hsplit⟩
    have hbefore : empty.Meets Operation.Careful before := (hsplit ▸ careful).append.1
    have hs : ∀ op ∈ before, op.Single := fun op h =>
      hsingle op (hsplit ▸ List.mem_append_left after h)
    exact (hbefore.keeps Focused.step hempty hs).1
  obtain ⟨hafter, hsnapshots⟩ := careful.keeps Focused.step hempty hsingle
  rw [performAll_steps] at hafter
  rw [delivered_steps] at hsnapshots
  refine ⟨hafter.single, fun before hb => (hreached before hb).single,
    fun d hd => (hsnapshots d hd).single, ?_⟩
  intro before op after id info tab hsplit hm ha
  have hfocused : Focused (empty.performAll before).tabs :=
    hreached before ⟨op :: after, hsplit.symm⟩
  have hop : op.Single := hsingle op (hsplit ▸ by simp)
  rw [(perform_single hop).1, Operation.effect, hm]
  exact activeIn_updatedTabs ha hfocused.distinct

def activations : List Operation :=
  [.subscribe fun n => n == 4,
    .mutate (.sync [⟨1, 1, 0, true, none, none, []⟩, ⟨2, 1, 1, false, none, none, []⟩,
      ⟨3, 2, 0, true, none, none, []⟩]),
    .apply (.updated 9 {} ⟨9, 1, 0, true, none, none, []⟩),
    .attach ([.updated 2 {} ⟨2, 2, 5, true, none, none, []⟩, .removed 2 {}] : Queue)]

theorem steps_activations : empty.steps activations =
    activations.take 3 ++ [.apply (.updated 2 {} ⟨2, 2, 5, true, none, none, []⟩)] := by
  simp only [activations, steps, stepsOf, Source.items_queue]
  rfl

theorem activations_careful : empty.Meets Operation.Careful (empty.steps activations) := by
  rw [steps_activations]
  refine ⟨?_, ?_, ?_, ?_, trivial⟩
  · rintro m ⟨⟩
  · rintro m ⟨⟩
    refine ⟨by simp [Mutation.Admissible, idsOf], fun w => ?_⟩
    -- the two active tabs are in windows of their own
    by_cases hw : w = 1
    · subst hw
      decide
    · simp only [activeIn_cons, true_and, Ne.symm hw, if_false, Bool.false_eq_true, false_and]
      split <;> simp [activeIn]
  · rintro m ⟨⟩
    exact ⟨rfl, trivial⟩
  · rintro m ⟨⟩
    exact ⟨rfl, trivial⟩

theorem one_active_tab_per_window_activations :
    empty.Meets Operation.Careful (empty.steps activations) ∧
      activeIn 1 (empty.performAll (activations.take 3)).tabs = [] ∧
      activeIn 2 (empty.performAll activations).tabs = [⟨2, 2, 5, true, none, none, []⟩] := by
  have careful := activations_careful
  obtain ⟨_, _, _, hupdates⟩ := one_active_tab_per_window activations careful
  have huntracked := hupdates (activations.take 2) _ [.apply _] 9 {} _ steps_activations rfl rfl
  have hmoved := hupdates (activations.take 3) _ [] 2 {} _ steps_activations rfl rfl
  refine ⟨careful, huntracked.trans rfl, ?_⟩
  rw [← performAll_steps, steps_activations]
  exact hmoved.trans rfl

end Registry

end TabSearch
