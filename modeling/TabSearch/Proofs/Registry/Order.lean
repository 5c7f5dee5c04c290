import TabSearch.Proofs.Registry.Step

namespace TabSearch

def InOrder (tabs : List Tab) : Prop := tabs.Pairwise fun a b => a.index ≤ b.index

instance (tabs : List Tab) : Decidable (InOrder tabs) :=
  inferInstanceAs (Decidable (tabs.Pairwise fun a b => a.index ≤ b.index))

theorem index_le_trans (a b c : Tab) (hab : decide (a.index ≤ b.index) = true)
    (hbc : decide (b.index ≤ c.index) = true) : decide (a.index ≤ c.index) = true := by
  simp only [decide_eq_true_eq] at hab hbc ⊢
  exact Nat.le_trans hab hbc

theorem index_le_total (a b : Tab) :
    (decide (a.index ≤ b.index) || decide (b.index ≤ a.index)) = true := by
  simp only [Bool.or_eq_true, decide_eq_true_eq]
  exact Nat.le_total a.index b.index

theorem inOrder_sortByIndex (tabs : List Tab) : InOrder (sortByIndex tabs) := by
  have h := List.pairwise_mergeSort index_le_trans index_le_total tabs
  simp only [decide_eq_true_eq] at h
  exact h

theorem InOrder.takeFocus {tabs : List Tab} (h : InOrder tabs) (id : TabId) (tab : Tab) :
    InOrder (takeFocus id tab tabs) := by
  rw [InOrder, TabSearch.takeFocus, List.pairwise_map]
  simp only [index_unfocused]
  exact h

theorem removeFirst_sublist (id : TabId) (tabs : List Tab) : (removeFirst id tabs).Sublist tabs := by
  induction tabs with
  | nil => exact .slnil
  | cons t rest ih =>
      rw [removeFirst]
      split
      · exact List.sublist_cons_self t rest
      · exact ih.cons_cons t

theorem InOrder.removeFirst {tabs : List Tab} (h : InOrder tabs) (id : TabId) :
    InOrder (removeFirst id tabs) :=
  h.sublist (removeFirst_sublist id tabs)

namespace Mutation

def Orderly : Mutation → Prop
  | .sync tabs => InOrder tabs
  | _ => True

def sorts : Mutation → List Tab → Bool
  | .created _, _ => true
  | .updated id _ _, tabs => isTracked id tabs
  | _, _ => false

theorem inOrder_of_sorts {m : Mutation} {tabs : List Tab} (h : m.sorts tabs = true) :
    InOrder (m.effect tabs) := by
  cases m with
  | sync new => cases h
  | created tab => exact inOrder_sortByIndex _
  | updated id info tab =>
      rw [effect, updatedTabs_of_tracked tab h]
      exact inOrder_sortByIndex _
  | removed id info => cases h

theorem inOrder_effect {m : Mutation} {tabs : List Tab} (hm : m.Orderly) (h : InOrder tabs) :
    InOrder (m.effect tabs) := by
  cases m with
  | sync new => exact hm
  | created tab => exact inOrder_sortByIndex _
  | updated id info tab =>
      rw [effect, Registry.updatedTabs]
      split
      · exact inOrder_sortByIndex _
      · exact h.takeFocus id tab
  | removed id info => exact h.removeFirst id

end Mutation

theorem Event.orderly_mutation (e : Event) : e.mutation.Orderly := by
  cases e <;> trivial

namespace Operation

def Orderly : Operation → Prop
  | .mutate m => m.Orderly
  | _ => True

def Sorts (op : Operation) (tabs : List Tab) : Prop := ∃ m ∈ op.mutation?, m.sorts tabs = true

theorem inOrder_of_sorts {op : Operation} {tabs : List Tab} (h : op.Sorts tabs) :
    InOrder (op.effect tabs) := by
  obtain ⟨m, hm, hs⟩ := h
  rw [effect, Option.mem_def.mp hm]
  exact Mutation.inOrder_of_sorts hs

theorem inOrder_effect {op : Operation} {tabs : List Tab} (ho : op.Orderly) (h : InOrder tabs) :
    InOrder (op.effect tabs) := by
  cases op with
  | mutate m => exact Mutation.inOrder_effect ho h
  | apply e => exact Mutation.inOrder_effect e.orderly_mutation h
  | subscribe panics => exact h
  | unsubscribe id => exact h
  | attach s => exact h

end Operation

namespace Registry

structure EndsInOrder (r : Registry) (ops : List Operation) : Prop where
  tabs : InOrder (r.performAll ops).tabs
  snapshots : ∀ d ∈ r.delivered ops, InOrder d.2

theorem EndsInOrder.cons {r : Registry} {op : Operation} {ops : List Operation} (hs : op.Single)
    (he : InOrder (op.effect r.tabs)) (h : (r.perform op).registry.EndsInOrder ops) :
    r.EndsInOrder (op :: ops) := by
  refine ⟨h.tabs, fun d hm => ?_⟩
  rw [delivered_cons] at hm
  rcases List.mem_append.mp hm with hm | hm
  · rw [(perform_single hs).2 d hm]
    exact he
  · exact h.snapshots d hm

theorem endsInOrder_of_orderly {r : Registry} (h : InOrder r.tabs) {ops : List Operation}
    (hs : ∀ op ∈ ops, op.Single) (ho : ∀ op ∈ ops, op.Orderly) : r.EndsInOrder ops := by
  have hm : r.Meets (fun op _ => op.Orderly) ops := meets_of_forall r fun op hop _ => ho op hop
  obtain ⟨htabs, hsnapshots⟩ := hm.keeps (fun _ _ => Operation.inOrder_effect) h hs
  exact ⟨htabs, hsnapshots⟩

theorem endsInOrder_of_sorts {r : Registry} {op : Operation} (h : op.Sorts r.tabs)
    {ops : List Operation} (hs : ∀ o ∈ op :: ops, o.Single) (ho : ∀ o ∈ ops, o.Orderly) :
    r.EndsInOrder (op :: ops) := by
  have hop : op.Single := hs op (by simp)
  have he : InOrder (op.effect r.tabs) := Operation.inOrder_of_sorts h
  have hrest : (r.perform op).registry.EndsInOrder ops :=
    endsInOrder_of_orderly ((perform_single hop).1 ▸ he) (fun o hm => hs o (by simp [hm])) ho
  exact hrest.cons hop he

theorem EndsInOrder.of_steps {r : Registry} {ops : List Operation}
    (h : r.EndsInOrder (r.steps ops)) : r.EndsInOrder ops := by
  constructor
  · exact performAll_steps r ops ▸ h.tabs
  · exact delivered_steps r ops ▸ h.snapshots

theorem index_order_of_runs (ops : List Operation) :
    ((∀ op ∈ ops, op.Orderly) →
      empty.EndsInOrder ops ∧ ∀ before, before <+: empty.steps ops → empty.EndsInOrder before) ∧
    ∀ before op after, before ++ op :: after <+: empty.steps ops →
      op.Sorts (empty.performAll before).tabs → (∀ o ∈ after, o.Orderly) →
      (empty.performAll before).EndsInOrder (op :: after) := by
  have hsingle : ∀ op ∈ empty.steps ops, op.Single := fun op h => (mem_steps h).1
  have hempty : InOrder empty.tabs := List.Pairwise.nil
  constructor
  · intro ho
    have horderly : ∀ op ∈ empty.steps ops, op.Orderly := by
      intro op h
      rcases (mem_steps h).2 with hop | ⟨e, rfl⟩
      · exact ho op hop
      · trivial
    have hsteps (before : List Operation) (hb : before <+: empty.steps ops) :
        empty.EndsInOrder before :=
      endsInOrder_of_orderly hempty (fun op h => hsingle op (hb.subset h))
        fun op h => horderly op (hb.subset h)
    exact ⟨(hsteps _ (List.prefix_refl _)).of_steps, hsteps⟩
  · intro before op after hb hsorts ho
    refine endsInOrder_of_sorts hsorts (fun o h => hsingle o (hb.subset ?_)) ho
    exact List.mem_append_right before h

def disturbed : List Operation :=
  [.subscribe fun n => n == 3,
    .mutate (.sync [⟨1, 1, 5, false, none, none, []⟩, ⟨2, 1, 3, false, none, none, []⟩]),
    .attach ([.removed 9 {}, .created ⟨3, 1, 4, false, none, none, []⟩, .removed 1 {}] : Queue),
    .mutate (.updated 8 {} ⟨8, 1, 0, true, none, none, []⟩)]

theorem steps_disturbed : empty.steps disturbed =
    disturbed.take 2 ++ [.apply (.removed 9 {}),
      .apply (.created ⟨3, 1, 4, false, none, none, []⟩)] ++ disturbed.drop 3 := by
  simp only [disturbed, steps, stepsOf, Source.items_queue]
  rfl

theorem index_order_of_runs_disturbed :
    ¬ InOrder (empty.performAll (disturbed.take 2)).tabs ∧
      (empty.performAll (disturbed.take 2 ++ [.apply (.removed 9 {})])).EndsInOrder
        (.apply (.created ⟨3, 1, 4, false, none, none, []⟩) :: disturbed.drop 3) ∧
      empty.EndsInOrder [.mutate (.sync [⟨2, 1, 3, false, none, none, []⟩,
        ⟨1, 1, 5, false, none, none, []⟩]), .mutate (.removed 2 {})] := by
  refine ⟨by decide, ?_, ?_⟩
  · refine (index_order_of_runs disturbed).2 _ _ _ ?_ ⟨_, rfl, rfl⟩ ?_
    · rw [steps_disturbed]
      exact List.prefix_refl _
    · intro o ho
      obtain rfl := List.mem_singleton.mp ho
      trivial
  · refine ((index_order_of_runs _).1 ?_).1
    simp [Operation.Orderly, Mutation.Orderly, InOrder]

end Registry

end TabSearch
