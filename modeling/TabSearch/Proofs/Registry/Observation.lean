import TabSearch.Proofs.Registry.Numbering

namespace TabSearch

def Source.leading {σ : Type} [Source σ] (s : σ) : List Event :=
  ((Source.items s).takeWhile Except.isOk).filterMap Except.toOption

namespace Operation

def mutations : Operation → List Mutation
  | .subscribe _ => []
  | .unsubscribe _ => []
  | .mutate m => [m]
  | .apply e => [e.mutation]
  | @Operation.attach _ _ s => (Source.leading s).map Event.mutation

end Operation

def received (id : Nat) (ds : List (Nat × List Tab)) : List (List Tab) :=
  ds.filterMap fun d => if d.1 = id then some d.2 else none

def tell (ids : List Nat) (tabs : List Tab) : List (Nat × List Tab) := ids.map fun id => (id, tabs)

theorem received_append (id : Nat) (xs ys : List (Nat × List Tab)) :
    received id (xs ++ ys) = received id xs ++ received id ys := List.filterMap_append

theorem received_tell (id : Nat) (tabs : List Tab) {ids : List Nat} (hn : ids.Nodup) :
    received id (tell ids tabs) = if id ∈ ids then [tabs] else [] := by
  induction ids with
  | nil => rfl
  | cons i rest ih =>
      obtain ⟨hi, hrest⟩ := List.nodup_cons.mp hn
      rw [tell, List.map_cons, ← List.singleton_append, received_append]
      change received id [(i, tabs)] ++ received id (tell rest tabs) = _
      rw [ih hrest]
      by_cases h : i = id
      · subst h
        simp [received, hi]
      · simp [received, h, Ne.symm h]

theorem received_flatMap_tell (id : Nat) (snapshots : List (List Tab)) {ids : List Nat}
    (hn : ids.Nodup) :
    received id (snapshots.flatMap (tell ids)) = if id ∈ ids then snapshots else [] := by
  induction snapshots with
  | nil => simp [received]
  | cons tabs rest ih =>
      rw [List.flatMap_cons, received_append, received_tell id tabs hn, ih]
      split <;> rfl

namespace Registry

def announcedBy (r : Registry) : List Mutation → List (List Tab)
  | [] => []
  | m :: ms => match (r.mutate m).result with
      | .ok true => (r.mutate m).registry.tabs :: (r.mutate m).registry.announcedBy ms
      | _ => (r.mutate m).registry.announcedBy ms

def announced (r : Registry) : List Operation → List (List Tab)
  | [] => []
  | op :: ops => r.announcedBy op.mutations ++ (r.perform op).registry.announced ops

def delivered (r : Registry) (ops : List Operation) : List (Nat × List Tab) :=
  (r.heard ops).filterMap Occurrence.delivery?

theorem delivered_cons (r : Registry) (op : Operation) (ops : List Operation) :
    r.delivered (op :: ops) = (r.perform op).deliveries ++ (r.perform op).registry.delivered ops :=
  List.filterMap_append

theorem delivered_mutate {r : Registry} (hc : r.Calm) (m : Mutation) :
    (r.mutate m).deliveries = (r.announcedBy [m]).flatMap (tell r.ids) := by
  obtain ⟨hok, hheard⟩ := mutate_of_calm hc m
  rw [hheard, announcedBy, hok]
  cases m.announces r.tabs <;> simp [announcedBy, tell]

theorem announcedBy_cons (r : Registry) (m : Mutation) (ms : List Mutation) :
    r.announcedBy (m :: ms) = r.announcedBy [m] ++ (r.mutate m).registry.announcedBy ms := by
  rw [announcedBy, announcedBy]
  split <;> rfl

theorem Calm.performAll_calls {r : Registry} (hc : r.Calm) (es : List Event) :
    (r.performAll (calls es)).Calm ∧
      r.delivered (calls es) = (r.announcedBy (es.map Event.mutation)).flatMap (tell r.ids) := by
  induction es generalizing r with
  | nil => exact ⟨hc, rfl⟩
  | cons e es ih =>
      have hreg := perform_apply r e
      have hd : (r.perform (.apply e)).deliveries = (r.mutate e.mutation).deliveries := by
        rw [perform, Run.deliveries_eq, Run.map, apply_eq_mutate]
        rfl
      obtain ⟨hcalm, hrest⟩ := ih (hc.mutate e.mutation)
      constructor
      · rw [calls, List.map_cons, performAll, hreg]
        exact hcalm
      · rw [calls, List.map_cons, delivered_cons, hreg, hd, delivered_mutate hc, List.map_cons,
          announcedBy_cons r e.mutation (es.map _), List.flatMap_append, ← calls, hrest, ids_mutate]

theorem leading_of_items {σ : Type} [Source σ] {s : σ} {es : List Event}
    {rest : List (Except InputError Event)} (h : Source.items s = es.map .ok ++ rest)
    (hr : rest.takeWhile Except.isOk = []) : Source.leading s = es := by
  rw [Source.leading, h, List.takeWhile_append_of_pos (by simp [Except.isOk, Except.toBool]), hr,
    List.append_nil, List.filterMap_map]
  exact List.filterMap_some

theorem attach_of_calm {σ : Type} [Source σ] {r : Registry} (hc : r.Calm) (s : σ) :
    (r.attach s).1.registry = r.performAll (calls (Source.leading s)) ∧
      (r.attach s).1.deliveries = r.delivered (calls (Source.leading s)) := by
  generalize hrun : r.attach s = run
  have h := hrun ▸ attach_concludes r s
  cases h with
  | exhausted es all endures =>
      rw [leading_of_items (all.trans (List.append_nil _).symm) rfl]
      exact ⟨rfl, by simp [Run.deliveries_eq, delivered, Occurrence.delivery?]⟩
  | failed es e rest all endures =>
      rw [leading_of_items all rfl]
      exact ⟨rfl, rfl⟩
  | panicked es e id rest all endures panics =>
      have hok := (mutate_of_calm (hc.performAll_calls es).1 e.mutation).1
      rw [← apply_eq_mutate, panics] at hok
      cases hok

theorem Calm.perform {r : Registry} (hc : r.Calm) {op : Operation} (ho : op.Calm) :
    (r.perform op).registry.Calm := by
  cases op with
  | subscribe panics => exact hc.subscribe ho
  | unsubscribe id => exact hc.unsubscribe id
  | mutate m => exact hc.mutate m
  | apply e => exact perform_apply r e ▸ hc.mutate e.mutation
  | attach s => exact (attach_of_calm hc s).1 ▸ (hc.performAll_calls _).1

theorem deliveries_perform {r : Registry} (hc : r.Calm) (op : Operation) :
    (∃ panics, op = .subscribe panics ∧ (r.perform op).deliveries = [(r.nextId, r.tabs)]) ∨
      ((∀ panics, op ≠ .subscribe panics) ∧
        (r.perform op).deliveries = (r.announcedBy op.mutations).flatMap (tell r.ids)) := by
  cases op with
  | subscribe panics => exact .inl ⟨panics, rfl, (tabs_subscribe r panics).2.2⟩
  | unsubscribe id => exact .inr ⟨by simp, (nextId_unsubscribe r id).2.2⟩
  | mutate m => exact .inr ⟨by simp, delivered_mutate hc m⟩
  | apply e =>
      refine .inr ⟨by simp, ?_⟩
      rw [perform, Run.deliveries_eq, Run.map, apply_eq_mutate]
      exact delivered_mutate hc e.mutation
  | attach s =>
      refine .inr ⟨by simp, ?_⟩
      exact (attach_of_calm hc s).2.trans (hc.performAll_calls _).2

theorem received_of_gone {r : Registry} (hr : r.Numbered) (hc : r.Calm) {id : Nat}
    (hid : id ∉ r.ids) (hlt : id < r.nextId) {ops : List Operation} (ho : ∀ op ∈ ops, op.Calm) :
    received id (r.delivered ops) = [] := by
  induction ops generalizing r with
  | nil => rfl
  | cons op ops ih =>
      have hop := ho op (by simp)
      have hgone := not_mem_ids_perform hr hid hlt op
      have hlt' := Nat.lt_of_lt_of_le hlt (nextId_le_perform r op)
      rw [delivered_cons, received_append,
        ih (hr.perform op) (hc.perform hop) hgone hlt' fun o h => ho o (by simp [h]),
        List.append_nil]
      rcases deliveries_perform hc op with ⟨_, _, hd⟩ | ⟨_, hd⟩
      · have hne : r.nextId ≠ id := by omega
        rw [hd]
        simp [received, hne]
      · rw [hd, received_flatMap_tell id _ hr.nodup, if_neg hid]

theorem received_of_live {r : Registry} (hr : r.Numbered) (hc : r.Calm) {id : Nat}
    (hid : id ∈ r.ids) {ops : List Operation} (ho : ∀ op ∈ ops, op.Calm) :
    received id (r.delivered ops) = r.announced (ops.takeWhile fun op => !op.drops id) := by
  induction ops generalizing r with
  | nil => rfl
  | cons op ops ih =>
      have hop := ho op (by simp)
      have hlt := hr.below id hid
      have hrest : ∀ o ∈ ops, o.Calm := fun o h => ho o (by simp [h])
      rw [delivered_cons, received_append]
      cases hd : op.drops id with
      | true =>
          have hgone : id ∉ (r.perform op).registry.ids := by
            rw [mem_ids_perform hr hop]
            rintro (⟨_, h⟩ | ⟨_, h⟩)
            · rw [hd] at h
              cases h
            · omega
          have hlt' := Nat.lt_of_lt_of_le hlt (nextId_le_perform r op)
          rw [received_of_gone (hr.perform op) (hc.perform hop) hgone hlt' hrest,
            List.takeWhile_cons_of_neg (by simp [hd])]
          cases op with
          | unsubscribe i =>
              change received id (r.unsubscribe i).deliveries ++ [] = _
              rw [(nextId_unsubscribe r i).2.2]
              rfl
          | _ => cases hd
      | false =>
          have hlive : id ∈ (r.perform op).registry.ids :=
            (mem_ids_perform hr hop id).mpr (.inl ⟨hid, hd⟩)
          rw [ih (hr.perform op) (hc.perform hop) hlive hrest,
            List.takeWhile_cons_of_pos (by simp [hd]), announced]
          congr 1
          rcases deliveries_perform hc op with ⟨panics, rfl, hd⟩ | ⟨_, hd⟩
          · have hne : r.nextId ≠ id := by omega
            rw [hd]
            simp [received, hne, Operation.mutations, announcedBy]
          · rw [hd, received_flatMap_tell id _ hr.nodup, if_pos hid]

theorem last_announcedBy {r : Registry} (hc : r.Calm) (ms : List Mutation) :
    (r.tabs :: r.announcedBy ms).getLast? =
      some (ms.foldl (fun tabs m => m.effect tabs) r.tabs) := by
  induction ms generalizing r with
  | nil => rfl
  | cons m ms ih =>
      have hrest := ih (hc.mutate m)
      rw [tabs_mutate] at hrest
      rw [announcedBy, (mutate_of_calm hc m).1, List.foldl_cons, tabs_mutate]
      cases hm : m.announces r.tabs with
      | true => simpa [List.getLast?_cons_cons] using hrest
      | false =>
          rw [Mutation.effect_of_silent hm] at hrest ⊢
          exact hrest

theorem last_perform {r : Registry} (hc : r.Calm) (op : Operation) :
    (r.tabs :: r.announcedBy op.mutations).getLast? = some (r.perform op).registry.tabs := by
  rw [last_announcedBy hc]
  cases op with
  | subscribe panics => exact congrArg some (tabs_subscribe r panics).2.1.symm
  | unsubscribe id => exact congrArg some (nextId_unsubscribe r id).2.1.symm
  | mutate m => exact congrArg some (tabs_mutate r m).symm
  | apply e => exact congrArg some (perform_apply r e ▸ (tabs_mutate r _).symm)
  | attach s =>
      have h := congrArg Registry.tabs (attach_of_calm hc s).1
      rw [tabs_performAll_calls] at h
      rw [Operation.mutations, List.foldl_map]
      exact congrArg some h.symm

theorem last_received_perform {r : Registry} (hr : r.Numbered) (hc : r.Calm) {op : Operation}
    (ho : op.Calm) {id : Nat} (hid : id ∈ (r.perform op).registry.ids) :
    ((if id ∈ r.ids then [r.tabs] else []) ++ received id (r.perform op).deliveries).getLast? =
      some (r.perform op).registry.tabs := by
  rcases (mem_ids_perform hr ho id).mp hid with ⟨hlive, _⟩ | ⟨hreg, rfl⟩
  · have hlt := hr.below id hlive
    rw [if_pos hlive]
    rcases deliveries_perform hc op with ⟨panics, rfl, hd⟩ | ⟨_, hd⟩
    · have hne : r.nextId ≠ id := by omega
      rw [hd, ← last_perform hc]
      simp [received, hne, Operation.mutations, announcedBy]
    · rw [hd, received_flatMap_tell id _ hr.nodup, if_pos hlive]
      exact last_perform hc op
  · have hnew : r.nextId ∉ r.ids := fun h => Nat.lt_irrefl _ (hr.below _ h)
    rw [if_neg hnew]
    cases op with
    | subscribe panics =>
        obtain ⟨_, htabs, hd⟩ := tabs_subscribe r panics
        change (received r.nextId (r.subscribe panics).deliveries).getLast? =
          some (r.subscribe panics).registry.tabs
        rw [hd, htabs]
        simp [received]
    | _ => cases hreg

theorem last_received {r : Registry} (hr : r.Numbered) (hc : r.Calm) {ops : List Operation}
    (ho : ∀ op ∈ ops, op.Calm) {id : Nat} (hid : id ∈ (r.performAll ops).ids) :
    ((if id ∈ r.ids then [r.tabs] else []) ++ received id (r.delivered ops)).getLast? =
      some (r.performAll ops).tabs := by
  induction ops generalizing r with
  | nil =>
      rw [performAll] at hid
      rw [if_pos hid]
      rfl
  | cons op ops ih =>
      have hop := ho op (by simp)
      have hrest := ih (hr.perform op) (hc.perform hop) (fun o h => ho o (by simp [h])) hid
      rw [delivered_cons, received_append, ← List.append_assoc, List.getLast?_append, performAll]
      by_cases hlive : id ∈ (r.perform op).registry.ids
      · rw [if_pos hlive, List.getLast?_append] at hrest
        rw [last_received_perform hr hc hop hlive]
        exact hrest
      · rw [if_neg hlive, List.nil_append] at hrest
        rw [hrest]
        rfl

theorem Calm.performAll {r : Registry} (hc : r.Calm) {ops : List Operation}
    (ho : ∀ op ∈ ops, op.Calm) : (r.performAll ops).Calm := by
  induction ops generalizing r with
  | nil => exact hc
  | cons op ops ih =>
      exact ih (hc.perform (ho op (by simp))) fun o h => ho o (by simp [h])

theorem received_of_new {r : Registry} (hr : r.Numbered) (hc : r.Calm) {id : Nat}
    {ops : List Operation} (ho : ∀ op ∈ ops, op.Calm) (hle : (r.performAll ops).nextId ≤ id) :
    received id (r.delivered ops) = [] := by
  induction ops generalizing r with
  | nil => rfl
  | cons op ops ih =>
      have hop := ho op (by simp)
      have hnext : (r.perform op).registry.nextId ≤ id :=
        Nat.le_trans (nextId_le_performAll _ ops) hle
      rw [delivered_cons, received_append,
        ih (hr.perform op) (hc.perform hop) (fun o h => ho o (by simp [h])) hle, List.append_nil]
      rcases deliveries_perform hc op with ⟨panics, rfl, hd⟩ | ⟨_, hd⟩
      · have hreg : (Operation.subscribe panics).registers = true := rfl
        rw [nextId_perform, if_pos hreg] at hnext
        have hne : r.nextId ≠ id := by omega
        rw [hd]
        simp [received, hne]
      · have hnot : id ∉ r.ids := fun h => by
          have := hr.below id h
          have := nextId_le_perform r op
          omega
        rw [hd, received_flatMap_tell id _ hr.nodup, if_neg hnot]

theorem received_history {r : Registry} (hr : r.Numbered) (hc : r.Calm)
    {before later : List Operation} {panics : Nat → Bool}
    (ho : ∀ op ∈ before ++ .subscribe panics :: later, op.Calm) :
    received (r.performAll before).nextId (r.delivered (before ++ .subscribe panics :: later)) =
      (r.performAll before).tabs ::
        (r.performAll (before ++ [.subscribe panics])).announced
          (later.takeWhile fun op => !op.drops (r.performAll before).nextId) := by
  have hb : ∀ op ∈ before, op.Calm := fun o h => ho o (by simp [h])
  have hs : (Operation.subscribe panics).Calm := ho _ (by simp)
  have hl : ∀ op ∈ later, op.Calm := fun o h => ho o (by simp [h])
  have hr' := hr.performAll before
  have hc' := hc.performAll hb
  have hmem : (r.performAll before).nextId ∈
      ((r.performAll before).perform (.subscribe panics)).registry.ids :=
    (mem_ids_perform hr' hs _).mpr (.inr ⟨rfl, rfl⟩)
  have hsplit : r.delivered (before ++ .subscribe panics :: later) =
      r.delivered before ++ (r.performAll before).delivered (.subscribe panics :: later) := by
    rw [delivered, heard_append, List.filterMap_append]
    rfl
  rw [hsplit, delivered_cons, received_append, received_append,
    received_of_new hr hc hb (Nat.le_refl _),
    received_of_live (hr'.perform _) (hc'.perform hs) hmem hl, performAll_append]
  change [] ++ (received _ ((r.performAll before).subscribe panics).deliveries ++ _) = _
  rw [(tabs_subscribe _ panics).2.2]
  simp [received, performAll]

theorem empty_calm : Registry.empty.Calm := by
  intro s hs
  cases hs

theorem observers_never_stale (ops : List Operation) (calm : ∀ op ∈ ops, op.Calm) :
    (∀ id ∈ (empty.performAll ops).ids,
      (received id (empty.delivered ops)).getLast? = some (empty.performAll ops).tabs) ∧
    (∀ before panics later, ops = before ++ .subscribe panics :: later →
      received (empty.performAll before).nextId (empty.delivered ops) =
        (empty.performAll before).tabs ::
          (empty.performAll (before ++ [.subscribe panics])).announced
            (later.takeWhile fun op => !op.drops (empty.performAll before).nextId)) ∧
    (empty.performAll ops).ids.Pairwise (· < ·) ∧
    (∀ op : Operation, op.registers = false →
      ((empty.performAll ops).perform op).deliveries =
        ((empty.performAll ops).announcedBy op.mutations).flatMap
          (tell (empty.performAll ops).ids)) ∧
    (∀ m, ((empty.performAll ops).mutate m).result =
      .ok (m.announces (empty.performAll ops).tabs)) ∧
    ∀ m, ((empty.performAll ops).mutate m).result ≠ .ok true →
      ((empty.performAll ops).mutate m).registry.tabs = (empty.performAll ops).tabs := by
  have hc := empty_calm.performAll calm
  have hr := Numbered.empty.performAll ops
  refine ⟨?_, ?_, hr.ascending, ?_, fun m => (mutate_of_calm hc m).1, ?_⟩
  · intro id hid
    have h := last_received Numbered.empty empty_calm calm hid
    rwa [if_neg (by simp [ids, empty]), List.nil_append] at h
  · rintro before panics later rfl
    exact received_history Numbered.empty empty_calm calm
  · intro op hop
    rcases deliveries_perform hc op with ⟨_, rfl, _⟩ | ⟨_, hd⟩
    · cases hop
    · exact hd
  · intro m hm
    rw [(mutate_of_calm hc m).1] at hm
    have hs : m.announces (empty.performAll ops).tabs = false := by
      simpa using hm
    rw [tabs_mutate, Mutation.effect_of_silent hs]

def watched : List Operation :=
  [.subscribe fun _ => false, .mutate (.sync [⟨3, 1, 0, false, none, none, []⟩]),
    .attach ([.removed 9 {}, .removed 3 {}] : Queue), .unsubscribe 0, .mutate (.sync [])]

theorem observers_never_stale_watched : (∀ op ∈ watched, op.Calm) ∧
    received 0 (empty.delivered watched) = [[], [⟨3, 1, 0, false, none, none, []⟩], []] := by
  have calm : ∀ op ∈ watched, op.Calm := by
    simp [watched, Operation.Calm]
  refine ⟨calm, ?_⟩
  have h := (observers_never_stale watched calm).2.1 [] (fun _ => false) watched.tail rfl
  have hl : Source.leading ([.removed 9 {}, .removed 3 {}] : Queue) =
      [.removed 9 {}, .removed 3 {}] :=
    leading_of_items ((Source.items_queue _).trans (List.append_nil _).symm) rfl
  have hw : watched.tail.takeWhile (fun op => !op.drops 0) =
      [.mutate (.sync [⟨3, 1, 0, false, none, none, []⟩]),
        .attach ([.removed 9 {}, .removed 3 {}] : Queue)] := rfl
  refine h.trans ?_
  change [] :: Registry.announced _ (watched.tail.takeWhile fun op => !op.drops 0) = _
  rw [hw, announced, announced, Operation.mutations, Operation.mutations, hl]
  rfl

end Registry

end TabSearch
