import TabSearch.Proofs.Registry.History
import TabSearch.Proofs.Source

namespace TabSearch

def Event.effect (e : Event) (tabs : List Tab) : List Tab := e.mutation.effect tabs

def effects (es : List Event) (tabs : List Tab) : List Tab :=
  es.foldl (fun tabs e => e.effect tabs) tabs

namespace Registry

def calls (es : List Event) : List Operation := es.map .apply

theorem tabs_performAll_calls (r : Registry) (es : List Event) :
    (r.performAll (calls es)).tabs = effects es r.tabs := by
  induction es generalizing r with
  | nil => rfl
  | cons e es ih =>
      have he : (r.perform (.apply e)).registry.tabs = e.effect r.tabs := by
        rw [perform, Run.map, apply_eq_mutate, tabs_mutate, Event.effect]
      rw [calls, List.map_cons, performAll, effects, List.foldl_cons, ← he]
      exact ih _

def Endures (r : Registry) : List Event → Prop
  | [] => True
  | e :: es => (∃ announced, (r.apply e).result = .ok announced) ∧
      (r.apply e).registry.Endures es

/-- The source is left behind the item at which the call stopped. -/
inductive Conclusion {σ : Type} [Source σ] (start : Nat) (r : Registry) (s : σ) :
    Run Nat × σ → Prop
  | exhausted (es : List Event) (all : Source.items s = es.map .ok) (endures : r.Endures es) :
      Conclusion start r s
        (⟨r.performAll (calls es),
          r.heard (calls es) ++ [.note (.exhausted (start + es.length))],
          .ok (start + es.length)⟩, Source.skip (es.length + 1) s)
  | failed (es : List Event) (e : InputError) (rest : List (Except InputError Event))
      (all : Source.items s = es.map .ok ++ .error e :: rest) (endures : r.Endures es) :
      Conclusion start r s
        (⟨r.performAll (calls es), r.heard (calls es), .error (.input e)⟩,
          Source.skip (es.length + 1) s)
  | panicked (es : List Event) (e : Event) (id : Nat) (rest : List (Except InputError Event))
      (all : Source.items s = es.map .ok ++ .ok e :: rest) (endures : r.Endures es)
      (panics : ((r.performAll (calls es)).apply e).result = .error (.panicked id)) :
      Conclusion start r s
        (⟨r.performAll (calls (es ++ [e])), r.heard (calls (es ++ [e])), .error (.panicked id)⟩,
          Source.skip (es.length + 1) s)

variable {σ : Type} [Source σ]

theorem Conclusion.cons {start : Nat} {r : Registry} {s t : σ} {e : Event} {announced : Bool}
    {run : Run Nat × σ} (hs : Source.next s = (some (.ok e), t))
    (he : (r.apply e).result = .ok announced)
    (h : Conclusion (start + 1) (r.apply e).registry t run) :
    Conclusion start r s (run.1.after (r.apply e).occurrences, run.2) := by
  have hitems := Source.items_of_item hs
  have ht (n : Nat) : Source.skip n t = Source.skip (n + 1) s := by rw [Source.skip, hs]
  have hcount (es : List Event) : start + 1 + es.length = start + (e :: es).length := by
    rw [List.length_cons]
    omega
  cases h with
  | exhausted es all endures =>
      simp only [ht, hcount, Run.after, ← List.append_assoc]
      exact .exhausted (e :: es) (by rw [hitems, all]; rfl) ⟨⟨announced, he⟩, endures⟩
  | failed es f rest all endures =>
      simp only [ht]
      exact .failed (e :: es) f rest (by rw [hitems, all]; rfl) ⟨⟨announced, he⟩, endures⟩
  | panicked es f id rest all endures panics =>
      simp only [ht]
      exact .panicked (e :: es) f id rest (by rw [hitems, all]; rfl) ⟨⟨announced, he⟩, endures⟩
        panics

theorem Conclusion.fault {start : Nat} {r : Registry} {s t : σ} {e : InputError}
    (hs : Source.next s = (some (.error e), t)) :
    Conclusion start r s (⟨r, [], .error (.input e)⟩, t) := by
  have ht : Source.skip 1 s = t := by rw [Source.skip, hs]; rfl
  exact ht ▸ .failed [] e (Source.items t) (Source.items_of_item hs) trivial

theorem Conclusion.panic {start : Nat} {r : Registry} {s t : σ} {e : Event} {stop : Stop}
    (hs : Source.next s = (some (.ok e), t)) (he : (r.apply e).result = .error stop) :
    Conclusion start r s
      (⟨(r.apply e).registry, (r.apply e).occurrences, .error stop⟩, t) := by
  have ht : Source.skip 1 s = t := by rw [Source.skip, hs]; rfl
  obtain ⟨id, _, rfl⟩ := mutate_error (apply_eq_mutate r e ▸ he)
  have h : Conclusion start r s _ :=
    .panicked [] e id (Source.items t) (Source.items_of_item hs) trivial he
  simpa [ht, calls, performAll, heard, perform, Run.map] using h

theorem attachUpTo_concludes (fuel start : Nat) (r : Registry) (s : σ)
    (h : Source.remaining s < fuel) : Conclusion start r s (attachUpTo fuel start r s) := by
  induction fuel generalizing start r s with
  | zero => omega
  | succ fuel ih =>
      rw [attachUpTo]
      have hrest := Source.remaining_next s
      cases hs : Source.next s with
      | mk item t =>
          rw [hs] at hrest
          cases item with
          | none =>
              have ht : Source.skip 1 s = t := by rw [Source.skip, hs]; rfl
              exact ht ▸ .exhausted [] (Source.items_of_end hs) trivial
          | some item =>
              have hless : Source.remaining t < Source.remaining s := hrest rfl
              cases item with
              | error e => exact .fault hs
              | ok e =>
                  cases he : (r.apply e).result with
                  | error stop => simpa only [he] using Conclusion.panic hs he
                  | ok announced =>
                      simpa only [he] using
                        (ih (start + 1) (r.apply e).registry t (by omega)).cons hs he

theorem attach_concludes (r : Registry) (s : σ) : Conclusion 0 r s (r.attach s) :=
  attachUpTo_concludes _ 0 r s (Nat.lt_succ_self _)

def play : Nat → Registry → List (Except InputError Event) → Run Nat
  | applied, r, [] => ⟨r, [.note (.exhausted applied)], .ok applied⟩
  | _, r, .error e :: _ => ⟨r, [], .error (.input e)⟩
  | applied, r, .ok e :: rest => match (r.apply e).result with
      | .error stop => ⟨(r.apply e).registry, (r.apply e).occurrences, .error stop⟩
      | .ok _ => (play (applied + 1) (r.apply e).registry rest).after (r.apply e).occurrences

theorem attachUpTo_play (fuel applied : Nat) (r : Registry) (s : σ)
    (h : Source.remaining s < fuel) :
    (attachUpTo fuel applied r s).1 = play applied r (Source.items s) := by
  induction fuel generalizing applied r s with
  | zero => omega
  | succ fuel ih =>
      rw [attachUpTo]
      have hrest := Source.remaining_next s
      cases hs : Source.next s with
      | mk item t =>
          rw [hs] at hrest
          cases item with
          | none => rw [Source.items_of_end hs, play]
          | some item =>
              have hless : Source.remaining t < Source.remaining s := hrest rfl
              rw [Source.items_of_item hs]
              cases item with
              | error e => rw [play]
              | ok e =>
                  rw [play]
                  cases he : (r.apply e).result with
                  | error stop => simp only [he]
                  | ok announced => simp only [he, ih (applied + 1) _ t (by omega)]

theorem attach_play (r : Registry) (s : σ) :
    (r.attach s).1 = play 0 r (Source.items s) :=
  attachUpTo_play _ 0 r s (Nat.lt_succ_self _)

theorem play_of_calm {r : Registry} (hr : r.Calm) (applied : Nat) (es : List Event)
    (items : List (Except InputError Event)) :
    play applied r (es.map .ok ++ items) =
      (play (applied + es.length) (r.performAll (calls es)) items).after (r.heard (calls es)) := by
  induction es generalizing applied r with
  | nil => rfl
  | cons e es ih =>
      have he := (mutate_of_calm hr e.mutation).1
      have hcalm := hr.mutate e.mutation
      rw [← apply_eq_mutate] at he hcalm
      have hcount : applied + 1 + es.length = applied + (e :: es).length := by
        rw [List.length_cons]
        omega
      simp only [List.map_cons, List.cons_append, play, he, ih hcalm, hcount, Run.after,
        ← List.append_assoc]
      rfl

theorem play_events {r : Registry} (hr : r.Calm) (applied : Nat) (es : List Event) :
    (play applied r (es.map .ok)).result = .ok (applied + es.length) := by
  have h := play_of_calm hr applied es []
  rw [List.append_nil] at h
  rw [h]
  rfl

def attachAfter : Nat → Registry → σ → Run Nat × σ
  | 0, r, s => r.attach s
  | n + 1, r, s => attachAfter n (r.attach s).1.registry (r.attach s).2

theorem Conclusion.position {start : Nat} {r : Registry} {s : σ} {run : Run Nat × σ}
    (h : Conclusion start r s run) :
    (∃ count, run.1.result = .ok count ∧ run.1.registry = r.performAll (calls (Source.events s))) ∨
      ∃ stop es, run.1.result = .error stop ∧ run.1.registry = r.performAll (calls es) ∧
        Source.events s = es ++ Source.events run.2 ∧
        (Source.items run.2).length < (Source.items s).length := by
  have hmap (es : List Event) :
      (es.map (.ok : Event → Except InputError Event)).filterMap Except.toOption = es := by
    rw [List.filterMap_map]
    exact List.filterMap_some
  have hskip {es : List Event} {item : Except InputError Event} {rest}
      (all : Source.items s = es.map .ok ++ item :: rest) :
      Source.items (Source.skip (es.length + 1) s) = rest := by
    rw [Source.items_skip (by simp [all]), all, List.drop_append]
    simp
  cases h with
  | exhausted es all endures =>
      refine .inl ⟨_, rfl, ?_⟩
      rw [Source.events, all, hmap]
  | failed es e rest all endures =>
      refine .inr ⟨_, es, rfl, rfl, ?_, ?_⟩
      · simp [Source.events, all, hskip all, hmap, Except.toOption, List.filterMap_cons]
      · simp only [hskip all, all, List.length_append, List.length_cons]
        omega
  | panicked es e id rest all endures panics =>
      refine .inr ⟨_, es ++ [e], rfl, rfl, ?_, ?_⟩
      · simp [Source.events, all, hskip all, hmap, Except.toOption]
      · simp only [hskip all, all, List.length_append, List.length_cons]
        omega

theorem attachAfter_ends (r : Registry) (s : σ) :
    ∃ n ≤ (Source.items s).length,
      (∀ k < n, ∃ stop, (attachAfter k r s).1.result = .error stop) ∧
      (∃ count, (attachAfter n r s).1.result = .ok count) ∧
      (attachAfter n r s).1.registry = r.performAll (calls (Source.events s)) := by
  -- each call that fails takes at least one item from the source
  generalize hl : (Source.items s).length = l
  induction l using Nat.strongRecOn generalizing r s with
  | ind l ih =>
      subst hl
      rcases (attach_concludes r s).position with
        ⟨count, hok, hreg⟩ | ⟨stop, es, herr, hreg, hevents, hless⟩
      · exact ⟨0, Nat.zero_le _, fun k hk => absurd hk (Nat.not_lt_zero k), ⟨count, hok⟩, hreg⟩
      · obtain ⟨n, hn, hbefore, hend, hafter⟩ := ih _ hless (r.attach s).1.registry _ rfl
        refine ⟨n + 1, by omega, ?_, hend, ?_⟩
        · intro k hk
          cases k with
          | zero => exact ⟨stop, herr⟩
          | succ k => exact hbefore k (by omega)
        · rw [attachAfter, hafter, hreg, hevents, calls, calls, calls, List.map_append,
            performAll_append]

theorem attach_exactly_once (r : Registry) (s : σ) :
    Conclusion 0 r s (r.attach s) ∧
      (∀ es, (r.performAll (calls es)).tabs = effects es r.tabs) ∧
      ∃ n ≤ (Source.items s).length,
        (∀ k < n, ∃ stop, (attachAfter k r s).1.result = .error stop) ∧
        (∃ count, (attachAfter n r s).1.result = .ok count) ∧
        (attachAfter n r s).1.registry = r.performAll (calls (Source.events s)) ∧
        (attachAfter n r s).1.registry.tabs = effects (Source.events s) r.tabs := by
  obtain ⟨n, hn, hbefore, hend, hreg⟩ := attachAfter_ends r s
  refine ⟨attach_concludes r s, tabs_performAll_calls r, n, hn, hbefore, hend, hreg, ?_⟩
  rw [hreg, tabs_performAll_calls]

end Registry

end TabSearch
