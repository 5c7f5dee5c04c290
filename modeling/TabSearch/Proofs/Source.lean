import TabSearch.EventLog

namespace TabSearch.Source

variable {σ : Type} [Source σ]

def items (s : σ) : List (Except InputError Event) :=
  if h : (next s).1.isSome then (next s).1.get h :: items (next s).2 else []
termination_by remaining s
decreasing_by exact remaining_next s h

def skip : Nat → σ → σ
  | 0, s => s
  | n + 1, s => skip n (next s).2

def events (s : σ) : List Event := (items s).filterMap Except.toOption

theorem items_of_end {s t : σ} (h : next s = (none, t)) : items s = [] := by
  rw [items]
  simp [h]

theorem items_of_item {s t : σ} {item : Except InputError Event} (h : next s = (some item, t)) :
    items s = item :: items t := by
  rw [items]
  simp [h]

theorem items_congr {s t : σ} (h : next s = next t) : items s = items t := by
  cases hs : next s with
  | mk item u =>
      rw [hs] at h
      cases item with
      | none => rw [items_of_end hs, items_of_end h.symm]
      | some item => rw [items_of_item hs, items_of_item h.symm]

theorem items_skip {n : Nat} {s : σ} (h : n ≤ (items s).length) :
    items (skip n s) = (items s).drop n := by
  induction n generalizing s with
  | zero => rfl
  | succ n ih =>
      cases hs : next s with
      | mk item t =>
          cases item with
          | none => simp [items_of_end hs] at h
          | some item =>
              rw [items_of_item hs, List.length_cons] at h
              have ht : (next s).2 = t := by rw [hs]
              rw [skip, ht, items_of_item hs, List.drop_succ_cons]
              exact ih (by omega)

theorem items_queue (q : Queue) : items q = q.map .ok := by
  induction q with
  | nil => exact items_of_end (s := ([] : Queue)) rfl
  | cons e rest ih => rw [items_of_item (s := e :: rest) (t := rest) rfl, ih, List.map_cons]

end TabSearch.Source
