import Mathlib.Data.List.Induction
import Mathlib.Data.List.Nodup
import TabSearch.Json.Value

namespace TabSearch.Members

def Ordered (ms : Members) : Prop := ms.Pairwise fun a b => a.1 < b.1

theorem Ordered.nil : Ordered [] := List.Pairwise.nil

theorem lt_of_not {a b : String} (h : ¬ a < b) (hne : a ≠ b) : b < a := by
  refine String.not_le.mp fun hle => ?_
  exact hne (String.le_antisymm hle (String.not_lt.mp h))

theorem mem_insert {k : String} {v : Json} {ms : Members} {m : String × Json}
    (h : m ∈ insert k v ms) : m = (k, v) ∨ m ∈ ms := by
  induction ms with
  | nil => exact .inl (List.mem_singleton.mp h)
  | cons n ms ih =>
      rw [insert] at h
      split at h
      · exact (List.mem_cons.mp h).imp_right id
      · split at h
        · exact (List.mem_cons.mp h).imp_right (List.mem_cons_of_mem n)
        · rcases List.mem_cons.mp h with rfl | h
          · exact .inr (by simp)
          · exact (ih h).imp_right (List.mem_cons_of_mem n)

theorem Ordered.insert {ms : Members} (h : Ordered ms) (k : String) (v : Json) :
    Ordered (insert k v ms) := by
  induction ms with
  | nil => exact List.pairwise_singleton _ _
  | cons n ms ih =>
      obtain ⟨hfirst, hrest⟩ := List.pairwise_cons.mp h
      rw [Members.insert]
      split
      next hlt =>
        refine List.pairwise_cons.mpr ⟨fun m hm => ?_, h⟩
        rcases List.mem_cons.mp hm with rfl | hm
        · exact hlt
        · exact String.lt_trans hlt (hfirst m hm)
      next hlt =>
        split
        next heq =>
          subst heq
          exact List.pairwise_cons.mpr ⟨hfirst, hrest⟩
        next hne =>
          refine List.pairwise_cons.mpr ⟨fun m hm => ?_, ih hrest⟩
          rcases mem_insert hm with rfl | hm
          · exact lt_of_not hlt hne
          · exact hfirst m hm

theorem insert_above {k : String} {ms : Members} (h : ∀ m ∈ ms, m.1 < k) (v : Json) :
    insert k v ms = ms ++ [(k, v)] := by
  induction ms with
  | nil => rfl
  | cons n ms ih =>
      have hn : n.1 < k := h n (by simp)
      have hne : k ≠ n.1 := by
        rintro rfl
        exact String.lt_irrefl _ hn
      rw [insert, if_neg (String.lt_asymm hn), if_neg hne, ih fun m hm => h m (by simp [hm])]
      rfl

def insertAll (given ms : Members) : Members := given.foldl (fun acc m => insert m.1 m.2 acc) ms

theorem insertAll_cons (k : String) (v : Json) (given ms : Members) :
    insertAll ((k, v) :: given) ms = insertAll given (insert k v ms) := rfl

theorem Ordered.insertAll {ms : Members} (h : Ordered ms) (given : Members) :
    Ordered (insertAll given ms) := by
  induction given generalizing ms with
  | nil => exact h
  | cons m given ih => exact ih (h.insert m.1 m.2)

theorem mem_insertAll {given ms : Members} {m : String × Json} (h : m ∈ insertAll given ms) :
    m ∈ given ∨ m ∈ ms := by
  induction given generalizing ms with
  | nil => exact .inr h
  | cons n given ih =>
      rcases ih h with h | h
      · exact .inl (List.mem_cons_of_mem n h)
      · rcases mem_insert h with rfl | h
        · exact .inl List.mem_cons_self
        · exact .inr h

theorem insertAll_ordered {given ms : Members} (h : Ordered (ms ++ given)) :
    insertAll given ms = ms ++ given := by
  induction given generalizing ms with
  | nil => exact (List.append_nil ms).symm
  | cons m given ih =>
      have hbelow : ∀ n ∈ ms, n.1 < m.1 := fun n hn =>
        (List.pairwise_append.mp h).2.2 n hn m (by simp)
      rw [insertAll_cons, insert_above hbelow, ih (by simpa using h)]
      simp

theorem ofList_ordered {ms : Members} (h : Ordered ms) : ofList ms = ms :=
  insertAll_ordered (show Ordered ([] ++ ms) from h)

theorem ordered_ofList (ms : List (String × Json)) : Ordered (ofList ms) :=
  Ordered.nil.insertAll ms

theorem mem_ofList {ms : List (String × Json)} {m : String × Json} (h : m ∈ ofList ms) : m ∈ ms :=
  (mem_insertAll (show m ∈ insertAll ms [] from h)).resolve_right (by simp)

theorem insert_comm {k k' : String} (h : k ≠ k') (v v' : Json) (ms : Members) :
    insert k v (insert k' v' ms) = insert k' v' (insert k v ms) := by
  have hlt : ∀ {a b : String}, ¬ a < b → a ≠ b → b < a := lt_of_not
  have htrans : ∀ {a b c : String}, a < b → b < c → a < c := String.lt_trans
  have hirrefl : ∀ a : String, ¬ a < a := String.lt_irrefl
  induction ms with
  | nil => grind [insert]
  | cons m ms ih =>
      obtain ⟨k₀, v₀⟩ := m
      grind [insert]

theorem ofList_perm {ms ms' : List (String × Json)} (h : ms.Perm ms')
    (nodup : (ms.map Prod.fst).Nodup) : ofList ms = ofList ms' := by
  refine h.foldl_eq' (fun m hm n hn acc => ?_) []
  by_cases hkey : m.1 = n.1
  · have hmn : m = n := List.inj_on_of_nodup_map nodup hm hn hkey
    rw [hmn]
  · exact insert_comm (Ne.symm hkey) n.2 m.2 acc

theorem ofList_concat (ms : List (String × Json)) (m : String × Json) :
    ofList (ms ++ [m]) = insert m.1 m.2 (ofList ms) := by
  rw [ofList, List.foldl_append]
  rfl

theorem insert_perm {k : String} {ms : Members} (h : k ∉ ms.map Prod.fst) (v : Json) :
    (insert k v ms).Perm ((k, v) :: ms) := by
  induction ms with
  | nil => exact .refl _
  | cons m ms ih =>
      rw [List.map_cons, List.mem_cons, not_or] at h
      rw [insert]
      split
      · exact .refl _
      · rw [if_neg h.1]
        exact ((ih h.2).cons m).trans (.swap (k, v) m ms)

theorem ofList_perm_self {ms : List (String × Json)} (nodup : (ms.map Prod.fst).Nodup) :
    (ofList ms).Perm ms := by
  induction ms using List.reverseRecOn with
  | nil => exact .refl _
  | append_singleton ms m ih =>
      rw [List.map_append, List.nodup_append] at nodup
      have hms := ih nodup.1
      have hm : m.1 ∉ (ofList ms).map Prod.fst := fun hmem =>
        nodup.2.2 _ ((hms.map Prod.fst).mem_iff.mp hmem) _ (by simp) rfl
      rw [ofList_concat]
      exact ((insert_perm hm m.2).trans (hms.cons m)).trans (List.perm_append_singleton m ms).symm

theorem get?_eq_none {k : String} {ms : Members} : get? k ms = none ↔ k ∉ ms.map Prod.fst := by
  induction ms with
  | nil => simp [get?]
  | cons m ms ih => grind [get?]

theorem get?_append (k : String) (ms ms' : Members) :
    get? k (ms ++ ms') = (get? k ms).or (get? k ms') := by
  induction ms with
  | nil => simp [get?]
  | cons m ms ih => grind [get?]

theorem mem_of_get? {k : String} {v : Json} {ms : Members} (h : get? k ms = some v) :
    (k, v) ∈ ms := by
  induction ms with
  | nil => cases h
  | cons m ms ih => grind [get?]

def Distinct (names : List String) (ms : List (String × Json)) : Prop :=
  ms.Pairwise fun m n => m.1 = n.1 → m.1 ∉ names

theorem distinct_of_nodup (names : List String) {ms : List (String × Json)}
    (h : (ms.map Prod.fst).Nodup) : Distinct names ms :=
  (List.pairwise_map.mp h).imp fun hne heq => absurd heq hne

theorem Distinct.perm {names : List String} {ms ms' : List (String × Json)}
    (h : Distinct names ms) (hp : ms.Perm ms') : Distinct names ms' :=
  (hp.pairwise_iff fun hmn heq => heq ▸ hmn heq.symm).mp h

theorem distinct_concat {names : List String} {ms : List (String × Json)} {m : String × Json} :
    Distinct names (ms ++ [m]) ↔ Distinct names ms ∧ (m.1 ∈ names → get? m.1 ms = none) := by
  rw [Distinct, List.pairwise_append, get?_eq_none]
  grind [Distinct]

theorem get?_of_mem {names : List String} {ms : Members} (h : Distinct names ms) {k : String}
    (hk : k ∈ names) {v : Json} (hm : (k, v) ∈ ms) : get? k ms = some v := by
  induction ms with
  | nil => cases hm
  | cons m ms ih =>
      obtain ⟨hfirst, hrest⟩ := List.pairwise_cons.mp h
      rcases List.mem_cons.mp hm with rfl | hm
      · simp [get?]
      · have hne : m.1 ≠ k := by
          rintro rfl
          exact hfirst _ hm rfl hk
        rw [get?, if_neg hne.symm, ih hrest hm]

theorem get?_perm {names : List String} {ms ms' : Members} (h : Distinct names ms)
    (hp : ms.Perm ms') {k : String} (hk : k ∈ names) : get? k ms = get? k ms' := by
  cases hg : get? k ms with
  | none =>
      have hkeys : k ∉ ms'.map Prod.fst := mt (hp.map Prod.fst).mem_iff.mpr (get?_eq_none.mp hg)
      exact (get?_eq_none.mpr hkeys).symm
  | some v => exact (get?_of_mem (h.perm hp) hk (hp.mem_iff.mp (mem_of_get? hg))).symm

def values (k : String) (ms : Members) : List Json := (ms.filter fun m => m.1 = k).map Prod.snd

theorem values_append (k : String) (ms ms' : Members) :
    values k (ms ++ ms') = values k ms ++ values k ms' := by
  rw [values, List.filter_append, List.map_append]
  rfl

theorem values_concat (k : String) (ms : Members) (m : String × Json) :
    values k (ms ++ [m]) = if m.1 = k then values k ms ++ [m.2] else values k ms := by
  rw [values_append]
  split <;> simp [values, *]

theorem mem_values {k : String} {v : Json} {ms : Members} : v ∈ values k ms ↔ (k, v) ∈ ms := by
  simp [values]

theorem values_perm {ms ms' : Members} (h : ms.Perm ms') (k : String) :
    (values k ms).Perm (values k ms') := (h.filter _).map _

theorem values_eq_of_perm {ms ms' : Members} (h : ms.Perm ms') {k : String}
    (once : (values k ms).length ≤ 1) : values k ms = values k ms' := by
  have hp := values_perm h k
  match hvalues : values k ms with
  | [] => exact (List.nil_perm.mp (hvalues ▸ hp)).symm
  | [v] => exact List.singleton_perm.mp (hvalues ▸ hp)
  | _ :: _ :: _ => simp [hvalues] at once

theorem get?_eq_head? (k : String) (ms : Members) : get? k ms = (values k ms).head? := by
  induction ms with
  | nil => rfl
  | cons m ms ih => grind [get?, values]

theorem distinct_iff_values {names : List String} {ms : Members} :
    Distinct names ms ↔ ∀ k ∈ names, (values k ms).length ≤ 1 := by
  induction ms using List.reverseRecOn with
  | nil => exact ⟨fun _ _ _ => Nat.zero_le 1, fun _ => .nil⟩
  | append_singleton ms m ih =>
      rw [distinct_concat, ih, get?_eq_head?, List.head?_eq_none_iff]
      constructor
      · rintro ⟨hms, hm⟩ k hk
        rw [values_concat]
        split
        next heq =>
          rw [← heq] at hk ⊢
          simp [hm hk]
        next => exact hms k hk
      · intro h
        refine ⟨fun k hk => ?_, fun hk => ?_⟩
        · have hle := h k hk
          rw [values_append, List.length_append] at hle
          omega
        · simpa [values_concat] using h m.1 hk

theorem get?_insert (k k' : String) (v : Json) (ms : Members) :
    get? k (insert k' v ms) = if k = k' then some v else get? k ms := by
  induction ms with
  | nil => rfl
  | cons m ms ih => grind [insert, get?]

theorem get?_ofList (k : String) (ms : List (String × Json)) :
    get? k (ofList ms) = (values k ms).getLast? := by
  induction ms using List.reverseRecOn with
  | nil => rfl
  | append_singleton ms m ih =>
      rw [ofList_concat, get?_insert, values_concat, ih]
      split
      next heq => rw [if_pos heq.symm, List.getLast?_concat]
      next hne => rw [if_neg (Ne.symm hne)]

theorem Ordered.nodup_keys {ms : Members} (h : Ordered ms) : (ms.map Prod.fst).Nodup :=
  List.pairwise_map.mpr (h.imp fun hlt => String.ne_of_lt hlt)

theorem Ordered.mem_iff {ms : Members} (h : Ordered ms) {m : String × Json} :
    m ∈ ms ↔ get? m.1 ms = some m.2 :=
  ⟨get?_of_mem (distinct_of_nodup [m.1] h.nodup_keys) List.mem_cons_self, mem_of_get?⟩

theorem Ordered.ext {ms ms' : Members} (h : Ordered ms) (h' : Ordered ms')
    (hget : ∀ k, get? k ms = get? k ms') : ms = ms' := by
  have hp : ms.Perm ms' := (List.perm_ext_iff_of_nodup h.nodup_keys.of_map
    h'.nodup_keys.of_map).mpr fun m => by rw [h.mem_iff, h'.mem_iff, hget]
  exact hp.eq_of_pairwise (fun a b _ _ hab hba => absurd hba (String.lt_asymm hab)) h h'

end TabSearch.Members
