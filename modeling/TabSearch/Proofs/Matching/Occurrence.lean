import Mathlib.Order.Bounds.Defs
import TabSearch.Matching.Exact

namespace TabSearch.Matching

structure StandsAt (needle haystack : List Char) (p : Nat) : Prop where
  within : p + needle.length ≤ haystack.length
  alike : ∀ i (h : i < needle.length), lowercase needle[i] = lowercase haystack[p + i]

theorem standsAt_zero (needle haystack : List Char) :
    StandsAt needle haystack 0 ↔ startsAlike needle haystack = true := by
  induction needle generalizing haystack with
  | nil => exact ⟨fun _ => rfl, fun _ => ⟨by simp, by simp⟩⟩
  | cons n ns ih =>
      cases haystack with
      | nil => exact ⟨fun h => absurd h.within (by simp), nofun⟩
      | cons c rest =>
          rw [startsAlike, Bool.and_eq_true, alike_iff, ← ih]
          constructor
          · intro h
            refine ⟨h.alike 0 (by simp), by simpa using h.within, fun i hi => ?_⟩
            exact h.alike (i + 1) (Nat.succ_lt_succ hi)
          · rintro ⟨hc, h⟩
            refine ⟨by simpa using h.within, fun i hi => ?_⟩
            cases i with
            | zero => exact hc
            | succ i => exact h.alike i (Nat.lt_of_succ_lt_succ hi)

theorem standsAt_succ (needle : List Char) (c : Char) (rest : List Char) (p : Nat) :
    StandsAt needle (c :: rest) (p + 1) ↔ StandsAt needle rest p := by
  have hwithin : p + 1 + needle.length ≤ (c :: rest).length ↔ p + needle.length ≤ rest.length := by
    rw [List.length_cons]
    omega
  constructor
  · intro h
    refine ⟨hwithin.mp h.within, fun i hi => ?_⟩
    simpa [Nat.add_right_comm p 1 i] using h.alike i hi
  · intro h
    refine ⟨hwithin.mpr h.within, fun i hi => ?_⟩
    simpa [Nat.add_right_comm p 1 i] using h.alike i hi

theorem not_standsAt_nil {needle : List Char} {p : Nat} : ¬ StandsAt needle [] (p + 1) :=
  fun h => absurd h.within (by simp)

theorem StandsAt.of_append {needle more haystack : List Char} {p : Nat}
    (h : StandsAt (needle ++ more) haystack p) : StandsAt needle haystack p := by
  have hlength : needle.length ≤ (needle ++ more).length := by simp
  refine ⟨Nat.le_trans (Nat.add_le_add_left hlength p) h.within, fun i hi => ?_⟩
  simpa [List.getElem_append_left hi] using h.alike i (Nat.lt_of_lt_of_le hi hlength)

theorem firstFrom_eq_none {needle haystack : List Char} {pos : Nat}
    (h : firstFrom needle pos haystack = none) (p : Nat) : ¬ StandsAt needle haystack p := by
  induction haystack generalizing pos p with
  | nil =>
      rw [firstFrom, ite_eq_right_iff] at h
      cases p with
      | zero => rw [standsAt_zero]; exact fun hs => nomatch h hs
      | succ p => exact not_standsAt_nil
  | cons c rest ih =>
      rw [firstFrom] at h
      split at h
      next => cases h
      next hs =>
        cases p with
        | zero => rwa [standsAt_zero]
        | succ p => rw [standsAt_succ]; exact ih h p

theorem firstFrom_eq_some {needle haystack : List Char} {pos first : Nat}
    (h : firstFrom needle pos haystack = some first) :
    ∃ p, first = pos + p ∧ IsLeast {p | StandsAt needle haystack p} p := by
  induction haystack generalizing pos with
  | nil =>
      rw [firstFrom] at h
      split at h
      next hs =>
        obtain rfl := Option.some.inj h
        exact ⟨0, rfl, (standsAt_zero needle []).mpr hs, fun _ _ => Nat.zero_le _⟩
      next => cases h
  | cons c rest ih =>
      rw [firstFrom] at h
      split at h
      next hs =>
        obtain rfl := Option.some.inj h
        exact ⟨0, rfl, (standsAt_zero needle (c :: rest)).mpr hs, fun _ _ => Nat.zero_le _⟩
      next hs =>
        obtain ⟨p, rfl, hp, hleast⟩ := ih h
        refine ⟨p + 1, by omega, (standsAt_succ needle c rest p).mpr hp, fun q hq => ?_⟩
        cases q with
        | zero => exact absurd ((standsAt_zero needle (c :: rest)).mp hq) hs
        | succ q => exact Nat.succ_le_succ (hleast ((standsAt_succ needle c rest q).mp hq))

theorem exact_found_iff (needle haystack : List Char) :
    (exact needle haystack).found = true ↔ ∃ p, StandsAt needle haystack p := by
  rw [Matching.exact]
  split
  next hempty =>
    rw [List.isEmpty_iff.mp hempty]
    exact ⟨fun _ => ⟨0, (standsAt_zero [] haystack).mpr rfl⟩, fun _ => rfl⟩
  next =>
    cases h : firstFrom needle 0 haystack with
    | none => exact ⟨nofun, fun ⟨p, hp⟩ => absurd hp (firstFrom_eq_none h p)⟩
    | some first =>
        obtain ⟨p, _, hp, _⟩ := firstFrom_eq_some h
        exact ⟨fun _ => ⟨p, hp⟩, fun _ => rfl⟩

theorem exact_eq_hit {needle haystack : List Char} (nonempty : needle ≠ [])
    (found : (exact needle haystack).found = true) :
    ∃ p, IsLeast {p | StandsAt needle haystack p} p ∧
      exact needle haystack = .hit [⟨p, p + needle.length⟩] := by
  rw [Matching.exact, if_neg (by simpa using nonempty)] at found ⊢
  cases h : firstFrom needle 0 haystack with
  | none =>
      rw [h] at found
      cases found
  | some first =>
      obtain ⟨p, rfl, hleast⟩ := firstFrom_eq_some h
      exact ⟨p, hleast, by rw [Nat.zero_add]⟩

theorem exact_of_append {needle more haystack : List Char}
    (h : (exact (needle ++ more) haystack).found = true) :
    (exact needle haystack).found = true := by
  rw [exact_found_iff] at h ⊢
  obtain ⟨p, hp⟩ := h
  exact ⟨p, hp.of_append⟩

theorem exact_finds_first (needle haystack : List Char) (nonempty : needle ≠ []) :
    ((exact needle haystack).found = true ↔ ∃ p, StandsAt needle haystack p) ∧
      ((exact needle haystack).found = true →
        ∃ p, IsLeast {p | StandsAt needle haystack p} p ∧
          (exact needle haystack).spans = [⟨p, p + needle.length⟩]) ∧
      ((exact needle haystack).found = false → (exact needle haystack).spans = []) := by
  refine ⟨exact_found_iff needle haystack, ?_⟩
  rw [Matching.exact, if_neg (by simpa using nonempty)]
  cases h : firstFrom needle 0 haystack with
  | none => exact ⟨nofun, fun _ => rfl⟩
  | some first =>
      obtain ⟨p, rfl, hleast⟩ := firstFrom_eq_some h
      exact ⟨fun _ => ⟨p, hleast, by rw [Nat.zero_add]; rfl⟩, nofun⟩

/-- The dotted capital I is not like a plain one: what stands first is the second pair. -/
theorem exact_finds_first_dotted :
    ['i', 'X'] ≠ [] ∧
      ((exact ['i', 'X'] ['İ', 'x', 'I', 'x', 'i', 'x']).found = true ∧
        IsLeast {p | StandsAt ['i', 'X'] ['İ', 'x', 'I', 'x', 'i', 'x'] p} 2 ∧
        (exact ['i', 'X'] ['İ', 'x', 'I', 'x', 'i', 'x']).spans = [⟨2, 4⟩]) ∧
      (exact ['i', 'X'] ['İ', 'x']).found = false ∧ (exact ['i', 'X'] ['İ', 'x']).spans = [] := by
  have hne : ['i', 'X'] ≠ [] := by simp
  have hhit : exact ['i', 'X'] ['İ', 'x', 'I', 'x', 'i', 'x'] = .hit [⟨2, 4⟩] := by decide
  have hmiss : (exact ['i', 'X'] ['İ', 'x']).found = false := by decide
  obtain ⟨p, hleast, hspans⟩ :=
    (exact_finds_first ['i', 'X'] ['İ', 'x', 'I', 'x', 'i', 'x'] hne).2.1 (by rw [hhit]; rfl)
  obtain rfl : 2 = p := by
    rw [hhit] at hspans
    exact congrArg Span.start (List.head_eq_of_cons_eq hspans)
  refine ⟨hne, ⟨by rw [hhit]; rfl, hleast, hspans⟩, hmiss, ?_⟩
  exact (exact_finds_first ['i', 'X'] ['İ', 'x'] hne).2.2 hmiss

end TabSearch.Matching
