import Mathlib.Data.List.Forall2
import TabSearch.Matching.Fuzzy

namespace TabSearch.Matching

def Embeds (needle haystack : List Char) : Prop :=
  List.SublistForall₂ (fun n h => alike n h = true) needle haystack

theorem Embeds.length_le {needle haystack : List Char} (h : Embeds needle haystack) :
    needle.length ≤ haystack.length := by
  obtain ⟨part, halike, hpart⟩ := List.sublistForall₂_iff.mp h
  exact halike.length_eq ▸ hpart.length_le

theorem Embeds.of_cons {n : Char} {needle haystack : List Char} {h : Char}
    (he : Embeds (n :: needle) (h :: haystack)) : Embeds needle haystack := by
  cases he with
  | cons _ hrest => exact hrest
  | cons_right hrest =>
      obtain ⟨part, halike, hpart⟩ := List.sublistForall₂_iff.mp hrest
      cases halike with
      | cons _ hbehind =>
          exact List.sublistForall₂_iff.mpr ⟨_, hbehind, (List.sublist_cons_self _ _).trans hpart⟩

theorem Embeds.of_append {needle more haystack : List Char} (h : Embeds (needle ++ more) haystack) :
    Embeds needle haystack := by
  generalize hwhole : needle ++ more = whole at h
  induction h generalizing needle with
  | nil =>
      obtain ⟨rfl, _⟩ := List.append_eq_nil_iff.mp hwhole
      exact .nil
  | cons hab _ ih =>
      cases needle with
      | nil => exact .nil
      | cons n ns =>
          obtain ⟨rfl, hrest⟩ := List.cons.inj hwhole
          exact .cons hab (ih hrest)
  | cons_right _ ih => exact .cons_right (ih hwhole)

theorem embeds_of_startsAlike {needle haystack : List Char}
    (h : startsAlike needle haystack = true) : Embeds needle haystack := by
  induction needle generalizing haystack with
  | nil => exact .nil
  | cons n ns ih =>
      cases haystack with
      | nil => cases h
      | cons c hs =>
          rw [startsAlike, Bool.and_eq_true] at h
          exact .cons h.1 (ih h.2)

theorem scan_found_iff (pos : Nat) (run : Option Span) (closed : List Span)
    (needle haystack : List Char) :
    (scan pos run closed needle haystack).found = true ↔ Embeds needle haystack := by
  induction haystack generalizing pos run closed needle with
  | nil =>
      cases needle with
      | nil => exact ⟨fun _ => .nil, fun _ => rfl⟩
      | cons n ns => exact ⟨nofun, nofun⟩
  | cons c rest ih =>
      cases needle with
      | nil => exact ⟨fun _ => .nil, fun _ => rfl⟩
      | cons n ns =>
          rw [scan]
          cases h : alike n c with
          | true =>
              rw [if_pos rfl, ih]
              exact ⟨.cons h, Embeds.of_cons⟩
          | false =>
              rw [if_neg Bool.false_ne_true, ih]
              constructor
              · exact .cons_right
              · intro he
                cases he with
                | cons hab _ => exact absurd hab (by simp [h])
                | cons_right hrest => exact hrest

theorem fuzzy_cases (needle haystack : List Char) :
    (needle = [] ∧ fuzzy needle haystack = .hit []) ∨
      (haystack.length < needle.length ∧ fuzzy needle haystack = .miss) ∨
      (0 < haystack.length ∧ needle.length = haystack.length ∧
        startsAlike needle haystack = true ∧ fuzzy needle haystack = .hit [⟨0, haystack.length⟩]) ∨
      fuzzy needle haystack = scan 0 none [] needle haystack := by
  rw [fuzzy]
  split
  next hempty => exact .inl ⟨List.isEmpty_iff.mp hempty, rfl⟩
  next hempty =>
    split
    next hlonger => exact .inr (.inl ⟨hlonger, rfl⟩)
    split
    next hwhole =>
      rw [wholeAlike, Bool.and_eq_true, beq_iff_eq] at hwhole
      have hpos : 0 < haystack.length := by
        rw [← hwhole.1, List.length_pos_iff]
        simpa using hempty
      exact .inr (.inr (.inl ⟨hpos, hwhole.1, hwhole.2, rfl⟩))
    · exact .inr (.inr (.inr rfl))

theorem fuzzy_found_iff (needle haystack : List Char) :
    (fuzzy needle haystack).found = true ↔ Embeds needle haystack := by
  rcases fuzzy_cases needle haystack with ⟨rfl, h⟩ | ⟨hlonger, h⟩ | ⟨_, _, hstarts, h⟩ | h
  · rw [h]
    exact ⟨fun _ => .nil, fun _ => rfl⟩
  · rw [h]
    exact ⟨nofun, fun he => absurd he.length_le (by omega)⟩
  · rw [h]
    exact ⟨fun _ => embeds_of_startsAlike hstarts, fun _ => rfl⟩
  · rw [h]
    exact scan_found_iff 0 none [] needle haystack

theorem fuzzy_of_append {needle more haystack : List Char}
    (h : (fuzzy (needle ++ more) haystack).found = true) :
    (fuzzy needle haystack).found = true := by
  rw [fuzzy_found_iff] at h ⊢
  exact h.of_append

end TabSearch.Matching
