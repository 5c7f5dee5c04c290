import Mathlib.Data.List.Forall2
import TabSearch.Matching.Fuzzy

namespace TabSearch.Matching

def SameFolded (s t : List Char) : Prop :=
  List.Forall₂ (fun c d => lowercase c = lowercase d) s t

theorem alike_congr {a a' b b' : Char} (ha : lowercase a = lowercase a')
    (hb : lowercase b = lowercase b') : alike a b = alike a' b' := by
  rw [Bool.eq_iff_iff, alike_iff, alike_iff, ha, hb]

variable {needle needle' haystack haystack' : List Char}

theorem startsAlike_congr (hn : SameFolded needle needle') (hh : SameFolded haystack haystack') :
    startsAlike needle haystack = startsAlike needle' haystack' := by
  induction hn generalizing haystack haystack' with
  | nil => rw [startsAlike, startsAlike]
  | cons hc _ ih =>
      cases hh with
      | nil => rfl
      | cons hd hrest => rw [startsAlike, startsAlike, alike_congr hc hd, ih hrest]

theorem firstFrom_congr (hn : SameFolded needle needle') (hh : SameFolded haystack haystack')
    (pos : Nat) : firstFrom needle pos haystack = firstFrom needle' pos haystack' := by
  induction hh generalizing pos with
  | nil => rw [firstFrom, firstFrom, startsAlike_congr hn .nil]
  | cons hd hrest ih =>
      rw [firstFrom, firstFrom, startsAlike_congr hn (.cons hd hrest), ih]

theorem scan_congr (hn : SameFolded needle needle') (hh : SameFolded haystack haystack')
    (pos : Nat) (run : Option Span) (closed : List Span) :
    scan pos run closed needle haystack = scan pos run closed needle' haystack' := by
  induction hh generalizing pos run closed needle needle' with
  | nil => cases hn <;> rfl
  | cons hd hrest ih =>
      cases hn with
      | nil => rfl
      | cons hc hneedle =>
          rw [scan, scan, alike_congr hc hd, ih hneedle, ih (.cons hc hneedle)]

theorem wholeAlike_congr (hn : SameFolded needle needle') (hh : SameFolded haystack haystack') :
    wholeAlike needle haystack = wholeAlike needle' haystack' := by
  rw [wholeAlike, wholeAlike, hn.length_eq, hh.length_eq, startsAlike_congr hn hh]

theorem exact_congr (hn : SameFolded needle needle') (hh : SameFolded haystack haystack') :
    exact needle haystack = exact needle' haystack' := by
  rw [Matching.exact, Matching.exact, firstFrom_congr hn hh, hn.length_eq]
  cases hn <;> rfl

theorem fuzzy_congr (hn : SameFolded needle needle') (hh : SameFolded haystack haystack') :
    fuzzy needle haystack = fuzzy needle' haystack' := by
  rw [fuzzy, fuzzy, wholeAlike_congr hn hh, scan_congr hn hh, hn.length_eq, hh.length_eq]
  cases hn <;> rfl

theorem matching_ignores_case (hneedle : SameFolded needle needle')
    (hhaystack : SameFolded haystack haystack') :
    exact needle haystack = exact needle' haystack' ∧
      fuzzy needle haystack = fuzzy needle' haystack' :=
  ⟨exact_congr hneedle hhaystack, fuzzy_congr hneedle hhaystack⟩

theorem matching_ignores_case_kelvin :
    (SameFolded ['İ', 'k'] ['İ', '\u212a'] ∧
      SameFolded ['ö', 'İ', 'K', 'x'] ['Ö', 'İ', '\u212a', 'X']) ∧
    exact ['İ', '\u212a'] ['Ö', 'İ', '\u212a', 'X'] = .hit [⟨1, 3⟩] ∧
    fuzzy ['İ', '\u212a'] ['Ö', 'İ', '\u212a', 'X'] = .hit [⟨1, 3⟩] := by
  -- the Kelvin sign has three bytes and k has one; the dotted capital I has two lowercase characters
  have hneedle : SameFolded ['İ', 'k'] ['İ', '\u212a'] := by
    refine .cons ?_ (.cons ?_ .nil) <;> decide
  have hhaystack : SameFolded ['ö', 'İ', 'K', 'x'] ['Ö', 'İ', '\u212a', 'X'] := by
    refine .cons ?_ (.cons ?_ (.cons ?_ (.cons ?_ .nil))) <;> decide
  obtain ⟨hexact, hfuzzy⟩ := matching_ignores_case hneedle hhaystack
  refine ⟨⟨hneedle, hhaystack⟩, ?_, ?_⟩
  · rw [← hexact]
    decide
  · rw [← hfuzzy]
    decide

end TabSearch.Matching
