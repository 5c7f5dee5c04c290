import TabSearch.Proofs.Matching.Placement
import TabSearch.Proofs.Text.Encoding

namespace TabSearch

namespace Matching

open TabSearch.Pattern

structure Denotes (text : List Char) (b e : Nat) (s : Span) : Prop where
  ordered : s.start ≤ s.stop
  within : s.stop ≤ text.length
  before : encodeText (text.take s.start) = (encodeText text).take b
  matched : encodeText ((text.take s.stop).drop s.start) = ((encodeText text).take e).drop b

section
variable (before part after : List Char)

theorem encodeText_before :
    (encodeText (before ++ (part ++ after))).take (byteCount before) = encodeText before := by
  rw [encodeText_append]
  exact List.take_left' (length_encodeText before)

theorem encodeText_part :
    ((encodeText (before ++ (part ++ after))).take (byteCount before + byteCount part)).drop
        (byteCount before) = encodeText part := by
  have hlength : (encodeText (before ++ part)).length = byteCount before + byteCount part := by
    rw [length_encodeText, byteCount_append]
  rw [← List.append_assoc, encodeText_append, List.take_left' hlength, encodeText_append]
  exact List.drop_left' (length_encodeText before)

theorem denotes_part :
    Denotes (before ++ (part ++ after)) (byteCount before) (byteCount before + byteCount part)
      ⟨before.length, before.length + part.length⟩ := by
  refine ⟨Nat.le_add_right _ _, ?_, ?_, ?_⟩
  · simp only [List.length_append]
    omega
  · rw [encodeText_before, List.take_left]
  · have htake : (before ++ (part ++ after)).take (before.length + part.length) =
        before ++ part := by
      rw [← List.append_assoc]
      exact List.take_left' List.length_append
    rw [encodeText_part, htake, List.drop_left]

variable {before part after}

theorem Denotes.eq_part {s : Span}
    (h : Denotes (before ++ (part ++ after)) (byteCount before) (byteCount before + byteCount part)
      s) : s = ⟨before.length, before.length + part.length⟩ := by
  obtain ⟨hordered, hwithin, hbefore, hmatched⟩ := h
  rw [encodeText_before] at hbefore
  rw [encodeText_part] at hmatched
  have htake := congrArg List.length (encodeText_injective hbefore)
  have hdrop := congrArg List.length (encodeText_injective hmatched)
  rw [List.length_take] at htake
  rw [List.length_drop, List.length_take] at hdrop
  have hstart : s.start = before.length := by omega
  have hstop : s.stop = before.length + part.length := by omega
  rw [← hstop, ← hstart]

end

theorem spans_denote_matches (text : List Char) :
    (∀ b e, IsBoundary text b → IsBoundary text e → b ≤ e →
      (∀ s, Denotes text b e s ↔ s = spanOfBytes text b e) ∧
        ((spanOfBytes text b e).isEmpty = true ↔ b = e)) ∧
    ∀ (p : Pattern) b e, p.find? text = some (b, e) →
      IsBoundary text b ∧ IsBoundary text e ∧ b ≤ e ∧
        pattern p text = .hit [spanOfBytes text b e] := by
  constructor
  · intro b e hb he hle
    obtain ⟨before, part, after, rfl, rfl, rfl⟩ := isPart_iff.mpr ⟨hb, he, hle⟩
    simp only [spanOfBytes_part]
    refine ⟨fun s => ⟨Denotes.eq_part, ?_⟩, ?_⟩
    · rintro rfl
      exact denotes_part before part after
    · simp [Span.isEmpty, byteCount_eq_zero]
  · intro p b e h
    obtain ⟨hb, he, hle⟩ := isPart_iff.mp (find?_isPart h)
    refine ⟨hb, he, hle, ?_⟩
    rw [pattern, h]

theorem spans_denote_matches_euro :
    (ofExpr "€" (.set (.singleton '€'))).find? ['ö', '€', 'x'] = some (2, 5) ∧
      pattern (ofExpr "€" (.set (.singleton '€'))) ['ö', '€', 'x'] = .hit [⟨1, 2⟩] ∧
      Denotes ['ö', '€', 'x'] 2 5 ⟨1, 2⟩ ∧ Denotes ['ö', '€', 'x'] 5 5 ⟨2, 2⟩ := by
  obtain ⟨hspans, hfound⟩ := spans_denote_matches ['ö', '€', 'x']
  have hfind : (ofExpr "€" (.set (.singleton '€'))).find? ['ö', '€', 'x'] = some (2, 5) := by
    decide
  obtain ⟨hb, he, hle, hpattern⟩ := hfound _ 2 5 hfind
  refine ⟨hfind, hpattern, ?_, ?_⟩
  · exact ((hspans 2 5 hb he hle).1 _).mpr rfl
  -- an empty match right behind it
  · exact ((hspans 5 5 he he (Nat.le_refl 5)).1 _).mpr rfl

end Matching

end TabSearch
