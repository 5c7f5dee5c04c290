import TabSearch.Proofs.Matching.Placement
import TabSearch.Proofs.Report.Pieces

namespace TabSearch.Markers

open TabSearch.Span

def wrapFrom (m : Markers) (pos : Nat) (text : List Char) : List Span → List Char
  | [] => text
  | s :: spans =>
      if s.isEmpty then wrapFrom m pos text spans
      else
        text.take (s.start - pos) ++ (m.opening.toList ++
          ((text.drop (s.start - pos)).take s.length ++ (m.closing.toList ++
            wrapFrom m s.stop (text.drop (s.stop - pos)) spans)))

def wrap (m : Markers) (text : List Char) (spans : List Span) : List Char := m.wrapFrom 0 text spans

variable (m : Markers)

theorem clamp_of_placed {length : Nat} {spans : List Span} (h : Placed length spans) :
    clamp length spans = spans.filter fun s => !s.isEmpty := by
  have hsame : ∀ s ∈ spans, (⟨min s.start length, min s.stop length⟩ : Span) = s := by
    intro s hs
    obtain ⟨hle, hstop⟩ := h.within s hs
    rw [Nat.min_eq_left (Nat.le_trans hle hstop), Nat.min_eq_left hstop]
  have hkeep : ∀ s ∈ spans, decide (s.start < s.stop) = !s.isEmpty := by
    intro s hs
    obtain ⟨hle, _⟩ := h.within s hs
    rw [isEmpty, Bool.eq_iff_iff, decide_eq_true_eq, Bool.not_eq_true', beq_eq_false_iff_ne]
    omega
  rw [clamp, List.map_congr_left hsame, List.map_id', List.filter_congr hkeep]

theorem accepted_of_placed {length cursor : Nat} {spans : List Span} (h : Placed length spans)
    (hfrom : ∀ s ∈ spans, cursor ≤ s.start) :
    accepted length cursor spans = spans.filter fun s => !s.isEmpty := by
  induction spans generalizing cursor with
  | nil => rfl
  | cons s spans ih =>
      obtain ⟨hs, hwithin⟩ := List.forall_mem_cons.mp h.within
      obtain ⟨hapart, hpair⟩ := List.pairwise_cons.mp h.apart
      obtain ⟨hcursor, hfrom⟩ := List.forall_mem_cons.mp hfrom
      by_cases hempty : s.isEmpty = true
      · have hskip : ¬ (min s.start length < min s.stop length ∧ cursor ≤ min s.start length) := by
          rw [isEmpty, beq_iff_eq] at hempty
          omega
        rw [accepted, if_neg hskip, List.filter_cons_of_neg (by simp [hempty])]
        exact ih ⟨hwithin, hpair⟩ hfrom
      · have hne : s.start < s.stop := by
          have hne : s.start ≠ s.stop := by simpa [isEmpty] using hempty
          omega
        rw [accepted_of_le hne hs.2 hcursor, List.filter_cons_of_pos (by simp [hempty])]
        rw [ih ⟨hwithin, hpair⟩ fun t ht => Nat.le_of_lt (hapart t ht)]

theorem write_chars (text : List Char) : (text.map Piece.char).flatMap (Piece.write m) = text := by
  rw [List.flatMap_map]
  exact List.flatMap_singleton' text

theorem wrapFrom_eq (pos : Nat) (text : List Char) (spans : List Span) :
    m.wrapFrom pos text spans =
      (cutFrom pos text (spans.filter fun s => !s.isEmpty)).flatMap (Piece.write m) := by
  induction spans generalizing pos text with
  | nil => exact (m.write_chars text).symm
  | cons s spans ih =>
      rw [wrapFrom]
      by_cases hempty : s.isEmpty = true
      · rw [if_pos hempty, List.filter_cons_of_neg (by simp [hempty]), ih]
      · rw [if_neg hempty, List.filter_cons_of_pos (by simp [hempty]), cutFrom, ih]
        simp only [List.flatMap_append, List.flatMap_cons, write_chars, Piece.write,
          List.append_assoc]

theorem render_wrap {text : List Char} {spans : List Span} (h : Placed text.length spans) :
    m.render text spans = m.wrap text spans := by
  have hchain := accepted_chain text.length 0 spans
  rw [render_eq_pieces, pieces_cut hchain, accepted_of_placed h fun _ _ => Nat.zero_le _, wrap,
    wrapFrom_eq]

end TabSearch.Markers
