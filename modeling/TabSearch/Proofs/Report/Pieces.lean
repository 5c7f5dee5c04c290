import TabSearch.Report

namespace TabSearch.Markers

inductive Piece where
  | opening
  | closing
  | char (c : Char)
  deriving DecidableEq, Repr

namespace Piece

def write (m : Markers) : Piece → List Char
  | opening => m.opening.toList
  | closing => m.closing.toList
  | char c => [c]

def char? : Piece → Option Char
  | char c => some c
  | _ => none

def isMark (p : Piece) : Bool := p.char?.isNone

end Piece

/--
The spans that are marked, cut at the length of the text: each that is then not empty and does not
start before the cursor, which stands where the last one accepted stops.
-/
def accepted (length cursor : Nat) : List Span → List Span
  | [] => []
  | s :: spans =>
      let start := min s.start length
      let stop := min s.stop length
      if start < stop ∧ cursor ≤ start then ⟨start, stop⟩ :: accepted length stop spans
      else accepted length cursor spans

def piecesFrom (pos : Nat) (spans : List Span) : List Char → List Piece
  | [] => []
  | c :: rest =>
      (if spans.any (fun s => s.start == pos) then [.opening] else []) ++ .char c ::
        ((if spans.any (fun s => s.stop == pos + 1) then [.closing] else []) ++
          piecesFrom (pos + 1) spans rest)

def pieces (spans : List Span) (text : List Char) : List Piece := piecesFrom 0 spans text

/-- Spans from `pos` on, one behind the other and none empty. Neighbours may touch. -/
inductive Chain (length : Nat) : Nat → List Span → Prop where
  | nil {pos : Nat} : Chain length pos []
  | cons {pos : Nat} {s : Span} {spans : List Span} (from_pos : pos ≤ s.start)
      (nonempty : s.start < s.stop) (within : s.stop ≤ length)
      (behind : Chain length s.stop spans) : Chain length pos (s :: spans)

def Clamped (length : Nat) (spans : List Span) : Prop :=
  ∀ s ∈ spans, s.start < s.stop ∧ s.stop ≤ length

section
variable {length pos : Nat} {s : Span} {spans waiting : List Span}

theorem Chain.bounds (h : Chain length pos spans) :
    ∀ s ∈ spans, pos ≤ s.start ∧ s.start < s.stop := by
  induction h with
  | nil => exact nofun
  | cons hfrom hne _ _ ih =>
      refine List.forall_mem_cons.mpr ⟨⟨hfrom, hne⟩, fun t ht => ?_⟩
      obtain ⟨ht, hlt⟩ := ih t ht
      exact ⟨by omega, hlt⟩

theorem Chain.no_start (h : Chain length pos spans) {p : Nat} (hp : p < pos) :
    spans.any (fun s => s.start == p) = false := by
  rw [List.any_eq_false]
  intro s hs
  have := h.bounds s hs
  rw [beq_iff_eq]
  omega

theorem Chain.no_stop (h : Chain length pos spans) {p : Nat} (hp : p ≤ pos) :
    spans.any (fun s => s.stop == p) = false := by
  rw [List.any_eq_false]
  intro s hs
  have := h.bounds s hs
  rw [beq_iff_eq]
  omega

theorem Chain.cons_no_start (h : Chain length s.stop spans) {p : Nat} (hne : s.start ≠ p)
    (hp : p < s.stop) : (s :: spans).any (fun s => s.start == p) = false := by
  rw [List.any_cons, h.no_start hp, Bool.or_false, beq_eq_false_iff_ne]
  exact hne

theorem Chain.cons_no_stop (h : Chain length s.stop spans) {p : Nat} (hp : p < s.stop) :
    (s :: spans).any (fun s => s.stop == p) = false := by
  rw [List.any_cons, h.no_stop (Nat.le_of_lt hp), Bool.or_false, beq_eq_false_iff_ne]
  exact Nat.ne_of_gt hp

theorem accepted_chain (length cursor : Nat) (spans : List Span) :
    Chain length cursor (accepted length cursor spans) := by
  induction spans generalizing cursor with
  | nil => exact .nil
  | cons s spans ih =>
      rw [accepted]
      split
      next h => exact .cons h.2 h.1 (Nat.min_le_right _ _) (ih _)
      next => exact ih cursor

theorem accepted_of_le {cursor : Nat} (hne : s.start < s.stop) (hwithin : s.stop ≤ length)
    (hle : cursor ≤ s.start) :
    accepted length cursor (s :: spans) = s :: accepted length s.stop spans := by
  have hstart : min s.start length = s.start := by omega
  have hstop : min s.stop length = s.stop := by omega
  rw [accepted, hstart, hstop, if_pos ⟨hne, hle⟩]

theorem accepted_of_lt {cursor : Nat} (hlt : s.start < cursor) :
    accepted length cursor (s :: spans) = accepted length cursor spans := by
  rw [accepted, if_neg]
  omega

theorem clamped_clamp (length : Nat) (spans : List Span) : Clamped length (clamp length spans) := by
  intro s hs
  obtain ⟨hs, hne⟩ := List.mem_filter.mp hs
  obtain ⟨t, _, rfl⟩ := List.mem_map.mp hs
  exact ⟨of_decide_eq_true hne, Nat.min_le_right _ _⟩

theorem accepted_clamp (length cursor : Nat) (spans : List Span) :
    accepted length cursor (clamp length spans) = accepted length cursor spans := by
  induction spans generalizing cursor with
  | nil => rfl
  | cons s spans ih =>
      have hcons : clamp length (s :: spans) =
          (if min s.start length < min s.stop length then [⟨min s.start length, min s.stop length⟩]
            else []) ++ clamp length spans := by
        simp only [clamp, List.map_cons, List.filter_cons, decide_eq_true_eq]
        split <;> rfl
      rw [hcons, accepted]
      by_cases hne : min s.start length < min s.stop length
      · simp only [if_pos hne, List.singleton_append, accepted, Nat.min_assoc, Nat.min_self, ih]
      · rw [if_neg hne, if_neg (fun h => hne h.1), List.nil_append, ih]

theorem accepted_dropWhile (length pos : Nat) (spans : List Span) :
    accepted length pos (spans.dropWhile fun s => s.start < pos) = accepted length pos spans := by
  induction spans with
  | nil => rfl
  | cons s spans ih =>
      rw [List.dropWhile_cons]
      split
      next hlt => rw [ih, accepted_of_lt (of_decide_eq_true hlt)]
      next => rfl

theorem piecesFrom_past {text : List Char} (hstart : s.start < pos) (hstop : s.stop ≤ pos) :
    piecesFrom pos (s :: spans) text = piecesFrom pos spans text := by
  induction text generalizing pos with
  | nil => rfl
  | cons c rest ih =>
      have hstart' : (s.start == pos) = false := by rw [beq_eq_false_iff_ne]; omega
      have hstop' : (s.stop == pos + 1) = false := by rw [beq_eq_false_iff_ne]; omega
      simp only [piecesFrom, List.any_cons, hstart', hstop', Bool.false_or,
        ih (Nat.lt_succ_of_lt hstart) (Nat.le_succ_of_le hstop)]

/--
The spans that are still to be marked or to be closed when the renderer comes to `pos`: between two
of them it has those that wait, within one that one comes first.
-/
inductive Stands (length pos : Nat) : Marking → List Span → Prop where
  | between (waiting : List Span) (clamped : Clamped length waiting) :
      Stands length pos ⟨none, waiting⟩ (accepted length pos waiting)
  | within (s : Span) (waiting : List Span)
      (clamped : Clamped length waiting) (started : s.start < pos)
      (stops : pos < s.stop) :
      Stands length pos ⟨some s.stop, waiting⟩ (s :: accepted length s.stop waiting)

structure Leaves (length pos : Nat) (spans : List Span) (left : Bool × Marking) : Prop where
  closes : left.1 = spans.any (fun s => s.stop == pos + 1)
  stands : ∃ more, Stands length (pos + 1) left.2 more ∧
    ∀ text, piecesFrom (pos + 1) spans text = piecesFrom (pos + 1) more text

theorem leaves_within (clamped : Clamped length waiting)
    (started : s.start ≤ pos) (stops : pos < s.stop) :
    Leaves length pos (s :: accepted length s.stop waiting)
      (Marking.leave ⟨some s.stop, waiting⟩ (pos + 1)) := by
  have hchain := accepted_chain length s.stop waiting
  rw [Marking.leave]
  by_cases hlast : s.stop = pos + 1
  · rw [if_pos (congrArg some hlast)]
    refine ⟨by simp [hlast], _, .between waiting clamped, fun text => ?_⟩
    rw [piecesFrom_past (Nat.lt_succ_of_le started) (Nat.le_of_eq hlast), hlast]
  · have hmore : pos + 1 < s.stop := by omega
    rw [if_neg (fun h => hlast (Option.some.inj h))]
    refine ⟨(hchain.cons_no_stop hmore).symm, _, ?_, fun _ => rfl⟩
    exact .within s waiting clamped (Nat.lt_succ_of_le started) hmore

theorem accepted_later (clamped : Clamped length waiting)
    (later : ∀ s ∈ waiting.head?, pos < s.start) :
    accepted length pos waiting = accepted length (pos + 1) waiting := by
  cases waiting with
  | nil => rfl
  | cons s more =>
      obtain ⟨hne, hwithin⟩ := clamped s (by simp)
      have hs : pos < s.start := later s rfl
      rw [accepted_of_le hne hwithin (Nat.le_of_lt hs), accepted_of_le hne hwithin hs]

theorem leaves_between (clamped : Clamped length waiting)
    (later : ∀ s ∈ waiting.head?, pos < s.start) :
    Leaves length pos (accepted length pos waiting) (Marking.leave ⟨none, waiting⟩ (pos + 1)) := by
  rw [accepted_later clamped later]
  refine ⟨?_, _, .between waiting clamped, fun _ => rfl⟩
  exact ((accepted_chain length (pos + 1) waiting).no_stop (Nat.le_refl _)).symm

theorem Stands.step {k : Marking} (h : Stands length pos k spans) :
    (k.arrive pos).1 = spans.any (fun s => s.start == pos) ∧
      Leaves length pos spans ((k.arrive pos).2.leave (pos + 1)) := by
  cases h with
  | within s waiting clamped started stops =>
      have hchain := accepted_chain length s.stop waiting
      refine ⟨?_, leaves_within clamped (Nat.le_of_lt started) stops⟩
      exact (hchain.cons_no_start (Nat.ne_of_lt started) stops).symm
  | between waiting clamped =>
      have hclamped : Clamped length (waiting.dropWhile fun s => s.start < pos) :=
        fun s hs => clamped s ((List.dropWhile_sublist _).subset hs)
      have hhead := List.head?_dropWhile_not (fun s : Span => decide (s.start < pos)) waiting
      rw [← accepted_dropWhile, Marking.arrive]
      cases hdrop : waiting.dropWhile (fun s => s.start < pos) with
      | nil =>
          rw [hdrop] at hclamped
          exact ⟨rfl, leaves_between hclamped nofun⟩
      | cons s more =>
          rw [hdrop] at hclamped hhead
          obtain ⟨hne, hwithin⟩ := hclamped s (by simp)
          have hle : pos ≤ s.start := by simpa using hhead
          by_cases hpos : s.start = pos
          · simp only [if_pos hpos]
            rw [accepted_of_le hne hwithin hle]
            refine ⟨by simp [hpos], leaves_within (fun t ht => hclamped t (by simp [ht])) ?_ ?_⟩
            · exact Nat.le_of_eq hpos
            · exact hpos ▸ hne
          · have later : ∀ t ∈ (s :: more).head?, pos < t.start := by
              rintro t ⟨⟩
              omega
            simp only [if_neg hpos]
            refine ⟨?_, leaves_between hclamped later⟩
            rw [accepted_later hclamped later]
            exact ((accepted_chain _ _ _).no_start (Nat.lt_succ_self pos)).symm

theorem renderFrom_eq (m : Markers) {k : Marking} (h : Stands length pos k spans)
    (text : List Char) :
    m.renderFrom pos k text = (piecesFrom pos spans text).flatMap (Piece.write m) := by
  induction text generalizing pos k spans with
  | nil => rfl
  | cons c rest ih =>
      obtain ⟨hopens, hcloses, more, hmore, hpieces⟩ := h.step
      have hcons : m.renderFrom pos k (c :: rest) =
          (if (k.arrive pos).1 then m.opening.toList else []) ++ c ::
            ((if ((k.arrive pos).2.leave (pos + 1)).1 then m.closing.toList else []) ++
              m.renderFrom (pos + 1) ((k.arrive pos).2.leave (pos + 1)).2 rest) := rfl
      rw [hcons, piecesFrom, hpieces, hopens, hcloses, ih hmore]
      simp only [List.flatMap_append, List.flatMap_cons, Piece.write, apply_ite (List.flatMap _)]
      simp

theorem render_eq_pieces (m : Markers) (text : List Char) (spans : List Span) :
    m.render text spans =
      (pieces (accepted text.length 0 spans) text).flatMap (Piece.write m) := by
  rw [render, renderFrom_eq m (.between _ (clamped_clamp text.length spans)), accepted_clamp]
  rfl

theorem piecesFrom_chars (pos : Nat) (spans : List Span) (text : List Char) :
    (piecesFrom pos spans text).filterMap Piece.char? = text := by
  induction text generalizing pos with
  | nil => rfl
  | cons c rest ih =>
      have hnone (b : Bool) {p : Piece} (hp : p.char? = none) :
          (if b then [p] else []).filterMap Piece.char? = [] := by
        cases b <;> simp [hp]
      have hchar : (Piece.char c).char? = some c := rfl
      rw [piecesFrom, List.filterMap_append, List.filterMap_cons_some hchar, List.filterMap_append,
        hnone _ rfl, hnone _ rfl, ih]
      rfl

def cutFrom (pos : Nat) (text : List Char) : List Span → List Piece
  | [] => text.map .char
  | s :: spans =>
      (text.take (s.start - pos)).map .char ++ .opening ::
        ((text.drop (s.start - pos)).take s.length).map .char ++ .closing ::
          cutFrom s.stop (text.drop (s.stop - pos)) spans

theorem cutFrom_before {c : Char} {rest : List Char} (h : Chain length (pos + 1) spans) :
    cutFrom pos (c :: rest) spans = .char c :: cutFrom (pos + 1) rest spans := by
  cases h with
  | nil => rfl
  | @cons _ s _ hfrom hne _ _ =>
      have hstart : s.start - pos = (s.start - (pos + 1)) + 1 := by omega
      have hstop : s.stop - pos = (s.stop - (pos + 1)) + 1 := by omega
      rw [cutFrom, cutFrom, hstart, hstop]
      rfl

structure Cuts (length pos : Nat) (text : List Char) : Prop where
  between : ∀ spans, Chain length pos spans → piecesFrom pos spans text = cutFrom pos text spans
  within : ∀ s spans, s.start < pos → pos < s.stop → s.stop ≤ length → Chain length s.stop spans →
    piecesFrom pos (s :: spans) text = (text.take (s.stop - pos)).map .char ++ .closing ::
      cutFrom s.stop (text.drop (s.stop - pos)) spans

theorem Cuts.nil (pos : Nat) : Cuts pos pos [] := by
  constructor
  · intro spans h
    cases h with
    | nil => rfl
    | cons hfrom hne hwithin _ => omega
  · intro s spans _ hpos hstop
    omega

theorem Cuts.leave {c : Char} {rest : List Char} (h : Cuts length (pos + 1) rest)
    (hstart : s.start ≤ pos) (hpos : pos < s.stop) (hstop : s.stop ≤ length)
    (hchain : Chain length s.stop spans) :
    .char c :: ((if (s :: spans).any (fun s => s.stop == pos + 1) then [Piece.closing] else []) ++
        piecesFrom (pos + 1) (s :: spans) rest) =
      ((c :: rest).take (s.stop - pos)).map .char ++ .closing ::
        cutFrom s.stop ((c :: rest).drop (s.stop - pos)) spans := by
  by_cases hlast : s.stop = pos + 1
  · have hone : s.stop - pos = 1 := by omega
    rw [piecesFrom_past (by omega) (by omega), h.between spans (hlast ▸ hchain), hone, hlast]
    simp [hlast]
  · have hsucc : s.stop - pos = (s.stop - (pos + 1)) + 1 := by omega
    rw [hchain.cons_no_stop (by omega), h.within s spans (by omega) (by omega) hstop hchain, hsucc]
    rfl

theorem Cuts.cons {c : Char} {rest : List Char} (h : Cuts length (pos + 1) rest) :
    Cuts length pos (c :: rest) := by
  constructor
  · intro spans hchain
    cases hchain with
    | nil => simpa [piecesFrom, cutFrom] using h.between [] .nil
    | @cons _ s spans hfrom hne hwithin hbehind =>
        by_cases hpos : s.start = pos
        · have hopen : (s :: spans).any (fun s => s.start == pos) = true := by simp [hpos]
          rw [piecesFrom, hopen, if_pos rfl, h.leave (by omega) (by omega) hwithin hbehind]
          simp [cutFrom, hpos, Span.length]
        · have hlater : Chain length (pos + 1) (s :: spans) := .cons (by omega) hne hwithin hbehind
          rw [piecesFrom, hlater.no_start (by omega), hlater.no_stop (by omega),
            cutFrom_before hlater, h.between _ hlater]
          rfl
  · intro s spans hstart hpos hstop hchain
    rw [piecesFrom, hchain.cons_no_start (Nat.ne_of_lt hstart) hpos,
      ← h.leave (Nat.le_of_lt hstart) hpos hstop hchain]
    rfl

theorem cuts {text : List Char} (h : pos + text.length = length) : Cuts length pos text := by
  induction text generalizing pos with
  | nil =>
      obtain rfl : pos = length := h
      exact .nil pos
  | cons c rest ih =>
      rw [List.length_cons] at h
      exact .cons (ih (by omega))

theorem pieces_cut {text : List Char} (h : Chain text.length 0 spans) :
    pieces spans text = cutFrom 0 text spans :=
  (cuts (Nat.zero_add text.length)).between spans h

theorem filter_map_char (text : List Char) : (text.map Piece.char).filter Piece.isMark = [] := by
  simp [Piece.isMark, Piece.char?]

theorem cutFrom_marks (pos : Nat) (text : List Char) (spans : List Span) :
    (cutFrom pos text spans).filter Piece.isMark = spans.flatMap fun _ => [.opening, .closing] := by
  induction spans generalizing pos text with
  | nil => exact filter_map_char text
  | cons s spans ih =>
      rw [cutFrom, List.filter_append, List.filter_append, filter_map_char,
        List.filter_cons_of_pos rfl, List.filter_cons_of_pos rfl, filter_map_char, ih]
      rfl

end

theorem render_accepted (m : Markers) (text : List Char) (spans : List Span) :
    m.render text spans =
        (pieces (accepted text.length 0 spans) text).flatMap (Piece.write m) ∧
      (pieces (accepted text.length 0 spans) text).filterMap Piece.char? = text ∧
      (pieces (accepted text.length 0 spans) text).filter Piece.isMark =
        (accepted text.length 0 spans).flatMap fun _ => [.opening, .closing] := by
  refine ⟨render_eq_pieces m text spans, piecesFrom_chars 0 _ text, ?_⟩
  rw [pieces_cut (accepted_chain text.length 0 spans)]
  exact cutFrom_marks 0 text _

example : accepted 3 0 [⟨1, 1⟩, ⟨0, 2⟩, ⟨1, 3⟩, ⟨2, 9⟩, ⟨0, 1⟩] = [⟨0, 2⟩, ⟨2, 3⟩] ∧
    pieces [⟨0, 2⟩, ⟨2, 3⟩] ['a', 'b', 'c'] =
      [.opening, .char 'a', .char 'b', .closing, .opening, .char 'c', .closing] := ⟨rfl, rfl⟩

end TabSearch.Markers
