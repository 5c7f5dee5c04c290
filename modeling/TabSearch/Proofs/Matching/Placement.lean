import TabSearch.Proofs.Matching.Embedding
import TabSearch.Proofs.Matching.Occurrence
import TabSearch.Proofs.Pattern.Boundary
import TabSearch.Query

namespace TabSearch

structure Span.Placed (length : Nat) (spans : List Span) : Prop where
  within : ∀ s ∈ spans, s.start ≤ s.stop ∧ s.stop ≤ length
  apart : spans.Pairwise fun s t => s.stop < t.start

namespace Span

theorem placed_nil (length : Nat) : Placed length [] := ⟨by simp, .nil⟩

theorem placed_singleton {length : Nat} {s : Span} (h : s.start ≤ s.stop) (hl : s.stop ≤ length) :
    Placed length [s] :=
  ⟨by simp [h, hl], List.pairwise_singleton _ s⟩

theorem Placed.mono {length more : Nat} {spans : List Span} (h : Placed length spans)
    (hle : length ≤ more) : Placed more spans :=
  ⟨fun s hs => ⟨(h.within s hs).1, Nat.le_trans (h.within s hs).2 hle⟩, h.apart⟩

theorem Placed.concat {length : Nat} {spans : List Span} {s : Span} (h : Placed length spans)
    (hs : s.start ≤ s.stop ∧ s.stop ≤ length) (hbehind : ∀ t ∈ spans, t.stop < s.start) :
    Placed length (spans ++ [s]) := by
  constructor
  · simp only [List.forall_mem_append, List.forall_mem_singleton]
    exact ⟨h.within, hs⟩
  · rw [List.pairwise_append]
    exact ⟨h.apart, List.pairwise_singleton _ s, by simpa using hbehind⟩

end Span

namespace Matching

open TabSearch.Span

theorem exact_placed (needle haystack : List Char) :
    Placed haystack.length (exact needle haystack).spans := by
  rw [Matching.exact]
  split
  · exact placed_nil _
  · cases h : firstFrom needle 0 haystack with
    | none => exact placed_nil _
    | some first =>
        obtain ⟨p, rfl, hp, _⟩ := firstFrom_eq_some h
        exact placed_singleton (Nat.le_add_right _ _) (by simpa using hp.within)

/-- What a scan has matched before a position: the closed runs are not next to it. -/
structure Scanned (pos : Nat) (run : Option Span) (closed : List Span) : Prop where
  placed : Placed pos (closed.reverse ++ run.toList)
  behind : ∀ s ∈ closed, s.stop < pos

theorem Scanned.closed_placed {pos : Nat} {run : Option Span} {closed : List Span}
    (h : Scanned pos run closed) : Placed pos closed.reverse := by
  constructor
  · intro s hs
    exact h.placed.within s (List.mem_append_left _ hs)
  · exact h.placed.apart.sublist (List.sublist_append_left _ _)

theorem Scanned.matched {pos : Nat} {run : Option Span} {closed : List Span}
    (h : Scanned pos run closed) : Scanned (pos + 1) (some (extend run pos)) closed := by
  have hclosed := h.closed_placed.mono (Nat.le_succ pos)
  have hbehind : ∀ s ∈ closed, s.stop < pos + 1 := fun s hs => Nat.lt_succ_of_lt (h.behind s hs)
  refine ⟨?_, hbehind⟩
  cases run with
  | none =>
      refine hclosed.concat ⟨Nat.le_succ pos, Nat.le_refl _⟩ fun t ht => ?_
      exact h.behind t (List.mem_reverse.mp ht)
  | some s =>
      have hs : s.start ≤ s.stop ∧ s.stop ≤ pos := h.placed.within s (by simp)
      refine hclosed.concat ⟨?_, Nat.le_refl _⟩ fun t ht => ?_
      · exact Nat.le_succ_of_le (Nat.le_trans hs.1 hs.2)
      · exact (List.pairwise_append.mp h.placed.apart).2.2 t ht s (by simp)

theorem runs_passed (run : Option Span) (closed : List Span) :
    (run.toList ++ closed).reverse ++ (none : Option Span).toList =
      closed.reverse ++ run.toList := by
  cases run <;> simp

theorem Scanned.passed {pos : Nat} {run : Option Span} {closed : List Span}
    (h : Scanned pos run closed) : Scanned (pos + 1) none (run.toList ++ closed) := by
  constructor
  · rw [runs_passed]
    exact h.placed.mono (Nat.le_succ pos)
  · intro s hs
    have hm : s ∈ closed.reverse ++ run.toList := by simpa [or_comm] using hs
    exact Nat.lt_succ_of_le (h.placed.within s hm).2

theorem scan_placed {pos : Nat} {run : Option Span} {closed : List Span}
    (h : Scanned pos run closed) (needle haystack : List Char) :
    Placed (pos + haystack.length) (scan pos run closed needle haystack).spans := by
  induction haystack generalizing pos run closed needle with
  | nil =>
      cases needle with
      | nil => exact h.placed
      | cons n ns => exact placed_nil _
  | cons c rest ih =>
      have hlength : pos + (c :: rest).length = pos + 1 + rest.length := by
        rw [List.length_cons]
        omega
      cases needle with
      | nil => exact h.placed.mono (Nat.le_add_right pos _)
      | cons n ns =>
          rw [scan, hlength]
          split
          · exact ih h.matched ns
          · exact ih h.passed (n :: ns)

theorem fuzzy_placed (needle haystack : List Char) :
    Placed haystack.length (fuzzy needle haystack).spans := by
  rcases fuzzy_cases needle haystack with ⟨_, h⟩ | ⟨_, h⟩ | ⟨_, _, _, h⟩ | h
  · rw [h]
    exact placed_nil _
  · rw [h]
    exact placed_nil _
  · rw [h]
    exact placed_singleton (Nat.zero_le _) (Nat.le_refl _)
  · have hstart : Scanned 0 none [] := ⟨placed_nil 0, by simp⟩
    rw [h]
    simpa using scan_placed hstart needle haystack

theorem spanOfBytes_part (before part after : List Char) :
    spanOfBytes (before ++ (part ++ after)) (byteCount before) (byteCount before + byteCount part) =
      ⟨before.length, before.length + part.length⟩ := by
  rw [spanOfBytes, takeBytes_append, dropBytes_append, Nat.add_sub_cancel_left, takeBytes_append]

theorem pattern_placed (p : Pattern) (haystack : List Char) :
    Placed haystack.length (pattern p haystack).spans := by
  rw [pattern]
  cases h : p.find? haystack with
  | none => exact placed_nil _
  | some m =>
      obtain ⟨first, last⟩ := m
      obtain ⟨before, part, after, rfl, rfl, rfl⟩ := Pattern.find?_isPart h
      have hspan := spanOfBytes_part before part after
      simp only [hspan]
      refine placed_singleton (Nat.le_add_right _ _) ?_
      simp only [List.length_append]
      omega

end Matching

theorem Algorithm.run_placed (a : Algorithm) (haystack : List Char) :
    Span.Placed haystack.length (a.run haystack).spans := by
  cases a with
  | exact needle => exact Matching.exact_placed needle haystack
  | pattern p => exact Matching.pattern_placed p haystack
  | fuzzy needle => exact Matching.fuzzy_placed needle haystack

end TabSearch
