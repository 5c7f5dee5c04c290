import TabSearch.Proofs.Matching.Greedy

namespace TabSearch.Matching

structure Sweep where
  pending : List Char
  closed : List Span
  run : Option Span

namespace Sweep

def start (needle : List Char) : Sweep := ⟨needle, [], none⟩

def step (s : Sweep) (char : Char × Nat) : Sweep :=
  match s.pending with
  | [] => s
  | n :: ns =>
      if alike n char.1 then ⟨ns, s.closed, some (extend s.run char.2)⟩
      else ⟨n :: ns, s.closed ++ s.run.toList, none⟩

def finish (s : Sweep) : Finding :=
  if s.pending.isEmpty then .hit (s.closed ++ s.run.toList) else .miss

def through (s : Sweep) (pos : Nat) (haystack : List Char) : Sweep :=
  (haystack.zipIdx pos).foldl step s

variable {closed : List Span} {run : Option Span} {pos : Nat} {n c : Char}
  {ns needle haystack : List Char}

theorem through_cons (s : Sweep) (pos : Nat) (c : Char) (haystack : List Char) :
    s.through pos (c :: haystack) = (s.step (c, pos)).through (pos + 1) haystack := rfl

theorem through_used (closed : List Span) (run : Option Span) (pos : Nat) (haystack : List Char) :
    through ⟨[], closed, run⟩ pos haystack = ⟨[], closed, run⟩ := by
  induction haystack generalizing pos with
  | nil => rfl
  | cons c rest ih => exact ih (pos + 1)

theorem step_matched (h : alike n c = true) :
    step ⟨n :: ns, closed, run⟩ (c, pos) = ⟨ns, closed, some (extend run pos)⟩ := if_pos h

theorem step_passed (h : ¬ alike n c = true) :
    step ⟨n :: ns, closed, run⟩ (c, pos) = ⟨n :: ns, closed ++ run.toList, none⟩ := if_neg h

end Sweep

theorem scan_eq_sweep (pos : Nat) (run : Option Span) (closed : List Span)
    (needle haystack : List Char) :
    scan pos run closed needle haystack =
      (Sweep.through ⟨needle, closed.reverse, run⟩ pos haystack).finish := by
  induction haystack generalizing pos run closed needle with
  | nil => cases needle <;> rfl
  | cons c rest ih =>
      cases needle with
      | nil =>
          rw [Sweep.through_used]
          rfl
      | cons n ns =>
          rw [scan, Sweep.through_cons]
          split
          next h => rw [Sweep.step_matched h, ih]
          next h =>
            rw [Sweep.step_passed h, ih, ← runs_passed run closed, Option.toList_none,
              List.append_nil]

section
variable {start pos : Nat} {closed : List Span} {needle haystack : List Char}

theorem scan_prolongs (h : startsAlike needle haystack = true) :
    scan pos (some ⟨start, pos⟩) closed needle haystack =
      .hit (closed.reverse ++ [⟨start, pos + needle.length⟩]) := by
  induction needle generalizing pos haystack with
  | nil => cases haystack <;> rfl
  | cons n ns ih =>
      cases haystack with
      | nil => cases h
      | cons c rest =>
          rw [startsAlike, Bool.and_eq_true] at h
          have hlength : pos + 1 + ns.length = pos + (n :: ns).length := by
            rw [List.length_cons]
            omega
          rw [scan, if_pos h.1, extend, ih h.2, hlength]

theorem scan_of_startsAlike (h : startsAlike needle haystack = true) (hne : needle ≠ []) :
    scan 0 none [] needle haystack = .hit [⟨0, needle.length⟩] := by
  obtain ⟨n, ns, rfl⟩ := List.exists_cons_of_ne_nil hne
  cases haystack with
  | nil => cases h
  | cons c rest =>
      rw [startsAlike, Bool.and_eq_true] at h
      rw [scan, if_pos h.1, extend, scan_prolongs h.2, Nat.add_comm, List.length_cons]
      rfl

theorem scan_of_longer (h : haystack.length < needle.length) :
    scan 0 none [] needle haystack = .miss := by
  have hfound : (scan 0 none [] needle haystack).found = false := by
    rw [Bool.eq_false_iff, ne_eq, scan_found_iff]
    exact fun he => absurd he.length_le (by omega)
  have hspans := scan_missed hfound
  generalize scan 0 none [] needle haystack = finding at hfound hspans
  cases finding
  cases hfound
  cases hspans
  rfl

end

theorem shortcuts_change_nothing (needle haystack : List Char) :
    fuzzy needle haystack = scan 0 none [] needle haystack ∧
      fuzzy needle haystack = ((Sweep.start needle).through 0 haystack).finish := by
  have hscan : fuzzy needle haystack = scan 0 none [] needle haystack := by
    rcases fuzzy_cases needle haystack with ⟨rfl, h⟩ | ⟨hlonger, h⟩ | ⟨hpos, hlength, hstarts, h⟩ | h
    · rw [h]
      cases haystack <;> rfl
    · rw [h, scan_of_longer hlonger]
    · have hne : needle ≠ [] := List.length_pos_iff.mp (hlength ▸ hpos)
      rw [h, scan_of_startsAlike hstarts hne, hlength]
    · exact h
  exact ⟨hscan, hscan.trans (scan_eq_sweep 0 none [] needle haystack)⟩

end TabSearch.Matching
