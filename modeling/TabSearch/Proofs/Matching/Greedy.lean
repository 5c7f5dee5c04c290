import TabSearch.Proofs.Matching.Embedding
import TabSearch.Proofs.Matching.Placement

namespace TabSearch

def Span.covered (spans : List Span) : List Nat := spans.flatMap positions

theorem Span.covered_append (spans more : List Span) :
    covered (spans ++ more) = covered spans ++ covered more := List.flatMap_append

namespace Matching

open TabSearch.Span

def HasAt (haystack : List Char) (c : Char) (p : Nat) : Prop :=
  ∃ d, haystack[p]? = some d ∧ lowercase c = lowercase d

structure Embedding (needle haystack : List Char) (places : List Nat) : Prop where
  ascending : places.Pairwise (· < ·)
  alike : List.Forall₂ (HasAt haystack) needle places

def firstPlaces (pos : Nat) : List Char → List Char → List Nat
  | [], _ => []
  | _ :: _, [] => []
  | n :: ns, h :: hs =>
      if alike n h then pos :: firstPlaces (pos + 1) ns hs
      else firstPlaces (pos + 1) (n :: ns) hs

theorem firstPlaces_ge {pos : Nat} {needle haystack : List Char} :
    ∀ p ∈ firstPlaces pos needle haystack, pos ≤ p := by
  induction haystack generalizing pos needle with
  | nil => cases needle <;> exact nofun
  | cons c rest ih =>
      intro p hp
      cases needle with
      | nil => cases hp
      | cons n ns =>
          rw [firstPlaces] at hp
          split at hp
          · rcases List.mem_cons.mp hp with rfl | hp
            · exact Nat.le_refl _
            · exact Nat.le_of_succ_le (ih p hp)
          · exact Nat.le_of_succ_le (ih p hp)

-- The scan has come to `pos`, and `rest` is what it has not yet seen of the haystack.
section
variable {haystack needle rest : List Char} {n c : Char} {pos : Nat} {places : List Nat}

theorem drop_succ (h : haystack.drop pos = c :: rest) : haystack.drop (pos + 1) = rest := by
  rw [← List.drop_drop, h]
  rfl

theorem hasAt_here (h : haystack.drop pos = c :: rest) :
    HasAt haystack n pos ↔ alike n c = true := by
  have hc : haystack[pos]? = some c := by
    have hget : (haystack.drop pos)[0]? = haystack[pos + 0]? := List.getElem?_drop
    rw [h] at hget
    exact hget.symm
  rw [HasAt, hc, alike_iff]
  exact ⟨fun ⟨_, hd, hl⟩ => Option.some.inj hd ▸ hl, fun hl => ⟨c, rfl, hl⟩⟩

theorem not_hasAt_end (h : haystack.drop pos = []) {p : Nat} (hp : pos ≤ p) :
    ¬ HasAt haystack n p := by
  rintro ⟨d, hd, _⟩
  have hlt := (List.getElem?_eq_some_iff.mp hd).1
  have hlength := List.drop_eq_nil_iff.mp h
  omega

theorem Embedding.nil : Embedding [] haystack [] := ⟨.nil, .nil⟩

theorem Embedding.cons (hn : HasAt haystack n pos) (h : Embedding needle haystack places)
    (hbehind : ∀ p ∈ places, pos < p) : Embedding (n :: needle) haystack (pos :: places) :=
  ⟨.cons hbehind h.ascending, .cons hn h.alike⟩

theorem Embedding.cons_inv (h : Embedding (n :: needle) haystack places) :
    ∃ p more, places = p :: more ∧ HasAt haystack n p ∧ (∀ q ∈ more, p < q) ∧
      Embedding needle haystack more := by
  obtain ⟨hasc, halike⟩ := h
  cases halike with
  | cons hp hmore =>
      obtain ⟨hbehind, hasc⟩ := List.pairwise_cons.mp hasc
      exact ⟨_, _, rfl, hp, hbehind, hasc, hmore⟩

theorem embedding_firstPlaces (hrest : haystack.drop pos = rest) (h : Embeds needle rest) :
    Embedding needle haystack (firstPlaces pos needle rest) := by
  induction rest generalizing pos needle with
  | nil =>
      cases h
      exact .nil
  | cons c rest ih =>
      cases needle with
      | nil => exact .nil
      | cons n ns =>
          rw [firstPlaces]
          split
          next hc =>
            refine .cons ((hasAt_here hrest).mpr hc) (ih (drop_succ hrest) h.of_cons) ?_
            exact fun p hp => firstPlaces_ge p hp
          next hc =>
            cases h with
            | cons hab _ => exact absurd hab hc
            | cons_right hlater => exact ih (drop_succ hrest) hlater

theorem firstPlaces_least (hrest : haystack.drop pos = rest) (h : Embedding needle haystack places)
    (hfrom : ∀ p ∈ places, pos ≤ p) :
    Embeds needle rest ∧ List.Forall₂ (· ≤ ·) (firstPlaces pos needle rest) places := by
  induction rest generalizing pos needle places with
  | nil =>
      cases needle with
      | nil =>
          cases h.alike
          exact ⟨.nil, .nil⟩
      | cons n ns =>
          obtain ⟨p, more, rfl, hp, _⟩ := h.cons_inv
          exact absurd hp (not_hasAt_end hrest (hfrom p (by simp)))
  | cons c rest ih =>
      cases needle with
      | nil =>
          cases h.alike
          exact ⟨.nil, .nil⟩
      | cons n ns =>
          obtain ⟨p, more, rfl, hp, hbehind, hmore⟩ := h.cons_inv
          have hpos : pos ≤ p := hfrom p (by simp)
          rw [firstPlaces]
          split
          next hc =>
            have hlater : ∀ q ∈ more, pos + 1 ≤ q :=
              fun q hq => Nat.lt_of_le_of_lt hpos (hbehind q hq)
            obtain ⟨hembeds, hle⟩ := ih (drop_succ hrest) hmore hlater
            exact ⟨.cons hc hembeds, .cons hpos hle⟩
          next hc =>
            -- the scan passes over a character that no embedding can use here
            have hp' : pos + 1 ≤ p := by
              refine Nat.lt_of_le_of_ne hpos fun heq => hc ?_
              exact (hasAt_here hrest).mp (heq ▸ hp)
            have hlater : ∀ q ∈ p :: more, pos + 1 ≤ q := by
              intro q hq
              rcases List.mem_cons.mp hq with rfl | hq
              · exact hp'
              · exact Nat.le_trans hp' (Nat.le_of_lt (hbehind q hq))
            obtain ⟨hembeds, hle⟩ := ih (drop_succ hrest) h hlater
            exact ⟨.cons_right hembeds, hle⟩

end

theorem embeds_iff (needle haystack : List Char) :
    Embeds needle haystack ↔ ∃ places, Embedding needle haystack places := by
  constructor
  · intro h
    exact ⟨_, embedding_firstPlaces List.drop_zero h⟩
  · rintro ⟨places, h⟩
    exact (firstPlaces_least List.drop_zero h fun _ _ => Nat.zero_le _).1

/-- The runs so far: none is empty, and the open one ends where the scan is. -/
structure Runs (pos : Nat) (run : Option Span) (closed : List Span) : Prop where
  nonempty : ∀ s ∈ closed.reverse ++ run.toList, s.start < s.stop
  current : ∀ s ∈ run, s.stop = pos

section
variable {pos : Nat} {run : Option Span} {closed : List Span} {needle haystack : List Char}

theorem Runs.matched (h : Runs pos run closed) :
    Runs (pos + 1) (some (extend run pos)) closed := by
  constructor
  · intro s hs
    rcases List.mem_append.mp hs with hs | hs
    · exact h.nonempty s (List.mem_append_left _ hs)
    · obtain rfl := List.mem_singleton.mp hs
      cases run with
      | none => exact Nat.lt_succ_self pos
      | some t =>
          have ht : t.start < t.stop := h.nonempty t (by simp)
          have hstop : t.stop = pos := h.current t rfl
          exact Nat.lt_succ_of_lt (hstop ▸ ht)
  · rintro s ⟨⟩
    cases run <;> rfl

theorem Runs.passed (h : Runs pos run closed) : Runs (pos + 1) none (run.toList ++ closed) := by
  refine ⟨fun s hs => h.nonempty s ?_, nofun⟩
  rwa [runs_passed] at hs

theorem Runs.covered_extend (h : Runs pos run closed) :
    covered [extend run pos] = covered run.toList ++ [pos] := by
  cases run with
  | none => simp [covered, positions, length, extend]
  | some s =>
      have hs : s.start < s.stop := h.nonempty s (by simp)
      have hstop : s.stop = pos := h.current s rfl
      have hlength : pos + 1 - s.start = (pos - s.start) + 1 := by omega
      have hlast : s.start + (pos - s.start) = pos := by omega
      simp [covered, positions, length, extend, hstop, hlength, List.range'_1_concat, hlast]

theorem scan_takes (h : Runs pos run closed)
    (found : (scan pos run closed needle haystack).found = true) :
    (∀ s ∈ (scan pos run closed needle haystack).spans, s.start < s.stop) ∧
      covered (scan pos run closed needle haystack).spans =
        covered (closed.reverse ++ run.toList) ++ firstPlaces pos needle haystack := by
  induction haystack generalizing pos run closed needle with
  | nil =>
      cases needle with
      | nil => exact ⟨h.nonempty, (List.append_nil _).symm⟩
      | cons n ns => cases found
  | cons c rest ih =>
      cases needle with
      | nil => exact ⟨h.nonempty, (List.append_nil _).symm⟩
      | cons n ns =>
          rw [scan] at found ⊢
          rw [firstPlaces]
          by_cases hc : alike n c = true
          · rw [if_pos hc] at found ⊢
            obtain ⟨hnonempty, hcovered⟩ := ih h.matched found
            have hextend : covered (closed.reverse ++ [extend run pos]) =
                covered (closed.reverse ++ run.toList) ++ [pos] := by
              rw [covered_append, h.covered_extend, ← List.append_assoc, ← covered_append]
            refine ⟨hnonempty, ?_⟩
            rw [if_pos hc, hcovered, Option.toList_some, hextend, List.append_assoc,
              List.singleton_append]
          · rw [if_neg hc] at found ⊢
            obtain ⟨hnonempty, hcovered⟩ := ih h.passed found
            exact ⟨hnonempty, by rw [if_neg hc, hcovered, runs_passed]⟩

theorem scan_missed (h : (scan pos run closed needle haystack).found = false) :
    (scan pos run closed needle haystack).spans = [] := by
  induction haystack generalizing pos run closed needle with
  | nil =>
      cases needle with
      | nil => cases h
      | cons n ns => rfl
  | cons c rest ih =>
      cases needle with
      | nil => cases h
      | cons n ns =>
          rw [scan] at h ⊢
          split at h
          next hc => rw [if_pos hc]; exact ih h
          next hc => rw [if_neg hc]; exact ih h

theorem firstPlaces_of_startsAlike (h : startsAlike needle haystack = true) :
    firstPlaces pos needle haystack = List.range' pos needle.length := by
  induction needle generalizing haystack pos with
  | nil => cases haystack <;> rfl
  | cons n ns ih =>
      cases haystack with
      | nil => cases h
      | cons c rest =>
          rw [startsAlike, Bool.and_eq_true] at h
          rw [firstPlaces, if_pos h.1, ih h.2]
          rfl

theorem fuzzy_takes (found : (fuzzy needle haystack).found = true) :
    (∀ s ∈ (fuzzy needle haystack).spans, s.start < s.stop) ∧
      covered (fuzzy needle haystack).spans = firstPlaces 0 needle haystack := by
  rcases fuzzy_cases needle haystack with ⟨rfl, h⟩ | ⟨_, h⟩ | ⟨hpos, hlength, hstarts, h⟩ | h
  · rw [h, firstPlaces]
    exact ⟨List.forall_mem_nil _, rfl⟩
  · rw [h] at found
    cases found
  · rw [h, firstPlaces_of_startsAlike hstarts, hlength]
    exact ⟨by simpa [Finding.hit] using hpos, by simp [Finding.hit, covered, positions, length]⟩
  · have hstart : Runs 0 none [] := ⟨by simp, by simp⟩
    rw [h] at found ⊢
    exact scan_takes hstart found

theorem fuzzy_missed (missed : (fuzzy needle haystack).found = false) :
    (fuzzy needle haystack).spans = [] := by
  rcases fuzzy_cases needle haystack with ⟨_, h⟩ | ⟨_, h⟩ | ⟨_, _, _, h⟩ | h
  · rw [h]
    rfl
  · rw [h]
    rfl
  · rw [h] at missed
    cases missed
  · rw [h] at missed ⊢
    exact scan_missed missed

end

theorem fuzzy_decides_embedding (needle haystack : List Char) :
    ((fuzzy needle haystack).found = true ↔ ∃ places, Embedding needle haystack places) ∧
      ((fuzzy needle haystack).found = false → (fuzzy needle haystack).spans = []) :=
  ⟨(fuzzy_found_iff needle haystack).trans (embeds_iff needle haystack), fuzzy_missed⟩

theorem fuzzy_decides_embedding_twice :
    (∃ places, Embedding ['o', 'O'] ['O', 'x', 'o'] places) ∧
      (¬ ∃ places, Embedding ['o', 'x'] ['x', 'O', 'o'] places) ∧
      (fuzzy ['o', 'x'] ['x', 'O', 'o']).found = false ∧
      (fuzzy ['o', 'x'] ['x', 'O', 'o']).spans = [] := by
  have hhit : (fuzzy ['o', 'O'] ['O', 'x', 'o']).found = true := by decide
  have hmiss : (fuzzy ['o', 'x'] ['x', 'O', 'o']).found = false := by decide
  obtain ⟨hiff, hspans⟩ := fuzzy_decides_embedding ['o', 'x'] ['x', 'O', 'o']
  refine ⟨(fuzzy_decides_embedding ['o', 'O'] ['O', 'x', 'o']).1.mp hhit, ?_, hmiss, hspans hmiss⟩
  rw [← hiff, hmiss]
  exact Bool.false_ne_true

theorem fuzzy_takes_first_places (needle haystack : List Char)
    (found : (fuzzy needle haystack).found = true) :
    (∀ s ∈ (fuzzy needle haystack).spans, s.start < s.stop ∧ s.stop ≤ haystack.length) ∧
      (fuzzy needle haystack).spans.Pairwise (fun s t => s.stop < t.start) ∧
      Embedding needle haystack (covered (fuzzy needle haystack).spans) ∧
      ∀ places, Embedding needle haystack places →
        List.Forall₂ (· ≤ ·) (covered (fuzzy needle haystack).spans) places := by
  have hplaced := fuzzy_placed needle haystack
  have hembeds := (fuzzy_found_iff needle haystack).mp found
  obtain ⟨hnonempty, hcovered⟩ := fuzzy_takes found
  rw [hcovered]
  refine ⟨fun s hs => ⟨hnonempty s hs, (hplaced.within s hs).2⟩, hplaced.apart,
    embedding_firstPlaces List.drop_zero hembeds, fun places h => ?_⟩
  exact (firstPlaces_least List.drop_zero h fun _ _ => Nat.zero_le _).2

/-- The first `b` is taken although the second would make one run. -/
theorem fuzzy_takes_first_places_gap :
    (fuzzy ['b', 'c', 'd'] ['a', 'B', 'x', 'b', 'C', 'd']).found = true ∧
      covered (fuzzy ['b', 'c', 'd'] ['a', 'B', 'x', 'b', 'C', 'd']).spans = [1, 4, 5] ∧
      Embedding ['b', 'c', 'd'] ['a', 'B', 'x', 'b', 'C', 'd'] [1, 4, 5] ∧
      ∀ places, Embedding ['b', 'c', 'd'] ['a', 'B', 'x', 'b', 'C', 'd'] places →
        List.Forall₂ (· ≤ ·) [1, 4, 5] places := by
  have hhit : fuzzy ['b', 'c', 'd'] ['a', 'B', 'x', 'b', 'C', 'd'] = .hit [⟨1, 2⟩, ⟨4, 6⟩] := by
    decide
  have hfound : (fuzzy ['b', 'c', 'd'] ['a', 'B', 'x', 'b', 'C', 'd']).found = true := by
    rw [hhit]
    rfl
  have hcovered :
      covered (fuzzy ['b', 'c', 'd'] ['a', 'B', 'x', 'b', 'C', 'd']).spans = [1, 4, 5] := by
    rw [hhit]
    rfl
  have hplaces := (fuzzy_takes_first_places _ _ hfound).2.2
  rw [hcovered] at hplaces
  exact ⟨hfound, hcovered, hplaces.1, hplaces.2⟩

end Matching

end TabSearch
