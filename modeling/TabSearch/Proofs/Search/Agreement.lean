import TabSearch.Proofs.Matching.Greedy
import TabSearch.Proofs.Search.Narrowing

namespace TabSearch

theorem Finding.eq_hit {f : Finding} {spans : List Span} (found : f.found = true)
    (hspans : f.spans = spans) : f = .hit spans := by
  rw [hit, ← found, ← hspans]

namespace Matching

open TabSearch.Span

variable {needle haystack : List Char} {p : Nat}

theorem StandsAt.embedding (h : StandsAt needle haystack p) :
    Embedding needle haystack (List.range' p needle.length) := by
  refine ⟨List.pairwise_lt_range', List.forall₂_iff_get.mpr ⟨by simp, ?_⟩⟩
  intro i hi _
  have hlt : p + i < haystack.length := by
    have := h.within
    omega
  rw [List.get_eq_getElem, List.get_eq_getElem, List.getElem_range', Nat.one_mul]
  exact ⟨haystack[p + i], List.getElem?_eq_getElem hlt, h.alike i hi⟩

theorem Embedding.standsAt (nonempty : needle ≠ [])
    (h : Embedding needle haystack (List.range' p needle.length)) : StandsAt needle haystack p := by
  have hat : ∀ i (hi : i < needle.length), HasAt haystack needle[i] (p + i) := by
    intro i hi
    have hget := (List.forall₂_iff_get.mp h.alike).2 i hi (by simpa using hi)
    simpa using hget
  have hwithin : p + needle.length ≤ haystack.length := by
    have hpos : 0 < needle.length := List.length_pos_iff.mpr nonempty
    obtain ⟨d, hd, _⟩ := hat (needle.length - 1) (by omega)
    have hlt := (List.getElem?_eq_some_iff.mp hd).1
    omega
  refine ⟨hwithin, fun i hi => ?_⟩
  obtain ⟨d, hd, hlower⟩ := hat i hi
  obtain ⟨_, rfl⟩ := List.getElem?_eq_some_iff.mp hd
  exact hlower

theorem StandsAt.fuzzy_found (h : StandsAt needle haystack p) :
    (fuzzy needle haystack).found = true := by
  rw [fuzzy_found_iff, embeds_iff]
  exact ⟨_, h.embedding⟩

theorem StandsAt.covered_le (h : StandsAt needle haystack p) :
    List.Forall₂ (· ≤ ·) (covered (fuzzy needle haystack).spans)
      (List.range' p needle.length) := by
  rw [(fuzzy_takes h.fuzzy_found).2]
  exact (firstPlaces_least List.drop_zero h.embedding fun _ _ => Nat.zero_le _).2

theorem places_le {places : List Nat} {count : Nat}
    (h : List.Forall₂ (· ≤ ·) places (List.range' p count)) :
    places.length = count ∧ ∀ i q, places[i]? = some q → q ≤ p + i := by
  refine ⟨by simpa using h.length_eq, ?_⟩
  intro i q hq
  obtain ⟨hi, rfl⟩ := List.getElem?_eq_some_iff.mp hq
  have hle := (List.forall₂_iff_get.mp h).2 i hi (h.length_eq ▸ hi)
  simpa using hle

theorem standsAt_of_run (nonempty : needle ≠ []) {s : Span}
    (found : (fuzzy needle haystack).found = true) (hrun : (fuzzy needle haystack).spans = [s]) :
    StandsAt needle haystack s.start ∧ s.stop = s.start + needle.length := by
  obtain ⟨hspans, hcovered⟩ := fuzzy_takes found
  have hs : s.start < s.stop := hspans s (by simp [hrun])
  have hembedding : Embedding needle haystack (List.range' s.start s.length) := by
    have h := embedding_firstPlaces List.drop_zero ((fuzzy_found_iff _ _).mp found)
    rw [← hcovered, hrun] at h
    simpa [covered, positions] using h
  have hlength : s.length = needle.length := by simpa using hembedding.alike.length_eq.symm
  rw [hlength] at hembedding
  refine ⟨hembedding.standsAt nonempty, ?_⟩
  rw [Span.length] at hlength
  omega

theorem exact_eq_fuzzy (nonempty : needle ≠ []) {s : Span}
    (found : (fuzzy needle haystack).found = true) (hrun : (fuzzy needle haystack).spans = [s]) :
    exact needle haystack = fuzzy needle haystack := by
  obtain ⟨hstands, hstop⟩ := standsAt_of_run nonempty found hrun
  have hfound : (exact needle haystack).found = true := (exact_found_iff _ _).mpr ⟨_, hstands⟩
  obtain ⟨p, hleast, hexact⟩ := exact_eq_hit nonempty hfound
  have hstart : s.start = p := by
    -- neither match can start before the other
    refine Nat.le_antisymm ?_ (hleast.2 hstands)
    have hpos : 0 < s.length := by
      have := List.length_pos_iff.mpr nonempty
      rw [Span.length]
      omega
    have hfirst : (covered (fuzzy needle haystack).spans)[0]? = some s.start := by
      simp [hrun, covered, positions, hpos]
    exact (places_le hleast.1.covered_le).2 0 s.start hfirst
  rw [hexact, Finding.eq_hit found hrun, ← hstart, ← hstop]

end Matching

namespace Query

theorem parse_quoted (x : List Char) : parse ('\'' :: x) = ⟨'\'' :: x, .all, .exact x⟩ :=
  parse_of_no_colon (by simp)

theorem parse_plain {x : List Char} (plain : ∀ c ∈ x.head?, c ∉ [':', '\'', '/', '\\']) :
    parse x = ⟨x, .all, .fuzzy x⟩ := by
  have hstart : ∀ {c : Char} {rest : List Char}, x = c :: rest → c ∉ [':', '\'', '/', '\\'] := by
    rintro c rest rfl
    exact plain c rfl
  have hdetect : Algorithm.detect x = .fuzzy x := by
    refine Algorithm.detect_unmarked ?_ ?_ ?_
    · intro rest h
      exact absurd (hstart h) (by simp)
    · intro rest h
      exact absurd (hstart h) (by simp)
    · intro c rest _ h
      exact absurd (hstart h) (by simp)
  rw [parse_of_no_colon fun rest h => absurd (hstart h) (by simp), hdetect]

theorem quoted_narrows {x : List Char} (plain : ∀ c ∈ x.head?, c ∉ [':', '\'', '/', '\\']) :
    (parse ('\'' :: x)).Narrows (parse x) := by
  rw [parse_quoted, parse_plain plain]
  refine narrows_of_found (fun _ h => h) ?_
  intro text hfound
  obtain ⟨p, hp⟩ := (Matching.exact_found_iff x text).mp hfound
  exact hp.fuzzy_found

end Query

open TabSearch.Matching TabSearch.Span

theorem quote_narrows_fuzzy (needle : List Char) (nonempty : needle ≠ []) :
    (∀ haystack, (exact needle haystack).found = true →
      ∃ p, exact needle haystack = .hit [⟨p, p + needle.length⟩] ∧
        (fuzzy needle haystack).found = true ∧
        (covered (fuzzy needle haystack).spans).length = needle.length ∧
        ∀ i q, (covered (fuzzy needle haystack).spans)[i]? = some q → q ≤ p + i) ∧
    (∀ haystack, (fuzzy needle haystack).found = true →
      (fuzzy needle haystack).spans.length = 1 → exact needle haystack = fuzzy needle haystack) ∧
    ((∀ c ∈ needle.head?, c ∉ [':', '\'', '/', '\\']) → ∀ tabs,
      ((search tabs ('\'' :: needle)).tabs.map fun t => t.tab).Sublist
        ((search tabs needle).tabs.map fun t => t.tab)) := by
  refine ⟨?_, ?_, ?_⟩
  · intro haystack found
    obtain ⟨p, hleast, hexact⟩ := exact_eq_hit nonempty found
    exact ⟨p, hexact, hleast.1.fuzzy_found, places_le hleast.1.covered_le⟩
  · intro haystack found hlength
    obtain ⟨s, hrun⟩ := List.length_eq_one_iff.mp hlength
    exact exact_eq_fuzzy nonempty found hrun
  · intro plain tabs
    refine FoundTab.sublist_of_narrows
      (search_of_narrows ?_ ?_ (Query.quoted_narrows plain) tabs)
    · rw [Query.parse_quoted]
      exact List.cons_ne_nil _ _
    · rwa [Query.parse_plain plain]

theorem quote_narrows_fuzzy_gap :
    ['a', 'B'] ≠ [] ∧
      (exact ['a', 'B'] ['A', 'x', 'a', 'b'] = .hit [⟨2, 4⟩] ∧
        (fuzzy ['a', 'B'] ['A', 'x', 'a', 'b']).found = true ∧
        covered (fuzzy ['a', 'B'] ['A', 'x', 'a', 'b']).spans = [0, 3]) ∧
      (fuzzy ['a', 'B'] ['x', 'a', 'b']).spans = [⟨1, 3⟩] ∧
      exact ['a', 'B'] ['x', 'a', 'b'] = fuzzy ['a', 'B'] ['x', 'a', 'b'] ∧
      ((search [untitled, book] ['o', 'B']).tabs.map (fun t => t.tab) = [book] ∧
        ((search [untitled, book] ['\'', 'o', 'B']).tabs.map fun t => t.tab).Sublist [book]) := by
  have hne : ['a', 'B'] ≠ [] := by simp
  obtain ⟨hexact, hrun, _⟩ := quote_narrows_fuzzy ['a', 'B'] hne
  have hhit : exact ['a', 'B'] ['A', 'x', 'a', 'b'] = .hit [⟨2, 4⟩] := by decide
  obtain ⟨_, _, hfound, _⟩ := hexact ['A', 'x', 'a', 'b'] (by rw [hhit]; rfl)
  have hsublist := (quote_narrows_fuzzy ['o', 'B'] (by simp)).2.2 (by simp) [untitled, book]
  refine ⟨hne, ⟨hhit, hfound, by decide⟩, by decide, ?_, rfl, hsublist⟩
  exact hrun ['x', 'a', 'b'] (by decide) (by decide)

end TabSearch
