import TabSearch.Proofs.Search.Escape

namespace TabSearch

def Tab.found? (t : Tab) (input : List Char) : Option Highlight :=
  (search [t] input).tabs.head?.map fun found => found.highlight

theorem search_singleton (t : Tab) (input : List Char) :
    (search [t] input).tabs = ((t.found? input).map fun h => ⟨t, h⟩).toList := by
  rw [Tab.found?]
  by_cases hneedle : (Query.parse input).needle = []
  · rw [search_of_empty hneedle]
    rfl
  · rw [search_of_needle hneedle]
    by_cases ht : (Query.parse input).Matches t <;> simp [ht]

theorem search_eq_filterMap (tabs : List Tab) (input : List Char) :
    (search tabs input).tabs = tabs.filterMap fun t => (t.found? input).map fun h => ⟨t, h⟩ := by
  induction tabs with
  | nil => by_cases h : (Query.parse input).needle = [] <;> simp [search_of_empty, search_of_needle, h]
  | cons t rest ih =>
      rw [← List.singleton_append, search_append, search_singleton, ih, List.filterMap_append]
      cases h : t.found? input <;> simp [h]

def inFields (named : List Field) (needle : List Char) : List Char := ':' :: (spell named ++ needle)

theorem parse_inFields {needle : List Char} (plain : Plain needle) (named : List Field) :
    (Query.parse (inFields named needle)).needle = needle ∧
      (Query.parse (inFields named needle)).algorithm = .detect needle ∧
      ∀ f, (Query.parse (inFields named needle)).fields.selects f = true ↔ named = [] ∨ f ∈ named := by
  have hsplits : Splits (spell named ++ needle) named needle := ⟨rfl, plain⟩
  obtain ⟨hneedle, hselects⟩ := Fields.detect_of_splits hsplits
  exact ⟨hneedle, congrArg Algorithm.detect hneedle, hselects⟩

attribute [ext] Query

namespace Query

theorem finds_congr {q p : Query} {f : Field} (algorithm : q.algorithm = p.algorithm)
    (selected : q.fields.selects f = p.fields.selects f) (t : Tab) (spans : List Span) :
    q.Finds t f spans ↔ p.Finds t f spans := by
  constructor
  · rintro ⟨hs, present, nonempty, found⟩
    rw [algorithm] at found ⊢
    exact .intro (selected ▸ hs) present nonempty found
  · rintro ⟨hs, present, nonempty, found⟩
    rw [← algorithm] at found ⊢
    exact .intro (selected ▸ hs) present nonempty found

theorem Finds.selected {q : Query} {t : Tab} {f : Field} {spans : List Span}
    (h : q.Finds t f spans) : q.fields.selects f = true := by
  obtain ⟨hs, _, _, _⟩ := h
  exact hs

end Query

namespace Tab

variable {input : List Char}

theorem found?_of_needle (h : (Query.parse input).needle ≠ []) (t : Tab) :
    t.found? input = if (Query.parse input).Matches t
      then some (Search.highlight (Query.parse input) t) else none := by
  rw [found?, search_of_needle h]
  by_cases ht : (Query.parse input).Matches t <;> simp [ht]

theorem isSome_found? (h : (Query.parse input).needle ≠ []) (t : Tab) :
    (t.found? input).isSome = true ↔ (Query.parse input).Matches t := by
  rw [found?_of_needle h]
  by_cases ht : (Query.parse input).Matches t <;> simp [ht]

theorem found?_spans (h : (Query.parse input).needle ≠ []) (t : Tab) (f : Field)
    (spans : List Span) :
    ((t.found? input).bind fun hl => hl.spans? f) = some spans ↔
      (Query.parse input).Finds t f spans := by
  rw [found?_of_needle h, ← Search.highlight_eq_some]
  by_cases ht : (Query.parse input).Matches t
  · rw [if_pos ht, Option.bind_some]
  · rw [if_neg ht, Search.highlight_eq_some]
    exact ⟨nofun, fun hf => absurd ⟨f, spans, hf⟩ ht⟩

end Tab

theorem search_congr {input other : List Char} (h : Query.parse input = Query.parse other)
    (tabs : List Tab) : search tabs input = search tabs other := by
  rw [search, search, h]

section

variable {needle : List Char} (colon : ∀ rest, needle ≠ ':' :: rest) (plain : Plain needle)

include colon plain

theorem finds_inFields {named : List Field} {f : Field} (hf : f ∈ named) (t : Tab)
    (spans : List Span) :
    (Query.parse needle).Finds t f spans ↔ (Query.parse (inFields named needle)).Finds t f spans := by
  obtain ⟨_, halgorithm, hselects⟩ := parse_inFields plain named
  rw [Query.parse_of_no_colon colon]
  refine Query.finds_congr halgorithm.symm ?_ t spans
  rw [(hselects f).mpr (.inr hf), Fields.selects_all]

theorem matches_inFields (t : Tab) :
    (Query.parse needle).Matches t ↔ ∃ f, (Query.parse (inFields [f] needle)).Matches t := by
  have hfinds {f : Field} := finds_inFields colon plain (List.mem_singleton_self f) t
  constructor
  · rintro ⟨f, spans, hf⟩
    exact ⟨f, f, spans, (hfinds spans).mp hf⟩
  · rintro ⟨f, g, spans, hg⟩
    obtain rfl : g = f := by simpa using ((parse_inFields plain [f]).2.2 g).mp hg.selected
    exact ⟨g, spans, (hfinds spans).mpr hg⟩

theorem parse_inFields_all {named : List Field} (h : ∀ f, f ∈ named) :
    Query.parse (inFields named needle) = Query.parse needle := by
  obtain ⟨hneedle, halgorithm, hselects⟩ := parse_inFields plain named
  have hfields : (Query.parse (inFields named needle)).fields = .all :=
    Fields.ext_selects fun f => by rw [(hselects f).mpr (.inr (h f)), Fields.selects_all]
  rw [Query.parse_of_no_colon colon]
  exact Query.ext hneedle hfields halgorithm

end

theorem scopes_decompose (tabs : List Tab) (needle : List Char) (nonempty : needle ≠ [])
    (colon : ∀ rest, needle ≠ ':' :: rest) (plain : Plain needle) :
    (∀ input, (search tabs input).tabs =
      tabs.filterMap fun t => (t.found? input).map fun h => ⟨t, h⟩) ∧
    (∀ t : Tab, ((t.found? needle).isSome = true ↔
        ∃ f, (t.found? (inFields [f] needle)).isSome = true) ∧
      ∀ f, ((t.found? needle).bind fun h => h.spans? f) =
        (t.found? (inFields [f] needle)).bind fun h => h.spans? f) ∧
    search tabs (inFields [.title, .url] needle) = search tabs needle ∧
    search tabs (inFields [.url, .title] needle) = search tabs needle := by
  have hwhole : (Query.parse needle).needle ≠ [] := by
    rw [Query.parse_of_no_colon colon]
    exact nonempty
  have hpart (f : Field) : (Query.parse (inFields [f] needle)).needle ≠ [] := by
    rw [(parse_inFields plain [f]).1]
    exact nonempty
  refine ⟨search_eq_filterMap tabs, fun t => ⟨?_, fun f => ?_⟩, ?_, ?_⟩
  · simp only [Tab.isSome_found? hwhole, Tab.isSome_found? (hpart _)]
    exact matches_inFields colon plain t
  · refine Option.ext fun spans => ?_
    rw [Tab.found?_spans hwhole, Tab.found?_spans (hpart f)]
    exact finds_inFields colon plain (List.mem_singleton_self f) t spans
  · exact search_congr (parse_inFields_all colon plain fun f => by cases f <;> simp) tabs
  · exact search_congr (parse_inFields_all colon plain fun f => by cases f <;> simp) tabs

/-- A pattern that finds nothing but the place where it looks. -/
theorem scopes_decompose_anchor :
    (['/', '^'] ≠ [] ∧ (∀ rest, ['/', '^'] ≠ ':' :: rest) ∧ Plain ['/', '^']) ∧
    (untitled.found? ['/', '^'] = some ⟨none, some [⟨0, 0⟩]⟩ ∧
      untitled.found? (inFields [.title] ['/', '^']) = none ∧
      ((untitled.found? (inFields [.url] ['/', '^'])).bind fun h => h.url) = some [⟨0, 0⟩]) ∧
    search [unnamed, untitled] ":title:url:/^".toList = search [unnamed, untitled] ['/', '^'] := by
  have hneedle : ['/', '^'] ≠ [] ∧ (∀ rest, ['/', '^'] ≠ ':' :: rest) ∧ Plain ['/', '^'] :=
    ⟨by simp, by simp, plain_cons (.inr (.inl rfl)) ['^']⟩
  have hfound : untitled.found? ['/', '^'] = some ⟨none, some [⟨0, 0⟩]⟩ := by rfl
  obtain ⟨_, hparts, hboth, _⟩ :=
    scopes_decompose [unnamed, untitled] ['/', '^'] hneedle.1 hneedle.2.1 hneedle.2.2
  have hurl := (hparts untitled).2 .url
  rw [hfound] at hurl
  exact ⟨hneedle, ⟨hfound, by rfl, hurl.symm⟩, hboth⟩

end TabSearch
