import TabSearch.Search

namespace TabSearch

inductive Field where
  | title
  | url
  deriving DecidableEq, Repr

def Tab.text? (t : Tab) : Field → Option String
  | .title => t.title
  | .url => t.url

def Highlight.spans? (h : Highlight) : Field → Option (List Span)
  | .title => h.title
  | .url => h.url

def Fields.selects (f : Fields) : Field → Bool
  | .title => f.title
  | .url => f.url

inductive Query.Finds (q : Query) (t : Tab) (f : Field) : List Span → Prop
  | intro {text : String} (selected : q.fields.selects f = true) (present : t.text? f = some text)
      (nonempty : text ≠ "") (found : (q.algorithm.run text.toList).found = true) :
      Finds q t f (q.algorithm.run text.toList).spans

def Query.Matches (q : Query) (t : Tab) : Prop := ∃ f spans, q.Finds t f spans

theorem Finding.spans?_eq_some {f : Finding} {spans : List Span} :
    f.spans? = some spans ↔ f.found = true ∧ f.spans = spans := by
  cases f with
  | mk found s => cases found <;> simp [Finding.spans?]

theorem Highlight.isEmpty_eq_false {h : Highlight} :
    h.isEmpty = false ↔ ∃ f spans, h.spans? f = some spans := by
  constructor
  · intro he
    cases ht : h.title with
    | some spans => exact ⟨.title, spans, ht⟩
    | none =>
        cases hu : h.url with
        | some spans => exact ⟨.url, spans, hu⟩
        | none => simp [isEmpty, ht, hu] at he
  · rintro ⟨f, spans, hs⟩
    cases f with
    | title =>
        have ht : h.title = some spans := hs
        simp [isEmpty, ht]
    | url =>
        have hu : h.url = some spans := hs
        simp [isEmpty, hu]

namespace Search

theorem matchField_eq_some {a : Algorithm} {selected : Bool} {field : Option String}
    {spans : List Span} :
    matchField a selected field = some spans ↔
      ∃ text, selected = true ∧ field = some text ∧ text ≠ "" ∧
        (a.run text.toList).found = true ∧ (a.run text.toList).spans = spans := by
  cases field with
  | none => simp [matchField]
  | some text =>
      by_cases hs : selected = true ∧ text ≠ ""
      · have hc : (selected && !text.isEmpty) = true := by simpa using hs
        simp only [matchField, hc, if_true, Finding.spans?_eq_some]
        constructor
        · rintro ⟨hf, rfl⟩
          exact ⟨text, hs.1, rfl, hs.2, hf, rfl⟩
        · rintro ⟨_, _, ht, _, hf, hspans⟩
          obtain rfl := Option.some.inj ht
          exact ⟨hf, hspans⟩
      · have hc : (selected && !text.isEmpty) = false := by simpa using hs
        simp only [matchField, hc, Bool.false_eq_true, if_false, reduceCtorEq, false_iff]
        rintro ⟨_, hsel, ht, hne, _, _⟩
        obtain rfl := Option.some.inj ht
        exact hs ⟨hsel, hne⟩

theorem highlight_eq_some {q : Query} {t : Tab} {f : Field} {spans : List Span} :
    (highlight q t).spans? f = some spans ↔ q.Finds t f spans := by
  have hfield : (highlight q t).spans? f =
      matchField q.algorithm (q.fields.selects f) (t.text? f) := by
    cases f <;> rfl
  rw [hfield, matchField_eq_some]
  constructor
  · rintro ⟨text, hs, ht, hne, hf, rfl⟩
    exact .intro hs ht hne hf
  · rintro ⟨hs, ht, hne, hf⟩
    exact ⟨_, hs, ht, hne, hf, rfl⟩

theorem highlight_nonempty {q : Query} {t : Tab} :
    (highlight q t).isEmpty = false ↔ q.Matches t := by
  rw [Highlight.isEmpty_eq_false]
  simp only [highlight_eq_some]
  rfl

theorem matchTab_of_matches {q : Query} {t : Tab} (h : q.Matches t) :
    matchTab q t = some ⟨t, highlight q t⟩ := by
  rw [matchTab, highlight_nonempty.mpr h]
  rfl

theorem matchTab_of_not_matches {q : Query} {t : Tab} (h : ¬ q.Matches t) :
    matchTab q t = none := by
  cases he : (highlight q t).isEmpty with
  | true =>
      rw [matchTab, he]
      rfl
  | false => exact absurd (highlight_nonempty.mp he) h

end Search

instance (q : Query) (t : Tab) : Decidable (q.Matches t) :=
  decidable_of_iff _ Search.highlight_nonempty

namespace Search

theorem filterMap_matchTab (q : Query) (tabs : List Tab) :
    tabs.filterMap (matchTab q) =
      (tabs.filter fun t => q.Matches t).map fun t => ⟨t, highlight q t⟩ := by
  induction tabs with
  | nil => rfl
  | cons t rest ih =>
      by_cases h : q.Matches t
      · rw [List.filterMap_cons_some (matchTab_of_matches h), List.filter_cons_of_pos (by simpa),
          List.map_cons, ih]
      · rw [List.filterMap_cons_none (matchTab_of_not_matches h),
          List.filter_cons_of_neg (by simpa), ih]

end Search

theorem search_of_empty {input : List Char} (h : (Query.parse input).needle = []) (tabs : List Tab) :
    search tabs input = ⟨tabs.map fun t => ⟨t, .empty⟩, true⟩ := by
  have he : (Query.parse input).isEmpty = true := by simp [Query.isEmpty, h]
  simp only [search, he, if_true]

theorem search_of_needle {input : List Char} (h : (Query.parse input).needle ≠ [])
    (tabs : List Tab) :
    search tabs input = ⟨(tabs.filter fun t => (Query.parse input).Matches t).map
      fun t => ⟨t, Search.highlight (Query.parse input) t⟩, false⟩ := by
  have he : (Query.parse input).isEmpty = false := by simp [Query.isEmpty, h]
  simp only [search, he, Bool.false_eq_true, if_false, Search.filterMap_matchTab]

theorem search_append (tabs more : List Tab) (input : List Char) :
    search (tabs ++ more) input =
      ⟨(search tabs input).tabs ++ (search more input).tabs, (search tabs input).emptySearch⟩ := by
  by_cases h : (Query.parse input).needle = []
  · simp only [search_of_empty h, List.map_append]
  · simp only [search_of_needle h, List.filter_append, List.map_append]

theorem search_found (tabs : List Tab) (input : List Char) :
    search ((search tabs input).tabs.map fun f => f.tab) input = search tabs input := by
  by_cases h : (Query.parse input).needle = []
  · simp [search_of_empty h, Function.comp_def]
  · simp [search_of_needle h, Function.comp_def, List.filter_filter]

theorem search_filters (tabs : List Tab) (input : List Char) :
    ((search tabs input).emptySearch = true ↔ (Query.parse input).needle = []) ∧
    ((Query.parse input).needle = [] →
      (search tabs input).tabs = tabs.map fun t => ⟨t, .empty⟩) ∧
    ((Query.parse input).needle ≠ [] →
      ((search tabs input).tabs.map fun f => f.tab) =
          tabs.filter (fun t => (Query.parse input).Matches t) ∧
        ∀ found ∈ (search tabs input).tabs, ∀ f spans,
          found.highlight.spans? f = some spans ↔ (Query.parse input).Finds found.tab f spans) ∧
    (∀ more, search (tabs ++ more) input =
      ⟨(search tabs input).tabs ++ (search more input).tabs, (search tabs input).emptySearch⟩) ∧
    search ((search tabs input).tabs.map fun f => f.tab) input = search tabs input := by
  refine ⟨?_, ?_, ?_, fun more => search_append tabs more input, search_found tabs input⟩
  · by_cases h : (Query.parse input).needle = []
    · simp [search_of_empty h, h]
    · simp [search_of_needle h, h]
  · intro h
    rw [search_of_empty h]
  · intro h
    rw [search_of_needle h]
    constructor
    · simp [Function.comp_def]
    · intro found hf f spans
      obtain ⟨t, _, rfl⟩ := List.mem_map.mp hf
      exact Search.highlight_eq_some

def untitled : Tab := { id := 1, windowId := 1, index := 0, url := some "docs" }

def unnamed : Tab := { id := 2, windowId := 1, index := 1, title := some "", url := some "" }

theorem search_filters_untitled :
    ((Query.parse ['\'']).needle ≠ [] ∧
      ((search [untitled, unnamed] ['\'']).tabs.map fun f => f.tab) = [untitled] ∧
      (Query.parse ['\'']).Finds untitled .url []) ∧
    ((Query.parse [':', 'u', 'r', 'l', ':']).needle = [] ∧
      (search [untitled, unnamed] [':', 'u', 'r', 'l', ':']).tabs =
        [⟨untitled, .empty⟩, ⟨unnamed, .empty⟩]) := by
  have hquote : (Query.parse ['\'']).needle ≠ [] := List.cons_ne_nil _ _
  have hurl : (Query.parse [':', 'u', 'r', 'l', ':']).needle = [] := rfl
  constructor
  · obtain ⟨htabs, hfinds⟩ := (search_filters [untitled, unnamed] _).2.2.1 hquote
    have hfound : ⟨untitled, ⟨none, some []⟩⟩ ∈ (search [untitled, unnamed] ['\'']).tabs :=
      List.mem_singleton_self _
    refine ⟨hquote, htabs.trans ?_, (hfinds _ hfound .url []).mp rfl⟩
    rfl
  · exact ⟨hurl, (search_filters [untitled, unnamed] _).2.1 hurl⟩

end TabSearch
