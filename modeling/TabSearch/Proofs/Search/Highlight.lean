import TabSearch.Proofs.Report.Marking
import TabSearch.Proofs.Search.Filter

namespace TabSearch

open TabSearch.Span

theorem Query.Finds.placed {q : Query} {t : Tab} {f : Field} {spans : List Span}
    (h : q.Finds t f spans) :
    ∃ text, t.text? f = some text ∧ Placed text.toList.length spans := by
  obtain ⟨_, present, _, _⟩ := h
  exact ⟨_, present, q.algorithm.run_placed _⟩

theorem finds_of_search {tabs : List Tab} {input : List Char} {found : FoundTab}
    (hfound : found ∈ (search tabs input).tabs) {f : Field} {spans : List Span}
    (hspans : found.highlight.spans? f = some spans) :
    (Query.parse input).Finds found.tab f spans := by
  by_cases hneedle : (Query.parse input).needle = []
  · -- a search without a needle highlights nothing
    rw [search_of_empty hneedle] at hfound
    obtain ⟨t, _, rfl⟩ := List.mem_map.mp hfound
    cases f <;> cases hspans
  · rw [search_of_needle hneedle] at hfound
    obtain ⟨t, _, rfl⟩ := List.mem_map.mp hfound
    exact Search.highlight_eq_some.mp hspans

theorem highlights_rendered_whole (tabs : List Tab) (input : List Char) (m : Markers)
    (found : FoundTab) (hfound : found ∈ (search tabs input).tabs) (f : Field) (spans : List Span)
    (hspans : found.highlight.spans? f = some spans) :
    ∃ text, found.tab.text? f = some text ∧
      Placed text.toList.length spans ∧
      Markers.clamp text.toList.length spans = spans.filter (fun s => !s.isEmpty) ∧
      m.renderField (found.tab.text? f) (found.highlight.spans? f) = m.wrap text.toList spans := by
  obtain ⟨text, htext, hplaced⟩ := (finds_of_search hfound hspans).placed
  refine ⟨text, htext, hplaced, Markers.clamp_of_placed hplaced, ?_⟩
  rw [htext, hspans]
  exact m.render_wrap hplaced

def umlauts : Tab := { id := 1, windowId := 1, index := 0, title := some "Größe", url := some "x" }

theorem highlights_rendered_whole_umlauts :
    (search [umlauts] ['g', 'ö', 'e']).tabs.map (fun found => found.highlight) =
        [⟨some [⟨0, 1⟩, ⟨2, 3⟩, ⟨4, 5⟩], none⟩] ∧
      Placed 5 [⟨0, 1⟩, ⟨2, 3⟩, ⟨4, 5⟩] ∧
      Markers.default.renderField umlauts.title (some [⟨0, 1⟩, ⟨2, 3⟩, ⟨4, 5⟩]) =
        ['[', 'G', ']', 'r', '[', 'ö', ']', 'ß', '[', 'e', ']'] := by
  have hsearch : (search [umlauts] ['g', 'ö', 'e']).tabs =
      [⟨umlauts, ⟨some [⟨0, 1⟩, ⟨2, 3⟩, ⟨4, 5⟩], none⟩⟩] := rfl
  have hfound : ⟨umlauts, ⟨some [⟨0, 1⟩, ⟨2, 3⟩, ⟨4, 5⟩], none⟩⟩ ∈
      (search [umlauts] ['g', 'ö', 'e']).tabs := by simp [hsearch]
  obtain ⟨text, htext, hplaced, _, hrender⟩ :=
    highlights_rendered_whole _ _ Markers.default _ hfound .title _ rfl
  obtain rfl : "Größe" = text := Option.some.inj htext
  refine ⟨by simp [hsearch], hplaced, hrender.trans ?_⟩
  rfl

end TabSearch
