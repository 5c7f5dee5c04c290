import Mathlib.Data.List.Basic
import TabSearch.Proofs.Matching.Embedding
import TabSearch.Proofs.Matching.Occurrence
import TabSearch.Proofs.Search.Escape

namespace TabSearch

def Query.Narrows (q wide : Query) : Prop :=
  ∀ t f spans, q.Finds t f spans → ∃ more, wide.Finds t f more

structure FoundTab.Narrows (found wide : FoundTab) : Prop where
  tab : found.tab = wide.tab
  fields : ∀ f, (found.highlight.spans? f).isSome = true →
    (wide.highlight.spans? f).isSome = true

namespace Query

theorem narrows_of_found {q wide : Query}
    (selected : ∀ f, q.fields.selects f = true → wide.fields.selects f = true)
    (found : ∀ text, (q.algorithm.run text).found = true → (wide.algorithm.run text).found = true) :
    q.Narrows wide := by
  rintro t f _ ⟨hselected, present, nonempty, hfound⟩
  exact ⟨_, .intro (selected f hselected) present nonempty (found _ hfound)⟩

theorem Narrows.matches {q wide : Query} (h : q.Narrows wide) {t : Tab} (ht : q.Matches t) :
    wide.Matches t := by
  obtain ⟨f, spans, hf⟩ := ht
  exact ⟨f, h t f spans hf⟩

theorem Narrows.highlight {q wide : Query} (h : q.Narrows wide) (t : Tab) :
    FoundTab.Narrows ⟨t, Search.highlight q t⟩ ⟨t, Search.highlight wide t⟩ := by
  refine ⟨rfl, fun f hf => ?_⟩
  obtain ⟨spans, hspans⟩ := Option.isSome_iff_exists.mp hf
  obtain ⟨more, hmore⟩ := h t f spans (Search.highlight_eq_some.mp hspans)
  exact Option.isSome_iff_exists.mpr ⟨more, Search.highlight_eq_some.mpr hmore⟩

end Query

theorem search_of_narrows {input wide : List Char} (hinput : (Query.parse input).needle ≠ [])
    (hwide : (Query.parse wide).needle ≠ []) (h : (Query.parse input).Narrows (Query.parse wide))
    (tabs : List Tab) :
    List.SublistForall₂ FoundTab.Narrows (search tabs input).tabs (search tabs wide).tabs := by
  rw [search_of_needle hinput, search_of_needle hwide, List.sublistForall₂_map_left_iff,
    List.sublistForall₂_map_right_iff, List.sublistForall₂_iff]
  refine ⟨_, List.forall₂_same.mpr fun t _ => h.highlight t, ?_⟩
  exact List.monotone_filter_right tabs fun t ht => by simpa using h.matches (by simpa using ht)

theorem FoundTab.sublist_of_narrows {found wide : List FoundTab}
    (h : List.SublistForall₂ Narrows found wide) :
    (found.map fun t => t.tab).Sublist (wide.map fun t => t.tab) := by
  induction h with
  | nil => exact List.nil_sublist _
  | cons hab _ ih =>
      rw [List.map_cons, List.map_cons, hab.tab]
      exact ih.cons_cons _
  | cons_right _ ih => exact ih.cons _

theorem append_ne_cons {c : Char} {x : List Char} (nonempty : x ≠ [])
    (h : ∀ rest, x ≠ c :: rest) (y rest : List Char) : x ++ y ≠ c :: rest := by
  obtain ⟨d, ds, rfl⟩ := List.exists_cons_of_ne_nil nonempty
  intro he
  exact h ds (congrArg (· :: ds) (List.cons.inj he).1)

namespace Algorithm

theorem detect_append {x : List Char} (nonempty : x ≠ []) (slash : ∀ rest, x ≠ '/' :: rest)
    (backslash : x ≠ ['\\']) (y : List Char) :
    ∃ needle, (detect x = .exact needle ∧ detect (x ++ y) = .exact (needle ++ y)) ∨
      (detect x = .fuzzy needle ∧ detect (x ++ y) = .fuzzy (needle ++ y)) := by
  by_cases hquote : ∃ rest, x = '\'' :: rest
  · obtain ⟨rest, rfl⟩ := hquote
    exact ⟨rest, .inl ⟨rfl, rfl⟩⟩
  by_cases hescape : ∃ c rest, (c = '\'' ∨ c = '/' ∨ c = '\\') ∧ x = '\\' :: c :: rest
  · obtain ⟨c, rest, hc, rfl⟩ := hescape
    exact ⟨c :: rest, .inr ⟨detect_escaped hc rest, detect_escaped hc (rest ++ y)⟩⟩
  · push Not at hquote hescape
    refine ⟨x, .inr ⟨detect_unmarked hquote slash hescape, ?_⟩⟩
    refine detect_unmarked (append_ne_cons nonempty hquote y) (append_ne_cons nonempty slash y) ?_
    intro d rest hd h
    obtain ⟨c, cs, rfl⟩ := List.exists_cons_of_ne_nil nonempty
    obtain ⟨rfl, hcs⟩ := List.cons.inj h
    -- the backslash is not all of `x`, so that `x` has the character behind it too
    cases cs with
    | nil => exact backslash rfl
    | cons e es => exact hescape d es hd (congrArg ('\\' :: · :: es) (List.cons.inj hcs).1)

theorem found_of_append {x : List Char} (nonempty : x ≠ []) (slash : ∀ rest, x ≠ '/' :: rest)
    (backslash : x ≠ ['\\']) {y haystack : List Char}
    (h : ((detect (x ++ y)).run haystack).found = true) :
    ((detect x).run haystack).found = true := by
  obtain ⟨needle, ⟨hx, hxy⟩ | ⟨hx, hxy⟩⟩ := detect_append nonempty slash backslash y
  · rw [hxy] at h
    rw [hx]
    exact Matching.exact_of_append h
  · rw [hxy] at h
    rw [hx]
    exact Matching.fuzzy_of_append h

end Algorithm

/-- Names of fields, a pattern, and a backslash whose character is still to come do not yet say how a
needle is matched. -/
theorem typing_narrows (tabs : List Tab) (x y : List Char) (nonempty : x ≠ [])
    (colon : ∀ rest, x ≠ ':' :: rest) (slash : ∀ rest, x ≠ '/' :: rest) (backslash : x ≠ ['\\']) :
    ((search tabs (x ++ y)).tabs.map fun t => t.tab).Sublist
        ((search tabs x).tabs.map fun t => t.tab) ∧
      List.SublistForall₂ FoundTab.Narrows (search tabs (x ++ y)).tabs (search tabs x).tabs := by
  have hshort := Query.parse_of_no_colon colon
  have hlong := Query.parse_of_no_colon (append_ne_cons nonempty colon y)
  have hnarrows : (Query.parse (x ++ y)).Narrows (Query.parse x) := by
    rw [hshort, hlong]
    exact Query.narrows_of_found (fun _ h => h)
      fun text h => Algorithm.found_of_append nonempty slash backslash h
  have hsearch := search_of_narrows (by simp [hlong, nonempty]) (by simp [hshort, nonempty])
    hnarrows tabs
  exact ⟨FoundTab.sublist_of_narrows hsearch, hsearch⟩

def book : Tab :=
  { id := 3, windowId := 1, index := 2, title := some "The Book", url := some "x.org/b" }

theorem typing_narrows_quote :
    (['\''] ≠ [] ∧ (∀ rest, ['\''] ≠ ':' :: rest) ∧ (∀ rest, ['\''] ≠ '/' :: rest) ∧
      ['\''] ≠ ['\\']) ∧
    ((search [untitled, book] ['\'', 'b', 'O']).tabs =
        [⟨book, ⟨some [⟨4, 6⟩], none⟩⟩] ∧
      (search [untitled, book] ['\'']).tabs =
        [⟨untitled, ⟨none, some []⟩⟩, ⟨book, ⟨some [], some []⟩⟩]) ∧
    List.SublistForall₂ FoundTab.Narrows (search [untitled, book] ['\'', 'b', 'O']).tabs
      (search [untitled, book] ['\'']).tabs := by
  have hx : ['\''] ≠ [] ∧ (∀ rest, ['\''] ≠ ':' :: rest) ∧ (∀ rest, ['\''] ≠ '/' :: rest) ∧
      ['\''] ≠ ['\\'] := by simp
  refine ⟨hx, ⟨rfl, rfl⟩, ?_⟩
  exact (typing_narrows [untitled, book] ['\''] ['b', 'O'] hx.1 hx.2.1 hx.2.2.1 hx.2.2.2).2

end TabSearch
