import Mathlib.Algebra.GroupWithZero.Nat
import TabSearch.Report
import TabSearch.Proofs.Snapshot

namespace TabSearch

def Tab.lineFeeds (t : Tab) : Nat :=
  (t.title.getD "").toList.count '\n' + (t.url.getD "").toList.count '\n'

namespace Markers

structure SingleLine (m : Markers) : Prop where
  opening : '\n' ∉ m.opening.toList
  closing : '\n' ∉ m.closing.toList

variable {m : Markers}

theorem SingleLine.renderFrom (h : m.SingleLine) (pos : Nat) (k : Marking) (text : List Char) :
    (m.renderFrom pos k text).count '\n' = text.count '\n' := by
  have hmark (b : Bool) {mark : List Char} (hmark : '\n' ∉ mark) :
      (if b then mark else []).count '\n' = 0 := by
    cases b
    · rfl
    · exact List.count_eq_zero.mpr hmark
  induction text generalizing pos k with
  | nil => rfl
  | cons c rest ih =>
      rw [Markers.renderFrom]
      simp only [List.count_append, List.count_cons, hmark _ h.opening, hmark _ h.closing, ih]
      omega

theorem SingleLine.renderField (h : m.SingleLine) (text : Option String)
    (spans : Option (List Span)) :
    (m.renderField text spans).count '\n' = (text.getD "").toList.count '\n' := by
  cases spans with
  | none => rfl
  | some spans => exact h.renderFrom 0 _ _

end Markers

namespace Report

def label (t : Tab) : List Char :=
  '#' :: ((toString t.id).toList ++ ((if t.active then ['*'] else []) ++ [' ']))

def body (m : Markers) (f : FoundTab) : List Char :=
  label f.tab ++ (m.renderField f.tab.title f.highlight.title ++
    (' ' :: ' ' :: m.renderField f.tab.url f.highlight.url))

def tally (o : Outcome) (total : Nat) : List Char :=
  (if o.emptySearch then s!"{total} tabs" else s!"{o.tabs.length} of {total} tabs").toList

theorem line_eq (m : Markers) (f : FoundTab) : line m f = body m f ++ ['\n'] := by
  simp [line, body, label]

theorem summary_eq (o : Outcome) (total : Nat) : summary o total = tally o total ++ ['\n'] := by
  have htabs : " tabs\n".toList = " tabs".toList ++ ['\n'] := rfl
  rw [summary, tally]
  split <;> simp only [String.toList_append, toString, htabs, List.append_assoc]

theorem plain_eq (o : Outcome) (total : Nat) (m : Markers) :
    (plain o total m).toList = (o.tabs.map (body m) ++ [tally o total]).flatMap (· ++ ['\n']) := by
  rw [plain, String.toList_ofList, summary_eq, List.flatMap_append, List.flatMap_map,
    List.flatMap_singleton, funext (line_eq m)]

theorem newline_not_mem_label (t : Tab) : '\n' ∉ label t := by
  have hstar : '\n' ∉ (if t.active then ['*'] else []) := by cases t.active <;> decide
  simp only [label, List.mem_cons, List.mem_append, not_or]
  exact ⟨by decide, Json.newline_not_mem_int t.id, hstar, by decide, List.not_mem_nil⟩

theorem newline_not_mem_tally (o : Outcome) (total : Nat) : '\n' ∉ tally o total := by
  have hnumber (n : Nat) : '\n' ∉ (toString n).toList := Json.newline_not_mem_int n
  have hof : '\n' ∉ " of ".toList := by decide
  have htabs : '\n' ∉ " tabs".toList := by decide
  rw [tally]
  split
  · simp only [String.toList_append, List.mem_append, not_or]
    exact ⟨hnumber total, htabs⟩
  · simp only [String.toList_append, List.mem_append, not_or]
    exact ⟨⟨⟨hnumber _, hof⟩, hnumber total⟩, htabs⟩

structure Shows (m : Markers) (f : FoundTab) (line : List Char) : Prop where
  label : label f.tab <+: line
  title : m.renderField f.tab.title f.highlight.title <:+: line
  url : m.renderField f.tab.url f.highlight.url <:+: line

inductive Lists (m : Markers) (o : Outcome) (total : Nat) : List Char → Prop
  | intro {lines : List (List Char)} {last : List Char}
      (unbroken : ∀ line ∈ lines ++ [last], '\n' ∉ line)
      (shown : List.Forall₂ (Shows m) o.tabs lines) (counted : last ++ ['\n'] = summary o total) :
      Lists m o total ((lines ++ [last]).flatMap (· ++ ['\n']))

theorem shows_body (m : Markers) (f : FoundTab) : Shows m f (body m f) where
  label := List.prefix_append _ _
  title := ⟨label f.tab, _, List.append_assoc _ _ _⟩
  url := by
    refine List.IsSuffix.isInfix ⟨label f.tab ++ (m.renderField f.tab.title f.highlight.title ++
      [' ', ' ']), ?_⟩
    simp [body]

theorem count_lines (lines : List (List Char)) :
    (lines.flatMap (· ++ ['\n'])).count '\n' =
      lines.length + (lines.map fun line => line.count '\n').sum := by
  induction lines with
  | nil => rfl
  | cons line lines ih =>
      rw [List.flatMap_cons, List.count_append, List.count_append, ih, List.map_cons, List.sum_cons,
        List.count_singleton_self, List.length_cons]
      omega

section

variable {m : Markers} (single : m.SingleLine) (o : Outcome) (total : Nat)
include single

theorem count_body (f : FoundTab) : (body m f).count '\n' = f.tab.lineFeeds := by
  have hlabel : (label f.tab).count '\n' = 0 :=
    List.count_eq_zero.mpr (newline_not_mem_label f.tab)
  have hgap : [' ', ' '].count '\n' = 0 := rfl
  have hbody : body m f = label f.tab ++ (m.renderField f.tab.title f.highlight.title ++
      ([' ', ' '] ++ m.renderField f.tab.url f.highlight.url)) := rfl
  rw [hbody, List.count_append, List.count_append, List.count_append, hlabel, hgap,
    single.renderField, single.renderField, Tab.lineFeeds]
  omega

theorem count_plain :
    (plain o total m).toList.count '\n' =
      o.tabs.length + 1 + (o.tabs.map fun f => f.tab.lineFeeds).sum := by
  have htally : (tally o total).count '\n' = 0 :=
    List.count_eq_zero.mpr (newline_not_mem_tally o total)
  have hbodies : (o.tabs.map (body m)).map (fun line => line.count '\n') =
      o.tabs.map fun f => f.tab.lineFeeds := by
    rw [List.map_map]
    exact List.map_congr_left fun f _ => count_body single f
  rw [plain_eq, count_lines, List.map_append, hbodies]
  simp [htally]

theorem lists_plain (h : ∀ f ∈ o.tabs, f.tab.lineFeeds = 0) :
    Lists m o total (plain o total m).toList := by
  rw [plain_eq]
  refine .intro ?_ ?_ (summary_eq o total).symm
  · rw [List.forall_mem_append, List.forall_mem_map, List.forall_mem_singleton]
    refine ⟨fun f hf => ?_, newline_not_mem_tally o total⟩
    rw [← List.count_eq_zero, count_body single, h f hf]
  · rw [List.forall₂_map_right_iff, List.forall₂_same]
    exact fun f _ => shows_body m f

omit single in
theorem count_of_lists {text : List Char} (h : Lists m o total text) :
    text.count '\n' = o.tabs.length + 1 := by
  cases h with
  | @intro lines last unbroken shown counted =>
      have hnone : (lines ++ [last]).map (fun line => line.count '\n') =
          (lines ++ [last]).map fun _ => 0 :=
        List.map_congr_left fun line hline => List.count_eq_zero.mpr (unbroken line hline)
      rw [count_lines, hnone, List.length_append, shown.length_eq]
      simp

theorem lineFeeds_of_lists (h : Lists m o total (plain o total m).toList) :
    ∀ f ∈ o.tabs, f.tab.lineFeeds = 0 := by
  have hcount := count_of_lists o total h
  rw [count_plain single] at hcount
  have hsum : (o.tabs.map fun f => f.tab.lineFeeds).sum = 0 := by omega
  simpa using List.sum_eq_zero_iff_forall_eq_nat.mp hsum

end

theorem plain_breaks_at_line_feeds (tabs : List Tab) (query : List Char) (total : Nat) (m : Markers)
    (single : m.SingleLine) :
    (plain (search tabs query) total m).toList.count '\n' = (search tabs query).tabs.length + 1 +
        ((search tabs query).tabs.map fun f => f.tab.lineFeeds).sum ∧
      (Lists m (search tabs query) total (plain (search tabs query) total m).toList ↔
        ∀ f ∈ (search tabs query).tabs, f.tab.lineFeeds = 0) :=
  ⟨count_plain single _ total, lineFeeds_of_lists single _ total, lists_plain single _ total⟩

def torn : Tab := { id := 1, windowId := 1, index := 0, title := some "a\nb" }

theorem single_default : Markers.default.SingleLine := ⟨by decide, by decide⟩

theorem search_torn : (search [torn] []).tabs = [⟨torn, .empty⟩] := rfl

theorem plain_breaks_at_line_feeds_torn :
    Markers.default.SingleLine ∧
      (plain (search [torn] []) 1 .default).toList.count '\n' = 3 ∧
      ¬ Lists .default (search [torn] []) 1 (plain (search [torn] []) 1 .default).toList := by
  obtain ⟨hcount, hlists⟩ := plain_breaks_at_line_feeds [torn] [] 1 .default single_default
  rw [search_torn] at hcount hlists
  refine ⟨single_default, hcount, fun h => ?_⟩
  have htorn := hlists.mp h _ List.mem_cons_self
  revert htorn
  decide

theorem plain_tears_lines :
    ¬ ∀ text tabs query total m, Snapshot.parse text = .ok tabs → m.SingleLine →
      Lists m (search tabs query) total (plain (search tabs query) total m).toList := by
  intro h
  have hkept : torn.Kept Number.Whole 1 :=
    ⟨⟨by decide, by decide⟩, ⟨by decide, by decide⟩, by decide, by decide, .nil _ _ _⟩
  have hparse := Snapshot.parse_compact (List.forall_mem_singleton.mpr hkept)
  have hlists := h _ [torn] [] 1 .default hparse single_default
  have htorn := lineFeeds_of_lists single_default _ 1 hlists ⟨torn, .empty⟩ (by simp [search_torn])
  revert htorn
  decide

end Report

end TabSearch
