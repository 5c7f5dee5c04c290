import Mathlib.Logic.ExistsUnique
import TabSearch.Proofs.Search.Filter

namespace TabSearch

def Field.token : Field → List Char
  | .title => ['t', 'i', 't', 'l', 'e', ':']
  | .url => ['u', 'r', 'l', ':']

def spell (named : List Field) : List Char := named.flatMap Field.token

theorem spell_cons (f : Field) (named : List Field) : spell (f :: named) = f.token ++ spell named :=
  List.flatMap_cons

def Plain (needle : List Char) : Prop := ∀ f : Field, ¬ f.token <+: needle

theorem plain_nil : Plain [] := by
  intro f h
  cases f <;> simp [Field.token] at h

theorem Field.token_inj {f g : Field} {xs ys : List Char} (h : f.token ++ xs = g.token ++ ys) :
    f = g ∧ xs = ys := by
  cases f <;> cases g
  · exact ⟨rfl, List.append_cancel_left h⟩
  · simp [token] at h
  · simp [token] at h
  · exact ⟨rfl, List.append_cancel_left h⟩

structure Splits (text : List Char) (named : List Field) (needle : List Char) : Prop where
  whole : text = spell named ++ needle
  plain : Plain needle

theorem Splits.token {text needle : List Char} {named : List Field} (h : Splits text named needle)
    (f : Field) : Splits (f.token ++ text) (f :: named) needle := by
  refine ⟨?_, h.plain⟩
  rw [spell_cons, List.append_assoc, ← h.whole]

theorem Splits.unique {text needle needle' : List Char} {named named' : List Field}
    (h : Splits text named needle) (h' : Splits text named' needle') :
    named = named' ∧ needle = needle' := by
  induction named generalizing text named' with
  | nil =>
      cases named' with
      | nil => exact ⟨rfl, h.whole.symm.trans h'.whole⟩
      | cons g rest =>
          have hg : g.token <+: needle := by
            refine ⟨spell rest ++ needle', ?_⟩
            rw [← List.append_assoc, ← spell_cons, ← h'.whole]
            exact h.whole
          exact absurd hg (h.plain g)
  | cons f named ih =>
      have htext := h.whole
      rw [spell_cons, List.append_assoc] at htext
      cases named' with
      | nil =>
          have hf : f.token <+: needle' := by
            refine ⟨spell named ++ needle, ?_⟩
            rw [← htext]
            exact h'.whole
          exact absurd hf (h'.plain f)
      | cons g rest =>
          have htext' := h'.whole
          rw [spell_cons, List.append_assoc, htext] at htext'
          obtain ⟨rfl, hrest⟩ := Field.token_inj htext'
          have hnamed : Splits (spell named ++ needle) named needle := ⟨rfl, h.plain⟩
          obtain ⟨rfl, hneedle⟩ := ih hnamed ⟨hrest, h'.plain⟩
          exact ⟨rfl, hneedle⟩

namespace Fields

def add (seen : Fields) : Field → Fields
  | .title => { seen with title := true }
  | .url => { seen with url := true }

theorem selects_add (seen : Fields) (f g : Field) :
    (seen.add f).selects g = (seen.selects g || f == g) := by
  cases f <;> cases g <;> simp [add, selects]

theorem readNames_splits (seen : Fields) (text : List Char) :
    ∃ named, Splits text named (readNames seen text).1 ∧
      (readNames seen text).2 = named.foldl add seen := by
  fun_induction readNames seen text with
  | case1 seen rest ih =>
      obtain ⟨named, hsplits, hseen⟩ := ih
      exact ⟨.title :: named, hsplits.token .title, hseen⟩
  | case2 seen rest ih =>
      obtain ⟨named, hsplits, hseen⟩ := ih
      exact ⟨.url :: named, hsplits.token .url, hseen⟩
  | case3 seen rest htitle hurl =>
      refine ⟨[], ⟨rfl, ?_⟩, rfl⟩
      intro f hf
      obtain ⟨more, rfl⟩ := hf
      cases f with
      | title => exact htitle more rfl
      | url => exact hurl more rfl

theorem selects_foldl_add (seen : Fields) (named : List Field) (f : Field) :
    (named.foldl add seen).selects f = true ↔ seen.selects f = true ∨ f ∈ named := by
  induction named generalizing seen with
  | nil => simp
  | cons g rest ih =>
      rw [List.foldl_cons, ih, selects_add]
      simp only [Bool.or_eq_true, beq_iff_eq, List.mem_cons, or_assoc, @eq_comm _ f g]

theorem selects_none (f : Field) : none.selects f = false := by cases f <;> rfl

theorem selects_all (f : Field) : all.selects f = true := by cases f <;> rfl

theorem foldl_add_eq_none {named : List Field} : named.foldl add none = none ↔ named = [] := by
  constructor
  · intro h
    rw [List.eq_nil_iff_forall_not_mem]
    intro f hf
    have hselected : (named.foldl add none).selects f = true :=
      (selects_foldl_add none named f).mpr (.inr hf)
    rw [h, selects_none] at hselected
    cases hselected
  · rintro rfl
    rfl

theorem detect_colon (text : List Char) :
    detect (':' :: text) = ((readNames none text).1,
      if (readNames none text).2 = none then all else (readNames none text).2) := rfl

theorem detect_of_splits {text needle : List Char} {named : List Field}
    (h : Splits text named needle) :
    (detect (':' :: text)).1 = needle ∧
      ∀ f, (detect (':' :: text)).2.selects f = true ↔ named = [] ∨ f ∈ named := by
  obtain ⟨read, hsplits, hseen⟩ := readNames_splits none text
  obtain ⟨rfl, hneedle⟩ := h.unique hsplits
  refine ⟨hneedle.symm, fun f => ?_⟩
  rw [detect_colon, hseen]
  by_cases hn : named = []
  · subst hn
    simp [selects_all]
  · rw [if_neg (mt foldl_add_eq_none.mp hn), selects_foldl_add, selects_none]
    simp [hn]

theorem detect_of_no_colon {input : List Char} (h : ∀ text, input ≠ ':' :: text) :
    detect input = (input, all) := by
  unfold detect
  split
  next text => exact absurd rfl (h text)
  next => rfl

theorem exists_splits (text : List Char) : ∃ named needle, Splits text named needle := by
  obtain ⟨named, hsplits, _⟩ := readNames_splits none text
  exact ⟨named, _, hsplits⟩

theorem detect_selects (input : List Char) : ∃ f, (detect input).2.selects f = true := by
  by_cases h : ∃ text, input = ':' :: text
  · obtain ⟨text, rfl⟩ := h
    obtain ⟨named, needle, hsplits⟩ := exists_splits text
    have hselects := (detect_of_splits hsplits).2
    cases named with
    | nil => exact ⟨.title, (hselects .title).mpr (.inl rfl)⟩
    | cons f rest => exact ⟨f, (hselects f).mpr (.inr (by simp))⟩
  · rw [detect_of_no_colon (by simpa using h)]
    exact ⟨.title, rfl⟩

theorem detect_eq_nil {input : List Char} :
    (detect input).1 = [] ↔ input = [] ∨ ∃ named, input = ':' :: spell named := by
  by_cases h : ∃ text, input = ':' :: text
  · obtain ⟨text, rfl⟩ := h
    obtain ⟨named, needle, hsplits⟩ := exists_splits text
    rw [(detect_of_splits hsplits).1]
    constructor
    · rintro rfl
      exact .inr ⟨named, by rw [hsplits.whole, List.append_nil]⟩
    · rintro (h | ⟨other, h⟩)
      · cases h
      · have hother : Splits text other [] := ⟨by simpa using h, plain_nil⟩
        exact (hsplits.unique hother).2
  · rw [detect_of_no_colon (by simpa using h)]
    constructor
    · exact .inl
    · rintro (h' | ⟨named, h'⟩)
      · exact h'
      · exact absurd ⟨_, h'⟩ h

theorem detect_reads_names (input : List Char) :
    ((∀ text, input ≠ ':' :: text) → detect input = (input, all)) ∧
    (∀ text, input = ':' :: text →
      (∃! split : List Field × List Char, Splits text split.1 split.2) ∧
      ∀ named needle, Splits text named needle →
        (detect input).1 = needle ∧
          ∀ f, (detect input).2.selects f = true ↔ named = [] ∨ f ∈ named) ∧
    (∃ f, (detect input).2.selects f = true) ∧
    ((Query.parse input).isEmpty = true ↔ input = [] ∨ ∃ named, input = ':' :: spell named) := by
  refine ⟨detect_of_no_colon, ?_, detect_selects input, ?_⟩
  · rintro text rfl
    obtain ⟨named, needle, hsplits⟩ := exists_splits text
    refine ⟨⟨(named, needle), hsplits, ?_⟩, fun _ _ h => detect_of_splits h⟩
    rintro ⟨named', needle'⟩ h
    obtain ⟨rfl, rfl⟩ := hsplits.unique h
    rfl
  · rw [Query.isEmpty, List.isEmpty_iff]
    exact detect_eq_nil

theorem detect_reads_names_repeated :
    Splits "url:url::title:".toList [.url, .url] ":title:".toList ∧
      (detect ":url:url::title:".toList).1 = ":title:".toList ∧
      (detect ":url:url::title:".toList).2.selects .url = true ∧
      ¬ (detect ":url:url::title:".toList).2.selects .title = true ∧
      detect "url:x".toList = ("url:x".toList, all) := by
  have hsplits : Splits "url:url::title:".toList [.url, .url] ":title:".toList := by
    refine ⟨rfl, ?_⟩
    rintro f ⟨more, h⟩
    cases f <;> simp [Field.token] at h
  obtain ⟨_, hcolon, _, _⟩ := detect_reads_names ":url:url::title:".toList
  obtain ⟨hneedle, hselects⟩ := (hcolon "url:url::title:".toList rfl).2 _ _ hsplits
  refine ⟨hsplits, hneedle, (hselects .url).mpr (by simp), mt (hselects .title).mp (by simp), ?_⟩
  exact (detect_reads_names "url:x".toList).1 (by simp)

end Fields

end TabSearch
