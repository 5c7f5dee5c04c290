import TabSearch.Json.Printer
import TabSearch.Proofs.Json.Node

namespace TabSearch

def Number.Integral (n : Number) : Prop := ∃ i, n = .int i

def Number.Whole (n : Number) : Prop := ∃ i, InRange i ∧ n = .int i

theorem Number.Whole.integral {n : Number} (h : n.Whole) : n.Integral := by
  obtain ⟨i, _, rfl⟩ := h
  exact ⟨i, rfl⟩

theorem Number.whole_of_fits {n : Number} (h : n.Fits ∧ n.Integral) : n.Whole := by
  obtain ⟨hf, i, hi⟩ := h
  exact ⟨i, hf i hi, hi⟩

namespace Json

theorem Kept.whole {depth : Nat} {v : Json} (h : v.Kept Number.Fits depth)
    (hi : v.Numbers Number.Integral) : v.Kept Number.Whole depth where
  nests := h.nests
  ordered := h.ordered
  numbers := (h.numbers.and hi).mono fun _ => Number.whole_of_fits

section

variable {chars : Json → List Char} {gap sep stop : List Char}

theorem spellsItems_join (hsep : Space sep) (hstop : Space stop) {v : Json} {items : List Json}
    (h : ∀ u ∈ v :: items, Spells u (chars u)) :
    SpellsItems (v :: items) (join (',' :: sep) ((v :: items).map chars) ++ (stop ++ [']'])) := by
  induction items generalizing v with
  | nil => exact .last (h v (by simp)) hstop
  | cons u items ih =>
      have hrest := ih fun x hx => h x (List.mem_cons_of_mem v hx)
      have hs := SpellsItems.more (h v (by simp)) Space.nil hsep hrest
      simpa [join] using hs

theorem spellsMembers_join (hgap : Space gap) (hsep : Space sep) (hstop : Space stop)
    {m : String × Json} {members : List (String × Json)}
    (h : ∀ n ∈ m :: members, Spells n.2 (chars n.2)) :
    ∃ cs, join (',' :: sep) ((m :: members).map fun n => quote n.1 ++ ':' :: (gap ++ chars n.2)) ++
        (stop ++ ['\x7d']) = '"' :: cs ∧ SpellsMembers (m :: members) cs := by
  have hkey := spellsChars_escape m.1.toList
  induction members generalizing m with
  | nil =>
      exact ⟨_, by simp [join, quote, escape], .last hkey Space.nil hgap (h m (by simp)) hstop⟩
  | cons n members ih =>
      obtain ⟨ds, hds, hs⟩ := ih (fun x hx => h x (List.mem_cons_of_mem m hx))
        (spellsChars_escape n.1.toList)
      refine ⟨_, ?_, .more hkey Space.nil hgap (h m (by simp)) Space.nil hsep hs⟩
      rw [← hds]
      simp [join, quote, escape]

theorem spells_array (hsep : Space sep) (hstop : Space stop) {items : List Json}
    (h : ∀ v ∈ items, Spells v (chars v)) (hne : items ≠ []) :
    Spells (.array items)
      ('[' :: (sep ++ (join (',' :: sep) (items.map chars) ++ (stop ++ [']'])))) := by
  obtain ⟨v, items, rfl⟩ := List.exists_cons_of_ne_nil hne
  exact .array hsep (spellsItems_join hsep hstop h)

theorem spells_object (hgap : Space gap) (hsep : Space sep) (hstop : Space stop)
    {members : List (String × Json)} (h : ∀ m ∈ members, Spells m.2 (chars m.2))
    (hne : members ≠ []) :
    Spells (.object members) ('\x7b' :: (sep ++
      (join (',' :: sep) (members.map fun m => quote m.1 ++ ':' :: (gap ++ chars m.2)) ++
        (stop ++ ['\x7d'])))) := by
  obtain ⟨m, members, rfl⟩ := List.exists_cons_of_ne_nil hne
  obtain ⟨cs, he, hs⟩ := spellsMembers_join hgap hsep hstop h
  rw [he]
  exact .object hsep hs

end

theorem compactItems_eq (items : List Json) : compactItems items = items.map compactChars := by
  induction items with
  | nil => rfl
  | cons v items ih => rw [compactItems, ih, List.map_cons]

theorem compactMembers_eq (members : List (String × Json)) :
    compactMembers members = members.map fun m => quote m.1 ++ ':' :: compactChars m.2 := by
  induction members with
  | nil => rfl
  | cons m members ih => rw [compactMembers, ih, List.map_cons]

theorem prettyItems_eq (depth : Nat) (items : List Json) :
    prettyItems depth items = items.map (prettyChars depth) := by
  induction items with
  | nil => rfl
  | cons v items ih => rw [prettyItems, ih, List.map_cons]

theorem prettyMembers_eq (depth : Nat) (members : List (String × Json)) :
    prettyMembers depth members =
      members.map fun m => quote m.1 ++ ':' :: ' ' :: prettyChars depth m.2 := by
  induction members with
  | nil => rfl
  | cons m members ih => rw [prettyMembers, ih, List.map_cons]

theorem spells_whole {n : Number} (h : n.Whole) : Spells (.number n) n.toText.toList := by
  obtain ⟨i, hi, rfl⟩ := h
  obtain ⟨p, hp, value⟩ := Number.spells_int hi
  exact .number hp value

theorem Numbers.spells {v : Json} (h : v.Numbers Number.Whole) : Spells v v.compactChars := by
  induction h with
  | null => exact .null
  | bool b => cases b <;> constructor
  | number h => exact spells_whole h
  | string s => exact .string (spellsChars_escape s.toList)
  | @array items h ih =>
      rw [compactChars, compactItems_eq]
      by_cases hne : items = []
      · subst hne
        exact .emptyArray (w := []) Space.nil
      · exact spells_array Space.nil Space.nil ih hne
  | @object members h ih =>
      rw [compactChars, compactMembers_eq]
      by_cases hne : members = []
      · subst hne
        exact .emptyObject (w := []) Space.nil
      · exact spells_object Space.nil Space.nil Space.nil ih hne

theorem space_indentation (depth : Nat) : Space (indentation depth) := by
  refine List.forall_mem_cons.mpr ⟨by decide, fun c hc => ?_⟩
  rw [List.eq_of_mem_replicate hc]
  rfl

theorem block_of_ne_nil {opening closing : Char} {depth : Nat} {pieces : List (List Char)}
    (hne : pieces ≠ []) :
    block opening closing depth pieces = opening :: (indentation (depth + 1) ++
      (join (',' :: indentation (depth + 1)) pieces ++ (indentation depth ++ [closing]))) := by
  obtain ⟨p, rest, rfl⟩ := List.exists_cons_of_ne_nil hne
  simp [block]

theorem Numbers.spells_pretty {v : Json} (h : v.Numbers Number.Whole) (depth : Nat) :
    Spells v (v.prettyChars depth) := by
  induction h generalizing depth with
  | null => exact .null
  | bool b => cases b <;> constructor
  | number h => exact spells_whole h
  | string s => exact .string (spellsChars_escape s.toList)
  | @array items h ih =>
      rw [prettyChars, prettyItems_eq]
      by_cases hne : items = []
      · subst hne
        exact .emptyArray (w := []) Space.nil
      · rw [block_of_ne_nil (mt List.map_eq_nil_iff.mp hne)]
        exact spells_array (space_indentation (depth + 1)) (space_indentation depth)
          (fun v hv => ih v hv (depth + 1)) hne
  | @object members h ih =>
      rw [prettyChars, prettyMembers_eq]
      by_cases hne : members = []
      · subst hne
        exact .emptyObject (w := []) Space.nil
      · rw [block_of_ne_nil (mt List.map_eq_nil_iff.mp hne)]
        have hgap : Space [' '] := List.forall_mem_singleton.mpr rfl
        exact spells_object hgap (space_indentation (depth + 1)) (space_indentation depth)
          (fun m hm => ih m hm (depth + 1)) hne

theorem Numbers.text {v : Json} (h : v.Numbers Number.Whole) : v.Text v.compact.toList := by
  rw [compact, String.toList_ofList]
  exact h.spells.text

theorem mem_join {c : Char} {separator : List Char} {pieces : List (List Char)}
    (h : c ∈ join separator pieces) : c ∈ separator ∨ ∃ p ∈ pieces, c ∈ p := by
  induction pieces with
  | nil => cases h
  | cons p pieces ih =>
      cases pieces with
      | nil => exact .inr ⟨p, by simp, h⟩
      | cons q pieces =>
          rw [join, List.append_assoc, List.mem_append, List.mem_append] at h
          rcases h with h | h | h
          · exact .inr ⟨p, by simp, h⟩
          · exact .inl h
          · exact (ih h).imp_right fun ⟨x, hx, hc⟩ => ⟨x, List.mem_cons_of_mem p hx, hc⟩

theorem newline_not_mem_escapeChar (c : Char) : '\n' ∉ escapeChar c := by
  have hhex : ∀ n < 16, hexDigit n ≠ '\n' := by decide
  rcases escapeChar_cases c with ⟨e, he, h⟩ | ⟨hc, h⟩ | ⟨_, _, hc, h⟩ <;> rw [h]
  · suffices e ≠ '\n' by simp [Ne.symm this]
    rintro rfl
    cases he
  · simp [(hhex _ (show c.toNat / 16 < 16 by omega)).symm,
      (hhex _ (show c.toNat % 16 < 16 by omega)).symm]
  · suffices c ≠ '\n' by simp [Ne.symm this]
    rintro rfl
    revert hc
    decide

theorem newline_not_mem_quote (s : String) : '\n' ∉ quote s := by
  simp [quote, escape, newline_not_mem_escapeChar]

theorem newline_not_mem_int (i : Int) : '\n' ∉ (toString i).toList := by
  intro h
  have hc := mem_int h
  revert hc
  decide

theorem newline_not_mem_brackets {opening closing : Char} {pieces : List (List Char)}
    (ho : '\n' ≠ opening) (hc : '\n' ≠ closing) (h : ∀ p ∈ pieces, '\n' ∉ p) :
    '\n' ∉ opening :: (join [','] pieces ++ [closing]) := by
  simp only [List.mem_cons, List.mem_append, List.not_mem_nil, or_false, not_or]
  refine ⟨ho, fun hmem => ?_, hc⟩
  rcases mem_join hmem with hmem | ⟨p, hp, hmem⟩
  · revert hmem
    decide
  · exact h p hp hmem

theorem Numbers.newline_not_mem {v : Json} (h : v.Numbers Number.Whole) :
    '\n' ∉ v.compactChars := by
  induction h with
  | null => decide
  | bool b => cases b <;> decide
  | number h =>
      obtain ⟨i, _, rfl⟩ := h
      exact newline_not_mem_int i
  | string s => exact newline_not_mem_quote s
  | array h ih =>
      refine newline_not_mem_brackets (by decide) (by decide) fun p hp => ?_
      rw [compactItems_eq] at hp
      obtain ⟨v, hv, rfl⟩ := List.mem_map.mp hp
      exact ih v hv
  | object h ih =>
      refine newline_not_mem_brackets (by decide) (by decide) fun p hp => ?_
      rw [compactMembers_eq] at hp
      obtain ⟨m, hm, rfl⟩ := List.mem_map.mp hp
      simp only [List.mem_append, List.mem_cons, not_or]
      exact ⟨newline_not_mem_quote m.1, by decide, ih m hm⟩

end Json

end TabSearch
