import TabSearch.Proofs.Search.Prefix

namespace TabSearch

namespace Algorithm

theorem detect_escaped {c : Char} (h : c = '\'' ∨ c = '/' ∨ c = '\\') (rest : List Char) :
    detect ('\\' :: c :: rest) = .fuzzy (c :: rest) := by
  rcases h with rfl | rfl | rfl <;> rfl

theorem detect_unmarked {needle : List Char} (quote : ∀ rest, needle ≠ '\'' :: rest)
    (slash : ∀ rest, needle ≠ '/' :: rest)
    (escape : ∀ c rest, (c = '\'' ∨ c = '/' ∨ c = '\\') → needle ≠ '\\' :: c :: rest) :
    detect needle = .fuzzy needle := by
  rw [detect.eq_def]
  split
  next rest => exact absurd rfl (quote rest)
  next rest => exact absurd rfl (slash rest)
  next rest => exact absurd rfl (escape _ rest (.inr (.inr rfl)))
  next rest => exact absurd rfl (escape _ rest (.inl rfl))
  next rest => exact absurd rfl (escape _ rest (.inr (.inl rfl)))
  next => rfl

def shield (text : List Char) : List Char :=
  match text with
  | '\'' :: _ => '\\' :: text
  | '/' :: _ => '\\' :: text
  | '\\' :: _ => '\\' :: text
  | _ => text

theorem shield_cases (text : List Char) :
    (∃ c rest, text = c :: rest ∧ (c = '\'' ∨ c = '/' ∨ c = '\\') ∧ shield text = '\\' :: text) ∨
    (shield text = text ∧ detect text = .fuzzy text) := by
  rw [shield.eq_def]
  split
  · exact .inl ⟨_, _, rfl, .inl rfl, rfl⟩
  · exact .inl ⟨_, _, rfl, .inr (.inl rfl), rfl⟩
  · exact .inl ⟨_, _, rfl, .inr (.inr rfl), rfl⟩
  next hquote hslash hback =>
    exact .inr ⟨rfl, detect_unmarked hquote hslash fun c rest _ => hback (c :: rest)⟩

theorem detect_shield (text : List Char) : detect (shield text) = .fuzzy text := by
  rcases shield_cases text with ⟨c, rest, rfl, hc, hshield⟩ | ⟨hshield, hdetect⟩
  · rw [hshield, detect_escaped hc]
  · rw [hshield, hdetect]

theorem needle_of_fuzzy {needle text : List Char} (h : detect needle = .fuzzy text) :
    needle = text ∨ needle = shield text := by
  rw [detect.eq_def] at h
  split at h
  · cases h
  · split at h
    · cases h
    · cases h
      exact .inl rfl
  · cases h
    exact .inr rfl
  · cases h
    exact .inr rfl
  · cases h
    exact .inr rfl
  · cases h
    exact .inl rfl

end Algorithm

theorem plain_cons {c : Char} (h : c = '\'' ∨ c = '/' ∨ c = '\\') (rest : List Char) :
    Plain (c :: rest) := by
  intro f hf
  obtain ⟨more, hmore⟩ := hf
  rcases h with rfl | rfl | rfl <;> cases f <;> simp [Field.token] at hmore

theorem plain_shield {text : List Char} : Plain (Algorithm.shield text) ↔ Plain text := by
  rcases Algorithm.shield_cases text with ⟨c, rest, rfl, hc, hshield⟩ | ⟨hshield, _⟩
  · rw [hshield]
    exact ⟨fun _ => plain_cons hc rest, fun _ => plain_cons (.inr (.inr rfl)) _⟩
  · rw [hshield]

namespace Fields

theorem ext_selects {s t : Fields} (h : ∀ f, s.selects f = t.selects f) : s = t := by
  cases s
  cases t
  have htitle := h .title
  have hurl := h .url
  simp only [selects] at htitle hurl
  simp [htitle, hurl]

def chosen (s : Fields) : List Field := [Field.title, .url].filter fun f => s.selects f

theorem mem_chosen {s : Fields} {f : Field} : f ∈ s.chosen ↔ s.selects f = true := by
  cases f <;> simp [chosen]

theorem chosen_ne_nil {s : Fields} (h : s ≠ none) : s.chosen ≠ [] := by
  intro hnil
  refine h (ext_selects fun f => ?_)
  have hf : f ∉ s.chosen := by simp [hnil]
  rw [selects_none, Bool.eq_false_iff]
  exact mt mem_chosen.mpr hf

theorem parse_chosen {s : Fields} (h : s ≠ none) {needle : List Char} (hplain : Plain needle) :
    (Query.parse (':' :: (spell s.chosen ++ needle))).fields = s ∧
      (Query.parse (':' :: (spell s.chosen ++ needle))).algorithm = .detect needle := by
  have hsplits : Splits (spell s.chosen ++ needle) s.chosen needle := ⟨rfl, hplain⟩
  obtain ⟨hneedle, hselects⟩ := detect_of_splits hsplits
  constructor
  · refine ext_selects fun f => ?_
    rw [Bool.eq_iff_iff, ← mem_chosen (s := s)]
    exact (hselects f).trans (or_iff_right (chosen_ne_nil h))
  · exact congrArg Algorithm.detect hneedle

end Fields

namespace Query

theorem parse_of_no_colon {input : List Char} (h : ∀ text, input ≠ ':' :: text) :
    parse input = ⟨input, .all, .detect input⟩ := by
  rw [parse, Fields.detect_of_no_colon h]

theorem plain_of_fuzzy {input text : List Char} (hfields : (parse input).fields ≠ .all)
    (h : (parse input).algorithm = .fuzzy text) : Plain text := by
  by_cases hcolon : ∃ rest, input = ':' :: rest
  · obtain ⟨rest, rfl⟩ := hcolon
    obtain ⟨named, needle, hsplits⟩ := Fields.exists_splits rest
    have hneedle : (Fields.detect (':' :: rest)).1 = needle := (Fields.detect_of_splits hsplits).1
    have hdetect : Algorithm.detect needle = .fuzzy text := by
      rw [← hneedle]
      exact h
    rcases Algorithm.needle_of_fuzzy hdetect with rfl | rfl
    · exact hsplits.plain
    · exact plain_shield.mp hsplits.plain
  · exact absurd (congrArg fields (parse_of_no_colon (by simpa using hcolon))) hfields

def escape (text : List Char) : List Char :=
  match text with
  | ':' :: _ => ':' :: text
  | _ => Algorithm.shield text

theorem escape_of_no_colon {text : List Char} (h : ∀ rest, text ≠ ':' :: rest) :
    escape text = Algorithm.shield text := by
  rw [escape.eq_def]
  split
  next rest => exact absurd rfl (h rest)
  next => rfl

theorem parse_escape (text : List Char) :
    (parse (escape text)).fields = .all ∧ (parse (escape text)).algorithm = .fuzzy text := by
  by_cases hcolon : ∃ rest, text = ':' :: rest
  · obtain ⟨rest, rfl⟩ := hcolon
    exact ⟨rfl, rfl⟩
  · have hshield := escape_of_no_colon (by simpa using hcolon)
    have hstart : ∀ rest, Algorithm.shield text ≠ ':' :: rest := by
      intro rest h
      rcases Algorithm.shield_cases text with ⟨c, more, _, _, hs⟩ | ⟨hs, _⟩
      · simp [hs] at h
      · exact hcolon ⟨rest, hs.symm.trans h⟩
    rw [hshield, parse_of_no_colon hstart]
    exact ⟨rfl, Algorithm.detect_shield text⟩

theorem expressible (text : List Char) (fields : Fields) (nonempty : fields ≠ .none) :
    (∃ input, (parse input).fields = fields ∧ (parse input).algorithm = .exact text) ∧
    ((∃ input, (parse input).fields = fields ∧ (parse input).algorithm = .fuzzy text) ↔
      fields = .all ∨ Plain text) ∧
    (parse (escape text)).fields = .all ∧ (parse (escape text)).algorithm = .fuzzy text := by
  refine ⟨?_, ⟨?_, ?_⟩, parse_escape text⟩
  · exact ⟨_, Fields.parse_chosen nonempty (plain_cons (.inl rfl) text)⟩
  · rintro ⟨input, rfl, halgorithm⟩
    by_cases hall : (parse input).fields = .all
    · exact .inl hall
    · exact .inr (plain_of_fuzzy hall halgorithm)
  · rintro (rfl | hplain)
    · exact ⟨escape text, parse_escape text⟩
    · obtain ⟨hfields, halgorithm⟩ := Fields.parse_chosen nonempty (plain_shield.mpr hplain)
      exact ⟨_, hfields, halgorithm.trans (Algorithm.detect_shield text)⟩

theorem expressible_title :
    (⟨true, false⟩ : Fields) ≠ .none ∧
      (∃ input, (parse input).fields = ⟨true, false⟩ ∧
        (parse input).algorithm = .exact "url:/(".toList) ∧
      (¬ ∃ input, (parse input).fields = ⟨true, false⟩ ∧
        (parse input).algorithm = .fuzzy "url:/(".toList) ∧
      (parse "url:/(".toList).algorithm = .fuzzy "url:/(".toList := by
  have hnone : (⟨true, false⟩ : Fields) ≠ .none := by decide
  obtain ⟨hexact, hfuzzy, _, hescape⟩ := expressible "url:/(".toList ⟨true, false⟩ hnone
  have hnamed : ¬ Plain "url:/(".toList := fun h => h .url ⟨['/', '('], rfl⟩
  exact ⟨hnone, hexact, fun h => (hfuzzy.mp h).elim (by decide) hnamed, hescape⟩

end Query

end TabSearch
