import TabSearch.Json.Node
import TabSearch.Proofs.Json.Literal

namespace TabSearch

def Space (w : List Char) : Prop := ∀ c ∈ w, Cursor.isSpace c = true

theorem Space.nil : Space [] := nofun

mutual

inductive Spells : Json → List Char → Prop
  | null : Spells .null ['n', 'u', 'l', 'l']
  | yes : Spells (.bool true) ['t', 'r', 'u', 'e']
  | no : Spells (.bool false) ['f', 'a', 'l', 's', 'e']
  | number {p : Number.Parts} {n : Number} {cs : List Char} (h : p.Spells cs)
      (value : ∀ start stop, p.number start stop = .ok n) : Spells (.number n) cs
  | string {s : String} {cs : List Char} (h : Json.SpellsChars s.toList cs) :
      Spells (.string s) ('"' :: (cs ++ ['"']))
  | emptyArray {w : List Char} (hw : Space w) : Spells (.array []) ('[' :: (w ++ [']']))
  | array {w cs : List Char} {items : List Json} (hw : Space w) (h : SpellsItems items cs) :
      Spells (.array items) ('[' :: (w ++ cs))
  | emptyObject {w : List Char} (hw : Space w) : Spells (.object []) ('\x7b' :: (w ++ ['\x7d']))
  | object {w cs : List Char} {members : List (String × Json)} (hw : Space w)
      (h : SpellsMembers members cs) : Spells (.object members) ('\x7b' :: (w ++ '"' :: cs))

inductive SpellsItems : List Json → List Char → Prop
  | last {v : Json} {cs w : List Char} (h : Spells v cs) (hw : Space w) :
      SpellsItems [v] (cs ++ (w ++ [']']))
  | more {v : Json} {items : List Json} {cs w w' ds : List Char} (h : Spells v cs) (hw : Space w)
      (hw' : Space w') (hs : SpellsItems items ds) :
      SpellsItems (v :: items) (cs ++ (w ++ ',' :: (w' ++ ds)))

inductive SpellsMembers : List (String × Json) → List Char → Prop
  | last {k : String} {v : Json} {ks w w' cs u : List Char} (hk : Json.SpellsChars k.toList ks)
      (hw : Space w) (hw' : Space w') (h : Spells v cs) (hu : Space u) :
      SpellsMembers [(k, v)] (ks ++ '"' :: (w ++ ':' :: (w' ++ (cs ++ (u ++ ['\x7d'])))))
  | more {k : String} {v : Json} {members : List (String × Json)} {ks w w' cs u u' ds : List Char}
      (hk : Json.SpellsChars k.toList ks) (hw : Space w) (hw' : Space w') (h : Spells v cs)
      (hu : Space u) (hu' : Space u') (hs : SpellsMembers members ds) :
      SpellsMembers ((k, v) :: members)
        (ks ++ '"' :: (w ++ ':' :: (w' ++ (cs ++ (u ++ ',' :: (u' ++ '"' :: ds))))))

end

mutual

inductive Denotes : Node → Json → Prop
  | null (start stop : Nat) : Denotes (.atom start stop (.ok .null)) .null
  | bool (start stop : Nat) (b : Bool) : Denotes (.atom start stop (.ok (.bool b))) (.bool b)
  | number (start stop : Nat) (n : Number) :
      Denotes (.atom start stop (.ok (.number n))) (.number n)
  | string (start stop : Nat) (s : String) :
      Denotes (.atom start stop (.ok (.string s))) (.string s)
  | array (start stop : Nat) {nodes : List Node} {items : List Json}
      (h : DenotesItems nodes items) : Denotes (.array start nodes (.closed stop)) (.array items)
  | object (start stop : Nat) {nodes : List (Key × Node)} {members : List (String × Json)}
      (h : DenotesMembers nodes members) :
      Denotes (.object start nodes (.closed stop)) (.object members)

inductive DenotesItems : List Node → List Json → Prop
  | nil : DenotesItems [] []
  | cons {n : Node} {v : Json} {nodes : List Node} {items : List Json} (h : Denotes n v)
      (hs : DenotesItems nodes items) : DenotesItems (n :: nodes) (v :: items)

inductive DenotesMembers : List (Key × Node) → List (String × Json) → Prop
  | nil : DenotesMembers [] []
  | cons (k : String) (resume : Nat) {n : Node} {v : Json} {nodes : List (Key × Node)}
      {members : List (String × Json)} (h : Denotes n v) (hs : DenotesMembers nodes members) :
      DenotesMembers ((⟨.ok k, resume⟩, n) :: nodes) ((k, v) :: members)

end

theorem spells_ofInt {i : Int} {cs : List Char} :
    Spells (.ofInt i) cs ↔ Number.InRange i ∧ cs = (toString i).toList := by
  constructor
  · rintro (_ | _ | _ | ⟨h, value⟩)
    exact ⟨Number.Parts.number_fits (value 0 0) i rfl, h.eq_toString (value 0 0)⟩
  · rintro ⟨hi, rfl⟩
    obtain ⟨p, h, value⟩ := Number.spells_int hi
    exact .number h value

theorem Denotes.atom (start stop : Nat) (a : Atom) :
    Denotes (.atom start stop (.ok a)) a.json := by
  cases a with
  | null => exact .null start stop
  | bool b => exact .bool start stop b
  | number n => exact .number start stop n
  | string s => exact .string start stop s

theorem skipSpace_append {w rest : List Char} (hw : Space w)
    (hr : ∀ c ∈ rest.head?, Cursor.isSpace c = false) (offset : Nat) :
    Cursor.skipSpace ⟨offset, w ++ rest⟩ = ⟨offset + w.length, rest⟩ := by
  induction w generalizing offset with
  | nil =>
      cases rest with
      | nil => rfl
      | cons c rest =>
          have hc : Cursor.isSpace c = false := hr c rfl
          simp [Cursor.skipSpace, Cursor.skipSpaceFrom, hc]
  | cons c w ih =>
      have hc : Cursor.isSpace c = true := hw c (by simp)
      have h := ih (fun d hd => hw d (by simp [hd])) (offset + 1)
      simp only [Cursor.skipSpace, List.cons_append, Cursor.skipSpaceFrom, hc, if_true] at h ⊢
      rw [h, List.length_cons]
      congr 1
      omega

theorem EndsNumber.space {w rest : List Char} (hw : Space w) (hr : EndsNumber rest) :
    EndsNumber (w ++ rest) := by
  cases w with
  | nil => exact hr
  | cons c w =>
      have hc : Cursor.isSpace c = true := hw c (by simp)
      simp only [Cursor.isSpace, Bool.or_eq_true, beq_iff_eq] at hc
      rintro d ⟨⟩
      rcases hc with ((rfl | rfl) | rfl) | rfl <;> decide

theorem Number.Parts.Spells.head {p : Number.Parts} {cs : List Char} (h : p.Spells cs) :
    ∃ c ds, cs = c :: ds ∧ (c = '-' ∨ Digit.isDecimal c = true) := by
  cases h with
  | intro negative hw hz hf he =>
      obtain ⟨hne, hdec⟩ := hw
      obtain ⟨d, ds, rfl⟩ := List.exists_cons_of_ne_nil hne
      cases negative with
      | true => exact ⟨'-', _, rfl, .inl rfl⟩
      | false => exact ⟨d, _, rfl, .inr (hdec d List.mem_cons_self)⟩

theorem isSpace_of_number {c : Char} (h : c = '-' ∨ Digit.isDecimal c = true) :
    Cursor.isSpace c = false ∧ c ≠ ']' := by
  refine ⟨?_, ?_⟩
  · refine Bool.eq_false_iff.mpr fun hs => ?_
    simp only [Cursor.isSpace, Bool.or_eq_true, beq_iff_eq] at hs
    rcases hs with ((rfl | rfl) | rfl) | rfl <;> revert h <;> decide
  · rintro rfl
    revert h
    decide

theorem Spells.head {v : Json} {cs : List Char} (h : Spells v cs) :
    ∃ c ds, cs = c :: ds ∧ Cursor.isSpace c = false ∧ c ≠ ']' := by
  cases h with
  | number h _ =>
      obtain ⟨c, ds, he, hc⟩ := h.head
      exact ⟨c, ds, he, isSpace_of_number hc⟩
  | _ => exact ⟨_, _, rfl, by decide, by decide⟩

theorem SpellsItems.head {items : List Json} {cs : List Char} (h : SpellsItems items cs) :
    ∃ c ds, cs = c :: ds ∧ Cursor.isSpace c = false ∧ c ≠ ']' := by
  cases h with
  | last h =>
      obtain ⟨c, ds, rfl, hc⟩ := h.head
      exact ⟨c, _, rfl, hc⟩
  | more h =>
      obtain ⟨c, ds, rfl, hc⟩ := h.head
      exact ⟨c, _, rfl, hc⟩

theorem skipSpace_cons {w : List Char} (hw : Space w) {c : Char} (hc : Cursor.isSpace c = false)
    (rest : List Char) (offset : Nat) :
    Cursor.skipSpace ⟨offset, w ++ c :: rest⟩ = ⟨offset + w.length, c :: rest⟩ :=
  skipSpace_append hw (by simpa using hc) offset

theorem scan_space {w : List Char} (hw : Space w) {c : Char} (hc : Cursor.isSpace c = false)
    (rest : List Char) (fuel offset : Nat) :
    Node.scan (fuel + 1) ⟨offset, w ++ c :: rest⟩ =
      Node.scan (fuel + 1) ⟨offset + w.length, c :: rest⟩ := by
  have h := skipSpace_cons Space.nil hc rest (offset + w.length)
  rw [List.nil_append, List.length_nil, Nat.add_zero] at h
  rw [Node.scan, Node.scan]
  simp only [skipSpace_cons hw hc, h]

theorem scan_number {c : Char} (hc : c = '-' ∨ Digit.isDecimal c = true) (rest : List Char)
    (fuel offset : Nat) :
    Node.scan (fuel + 1) ⟨offset, c :: rest⟩ =
      Node.ofReading offset .number (Number.read ⟨offset, c :: rest⟩) := by
  have h : Cursor.skipSpace ⟨offset, c :: rest⟩ = ⟨offset, c :: rest⟩ :=
    skipSpace_cons Space.nil (isSpace_of_number hc).1 rest offset
  rw [Node.scan]
  simp only [h]
  split
  case h_8 h =>
    cases h
    rw [if_pos (by simpa using hc)]
  all_goals
    rename_i h
    cases h
  all_goals exact absurd hc (by decide)

/-- Enough fuel for a text: three calls for a bracket, two for a comma. -/
def Scanned (v : Json) (cs : List Char) : Prop :=
  ∀ (fuel offset : Nat) (rest : List Char), 3 * cs.length ≤ fuel → EndsNumber rest →
    ∃ n stop, Node.scan fuel ⟨offset, cs ++ rest⟩ = ⟨n, some ⟨stop, rest⟩⟩ ∧ Denotes n v

def ScannedItems (items : List Json) (cs : List Char) : Prop :=
  ∀ (fuel offset : Nat) (rest : List Char), 3 * cs.length ≤ fuel →
    ∃ nodes stop, Node.scanItems fuel ⟨offset, cs ++ rest⟩ =
      ⟨(nodes, .closed stop), some ⟨stop, rest⟩⟩ ∧ DenotesItems nodes items

def ScannedMembers (members : List (String × Json)) (cs : List Char) : Prop :=
  ∀ (fuel offset : Nat) (rest : List Char), 3 * cs.length ≤ fuel →
    ∃ nodes stop, Node.scanMembers fuel ⟨offset, cs ++ rest⟩ =
      ⟨(nodes, .closed stop), some ⟨stop, rest⟩⟩ ∧ DenotesMembers nodes members

theorem Scanned.word {a : Atom} {c : Char} {cs : List Char}
    (h : ∀ (fuel offset : Nat) (rest : List Char), ∃ stop,
      Node.scan (fuel + 1) ⟨offset, c :: cs ++ rest⟩ =
        ⟨.atom offset stop (.ok a), some ⟨stop, rest⟩⟩) : Scanned a.json (c :: cs) := by
  intro fuel offset rest hfuel _
  obtain ⟨fuel, rfl⟩ : ∃ k, fuel = k + 1 := ⟨fuel - 1, by simp at hfuel; omega⟩
  obtain ⟨stop, hs⟩ := h fuel offset rest
  exact ⟨_, stop, hs, .atom offset stop a⟩

theorem scanned_null : Scanned .null ['n', 'u', 'l', 'l'] :=
  .word (a := .null) fun _ offset _ => ⟨offset + 4, rfl⟩

theorem scanned_yes : Scanned (.bool true) ['t', 'r', 'u', 'e'] :=
  .word (a := .bool true) fun _ offset _ => ⟨offset + 4, rfl⟩

theorem scanned_no : Scanned (.bool false) ['f', 'a', 'l', 's', 'e'] :=
  .word (a := .bool false) fun _ offset _ => ⟨offset + 5, rfl⟩

theorem scanned_string {s : String} {cs : List Char} (h : Json.SpellsChars s.toList cs) :
    Scanned (.string s) ('"' :: (cs ++ ['"'])) := by
  refine .word (a := .string s) fun fuel offset rest => ?_
  obtain ⟨stop, hread⟩ := Json.readString_text h (offset + 1) rest
  refine ⟨stop, ?_⟩
  have hs : Cursor.skipSpace ⟨offset, '"' :: (cs ++ '"' :: rest)⟩ =
      ⟨offset, '"' :: (cs ++ '"' :: rest)⟩ :=
    skipSpace_cons Space.nil (by decide) _ offset
  rw [List.cons_append, List.append_assoc, List.singleton_append, Node.scan]
  simp only [hs, hread]
  rfl

theorem scanned_number {p : Number.Parts} {n : Number} {cs : List Char} (h : p.Spells cs)
    (value : ∀ start stop, p.number start stop = .ok n) : Scanned (.number n) cs := by
  intro fuel offset rest hfuel hr
  obtain ⟨c, ds, rfl, hc⟩ := h.head
  obtain ⟨start, stop, next, hread⟩ := Number.read_spelled h hr offset
  rw [value] at hread
  obtain ⟨fuel, rfl⟩ : ∃ k, fuel = k + 1 := ⟨fuel - 1, by simp at hfuel; omega⟩
  refine ⟨.atom offset next (.ok (.number n)), next, ?_, .number offset next n⟩
  rw [List.cons_append] at hread ⊢
  rw [scan_number hc, hread]
  rfl

theorem scan_array (fuel offset : Nat) (rest : List Char) :
    Node.scan (fuel + 1) ⟨offset, '[' :: rest⟩ =
      ⟨.array offset (Node.scanArray fuel ⟨offset + 1, rest⟩).value.1
        (Node.scanArray fuel ⟨offset + 1, rest⟩).value.2,
        (Node.scanArray fuel ⟨offset + 1, rest⟩).next⟩ := rfl

theorem scan_object (fuel offset : Nat) (rest : List Char) :
    Node.scan (fuel + 1) ⟨offset, '\x7b' :: rest⟩ =
      ⟨.object offset (Node.scanObject fuel ⟨offset + 1, rest⟩).value.1
        (Node.scanObject fuel ⟨offset + 1, rest⟩).value.2,
        (Node.scanObject fuel ⟨offset + 1, rest⟩).next⟩ := rfl

theorem scanned_emptyArray {w : List Char} (hw : Space w) :
    Scanned (.array []) ('[' :: (w ++ [']'])) := by
  intro fuel offset rest hfuel _
  obtain ⟨fuel, rfl⟩ : ∃ k, fuel = k + 2 := ⟨fuel - 2, by simp at hfuel; omega⟩
  have h : Node.scanArray (fuel + 1) ⟨offset + 1, w ++ ']' :: rest⟩ =
      ⟨([], .closed (offset + 1 + w.length + 1)), some ⟨offset + 1 + w.length + 1, rest⟩⟩ := by
    rw [Node.scanArray]
    simp only [skipSpace_cons hw (show Cursor.isSpace ']' = false by decide)]
  generalize offset + 1 + w.length + 1 = stop at h
  refine ⟨.array offset [] (.closed stop), stop, ?_, .array offset stop .nil⟩
  rw [List.cons_append, List.append_assoc, List.singleton_append, scan_array, h]

theorem scanned_emptyObject {w : List Char} (hw : Space w) :
    Scanned (.object []) ('\x7b' :: (w ++ ['\x7d'])) := by
  intro fuel offset rest hfuel _
  obtain ⟨fuel, rfl⟩ : ∃ k, fuel = k + 2 := ⟨fuel - 2, by simp at hfuel; omega⟩
  have h : Node.scanObject (fuel + 1) ⟨offset + 1, w ++ '\x7d' :: rest⟩ =
      ⟨([], .closed (offset + 1 + w.length + 1)), some ⟨offset + 1 + w.length + 1, rest⟩⟩ := by
    rw [Node.scanObject]
    simp only [skipSpace_cons hw (show Cursor.isSpace '\x7d' = false by decide)]
  generalize offset + 1 + w.length + 1 = stop at h
  refine ⟨.object offset [] (.closed stop), stop, ?_, .object offset stop .nil⟩
  rw [List.cons_append, List.append_assoc, List.singleton_append, scan_object, h]

theorem scanned_array {w cs : List Char} {items : List Json} (hw : Space w)
    (hs : SpellsItems items cs) (h : ScannedItems items cs) :
    Scanned (.array items) ('[' :: (w ++ cs)) := by
  intro fuel offset rest hfuel _
  obtain ⟨fuel, rfl⟩ : ∃ k, fuel = k + 2 := ⟨fuel - 2, by simp at hfuel; omega⟩
  obtain ⟨nodes, stop, hscan, hd⟩ := h fuel (offset + 1 + w.length) rest (by simp at hfuel; omega)
  obtain ⟨c, ds, rfl, hc, hne⟩ := hs.head
  have hopen : Node.scanArray (fuel + 1) ⟨offset + 1, w ++ c :: (ds ++ rest)⟩ =
      Node.scanItems fuel ⟨offset + 1 + w.length, c :: (ds ++ rest)⟩ := by
    rw [Node.scanArray]
    simp [skipSpace_cons hw hc, hne]
  refine ⟨.array offset nodes (.closed stop), stop, ?_, .array offset stop hd⟩
  rw [List.cons_append] at hscan
  rw [List.cons_append, List.append_assoc, List.cons_append, scan_array, hopen, hscan]

theorem scanned_object {w cs : List Char} {members : List (String × Json)} (hw : Space w)
    (h : ScannedMembers members cs) :
    Scanned (.object members) ('\x7b' :: (w ++ '"' :: cs)) := by
  intro fuel offset rest hfuel _
  obtain ⟨fuel, rfl⟩ : ∃ k, fuel = k + 2 := ⟨fuel - 2, by simp at hfuel; omega⟩
  obtain ⟨nodes, stop, hscan, hd⟩ :=
    h fuel (offset + 1 + w.length + 1) rest (by simp at hfuel; omega)
  have hopen : Node.scanObject (fuel + 1) ⟨offset + 1, w ++ '"' :: (cs ++ rest)⟩ =
      Node.scanMembers fuel ⟨offset + 1 + w.length + 1, cs ++ rest⟩ := by
    rw [Node.scanObject]
    simp only [skipSpace_cons hw (show Cursor.isSpace '"' = false by decide)]
  refine ⟨.object offset nodes (.closed stop), stop, ?_, .object offset stop hd⟩
  rw [List.cons_append, List.append_assoc, List.cons_append, scan_object, hopen, hscan]

theorem endsNumber_cons {w : List Char} (hw : Space w) {c : Char} (rest : List Char)
    (hc : Digit.isDecimal c = false ∧ c ≠ '.' ∧ c ≠ 'e' ∧ c ≠ 'E') :
    EndsNumber (w ++ c :: rest) := by
  refine EndsNumber.space hw ?_
  rintro d ⟨⟩
  exact hc

theorem scannedItems_last {v : Json} {cs w : List Char} (h : Scanned v cs) (hw : Space w) :
    ScannedItems [v] (cs ++ (w ++ [']'])) := by
  intro fuel offset rest hfuel
  obtain ⟨fuel, rfl⟩ : ∃ k, fuel = k + 1 := ⟨fuel - 1, by simp at hfuel; omega⟩
  obtain ⟨n, stop, hscan, hd⟩ := h fuel offset (w ++ ']' :: rest) (by simp at hfuel; omega)
    (endsNumber_cons hw rest (by decide))
  refine ⟨[n], stop + w.length + 1, ?_, .cons hd .nil⟩
  rw [List.append_assoc, List.append_assoc, List.singleton_append, Node.scanItems]
  simp only [hscan, skipSpace_cons hw (show Cursor.isSpace ']' = false by decide)]

theorem scannedItems_more {v : Json} {items : List Json} {cs w w' ds : List Char}
    (h : Scanned v cs) (hw : Space w) (hw' : Space w') (hs : SpellsItems items ds)
    (hrest : ScannedItems items ds) :
    ScannedItems (v :: items) (cs ++ (w ++ ',' :: (w' ++ ds))) := by
  intro fuel offset rest hfuel
  obtain ⟨fuel, rfl⟩ : ∃ k, fuel = k + 1 := ⟨fuel - 1, by simp at hfuel; omega⟩
  obtain ⟨n, stop, hscan, hd⟩ := h fuel offset (w ++ ',' :: (w' ++ (ds ++ rest)))
    (by simp at hfuel; omega) (endsNumber_cons hw _ (by decide))
  obtain ⟨nodes, stop', hmore, hds⟩ := hrest fuel (stop + w.length + 1 + w'.length) rest
    (by simp at hfuel; omega)
  obtain ⟨c, ds, rfl, hc, hne⟩ := hs.head
  refine ⟨n :: nodes, stop', ?_, .cons hd hds⟩
  simp only [List.append_assoc, List.cons_append] at hscan hmore ⊢
  rw [Node.scanItems]
  simp [hscan, skipSpace_cons hw (show Cursor.isSpace ',' = false by decide),
    skipSpace_cons hw' hc, hne, hmore]

theorem Scanned.space {v : Json} {cs w : List Char} (h : Scanned v cs) (hs : Spells v cs)
    (hw : Space w) {fuel : Nat} (hfuel : 3 * cs.length ≤ fuel) (offset : Nat) {rest : List Char}
    (hr : EndsNumber rest) :
    ∃ n stop, Node.scan fuel ⟨offset, w ++ (cs ++ rest)⟩ = ⟨n, some ⟨stop, rest⟩⟩ ∧
      Denotes n v := by
  obtain ⟨n, stop, hscan, hd⟩ := h fuel (offset + w.length) rest hfuel hr
  obtain ⟨c, ds, rfl, hc, _⟩ := hs.head
  obtain ⟨fuel, rfl⟩ : ∃ k, fuel = k + 1 := ⟨fuel - 1, by simp at hfuel; omega⟩
  refine ⟨n, stop, ?_, hd⟩
  rw [List.cons_append] at hscan ⊢
  rw [scan_space hw hc, hscan]

theorem scan_member {k : String} {v : Json} {ks w w' cs : List Char}
    (hk : Json.SpellsChars k.toList ks) (hw : Space w) (hw' : Space w') (hs : Spells v cs)
    (h : Scanned v cs) {fuel : Nat} (hfuel : 3 * cs.length ≤ fuel) (offset : Nat)
    {rest : List Char} (hr : EndsNumber rest) :
    ∃ next colon n stop,
      Json.readString .start offset (ks ++ '"' :: (w ++ ':' :: (w' ++ (cs ++ rest)))) =
        .read (.ok k) next ∧
      next.skipSpace = ⟨colon, ':' :: (w' ++ (cs ++ rest))⟩ ∧
      Node.scan fuel ⟨colon + 1, w' ++ (cs ++ rest)⟩ = ⟨n, some ⟨stop, rest⟩⟩ ∧ Denotes n v := by
  obtain ⟨close, hkey⟩ := Json.readString_text hk offset (w ++ ':' :: (w' ++ (cs ++ rest)))
  obtain ⟨n, stop, hscan, hd⟩ := h.space hs hw' hfuel (close + w.length + 1) hr
  exact ⟨_, close + w.length, n, stop, hkey, skipSpace_cons hw (by decide) _ _, hscan, hd⟩

theorem scannedMembers_last {k : String} {v : Json} {ks w w' cs u : List Char}
    (hk : Json.SpellsChars k.toList ks) (hw : Space w) (hw' : Space w') (hs : Spells v cs)
    (h : Scanned v cs) (hu : Space u) :
    ScannedMembers [(k, v)] (ks ++ '"' :: (w ++ ':' :: (w' ++ (cs ++ (u ++ ['\x7d']))))) := by
  intro fuel offset rest hfuel
  obtain ⟨fuel, rfl⟩ : ∃ k, fuel = k + 1 := ⟨fuel - 1, by simp at hfuel; omega⟩
  have hvalue : 3 * cs.length ≤ fuel := by simp at hfuel; omega
  obtain ⟨next, colon, n, stop, hkey, hcolon, hscan, hd⟩ :=
    scan_member hk hw hw' hs h hvalue offset (endsNumber_cons hu rest (c := '\x7d') (by decide))
  refine ⟨[(⟨.ok k, Node.resumeAt next⟩, n)], stop + u.length + 1, ?_, .cons k _ hd .nil⟩
  simp only [List.append_assoc, List.cons_append, List.nil_append]
  rw [Node.scanMembers]
  simp only [hkey, hcolon, hscan, skipSpace_cons hu (show Cursor.isSpace '\x7d' = false by decide)]

theorem scannedMembers_more {k : String} {v : Json} {members : List (String × Json)}
    {ks w w' cs u u' ds : List Char} (hk : Json.SpellsChars k.toList ks) (hw : Space w)
    (hw' : Space w') (hs : Spells v cs) (h : Scanned v cs) (hu : Space u) (hu' : Space u')
    (hrest : ScannedMembers members ds) :
    ScannedMembers ((k, v) :: members)
      (ks ++ '"' :: (w ++ ':' :: (w' ++ (cs ++ (u ++ ',' :: (u' ++ '"' :: ds)))))) := by
  intro fuel offset rest hfuel
  obtain ⟨fuel, rfl⟩ : ∃ k, fuel = k + 1 := ⟨fuel - 1, by simp at hfuel; omega⟩
  have hvalue : 3 * cs.length ≤ fuel := by simp at hfuel; omega
  obtain ⟨next, colon, n, stop, hkey, hcolon, hscan, hd⟩ :=
    scan_member hk hw hw' hs h hvalue offset
      (endsNumber_cons hu (u' ++ '"' :: (ds ++ rest)) (c := ',') (by decide))
  obtain ⟨nodes, stop', hmore, hds⟩ := hrest fuel (stop + u.length + 1 + u'.length + 1) rest
    (by simp at hfuel; omega)
  refine ⟨(⟨.ok k, Node.resumeAt next⟩, n) :: nodes, stop', ?_, .cons k _ hd hds⟩
  simp only [List.append_assoc, List.cons_append]
  rw [Node.scanMembers]
  simp only [hkey, hcolon, hscan, skipSpace_cons hu (show Cursor.isSpace ',' = false by decide),
    skipSpace_cons hu' (show Cursor.isSpace '"' = false by decide), hmore]

mutual

theorem Spells.scanned {v : Json} {cs : List Char} : Spells v cs → Scanned v cs
  | .null => scanned_null
  | .yes => scanned_yes
  | .no => scanned_no
  | .number h value => scanned_number h value
  | .string h => scanned_string h
  | .emptyArray hw => scanned_emptyArray hw
  | .array hw h => scanned_array hw h h.scanned
  | .emptyObject hw => scanned_emptyObject hw
  | .object hw h => scanned_object hw h.scanned

theorem SpellsItems.scanned {items : List Json} {cs : List Char} :
    SpellsItems items cs → ScannedItems items cs
  | .last h hw => scannedItems_last h.scanned hw
  | .more h hw hw' hs => scannedItems_more h.scanned hw hw' hs hs.scanned

theorem SpellsMembers.scanned {members : List (String × Json)} {cs : List Char} :
    SpellsMembers members cs → ScannedMembers members cs
  | .last hk hw hw' h hu => scannedMembers_last hk hw hw' h h.scanned hu
  | .more hk hw hw' h hu hu' hs => scannedMembers_more hk hw hw' h h.scanned hu hu' hs.scanned

end

inductive Json.Text (v : Json) : List Char → Prop
  | spelled {w cs w' : List Char} (hw : Space w) (h : Spells v cs) (hw' : Space w') :
      Text v (w ++ (cs ++ w'))

theorem Spells.text {v : Json} {cs : List Char} (h : Spells v cs) : v.Text cs := by
  have ht : v.Text ([] ++ (cs ++ [])) := .spelled Space.nil h Space.nil
  rwa [List.nil_append, List.append_nil] at ht

theorem Json.Text.denotes {v : Json} {text : List Char} (h : v.Text text) :
    Denotes (Document.ofText text).root v ∧ (Document.ofText text).checkEnd = .ok () := by
  cases h with
  | @spelled w cs w' hw h hw' =>
      have hfuel : 3 * cs.length ≤ 3 * (w ++ (cs ++ w')).length + 1 := by simp; omega
      have hr : EndsNumber (w' ++ []) := EndsNumber.space hw' nofun
      obtain ⟨n, stop, hscan, hd⟩ := h.scanned.space h hw hfuel 0 hr
      have hend : Cursor.skipSpace ⟨stop, w' ++ []⟩ = ⟨stop + w'.length, []⟩ :=
        skipSpace_append hw' (fun c hc => by cases hc) stop
      rw [List.append_nil] at hscan hend
      refine ⟨?_, ?_⟩
      · simpa only [Document.ofText, Cursor.ofText, hscan] using hd
      · simp only [Document.ofText, Cursor.ofText, hscan, Document.checkEnd, hend]
        rfl

end TabSearch
