import TabSearch.Proofs.Tab.Reader

namespace TabSearch

inductive GivesFlag : List Json → Bool → Prop
  | absent : GivesFlag [] false
  | bool (b : Bool) : GivesFlag [.bool b] b

theorem GivesFlag.length_le {vs : List Json} {b : Bool} (h : GivesFlag vs b) : vs.length ≤ 1 := by
  cases h with
  | absent => exact Nat.zero_le 1
  | bool => exact Nat.le_refl 1

inductive GivesText : List Json → Option String → Prop
  | absent : GivesText [] none
  | null : GivesText [.null] none
  | string (s : String) : GivesText [.string s] (some s)

theorem GivesText.length_le {vs : List Json} {s : Option String} (h : GivesText vs s) :
    vs.length ≤ 1 := by
  cases h with
  | absent => exact Nat.zero_le 1
  | null | string => exact Nat.le_refl 1

namespace Members

variable {vs : List Json}

theorem takes_id {i : Int} : Takes Node.readId vs (some i) ↔ IsId i ∧ vs = [.ofInt i] := by
  constructor
  · rintro (_ | h)
    obtain ⟨hi, rfl⟩ := Node.read_id_iff.mp h
    exact ⟨hi, rfl⟩
  · rintro ⟨hi, rfl⟩
    exact .once (Node.read_id hi)

theorem takes_index {i : Nat} :
    Takes Node.readIndex vs (some i) ↔ i ≤ largestIndex ∧ vs = [.ofNat i] := by
  constructor
  · rintro (_ | h)
    obtain ⟨hi, rfl⟩ := Node.read_index_iff.mp h
    exact ⟨hi, rfl⟩
  · rintro ⟨hi, rfl⟩
    exact .once (Node.read_index hi)

theorem takes_flag {b : Bool} :
    (∃ x, Takes Node.readBool vs x ∧ x.getD false = b) ↔ GivesFlag vs b := by
  constructor
  · rintro ⟨_, _ | h, rfl⟩
    · exact .absent
    · obtain rfl := Node.read_bool_iff.mp h
      exact .bool _
  · rintro (_ | _)
    · exact ⟨none, .absent, rfl⟩
    · exact ⟨some b, .once (Node.read_bool b), rfl⟩

theorem takes_text {s : Option String} :
    (∃ x, Takes (Node.readOptional Node.readText) vs x ∧ x.join = s) ↔ GivesText vs s := by
  constructor
  · rintro ⟨_, _ | h, rfl⟩
    · exact .absent
    · obtain ⟨rfl, rfl⟩ | ⟨text, rfl, rfl⟩ := Node.read_text_iff.mp h
      · exact .null
      · exact .string text
  · rintro (_ | _ | text)
    · exact ⟨none, .absent, rfl⟩
    · exact ⟨some none, .once rfl, rfl⟩
    · exact ⟨some (some text), .once (Node.read_text text), rfl⟩

end Members

namespace Tab

open Members

structure Format (ms : Members) : Prop where
  id : ∃ i, IsId i ∧ values "id" ms = [.ofInt i]
  windowId : ∃ i, IsId i ∧ values "windowId" ms = [.ofInt i]
  index : ∃ i ≤ largestIndex, values "index" ms = [.ofNat i]
  active : ∃ b, GivesFlag (values "active" ms) b
  title : ∃ s, GivesText (values "title" ms) s
  url : ∃ s, GivesText (values "url" ms) s

structure Records (ms : Members) (t : Tab) : Prop where
  id : values "id" ms = [.ofInt t.id]
  windowId : values "windowId" ms = [.ofInt t.windowId]
  index : values "index" ms = [.ofNat t.index]
  active : GivesFlag (values "active" ms) t.active
  title : GivesText (values "title" ms) t.title
  url : GivesText (values "url" ms) t.url
  order : Ordered t.extra
  extra : ∀ k, get? k t.extra =
    if k ∈ fieldNames then none else (values k ms).getLast?.map Json.normal

inductive Formatted : Json → Prop
  | object {ms : Members} (h : Format ms) : Formatted (.object ms)

inductive Recorded : Json → Tab → Prop
  | object {ms : Members} {t : Tab} (h : Records ms t) : Recorded (.object ms) t

section

variable {depth : Nat} {ms ms' : Members} {t : Tab}

theorem Draft.yields_iff {d : Draft} : d.Yields t ↔
    d.id = some t.id ∧ d.windowId = some t.windowId ∧ d.index = some t.index ∧
      d.active.getD false = t.active ∧ d.title.join = t.title ∧ d.url.join = t.url ∧
      d.extra = t.extra :=
  ⟨fun h => ⟨h.id, h.windowId, h.index, h.active, h.title, h.url, h.extra⟩,
    fun ⟨hid, hw, hi, ha, ht, hu, he⟩ => ⟨hid, hw, hi, ha, ht, hu, he⟩⟩

theorem describes_iff_takes (hn : (Json.object ms).Nests depth) : Describes depth ms t ↔
    Takes Node.readId (values "id" ms) (some t.id) ∧
      Takes Node.readId (values "windowId" ms) (some t.windowId) ∧
      Takes Node.readIndex (values "index" ms) (some t.index) ∧
      (∃ x, Takes Node.readBool (values "active" ms) x ∧ x.getD false = t.active) ∧
      (∃ x, Takes (Node.readOptional Node.readText) (values "title" ms) x ∧ x.join = t.title) ∧
      (∃ x, Takes (Node.readOptional Node.readText) (values "url" ms) x ∧ x.join = t.url) ∧
      others fieldNames ms = t.extra := by
  cases hn with
  | object less hms =>
      have hforeign : ∀ m ∈ ms, m.1 ∉ fieldNames → Fits (depth + 1) m.1 m.2 :=
        fun m hm hf => (fits_other hf).mpr (hms m hm)
      have hdescribes : Describes depth ms t ↔
          Valid fieldNames (Fits (depth + 1)) ms ∧ (Draft.ofMembers ms).Yields t :=
        ⟨fun h => ⟨h.valid, h.yields⟩, fun h => ⟨less, h.1, h.2⟩⟩
      rw [hdescribes, valid_iff_values, and_iff_left hforeign, Draft.yields_iff]
      -- what is valid and what is in the slot, key by key, is what the reader takes
      simp only [fieldNames, List.forall_mem_cons, takes_iff_slot, Fits, Draft.ofMembers]
      constructor
      · rintro ⟨⟨hid, hwindow, hindex, hactive, htitle, hurl, -⟩, id, window, index, active, title,
          url, extra⟩
        exact ⟨⟨hid, id⟩, ⟨hwindow, window⟩, ⟨hindex, index⟩, ⟨_, ⟨hactive, rfl⟩, active⟩,
          ⟨_, ⟨htitle, rfl⟩, title⟩, ⟨_, ⟨hurl, rfl⟩, url⟩, extra⟩
      · rintro ⟨⟨hid, id⟩, ⟨hwindow, window⟩, ⟨hindex, index⟩, ⟨_, ⟨hactive, rfl⟩, active⟩,
          ⟨_, ⟨htitle, rfl⟩, title⟩, ⟨_, ⟨hurl, rfl⟩, url⟩, extra⟩
        exact ⟨⟨hid, hwindow, hindex, hactive, htitle, hurl, List.forall_mem_nil _⟩, id, window,
          index, active, title, url, extra⟩

theorem describes_iff (hn : (Json.object ms).Nests depth) :
    Describes depth ms t ↔ Format ms ∧ Records ms t := by
  rw [describes_iff_takes hn, takes_id, takes_id, takes_index, takes_flag, takes_text, takes_text,
    others_eq_iff]
  constructor
  · rintro ⟨⟨hid, id⟩, ⟨hwindow, window⟩, ⟨hindex, index⟩, active, title, url, order, extra⟩
    exact ⟨⟨⟨_, hid, id⟩, ⟨_, hwindow, window⟩, ⟨_, hindex, index⟩, ⟨_, active⟩, ⟨_, title⟩,
      ⟨_, url⟩⟩, id, window, index, active, title, url, order, extra⟩
  · rintro ⟨⟨⟨i, hid, id⟩, ⟨w, hwindow, window⟩, ⟨x, hindex, index⟩, _, _, _⟩, records⟩
    -- the members fix the integers, so their ranges are those of the record
    obtain rfl : i = t.id := by simpa [records.id, Json.ofInt] using id.symm
    obtain rfl : w = t.windowId := by simpa [records.windowId, Json.ofInt] using window.symm
    obtain rfl : x = t.index := Int.ofNat_inj.mp (by
      simpa [records.index, Json.ofNat] using index.symm)
    exact ⟨⟨hid, id⟩, ⟨hwindow, window⟩, ⟨hindex, index⟩, records.active, records.title,
      records.url, records.order, records.extra⟩

theorem Format.records (h : Format ms) : ∃ t, Records ms t := by
  obtain ⟨⟨i, -, id⟩, ⟨w, -, window⟩, ⟨x, -, index⟩, ⟨b, active⟩, ⟨s, title⟩, ⟨u, url⟩⟩ := h
  have hothers := others_eq_iff.mp (rfl : others fieldNames ms = others fieldNames ms)
  exact ⟨⟨i, w, x, b, s, u, others fieldNames ms⟩, id, window, index, active, title, url,
    hothers.1, hothers.2⟩

theorem Format.congr (h : Format ms) (same : ∀ k ∈ fieldNames, values k ms = values k ms') :
    Format ms' := by
  simp only [fieldNames, List.forall_mem_cons] at same
  obtain ⟨id, window, index, active, title, url, -⟩ := same
  exact ⟨id ▸ h.id, window ▸ h.windowId, index ▸ h.index, active ▸ h.active, title ▸ h.title,
    url ▸ h.url⟩

theorem Format.once (h : Format ms) : ∀ k ∈ fieldNames, (values k ms).length ≤ 1 := by
  obtain ⟨⟨i, -, id⟩, ⟨w, -, window⟩, ⟨x, -, index⟩, ⟨b, active⟩, ⟨s, title⟩, ⟨u, url⟩⟩ := h
  simp only [fieldNames, List.forall_mem_cons]
  exact ⟨by simp [id], by simp [window], by simp [index], active.length_le,
    title.length_le, url.length_le, List.forall_mem_nil _⟩

theorem Format.perm (h : Format ms) (hp : ms.Perm ms') : Format ms' :=
  h.congr fun k hk => values_eq_of_perm hp (h.once k hk)

theorem Records.congr (h : Records ms t) (same : ∀ k, values k ms = values k ms') :
    Records ms' t := by
  refine ⟨same _ ▸ h.id, same _ ▸ h.windowId, same _ ▸ h.index, same _ ▸ h.active, same _ ▸ h.title,
    same _ ▸ h.url, h.order, fun k => ?_⟩
  rw [h.extra, same]

theorem read_iff {v : Json} (hn : v.Nests depth) :
    v.read (ofNode depth) = some t ↔ Formatted v ∧ Recorded v t := by
  rw [read_ofNode]
  constructor
  · rintro ⟨ms, rfl, h⟩
    obtain ⟨format, records⟩ := (describes_iff hn).mp h
    exact ⟨.object format, .object records⟩
  · rintro ⟨⟨format⟩, ⟨records⟩⟩
    exact ⟨_, rfl, (describes_iff hn).mpr ⟨format, records⟩⟩

theorem Format.number_text (h : Format ms) {k : String} (hk : k ∈ ["id", "windowId", "index"])
    {n : Number} (hm : (k, .number n) ∈ ms) {cs : List Char} (hs : Spells (.number n) cs) :
    ∃ i : Int, cs = (toString i).toList := by
  have hvalue : ∃ i : Int, values k ms = [.ofInt i] := by
    simp only [List.mem_cons, List.not_mem_nil, or_false] at hk
    rcases hk with rfl | rfl | rfl
    · exact h.id.imp fun _ => And.right
    · exact h.windowId.imp fun _ => And.right
    · obtain ⟨x, -, index⟩ := h.index
      exact ⟨x, index⟩
  obtain ⟨i, hi⟩ := hvalue
  have hn : Json.number n = .ofInt i := by simpa [hi] using mem_values.mpr hm
  exact ⟨i, (spells_ofInt.mp (hn ▸ hs)).2⟩

end

end Tab

end TabSearch
