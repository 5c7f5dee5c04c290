import TabSearch.Report
import TabSearch.Proofs.Search.Highlight
import TabSearch.Proofs.Snapshot

namespace TabSearch

theorem mapM_map_eq_some {α β : Type} {encode : α → β} {decode : β → Option α} {l : List α}
    (h : ∀ a ∈ l, decode (encode a) = some a) : (l.map encode).mapM decode = some l := by
  induction l with
  | nil => rfl
  | cons a l ih =>
      obtain ⟨ha, hl⟩ := List.forall_mem_cons.mp h
      simp [List.mapM_cons, ha, ih hl]

namespace Span

def Countable (s : Span) : Prop := s.start ≤ largestIndex ∧ s.stop ≤ largestIndex

theorem read_toJson {s : Span} (h : s.Countable) : s.toJson.read ofNode = some s := by
  refine toOption_eq_some.mpr ?_
  have hstart := toOption_eq_some.mp (Node.read_index h.1)
  have hstop := toOption_eq_some.mp (Node.read_index h.2)
  simp only [toJson, Node.ofJson, Node.ofItems, ofNode, hstart, hstop]
  rfl

def listOfJson? : Json → Option (List Span)
  | .array items => items.mapM (Json.read ofNode)
  | _ => none

theorem listOfJson?_listToJson {spans : List Span} (h : ∀ s ∈ spans, s.Countable) :
    listOfJson? (listToJson spans) = some spans :=
  mapM_map_eq_some fun s hs => read_toJson (h s hs)

theorem listToJson_ordered (spans : List Span) : (listToJson spans).Ordered := by
  refine .array fun v hv => ?_
  obtain ⟨s, _, rfl⟩ := List.mem_map.mp hv
  exact .array (by simp [Json.ofNat, Json.Ordered.number])

theorem listToJson_nests (spans : List Span) {depth : Nat} (less : depth + 1 < Node.maxDepth) :
    (listToJson spans).Nests depth := by
  refine .array (by omega) fun v hv => ?_
  obtain ⟨s, _, rfl⟩ := List.mem_map.mp hv
  exact .array less (by simp [Json.ofNat, Json.Nests.number])

theorem listToJson_whole {spans : List Span} (h : ∀ s ∈ spans, s.Countable) :
    (listToJson spans).Numbers Number.Whole := by
  refine .array fun v hv => ?_
  obtain ⟨s, hs, rfl⟩ := List.mem_map.mp hv
  obtain ⟨hstart, hstop⟩ := h s hs
  exact .array (List.forall_mem_cons.mpr ⟨forFields_whole.index _ hstart,
    List.forall_mem_singleton.mpr (forFields_whole.index _ hstop)⟩)

end Span

namespace Highlight

def ofJson? : Json → Option Highlight
  | .object ms => do
      let title ← (Members.get? "title" ms).mapM Span.listOfJson?
      let url ← (Members.get? "url" ms).mapM Span.listOfJson?
      some ⟨title, url⟩
  | _ => none

def Countable (h : Highlight) : Prop :=
  ∀ f spans, h.spans? f = some spans → ∀ s ∈ spans, s.Countable

theorem ofJson?_toJson {h : Highlight} (hc : h.Countable) : ofJson? h.toJson = some h := by
  have hfield {f : Field} {x : Option (List Span)} (hx : h.spans? f = x) :
      (x.map Span.listToJson).mapM Span.listOfJson? = some x := by
    cases x with
    | none => rfl
    | some spans => simp [Span.listOfJson?_listToJson (hc f spans hx)]
  have htitle := hfield (f := .title) rfl
  have hurl := hfield (f := .url) rfl
  simp only [spans?] at htitle hurl
  simp [toJson, ofJson?, Members.get?_append, htitle, hurl]

def fields (h : Highlight) : Members :=
  optionalMember "title" Span.listToJson h.title ++ optionalMember "url" Span.listToJson h.url

theorem toJson_eq (h : Highlight) : h.toJson = .object h.fields := rfl

theorem forall_members {Q : Json → Prop} {h : Highlight}
    (hQ : ∀ f spans, h.spans? f = some spans → Q (Span.listToJson spans)) :
    ∀ m ∈ h.fields, Q m.2 := by
  have hfield (f : Field) (name : String) :
      ∀ m ∈ optionalMember name Span.listToJson (h.spans? f), Q m.2 := by
    cases hx : h.spans? f with
    | none => nofun
    | some spans => exact List.forall_mem_singleton.mpr (hQ f spans hx)
  exact List.forall_mem_append.mpr ⟨hfield .title "title", hfield .url "url"⟩

theorem toJson_ordered (h : Highlight) : h.toJson.Ordered := by
  have hkeys : (h.fields.map Prod.fst).Sublist ["title", "url"] := by
    rw [fields, List.map_append]
    exact Members.optionalMember_sublist.append Members.optionalMember_sublist
  have hsorted : ["title", "url"].Pairwise (· < ·) := by decide
  rw [toJson_eq]
  exact .object (List.pairwise_map.mp (hsorted.sublist hkeys))
    (forall_members fun _ spans _ => Span.listToJson_ordered spans)

theorem toJson_nests (h : Highlight) {depth : Nat} (less : depth + 2 < Node.maxDepth) :
    h.toJson.Nests depth := by
  rw [toJson_eq]
  exact .object (by omega) (forall_members fun _ spans _ => Span.listToJson_nests spans less)

theorem toJson_whole {h : Highlight} (hc : h.Countable) : h.toJson.Numbers Number.Whole := by
  rw [toJson_eq]
  exact .object (forall_members fun f spans hs => Span.listToJson_whole (hc f spans hs))

end Highlight

namespace Tab

theorem Kept.less_deep {P : Number → Prop} {depth less : Nat} {t : Tab} (h : t.Kept P depth)
    (hle : less ≤ depth) : t.Kept P less where
  id := h.id
  windowId := h.windowId
  index := h.index
  less := Nat.lt_of_le_of_lt hle h.less
  extra :=
    { ordered := h.extra.ordered
      foreign := h.extra.foreign
      kept := fun m hm => { h.extra.kept m hm with
        nests := (h.extra.kept m hm).nests.mono (Nat.succ_le_succ hle) } }

theorem Kept.reorders_normal {P : Number → Prop} {depth : Nat} {t : Tab} (h : t.Kept P depth) :
    t.toJson.Reorders t.toJson.normal := by
  have hatoms : ∀ m ∈ t.fields ++ t.extra, m.2.normal = m.2 :=
    forall_members (Q := fun v => v.normal = v)
      ⟨fun _ _ => rfl, fun _ _ => rfl, fun _ => rfl, fun _ => rfl⟩ h
      fun m hm => (h.extra.kept m hm).ordered.normal_eq
  -- Every member is in order within, so only their own order can change.
  rw [toJson_eq, Json.normal, Json.normalMembers_eq hatoms]
  exact .object (Members.ofList_perm_self h.nodup).symm

theorem parse_reordered {t : Tab} (h : t.Kept Number.Whole 0) {v : Json}
    (hv : t.toJson.Reorders v) : parse v.compact = .ok t :=
  ((byValue_ofNode 0).readText_eq_ok (hv.numbers (whole_toJson h)).text).mpr (h.read_reordered hv)

end Tab

namespace FoundTab

def ofJson? : Json → Option FoundTab
  | .object ms => do
      let t ← Members.get? "tab" ms
      let tab ← (Tab.parse t.compact).toOption
      let h ← Members.get? "highlight" ms
      let highlight ← Highlight.ofJson? h
      some ⟨tab, highlight⟩
  | _ => none

structure Printable (f : FoundTab) : Prop where
  tab : f.tab.Kept Number.Whole 1
  highlight : f.highlight.Countable

variable {f : FoundTab}

theorem ofJson?_eq_some (h : f.Printable) {ms : Members} {t : Json}
    (ht : Members.get? "tab" ms = some t) (hv : f.tab.toJson.Reorders t)
    (hh : Members.get? "highlight" ms = some f.highlight.toJson) :
    ofJson? (.object ms) = some f := by
  have htab : Tab.parse t.compact = .ok f.tab :=
    Tab.parse_reordered (h.tab.less_deep (Nat.zero_le 1)) hv
  simp [ofJson?, ht, hh, htab, Except.toOption, Highlight.ofJson?_toJson h.highlight]

theorem ofJson?_toJson (h : f.Printable) : ofJson? f.toJson = some f :=
  ofJson?_eq_some h (t := f.tab.toJson) (by simp [Members.get?]) (.refl _) (by simp [Members.get?])

theorem toJson_normal (f : FoundTab) :
    f.toJson.normal =
      .object [("highlight", f.highlight.toJson), ("tab", f.tab.toJson.normal)] := by
  have hlt : "highlight" < "tab" := by decide
  rw [toJson, Json.normal, Json.normalMembers, Json.normalMembers, Json.normalMembers,
    f.highlight.toJson_ordered.normal_eq]
  simp [Members.ofList, Members.insert, hlt]

theorem ofJson?_normal (h : f.Printable) : ofJson? f.toJson.normal = some f := by
  rw [toJson_normal]
  exact ofJson?_eq_some h (by simp [Members.get?]) h.tab.reorders_normal (by simp [Members.get?])

theorem toJson_whole (h : f.Printable) : f.toJson.Numbers Number.Whole :=
  .object (List.forall_mem_cons.mpr ⟨Tab.whole_toJson h.tab,
    List.forall_mem_singleton.mpr (Highlight.toJson_whole h.highlight)⟩)

theorem toJson_nests {depth : Nat} (less : depth + 3 < Node.maxDepth) :
    f.toJson.Nests depth ↔ f.tab.toJson.Nests (depth + 1) := by
  constructor
  · rintro (_ | _ | _ | _ | _ | ⟨_, hms⟩)
    exact hms _ List.mem_cons_self
  · intro h
    exact .object (by omega) (List.forall_mem_cons.mpr ⟨h,
      List.forall_mem_singleton.mpr (f.highlight.toJson_nests less)⟩)

end FoundTab

namespace Outcome

def ofJson? : Json → Option Outcome
  | .object ms =>
      match Members.get? "tabs" ms, Members.get? "emptySearch" ms with
      | some (.array items), some (.bool emptySearch) => do
          let tabs ← items.mapM FoundTab.ofJson?
          some ⟨tabs, emptySearch⟩
      | _, _ => none
  | _ => none

def Printable (o : Outcome) : Prop := ∀ f ∈ o.tabs, f.Printable

variable {o : Outcome}

theorem ofJson?_toJson (h : o.Printable) : ofJson? o.toJson = some o := by
  have htabs := mapM_map_eq_some fun f hf => FoundTab.ofJson?_toJson (h f hf)
  simp [toJson, ofJson?, Members.get?, htabs]

theorem toJson_normal (o : Outcome) :
    o.toJson.normal = .object [("emptySearch", .bool o.emptySearch),
      ("tabs", .array (o.tabs.map fun f => f.toJson.normal))] := by
  have hlt : "emptySearch" < "tabs" := by decide
  rw [toJson, Json.normal, Json.normalMembers, Json.normalMembers, Json.normalMembers, Json.normal,
    Json.normal, Json.normalItems_eq_map, List.map_map]
  simp [Members.ofList, Members.insert, hlt, Function.comp_def]

theorem ofJson?_normal (h : o.Printable) : ofJson? o.toJson.normal = some o := by
  have htabs := mapM_map_eq_some fun f hf => FoundTab.ofJson?_normal (h f hf)
  rw [toJson_normal]
  simp [ofJson?, Members.get?, htabs]

theorem toJson_whole (h : o.Printable) : o.toJson.Numbers Number.Whole := by
  have htabs : ∀ v ∈ o.tabs.map FoundTab.toJson, v.Numbers Number.Whole := by
    intro v hv
    obtain ⟨f, hf, rfl⟩ := List.mem_map.mp hv
    exact FoundTab.toJson_whole (h f hf)
  exact .object (List.forall_mem_cons.mpr ⟨.array htabs, List.forall_mem_singleton.mpr (.bool _)⟩)

theorem toJson_nests : o.toJson.Nests 0 ↔ ∀ f ∈ o.tabs, f.tab.toJson.Nests 3 := by
  have hfound (f : FoundTab) : f.toJson.Nests 2 ↔ f.tab.toJson.Nests 3 :=
    FoundTab.toJson_nests (by decide)
  constructor
  · rintro (_ | _ | _ | _ | _ | ⟨_, hms⟩) f hf
    rcases hms _ List.mem_cons_self with _ | _ | _ | _ | ⟨_, hitems⟩
    exact (hfound f).mp (hitems _ (List.mem_map_of_mem hf))
  · intro h
    refine .object (by decide) (List.forall_mem_cons.mpr ⟨.array (by decide) fun v hv => ?_,
      List.forall_mem_singleton.mpr (.bool 1 _)⟩)
    obtain ⟨f, hf, rfl⟩ := List.mem_map.mp hv
    exact (hfound f).mpr (h f hf)

end Outcome

/-- The positions in the texts of a tab can be counted by indices. -/
def Tab.Addressable (t : Tab) : Prop :=
  ∀ f text, t.text? f = some text → text.toList.length ≤ largestIndex

theorem mem_of_search {tabs : List Tab} {input : List Char} {found : FoundTab}
    (h : found ∈ (search tabs input).tabs) : found.tab ∈ tabs := by
  by_cases hneedle : (Query.parse input).needle = []
  · rw [search_of_empty hneedle] at h
    obtain ⟨t, ht, rfl⟩ := List.mem_map.mp h
    exact ht
  · rw [search_of_needle hneedle] at h
    obtain ⟨t, ht, rfl⟩ := List.mem_map.mp h
    exact (List.mem_filter.mp ht).1

theorem printable_search {tabs : List Tab} (kept : ∀ t ∈ tabs, t.Kept Number.Whole 1)
    (addressable : ∀ t ∈ tabs, t.Addressable) (input : List Char) :
    (search tabs input).Printable := by
  intro found hfound
  have hmem := mem_of_search hfound
  refine ⟨kept _ hmem, fun f spans hspans s hs => ?_⟩
  obtain ⟨text, htext, hplaced⟩ := (finds_of_search hfound hspans).placed
  have hlength := addressable _ hmem f text htext
  obtain ⟨hstart, hstop⟩ := hplaced.within s hs
  exact ⟨by omega, by omega⟩

namespace Report

theorem text_json {o : Outcome} (h : o.Printable) : o.toJson.Text (json o).toList := by
  rw [json, Json.pretty, String.toList_ofList]
  exact ((Outcome.toJson_whole h).spells_pretty 0).text

theorem parse_json {o : Outcome} (h : o.Printable) {v : Json} :
    Json.parse (json o) = .ok v ↔
      (∀ f ∈ o.tabs, f.tab.toJson.Nests 3) ∧ v = o.toJson.normal := by
  obtain ⟨hd, hend⟩ := (text_json h).denotes
  rw [Json.parse, readText_eq_ok, Node.value?_eq_ok hd, and_iff_left hend, Outcome.toJson_nests]

theorem json_injective {o o' : Outcome} (h : o.Printable) (h' : o'.Printable)
    (heq : json o = json o') : o = o' := by
  have hd := (text_json h).denotes.1
  rw [heq] at hd
  have hvalue := hd.unique (text_json h').denotes.1
  have hread := Outcome.ofJson?_toJson h
  rw [hvalue, Outcome.ofJson?_toJson h'] at hread
  exact (Option.some.inj hread).symm

end Report

structure Outcome.ReadFrom (o : Outcome) (v : Json) : Prop where
  members : ∃ ms, v = .object ms ∧ (ms.map Prod.fst).Perm ["tabs", "emptySearch"]
  outcome : Outcome.ofJson? v = some o

namespace Report

theorem readFrom_of_text {o : Outcome} (h : o.Printable) {v : Json}
    (ht : v.Text (json o).toList) : o.ReadFrom v := by
  rw [ht.denotes.1.unique (text_json h).denotes.1]
  exact ⟨⟨_, rfl, .refl _⟩, Outcome.ofJson?_toJson h⟩

theorem readFrom_of_parse {o : Outcome} (h : o.Printable) {v : Json}
    (hv : Json.parse (json o) = .ok v) : o.ReadFrom v := by
  rw [((parse_json h).mp hv).2]
  exact ⟨⟨_, o.toJson_normal, .swap "tabs" "emptySearch" []⟩, Outcome.ofJson?_normal h⟩

theorem json_faithful {text : String} {tabs : List Tab} (accepted : Snapshot.parse text = .ok tabs)
    (integral : (Document.ofText text.toList).root.Numbers Number.Integral)
    (addressable : ∀ t ∈ tabs, t.Addressable) (input : List Char) :
    (∃ v : Json, v.Text (json (search tabs input)).toList) ∧
      (∀ v, v.Text (json (search tabs input)).toList → (search tabs input).ReadFrom v) ∧
      ((∃ v, Json.parse (json (search tabs input)) = .ok v) ↔
        ∀ f ∈ (search tabs input).tabs, f.tab.toJson.Nests 3) ∧
      (∀ v, Json.parse (json (search tabs input)) = .ok v → (search tabs input).ReadFrom v) ∧
      ∀ text' tabs' input', Snapshot.parse text' = .ok tabs' →
        (Document.ofText text'.toList).root.Numbers Number.Integral →
        (∀ t ∈ tabs', t.Addressable) →
        json (search tabs' input') = json (search tabs input) →
        search tabs' input' = search tabs input := by
  have hprintable {text : String} {tabs : List Tab} (accepted : Snapshot.parse text = .ok tabs)
      (integral : (Document.ofText text.toList).root.Numbers Number.Integral)
      (addressable : ∀ t ∈ tabs, t.Addressable) (input : List Char) :
      (search tabs input).Printable := by
    refine printable_search (fun t ht => ?_) addressable input
    have hfits := Snapshot.kept_of_parse (ofText_numbers text.toList) accepted t ht
    exact hfits.whole (Snapshot.kept_of_parse integral accepted t ht).integral
  have h := hprintable accepted integral addressable input
  refine ⟨⟨_, text_json h⟩, fun v => readFrom_of_text h, ?_, fun v => readFrom_of_parse h, ?_⟩
  · simp only [parse_json h, exists_and_left, exists_eq, and_true]
  · intro text' tabs' input' accepted' integral' addressable' heq
    exact json_injective (hprintable accepted' integral' addressable' input') h heq

theorem json_faithful_umlauts :
    Snapshot.parse (Tab.listToJson [umlauts]).compact = .ok [umlauts] ∧
      (Document.ofText (Tab.listToJson [umlauts]).compact.toList).root.Numbers Number.Integral ∧
      (∀ t ∈ [umlauts], t.Addressable) ∧
      ∃ v, Json.parse (json (search [umlauts] ['g', 'ö', 'e'])) = .ok v ∧
        Outcome.ofJson? v = some ⟨[⟨umlauts, ⟨some [⟨0, 1⟩, ⟨2, 3⟩, ⟨4, 5⟩], none⟩⟩], false⟩ := by
  have humlauts {depth : Nat} (less : depth < Node.maxDepth) : umlauts.Kept Number.Whole depth :=
    ⟨⟨by decide, by decide⟩, ⟨by decide, by decide⟩, by decide, less, .nil _ _ _⟩
  have hkept : ∀ t ∈ [umlauts], t.Kept Number.Whole 1 :=
    List.forall_mem_singleton.mpr (humlauts (by decide))
  have haccepted := Snapshot.parse_compact hkept
  have hwhole := Tab.whole_listToJson hkept
  have hintegral := hwhole.text.numbers (hwhole.mono fun _ hn => hn.integral)
  have haddressable : ∀ t ∈ [umlauts], t.Addressable := by
    refine List.forall_mem_singleton.mpr fun f text htext => ?_
    cases f <;> cases htext <;> decide
  have hsearch : search [umlauts] ['g', 'ö', 'e'] =
      ⟨[⟨umlauts, ⟨some [⟨0, 1⟩, ⟨2, 3⟩, ⟨4, 5⟩], none⟩⟩], false⟩ := rfl
  obtain ⟨_, _, hparses, hread, _⟩ :=
    json_faithful haccepted hintegral haddressable ['g', 'ö', 'e']
  refine ⟨haccepted, hintegral, haddressable, ?_⟩
  obtain ⟨v, hv⟩ := hparses.mpr
    (List.forall_mem_singleton.mpr (Tab.nests_toJson (humlauts (by decide))))
  exact ⟨v, hv, hsearch ▸ (hread v hv).outcome⟩

def tower : Nat → Json
  | 0 => .array []
  | n + 1 => .array [tower n]

theorem tower_nests {n depth : Nat} : (tower n).Nests depth ↔ depth + n < Node.maxDepth := by
  induction n generalizing depth with
  | zero =>
      constructor
      · rintro (_ | _ | _ | _ | ⟨less, _⟩)
        exact less
      · intro less
        exact .array less (List.forall_mem_nil _)
  | succ n ih =>
      constructor
      · rintro (_ | _ | _ | _ | ⟨_, h⟩)
        have := ih.mp (h _ List.mem_cons_self)
        omega
      · intro less
        exact .array (by omega) (List.forall_mem_singleton.mpr (ih.mpr (by omega)))

theorem tower_ordered (n : Nat) : (tower n).Ordered := by
  induction n with
  | zero => exact .array (List.forall_mem_nil _)
  | succ n ih => exact .array (List.forall_mem_singleton.mpr ih)

theorem tower_numbers (P : Number → Prop) (n : Nat) : (tower n).Numbers P := by
  induction n with
  | zero => exact .array (List.forall_mem_nil _)
  | succ n ih => exact .array (List.forall_mem_singleton.mpr ih)

def deep : Tab := { id := 1, windowId := 1, index := 0, extra := [("x", tower 124)] }

/-- The lists in a tab may be as deep as a snapshot allows, and then too deep for a report. -/
theorem json_too_deep :
    Snapshot.parse (Tab.listToJson [deep]).compact = .ok [deep] ∧
      (Document.ofText (Tab.listToJson [deep]).compact.toList).root.Numbers Number.Integral ∧
      (∀ t ∈ [deep], t.Addressable) ∧ ∀ v, Json.parse (json (search [deep] [])) ≠ .ok v := by
  have hextra : Members.Extra Number.Whole Tab.fieldNames 2 [("x", tower 124)] :=
    (Members.Extra.nil _ _ 2).insert (by decide)
      ⟨tower_nests.mpr (by decide), tower_ordered 124, tower_numbers _ 124⟩
  have hkept : ∀ t ∈ [deep], t.Kept Number.Whole 1 := List.forall_mem_singleton.mpr
    ⟨⟨by decide, by decide⟩, ⟨by decide, by decide⟩, by decide, by decide, hextra⟩
  have hwhole := Tab.whole_listToJson hkept
  have haddressable : ∀ t ∈ [deep], t.Addressable := by
    refine List.forall_mem_singleton.mpr fun f text htext => ?_
    cases f <;> cases htext
  refine ⟨Snapshot.parse_compact hkept, hwhole.text.numbers (hwhole.mono fun _ hn => hn.integral),
    haddressable, fun v hv => ?_⟩
  have hnests := ((parse_json (printable_search hkept haddressable [])).mp hv).1
  have hfound : ⟨deep, .empty⟩ ∈ (search [deep] []).tabs := List.mem_singleton_self _
  rcases hnests _ hfound with _ | _ | _ | _ | _ | ⟨_, hms⟩
  have hx := hms ("x", tower 124) (by simp [deep])
  exact absurd (tower_nests.mp hx) (by decide)

end Report

end TabSearch
