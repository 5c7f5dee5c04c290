import TabSearch.Snapshot
import TabSearch.Proofs.Search.Filter
import TabSearch.Proofs.Tab.Reader

namespace TabSearch

namespace Tab

theorem listOfNodes_eq_ok {depth : Nat} {nodes : List Node} {items : List Json}
    (hn : DenotesItems nodes items) {ts : List Tab} :
    listOfNodes depth nodes = .ok ts ↔ items.map (Json.read (ofNode depth)) = ts.map some := by
  induction items generalizing nodes ts with
  | nil =>
      cases hn
      cases ts <;> simp [listOfNodes]
  | cons v items ih =>
      cases hn with
      | cons h hs =>
          simp only [listOfNodes, bind_eq_ok, (byValue_ofNode depth).eq_ok h, ih hs,
            Except.ok.injEq]
          constructor
          · rintro ⟨t, ht, ts, hts, rfl⟩
            rw [List.map_cons, List.map_cons, ht, hts]
          · intro h
            cases ts with
            | nil => cases h
            | cons t ts =>
                obtain ⟨ht, hts⟩ := List.cons.inj h
                exact ⟨t, ht, ts, hts, rfl⟩

theorem listOfNode_eq_ok {n : Node} {v : Json} (hn : Denotes n v) {ts : List Tab} :
    listOfNode n = .ok ts ↔
      ∃ items, v = .array items ∧ items.map (Json.read (ofNode 1)) = ts.map some := by
  cases hn with
  | array start stop hs =>
      rw [listOfNode]
      simp only [bind_eq_ok, listOfNodes_eq_ok hs, Except.ok.injEq]
      constructor
      · rintro ⟨_, hts, _, _, rfl⟩
        exact ⟨_, rfl, hts⟩
      · rintro ⟨_, ⟨⟩, hts⟩
        exact ⟨ts, hts, stop, rfl, rfl⟩
  | _ => simp [listOfNode]

theorem byValue_listOfNode : Node.ByValue listOfNode :=
  Node.byValue_of_iff fun _ _ hn _ => listOfNode_eq_ok hn

theorem kept_of_listOfNodes {P : Number → Prop} {depth : Nat} {nodes : List Node} {ts : List Tab}
    (hn : ∀ n ∈ nodes, n.Numbers P) (h : listOfNodes depth nodes = .ok ts) :
    ∀ t ∈ ts, t.Kept P depth := by
  induction nodes generalizing ts with
  | nil =>
      cases h
      nofun
  | cons n nodes ih =>
      obtain ⟨hfirst, hrest⟩ := List.forall_mem_cons.mp hn
      rw [listOfNodes] at h
      obtain ⟨t, ht, h⟩ := bind_eq_ok.mp h
      obtain ⟨ts, hts, h⟩ := bind_eq_ok.mp h
      cases h
      exact List.forall_mem_cons.mpr ⟨kept_of_ofNode hfirst ht, ih hrest hts⟩

theorem kept_of_listOfNode {P : Number → Prop} {n : Node} {ts : List Tab} (hn : n.Numbers P)
    (h : listOfNode n = .ok ts) : ∀ t ∈ ts, t.Kept P 1 := by
  rw [listOfNode.eq_def] at h
  split at h
  · obtain ⟨ts, hts, h⟩ := bind_eq_ok.mp h
    obtain ⟨_, _, h⟩ := bind_eq_ok.mp h
    cases h
    cases hn with
    | array _ _ hn => exact kept_of_listOfNodes hn hts
  · cases h

theorem whole_listToJson {ts : List Tab} (h : ∀ t ∈ ts, t.Kept Number.Whole 1) :
    (listToJson ts).Numbers Number.Whole := by
  refine .array fun v hv => ?_
  obtain ⟨t, ht, rfl⟩ := List.mem_map.mp hv
  exact whole_toJson (h t ht)

theorem read_listToJson {P : Number → Prop} {ts : List Tab} (h : ∀ t ∈ ts, t.Kept P 1) :
    (listToJson ts).read listOfNode = some ts := by
  refine toOption_eq_some.mpr ((listOfNode_eq_ok (Node.denotes_ofJson _)).mpr ⟨_, rfl, ?_⟩)
  rw [List.map_map]
  exact List.map_congr_left fun t ht => (h t ht).read_reordered (.refl _)

end Tab

namespace Field

open TabSearch.Tab

def name : Field → String
  | .title => "title"
  | .url => "url"

def clear : Field → Tab → Tab
  | .title, t => { t with title := none }
  | .url, t => { t with url := none }

def put : Field → Option (Option String) → Draft → Draft
  | .title, x, d => { d with title := x }
  | .url, x, d => { d with url := x }

def given (f : Field) : Option (Option String) → Members
  | none => []
  | some none => [(f.name, .null)]
  | some (some s) => [(f.name, .string s)]

theorem fits (f : Field) (depth : Nat) (v : Json) :
    Fits depth f.name v ↔ (v.read (Node.readOptional Node.readText)).isSome := by
  cases f <;> rfl

theorem clear_eq {f : Field} {t : Tab} (h : t.text? f = none) : f.clear t = t := by
  cases f <;> rw [text?] at h <;> rw [clear, ← h]

theorem put_yields {f : Field} {d : Draft} (hd : f.put none d = d) (x : Option String)
    (t : Tab) : (f.put (some x) d).Yields t ↔ d.Yields (f.clear t) ∧ t.text? f = x := by
  rw [← hd]
  cases f with
  | title =>
      constructor
      · intro h
        exact ⟨{ h with title := rfl }, h.title.symm⟩
      · rintro ⟨h, hx⟩
        exact { h with title := hx.symm }
  | url =>
      constructor
      · intro h
        exact ⟨{ h with url := rfl }, h.url.symm⟩
      · rintro ⟨h, hx⟩
        exact { h with url := hx.symm }

section

variable {f : Field} {ms ms' : Members}

theorem put_none (missing : Members.get? f.name ms = none) :
    f.put none (Draft.ofMembers ms) = Draft.ofMembers ms := by
  cases f <;> rw [name] at missing <;> simp [put, Draft.ofMembers, Members.slot, missing]

theorem ofMembers_insert {v : Json} {x : Option String}
    (hv : v.read (Node.readOptional Node.readText) = some x)
    (missing : Members.get? f.name (ms ++ ms') = none) :
    Draft.ofMembers (ms ++ (f.name, v) :: ms') =
      f.put (some x) (Draft.ofMembers (ms ++ ms')) := by
  cases f <;> rw [name] at missing <;> simp [name, put, Draft.ofMembers, fieldNames, missing, hv]

end

end Field

namespace Tab

section

variable {depth : Nat} {f : Field} {ms ms' : Members} {t : Tab}

theorem Describes.text?_eq_none (h : Describes depth ms t)
    (missing : Members.get? f.name ms = none) : t.text? f = none := by
  have hyields := h.yields
  rw [← Field.put_none missing] at hyields
  cases f with
  | title => exact hyields.title.symm
  | url => exact hyields.url.symm

theorem describes_insert {v : Json} {x : Option String}
    (hv : v.read (Node.readOptional Node.readText) = some x)
    (missing : Members.get? f.name (ms ++ ms') = none) :
    Describes depth (ms ++ (f.name, v) :: ms') t ↔
      Describes depth (ms ++ ms') (f.clear t) ∧ t.text? f = x := by
  have hfits := (f.fits (depth + 1) v).mpr (Option.isSome_of_eq_some hv)
  have hyields := Field.put_yields (Field.put_none missing) x t
  rw [← Field.ofMembers_insert hv missing] at hyields
  constructor
  · rintro ⟨less, valid, yields⟩
    obtain ⟨hrest, hx⟩ := hyields.mp yields
    exact ⟨⟨less, (Members.valid_insert.mp valid).1, hrest⟩, hx⟩
  · rintro ⟨⟨less, valid, yields⟩, hx⟩
    exact ⟨less, Members.valid_insert.mpr ⟨valid, hfits, fun _ => missing⟩,
      hyields.mpr ⟨yields, hx⟩⟩

theorem describes_given (missing : Members.get? f.name (ms ++ ms') = none)
    (x : Option (Option String)) :
    Describes depth (ms ++ (f.given x ++ ms')) t ↔
      Describes depth (ms ++ ms') (f.clear t) ∧ t.text? f = x.join := by
  -- Without a member the draft is unchanged, and null is read as no text: both clear it.
  rcases x with _ | _ | s
  · constructor
    · intro h
      have hnone := h.text?_eq_none missing
      exact ⟨(Field.clear_eq hnone).symm ▸ h, hnone⟩
    · rintro ⟨h, hnone⟩
      exact Field.clear_eq hnone ▸ h
  · exact describes_insert rfl missing
  · exact describes_insert rfl missing

end

theorem read_given {depth : Nat} {f : Field} {ms ms' : Members}
    (missing : Members.get? f.name (ms ++ ms') = none) (x : Option (Option String)) (t : Tab) :
    (Json.object (ms ++ (f.given x ++ ms'))).read (ofNode depth) = some t ↔
      (Json.object (ms ++ ms')).read (ofNode depth) = some (f.clear t) ∧ t.text? f = x.join := by
  have hread {members : Members} {u : Tab} :
      (Json.object members).read (ofNode depth) = some u ↔ Describes depth members u := by
    rw [read_ofNode]
    simp
  rw [hread, hread, describes_given missing]

end Tab

namespace Snapshot

theorem parse_eq_ok {text : String} {tabs : List Tab} :
    parse text = .ok tabs ↔ Tab.parseList text = .ok tabs := by
  rw [parse]
  split <;> simp [*]

theorem parse_text {v : Json} {text : String} (ht : v.Text text.toList) {tabs : List Tab} :
    parse text = .ok tabs ↔ v.read Tab.listOfNode = some tabs :=
  parse_eq_ok.trans (Tab.byValue_listOfNode.readText_eq_ok ht)

theorem kept_of_parse {P : Number → Prop} {text : String} {tabs : List Tab}
    (hn : (Document.ofText text.toList).root.Numbers P) (h : parse text = .ok tabs) :
    ∀ t ∈ tabs, t.Kept P 1 :=
  Tab.kept_of_listOfNode hn (readText_eq_ok.mp (parse_eq_ok.mp h)).1

theorem parse_compact {tabs : List Tab} (h : ∀ t ∈ tabs, t.Kept Number.Whole 1) :
    parse (Tab.listToJson tabs).compact = .ok tabs :=
  (parse_text (Tab.whole_listToJson h).text).mpr (Tab.read_listToJson h)

def giving (before after : List Json) (f : Field) (ms ms' : Members)
    (x : Option (Option String)) : Json :=
  .array (before ++ .object (ms ++ (f.given x ++ ms')) :: after)

theorem parse_giving {before after : List Json} {f : Field} {ms ms' : Members}
    {x : Option (Option String)} {text : String}
    (ht : (giving before after f ms ms' x).Text text.toList) {tabs : List Tab} :
    parse text = .ok tabs ↔
      before.map (Json.read (Tab.ofNode 1)) ++
          (Json.object (ms ++ (f.given x ++ ms'))).read (Tab.ofNode 1) ::
            after.map (Json.read (Tab.ofNode 1)) = tabs.map some := by
  rw [parse_text ht, Json.read, toOption_eq_some, Tab.listOfNode_eq_ok (Node.denotes_ofJson _)]
  simp [giving]

section

variable {before after : List Json} {f : Field} {ms ms' : Members}
  {x y : Option (Option String)} {text other : String} {tabs : List Tab}

theorem parse_giving_same (missing : Members.get? f.name (ms ++ ms') = none)
    (ht : (giving before after f ms ms' x).Text text.toList)
    (ho : (giving before after f ms ms' y).Text other.toList) (hxy : x.join = y.join)
    (accepted : parse text = .ok tabs) : parse other = .ok tabs := by
  have hsame : (Json.object (ms ++ (f.given y ++ ms'))).read (Tab.ofNode 1) =
      (Json.object (ms ++ (f.given x ++ ms'))).read (Tab.ofNode 1) := by
    ext t
    rw [Tab.read_given missing, Tab.read_given missing, hxy]
  rw [parse_giving ho, hsame]
  exact (parse_giving ht).mp accepted

theorem text?_of_parse_giving (missing : Members.get? f.name (ms ++ ms') = none)
    (ht : (giving before after f ms ms' x).Text text.toList) (accepted : parse text = .ok tabs) :
    tabs[before.length]?.map (·.text? f) = some x.join := by
  have hat : tabs[before.length]?.map some =
      some ((Json.object (ms ++ (f.given x ++ ms'))).read (Tab.ofNode 1)) := by
    rw [← List.getElem?_map, ← (parse_giving ht).mp accepted]
    simp
  obtain ⟨t, htab, hread⟩ := Option.map_eq_some_iff.mp hat
  rw [htab, Option.map_some, ((Tab.read_given missing x t).mp hread.symm).2]

end

theorem round_trips :
    (∀ text tabs, parse text = .ok tabs →
      (Document.ofText text.toList).root.Numbers Number.Integral →
      parse (Tab.listToJson tabs).compact = .ok tabs ∧
        (parse (Tab.listToJson tabs).compact).map (fun again => (Tab.listToJson again).compact) =
          .ok (Tab.listToJson tabs).compact) ∧
      ∀ before after f ms ms', Members.get? f.name (ms ++ ms') = none →
        ∀ x y text other, (giving before after f ms ms' x).Text text.toList →
          (giving before after f ms ms' y).Text other.toList →
          ∀ tabs, parse text = .ok tabs →
            (x.join = y.join → parse other = .ok tabs) ∧
              tabs[before.length]?.map (·.text? f) = some x.join := by
  constructor
  · intro text tabs accepted integral
    have hfits := kept_of_parse (ofText_numbers text.toList) accepted
    have hintegral := kept_of_parse integral accepted
    have hparse : parse (Tab.listToJson tabs).compact = .ok tabs :=
      parse_compact fun t ht => (hfits t ht).whole (hintegral t ht).integral
    refine ⟨hparse, ?_⟩
    rw [hparse]
    rfl
  · intro before after f ms ms' missing x y text other htext hother tabs accepted
    exact ⟨fun hxy => parse_giving_same missing htext hother hxy accepted,
      text?_of_parse_giving missing htext accepted⟩

def sharing : Members :=
  [("by", .array [.null, .object [("\t", .number (.int Number.largestNatural))]]),
    ("state", .string "\"")]

/-- A quote, a backslash and a line feed in the title, no url, and an object kept as it came. -/
def shared : Tab :=
  { id := 1, windowId := 2, index := 0, title := some "a \"\\\nü",
    extra := [("sharing", .object sharing)] }

theorem sharing_kept : (Json.object sharing).Kept Number.Whole 2 := by
  have hcount : (Json.object (Members.ofList [("\t", .number (.int Number.largestNatural))])).Kept
      Number.Whole 4 :=
    .object (by decide) <| List.forall_mem_singleton.mpr
      ⟨.number _ _, .number _, .number ⟨_, ⟨by decide, Int.le_refl _⟩, rfl⟩⟩
  have hby : (Json.array [.null, .object [("\t", .number (.int Number.largestNatural))]]).Kept
      Number.Whole 3 :=
    .array (by decide) <| List.forall_mem_cons.mpr
      ⟨⟨.null _, .null, .null⟩, List.forall_mem_singleton.mpr hcount⟩
  have hordered : Members.Ordered sharing := List.pairwise_pair.mpr (by decide)
  rw [← Members.ofList_ordered hordered]
  exact .object (by decide) <| List.forall_mem_cons.mpr
    ⟨hby, List.forall_mem_singleton.mpr ⟨.string _ _, .string _, .string _⟩⟩

theorem shared_kept : shared.Kept Number.Whole 1 where
  id := ⟨by decide, by decide⟩
  windowId := ⟨by decide, by decide⟩
  index := by decide
  less := by decide
  extra := (Members.Extra.nil _ _ 2).insert (by decide) sharing_kept

theorem round_trips_shared :
    parse (Tab.listToJson [shared]).compact = .ok [shared] ∧
      (Document.ofText (Tab.listToJson [shared]).compact.toList).root.Numbers Number.Integral ∧
      (parse (Tab.listToJson [shared]).compact).map
        (fun again => (Tab.listToJson again).compact) = .ok (Tab.listToJson [shared]).compact ∧
      parse (giving [] [] .url shared.fields shared.extra (some none)).compact = .ok [shared] := by
  have hprinted : (Tab.listToJson [shared]).Numbers Number.Whole :=
    Tab.whole_listToJson (List.forall_mem_singleton.mpr shared_kept)
  obtain ⟨hfields, hextra⟩ := List.forall_mem_append.mp <|
    Tab.forall_members forFields_whole shared_kept fun m hm => (shared_kept.extra.kept m hm).numbers
  have hobject : (giving [] [] .url shared.fields shared.extra (some none)).Numbers Number.Whole :=
    .array <| List.forall_mem_singleton.mpr <| .object <| List.forall_mem_append.mpr
      ⟨hfields, List.forall_mem_cons.mpr ⟨.null, hextra⟩⟩
  have haccepted := parse_compact (List.forall_mem_singleton.mpr shared_kept)
  have hintegral := hprinted.text.numbers (hprinted.mono fun _ hn => hn.integral)
  refine ⟨haccepted, hintegral, (round_trips.1 _ _ haccepted hintegral).2, ?_⟩
  exact (round_trips.2 [] [] .url shared.fields shared.extra (by decide) none (some none) _ _
    hprinted.text hobject.text _ haccepted).1 rfl

end Snapshot

end TabSearch
