import TabSearch.Proofs.Event.Reader

namespace TabSearch

namespace RemoveInfo

inductive Writes (r : RemoveInfo) : Json → Prop
  | object {ms added : Members} (foreign : ∀ m ∈ added, m.1 ∉ fieldNames)
      (nests : ∀ m ∈ added, m.2.Nests 2) (perm : ms.Perm (r.fields ++ added)) :
      Writes r (.object ms)
  | list : Writes r (.array [.ofInt r.windowId, .bool r.isWindowClosing])

theorem writes_toJson (r : RemoveInfo) : r.Writes r.toJson := by
  have hsame : r.fields.Perm (r.fields ++ []) := .of_eq (List.append_nil r.fields).symm
  rw [toJson_eq]
  exact .object (by simp) (by simp) hsame

theorem Writes.read {r : RemoveInfo} (h : IsId r.windowId) {v : Json} (hv : r.Writes v) :
    v.read ofPart = some r := by
  cases hv with
  | list => exact read_ofPart.mpr (.pair (Node.read_id h) (Node.read_bool r.isWindowClosing))
  | @object ms added foreign nests perm =>
      have hvalid := valid_fields h foreign
      have hdraft : Draft.ofMembers ms = Draft.ofMembers (r.fields ++ added) := by
        rw [Draft.ofMembers, Draft.ofMembers,
          Members.slot_perm hvalid.distinct perm.symm (by decide),
          Members.slot_perm hvalid.distinct perm.symm (by decide)]
      have hdescribes := Describes.object (hvalid.perm perm.symm)
      rw [hdraft, finish_fields h foreign] at hdescribes
      exact read_ofPart.mpr hdescribes

theorem Writes.nests {r : RemoveInfo} (h : IsId r.windowId) {v : Json} (hv : r.Writes v) :
    v.Nests 1 := by
  cases hv with
  | list => exact .array (by decide) (by simp [Json.ofInt, Json.Nests.number, Json.Nests.bool])
  | object foreign nests perm =>
      refine .object (by decide) fun m hm => ?_
      rcases List.mem_append.mp (perm.mem_iff.mp hm) with hm | hm
      · exact forall_members (forFields_nests 2) h m hm
      · exact nests m hm

end RemoveInfo

namespace Event

inductive Shows : Event → Members → Prop
  | created {tab : Tab} {t : Json} (ht : tab.toJson.Reorders t) : Shows (.created tab) [("tab", t)]
  | updated {tabId : TabId} {changeInfo : ChangeInfo} {tab : Tab} {c t : Json}
      (hc : changeInfo.toJson.Reorders c) (ht : tab.toJson.Reorders t) :
      Shows (.updated tabId changeInfo tab)
        [("tabId", .ofInt tabId), ("changeInfo", c), ("tab", t)]
  | unchanged {tabId : TabId} {tab : Tab} {t : Json} (ht : tab.toJson.Reorders t) :
      Shows (.updated tabId {} tab) [("tabId", .ofInt tabId), ("tab", t)]
  | removed {tabId : TabId} {removeInfo : RemoveInfo} {r : Json} (hr : removeInfo.Writes r) :
      Shows (.removed tabId removeInfo) [("tabId", .ofInt tabId), ("removeInfo", r)]
  | gone {tabId : TabId} : Shows (.removed tabId {}) [("tabId", .ofInt tabId)]

inductive Writes (e : Event) : Json → Prop
  | object {fields added ms : Members} (shows : e.Shows fields)
      (foreign : ∀ m ∈ added, m.1 ≠ "type" ∧ m.1 ∉ e.kind.fieldNames)
      (nests : ∀ m ∈ added, m.2.Nests 1)
      (perm : ms.Perm (("type", .string e.kind.name) :: (fields ++ added))) : Writes e (.object ms)
  | list {fields : Members} (shows : e.Shows fields)
      (first : fields.map Prod.fst <+: e.kind.fieldNames) :
      Writes e (.array (.string e.kind.name :: fields.map Prod.snd))

theorem shows_fields (e : Event) : e.Shows e.fields := by
  cases e with
  | created tab => exact .created (.refl _)
  | updated tabId changeInfo tab => exact .updated (.refl _) (.refl _)
  | removed tabId removeInfo => exact .removed removeInfo.writes_toJson

theorem writes_toJson (e : Event) : e.Writes e.toJson := by
  have hsame : (("type", Json.string e.kind.name) :: e.fields).Perm
      (("type", Json.string e.kind.name) :: (e.fields ++ [])) := by rw [List.append_nil]
  exact .object (shows_fields e) (by simp) (by simp) hsame

section

variable {P : Number → Prop} {e : Event} {fields : Members}

theorem Shows.nodup (h : e.Shows fields) : (fields.map Prod.fst).Nodup := by
  cases h <;> simp

theorem Shows.fits (h : e.Shows fields) (he : e.Kept P) : ∀ m ∈ fields, Fits e.kind m.1 m.2 := by
  cases h with
  | created ht =>
      simp only [List.forall_mem_cons]
      exact ⟨Option.isSome_of_eq_some (Tab.Kept.read_reordered he ht), List.forall_mem_nil _⟩
  | updated hc ht =>
      simp only [List.forall_mem_cons]
      exact ⟨Option.isSome_of_eq_some (Node.read_id he.1),
        Option.isSome_of_eq_some (he.2.1.read_reordered hc),
        Option.isSome_of_eq_some (he.2.2.read_reordered ht), List.forall_mem_nil _⟩
  | unchanged ht =>
      simp only [List.forall_mem_cons]
      exact ⟨Option.isSome_of_eq_some (Node.read_id he.1),
        Option.isSome_of_eq_some (he.2.2.read_reordered ht), List.forall_mem_nil _⟩
  | removed hr =>
      simp only [List.forall_mem_cons]
      exact ⟨Option.isSome_of_eq_some (Node.read_id he.1),
        Option.isSome_of_eq_some (hr.read he.2), List.forall_mem_nil _⟩
  | gone =>
      simp only [List.forall_mem_cons]
      exact ⟨Option.isSome_of_eq_some (Node.read_id he.1), List.forall_mem_nil _⟩

theorem Shows.nests (h : e.Shows fields) (he : e.Kept P) : ∀ m ∈ fields, m.2.Nests 1 := by
  cases h with
  | created ht => simpa using ht.nests (Tab.nests_toJson he)
  | updated hc ht =>
      simpa [Json.ofInt, Json.Nests.number] using
        And.intro (hc.nests (ChangeInfo.nests_toJson he.2.1)) (ht.nests (Tab.nests_toJson he.2.2))
  | unchanged ht =>
      simpa [Json.ofInt, Json.Nests.number] using ht.nests (Tab.nests_toJson he.2.2)
  | removed hr => simpa [Json.ofInt, Json.Nests.number] using hr.nests he.2
  | gone => simp [Json.ofInt, Json.Nests.number]

theorem Shows.finish (h : e.Shows fields) (he : e.Kept P) :
    (Draft.ofMembers e.kind fields).finish e.kind = .ok e := by
  cases h with
  | created ht =>
      simp [kind, Draft.ofMembers, Draft.finish, Members.slot, Members.get?, Node.required, bind,
        Except.bind, Tab.Kept.read_reordered he ht]
  | updated hc ht =>
      simp [kind, Draft.ofMembers, Draft.finish, Members.slot, Members.get?, Node.required, bind,
        Except.bind, Node.read_id he.1, he.2.1.read_reordered hc, he.2.2.read_reordered ht]
  | unchanged ht =>
      simp [kind, Draft.ofMembers, Draft.finish, Members.slot, Members.get?, Node.required, bind,
        Except.bind, Node.read_id he.1, he.2.2.read_reordered ht]
  | removed hr =>
      simp [kind, Draft.ofMembers, Draft.finish, Members.slot, Members.get?, Node.required, bind,
        Except.bind, Node.read_id he.1, hr.read he.2]
  | gone =>
      simp [kind, Draft.ofMembers, Draft.finish, Members.slot, Members.get?, Node.required, bind,
        Except.bind, Node.read_id he.1]

end

theorem read_kind (kind : Kind) : (Json.string kind.name).read kindOfNode = some kind := by
  cases kind <;> rfl

theorem byValue_kindOfNode : Node.ByValue kindOfNode := by
  intro n v hn
  cases hn with
  | string start stop s =>
      simp only [Json.read, Node.ofJson, kindOfNode]
      split <;> rfl
  | _ => rfl

def Tagged (name : String) (v : Json) : Prop :=
  if name = "type" then (v.read kindOfNode).isSome = true else v.Nests 1

theorem addKind_tracks :
    Node.Tracks addKind ["type"] Tagged (Members.slot "type" kindOfNode) := by
  intro ms name v key n s hms hn
  rw [addKind]
  split
  next hname =>
    subst hname
    have hbind (x : Except Fault (Option Kind)) : (x >>= fun found => .ok (id found)) = x :=
      bind_pure x
    rw [← hbind (Node.once _ _ _ _)]
    exact Node.once_tracks byValue_kindOfNode (by decide)
      (fun _ => by simp [Tagged]) hms hn (fun hg => by simp [hg]) key s
  next hname =>
    have hf : name ∉ ["type"] := by simpa using hname
    exact Node.other_tracks (b := v.normal) hf hms
      (fun _ => by simp [Node.value?_eq_ok hn, Tagged, hname])
      (by simp [hname]) s

theorem filter_kind {nodes : List (Key × Node)} {ms : Members} (hn : DenotesMembers nodes ms) :
    DenotesMembers (nodes.filter fun m => !isKindMember m) (ms.filter fun m => m.1 ≠ "type") := by
  induction ms generalizing nodes with
  | nil =>
      cases hn
      exact .nil
  | cons m ms ih =>
      cases hn with
      | @cons k resume n v nodes ms hd hs =>
          by_cases hk : k = "type"
          · rw [List.filter_cons_of_neg (by simp [isKindMember, hk]),
              List.filter_cons_of_neg (by simp [hk])]
            exact ih hs
          · rw [List.filter_cons_of_pos (by simp [isKindMember, hk]),
              List.filter_cons_of_pos (by simp [hk])]
            exact .cons k resume hd (ih hs)

theorem tagged_valid (kind : Kind) {rest : Members} (untagged : ∀ m ∈ rest, m.1 ≠ "type")
    (nests : ∀ m ∈ rest, m.2.Nests 1) :
    Members.Valid ["type"] Tagged (("type", .string kind.name) :: rest) where
  fits := List.forall_mem_cons.mpr ⟨by simp [Tagged, read_kind],
    fun m hm => by simpa [Tagged, untagged m hm] using nests m hm⟩
  distinct := by
    have hforeign : ∀ m ∈ rest, m.1 ∉ ["type"] := by simpa using untagged
    exact Members.Distinct.append_foreign (List.pairwise_singleton _ _) hforeign

theorem ofNode_object {kind : Kind} {ms rest : Members} {e : Event}
    (perm : ms.Perm (("type", .string kind.name) :: rest)) (untagged : ∀ m ∈ rest, m.1 ≠ "type")
    (nests : ∀ m ∈ rest, m.2.Nests 1)
    (valid : Members.Valid kind.fieldNames (Fits kind) rest)
    (finish : (Draft.ofMembers kind rest).finish kind = .ok e) {n : Node}
    (hn : Denotes n (.object ms)) : ofNode n = .ok e := by
  have hrest : rest.filter (fun m => m.1 ≠ "type") = rest := by simpa using untagged
  have hfilter : (ms.filter fun m => m.1 ≠ "type").Perm rest := by
    have hp := perm.filter fun m => m.1 ≠ "type"
    rwa [List.filter_cons_of_neg (by simp), hrest] at hp
  -- The members are read twice: all of them for the kind, then those without the kind.
  have htagged := tagged_valid kind untagged nests
  have hkind : Members.slot "type" kindOfNode ms = some kind := by
    rw [Members.slot_perm (htagged.perm perm.symm).distinct perm (by decide)]
    simp [Members.slot, Members.get?, read_kind]
  cases hn with
  | @object start stop nodes _ hn =>
      have hfound : Node.foldMembers addKind none nodes = .ok (some kind) :=
        (addKind_tracks.fold hn _).mpr ⟨htagged.perm perm.symm, hkind.symm⟩
      have hfields : Node.foldMembers (Draft.add kind) {} (nodes.filter fun m => !isKindMember m) =
          .ok (Draft.ofMembers kind rest) := by
        have hempty : ({} : Draft) = Draft.ofMembers kind [] := by cases kind <;> rfl
        have hvalid := valid.perm hfilter.symm
        rw [hempty, ← Draft.ofMembers_congr fun _ => Members.get?_perm hvalid.distinct hfilter]
        exact ((Draft.tracks kind).fold (filter_kind hn) _).mpr ⟨hvalid, rfl⟩
      rw [ofNode, hfound]
      refine mapError_eq_ok.mpr ?_
      rw [ofMembers, hfields]
      exact finish

theorem ofNode_list {kind : Kind} {items : List Json} {e : Event}
    (nests : ∀ v ∈ items, v.Nests 1)
    (hitems : ∀ nodes, DenotesItems nodes items → ofItems kind nodes = .ok e) {n : Node}
    (hn : Denotes n (.array (.string kind.name :: items))) : ofNode n = .ok e := by
  cases hn with
  | array start stop hs =>
      cases hs with
      | cons hk hs =>
          have hkind := (byValue_kindOfNode.eq_ok hk).mpr (read_kind kind)
          rw [ofNode, hkind]
          change (Node.values? 1 _ >>= _) = _
          rw [Node.values?_denotes hs nests]
          exact mapError_eq_ok.mpr (hitems _ hs)

section

variable {P : Number → Prop} {e : Event} {fields : Members}

theorem Shows.known (h : e.Shows fields) : ∀ m ∈ fields, m.1 ∈ e.kind.fieldNames := by
  cases h <;> simp [kind, Kind.fieldNames]

theorem Shows.ofItems (h : e.Shows fields) (first : fields.map Prod.fst <+: e.kind.fieldNames)
    (he : e.Kept P) {nodes : List Node} (hn : DenotesItems nodes (fields.map Prod.snd)) :
    ofItems e.kind nodes = .ok e := by
  have hid {i : TabId} (hi : IsId i) {n : Node} (hn : Denotes n (.ofInt i)) : n.readId = .ok i :=
    (Node.byValue_readId.eq_ok hn).mpr (Node.read_id hi)
  have htab {tab : Tab} (ht : tab.Kept P 1) {v : Json} (hv : tab.toJson.Reorders v) {n : Node}
      (hn : Denotes n v) : Tab.ofNode 1 n = .ok tab :=
    ((Tab.byValue_ofNode 1).eq_ok hn).mpr (ht.read_reordered hv)
  cases h with
  | created ht =>
      obtain _ | ⟨hnode, ⟨⟩⟩ := hn
      rw [kind, Event.ofItems, htab he ht hnode]
      rfl
  | updated hc ht =>
      obtain _ | ⟨hi, _ | ⟨hinfo, _ | ⟨hnode, ⟨⟩⟩⟩⟩ := hn
      rw [kind, Event.ofItems, hid he.1 hi, htab he.2.2 ht hnode,
        ((ChangeInfo.byValue_ofNode 1).eq_ok hinfo).mpr (he.2.1.read_reordered hc)]
      rfl
  | unchanged ht =>
      -- The tab follows the change info, which so cannot be left off a list.
      exact absurd first (by simp [kind, Kind.fieldNames])
  | removed hr =>
      obtain _ | ⟨hi, _ | ⟨hinfo, ⟨⟩⟩⟩ := hn
      rw [kind, Event.ofItems, hid he.1 hi,
        (RemoveInfo.byValue_ofPart.eq_ok hinfo).mpr (hr.read he.2)]
      rfl
  | gone =>
      obtain _ | ⟨hi, ⟨⟩⟩ := hn
      rw [kind, Event.ofItems, hid he.1 hi]
      rfl

theorem Writes.ofNode {v : Json} (h : e.Writes v) (he : e.Kept P) {n : Node} (hn : Denotes n v) :
    ofNode n = .ok e := by
  have htype : "type" ∉ e.kind.fieldNames := by cases e.kind <;> decide
  cases h with
  | @object fields added ms shows foreign nests perm =>
      have hforeign : ∀ m ∈ added, m.1 ∉ e.kind.fieldNames := fun m hm => (foreign m hm).2
      have huntagged : ∀ m ∈ fields, m.1 ≠ "type" := fun m hm heq =>
        htype (heq ▸ shows.known m hm)
      have hvalid : Members.Valid e.kind.fieldNames (Fits e.kind) (fields ++ added) :=
        ⟨List.forall_mem_append.mpr ⟨shows.fits he, fun m hm => fits_other (hforeign m hm)⟩,
          (Members.distinct_of_nodup _ shows.nodup).append_foreign hforeign⟩
      have hdraft : Draft.ofMembers e.kind (fields ++ added) = Draft.ofMembers e.kind fields :=
        Draft.ofMembers_congr fun _ known => Members.get?_append_foreign hforeign known fields
      exact ofNode_object perm
        (List.forall_mem_append.mpr ⟨huntagged, fun m hm => (foreign m hm).1⟩)
        (List.forall_mem_append.mpr ⟨shows.nests he, nests⟩) hvalid
        (hdraft ▸ shows.finish he) hn
  | list shows first =>
      refine ofNode_list (fun v hv => ?_) (fun nodes hs => shows.ofItems first he hs) hn
      obtain ⟨m, hm, rfl⟩ := List.mem_map.mp hv
      exact shows.nests he m hm

theorem Writes.parse {v : Json} (h : e.Writes v) (he : e.Kept P) {text : List Char}
    (ht : v.Text text) : parse text = .ok e := by
  obtain ⟨hd, hend⟩ := ht.denotes
  exact readText_eq_ok.mpr ⟨h.ofNode he hd, hend⟩

end

theorem whole_toJson {e : Event} (h : e.Kept Number.Whole) : e.toJson.Numbers Number.Whole := by
  refine .object (List.forall_mem_cons.mpr ⟨.string _, ?_⟩)
  cases e with
  | created tab => exact List.forall_mem_singleton.mpr (Tab.whole_toJson h)
  | updated tabId changeInfo tab =>
      obtain ⟨hid, hinfo, htab⟩ := h
      simp only [fields, List.forall_mem_cons]
      exact ⟨forFields_whole.id _ hid, ChangeInfo.whole_toJson hinfo, Tab.whole_toJson htab,
        List.forall_mem_nil _⟩
  | removed tabId removeInfo =>
      obtain ⟨hid, hinfo⟩ := h
      simp only [fields, List.forall_mem_cons]
      exact ⟨forFields_whole.id _ hid, RemoveInfo.whole_toJson hinfo, List.forall_mem_nil _⟩

theorem parse_compact {e : Event} (h : e.Kept Number.Whole) : parse e.toJson.compactChars = .ok e :=
  (writes_toJson e).parse h (whole_toJson h).spells.text

theorem spellings_agree {text : List Char} {e : Event} (accepted : parse text = .ok e)
    (integral : (Document.ofText text).root.Numbers Number.Integral) :
    parse e.toJson.compactChars = .ok e ∧
      ∀ v, e.Writes v → ∀ spelling, v.Text spelling → parse spelling = .ok e := by
  have hkept : e.Kept Number.Fits := kept_of_parse (ofText_numbers text) accepted
  have hwhole := hkept.whole (kept_of_parse integral accepted).integral
  exact ⟨parse_compact hwhole, fun v hv spelling ht => hv.parse hkept ht⟩

theorem spellings_agree_gone :
    parse (Json.array [.string "removed", .ofInt 7]).compactChars = .ok (.removed 7 {}) ∧
      (Document.ofText (Json.array [.string "removed", .ofInt 7]).compactChars).root.Numbers
        Number.Integral ∧
      parse (Event.removed 7 {}).toJson.compactChars = .ok (.removed 7 {}) ∧
      parse (Json.object [("audible", .null), ("tabId", .ofInt 7),
        ("type", .string "removed")]).compactChars = .ok (.removed 7 {}) := by
  have hid : IsId 7 := ⟨by decide, by decide⟩
  have hseven : Json.Numbers Number.Whole (.ofInt 7) := forFields_whole.id 7 hid
  have hlist : (Json.array [.string "removed", .ofInt 7]).Numbers Number.Whole :=
    .array (by simp [hseven, Json.Numbers.string])
  have hobject : (Json.object [("audible", .null), ("tabId", .ofInt 7),
      ("type", .string "removed")]).Numbers Number.Whole :=
    .object (by simp [hseven, Json.Numbers.string, Json.Numbers.null])
  have haccepted := (Writes.list (e := .removed 7 {}) .gone (by simp [kind, Kind.fieldNames])).parse
    (P := Number.Whole) ⟨hid, RemoveInfo.isId_zero⟩ hlist.spells.text
  have hintegral := hlist.spells.text.numbers (hlist.mono fun _ hn => hn.integral)
  obtain ⟨hprinted, hother⟩ := spellings_agree haccepted hintegral
  refine ⟨haccepted, hintegral, hprinted, hother _ ?_ _ hobject.spells.text⟩
  have hmirrored := List.reverse_perm
    [("type", Json.string "removed"), ("tabId", Json.ofInt 7), ("audible", Json.null)]
  exact .object .gone (by simp [kind, Kind.fieldNames])
    (by simp [Json.Nests.null]) hmirrored

end Event

end TabSearch
