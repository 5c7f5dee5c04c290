import TabSearch.Tab.Reader
import TabSearch.Proofs.Json.Reading

namespace TabSearch

namespace Tab

def fieldNames : List String := ["id", "windowId", "index", "active", "title", "url"]

structure Kept (P : Number → Prop) (depth : Nat) (t : Tab) : Prop where
  id : IsId t.id
  windowId : IsId t.windowId
  index : t.index ≤ largestIndex
  less : depth < Node.maxDepth
  extra : Members.Extra P fieldNames (depth + 1) t.extra

def Integral (t : Tab) : Prop := ∀ m ∈ t.extra, m.2.Numbers Number.Integral

theorem Kept.integral {depth : Nat} {t : Tab} (h : t.Kept Number.Integral depth) :
    t.Integral := fun m hm => (h.extra.kept m hm).numbers

theorem Kept.whole {depth : Nat} {t : Tab} (h : t.Kept Number.Fits depth) (hi : t.Integral) :
    t.Kept Number.Whole depth := { h with extra := h.extra.whole hi }

structure Draft.Kept (P : Number → Prop) (depth : Nat) (d : Draft) : Prop where
  id : ∀ i, d.id = some i → IsId i
  windowId : ∀ i, d.windowId = some i → IsId i
  index : ∀ i, d.index = some i → i ≤ largestIndex
  extra : Members.Extra P fieldNames depth d.extra

theorem Draft.Kept.add {P : Number → Prop} {depth : Nat} {d d' : Draft} {name : String} {key : Key}
    {n : Node} (hn : n.Numbers P) (h : d.Kept P depth) (hadd : d.add depth name key n = .ok d') :
    d'.Kept P depth := by
  rw [Draft.add.eq_def] at hadd
  split at hadd
  all_goals
    obtain ⟨x, hx, hd⟩ := bind_eq_ok.mp hadd
    cases hd
  case h_1 =>
    obtain ⟨i, hi, rfl⟩ := Node.once_eq_ok hx
    exact { h with id := by rintro j ⟨⟩; exact Node.isId_of_readId hi }
  case h_2 =>
    obtain ⟨i, hi, rfl⟩ := Node.once_eq_ok hx
    exact { h with windowId := by rintro j ⟨⟩; exact Node.isId_of_readId hi }
  case h_3 =>
    obtain ⟨i, hi, rfl⟩ := Node.once_eq_ok hx
    exact { h with index := by rintro j ⟨⟩; exact Node.le_of_readIndex hi }
  case h_7 =>
    have hf : name ∉ fieldNames := by
      simp only [fieldNames, List.mem_cons, List.not_mem_nil]
      tauto
    exact { h with extra := h.extra.insert hf (Node.value?_kept n hn hx) }
  all_goals exact ⟨h.id, h.windowId, h.index, h.extra⟩

theorem Draft.kept_empty (P : Number → Prop) (depth : Nat) : Draft.Kept P depth {} where
  id := by rintro i ⟨⟩
  windowId := by rintro i ⟨⟩
  index := by rintro i ⟨⟩
  extra := .nil P fieldNames depth

theorem kept_of_ofNode {P : Number → Prop} {depth : Nat} {n : Node} {t : Tab} (hn : n.Numbers P)
    (h : ofNode depth n = .ok t) : t.Kept P depth := by
  rw [ofNode.eq_def] at h
  split at h
  · obtain ⟨u, hdepth, h⟩ := bind_eq_ok.mp h
    obtain ⟨d, hfold, h⟩ := bind_eq_ok.mp h
    obtain ⟨stop, _, h⟩ := bind_eq_ok.mp h
    obtain ⟨id, hid, h⟩ := bind_eq_ok.mp h
    obtain ⟨windowId, hwindow, h⟩ := bind_eq_ok.mp h
    obtain ⟨index, hindex, h⟩ := bind_eq_ok.mp h
    cases h
    have hd : d.Kept P (depth + 1) := by
      cases hn with
      | object _ _ hn =>
          exact Node.foldMembers_preserves (fun _ _ _ _ _ hm hs hadd => hs.add hm hadd) hn
            (Draft.kept_empty P (depth + 1)) hfold
    exact ⟨hd.id id (Node.required_eq_ok.mp hid),
      hd.windowId windowId (Node.required_eq_ok.mp hwindow),
      hd.index index (Node.required_eq_ok.mp hindex), Node.checkDepth_eq_ok.mp hdepth, hd.extra⟩
  · cases h

def Fits (depth : Nat) (name : String) (v : Json) : Prop :=
  match name with
  | "id" | "windowId" => (v.read Node.readId).isSome
  | "index" => (v.read Node.readIndex).isSome
  | "active" => (v.read Node.readBool).isSome
  | "title" | "url" => (v.read (Node.readOptional Node.readText)).isSome
  | _ => v.Nests depth

theorem fits_other {name : String} (h : name ∉ fieldNames) {depth : Nat} {v : Json} :
    Fits depth name v ↔ v.Nests depth := by
  rw [Fits.eq_def]
  split
  case h_7 => rfl
  all_goals exact absurd (by decide) h

def Draft.ofMembers (ms : Members) : Draft where
  id := Members.slot "id" Node.readId ms
  windowId := Members.slot "windowId" Node.readId ms
  index := Members.slot "index" Node.readIndex ms
  active := Members.slot "active" Node.readBool ms
  title := Members.slot "title" (Node.readOptional Node.readText) ms
  url := Members.slot "url" (Node.readOptional Node.readText) ms
  extra := Members.others fieldNames ms

theorem Draft.tracks (depth : Nat) :
    Node.Tracks (Draft.add depth) fieldNames (Fits depth) Draft.ofMembers := by
  intro ms name v key n s hms hn
  rw [Draft.add.eq_def]
  split
  case h_1 | h_2 =>
    exact Node.once_tracks Node.byValue_readId (by decide) (fun _ => Iff.rfl) hms hn
      (fun hg => by simp [Draft.ofMembers, fieldNames, hg]) key s
  case h_3 =>
    exact Node.once_tracks Node.byValue_readIndex (by decide) (fun _ => Iff.rfl) hms hn
      (fun hg => by simp [Draft.ofMembers, fieldNames, hg]) key s
  case h_4 =>
    exact Node.once_tracks Node.byValue_readBool (by decide) (fun _ => Iff.rfl) hms hn
      (fun hg => by simp [Draft.ofMembers, fieldNames, hg]) key s
  case h_5 | h_6 =>
    exact Node.once_tracks (Node.byValue_readOptional Node.byValue_readText) (by decide)
      (fun _ => Iff.rfl) hms hn (fun hg => by simp [Draft.ofMembers, fieldNames, hg]) key s
  case h_7 =>
    have hf : name ∉ fieldNames := by
      simp only [fieldNames, List.mem_cons, List.not_mem_nil]
      tauto
    refine Node.other_tracks hf hms (fun _ => (Node.value?_eq_ok hn).trans
      (and_congr_left' (fits_other hf).symm)) ?_ s
    simp only [fieldNames, List.mem_cons, List.not_mem_nil, not_or] at hf
    simp [Draft.ofMembers, hf, fieldNames, Members.others_concat]

structure Draft.Yields (d : Draft) (t : Tab) : Prop where
  id : d.id = some t.id
  windowId : d.windowId = some t.windowId
  index : d.index = some t.index
  active : d.active.getD false = t.active
  title : d.title.join = t.title
  url : d.url.join = t.url
  extra : d.extra = t.extra

theorem Draft.finish_eq_ok {d : Draft} {stop : Nat} {t : Tab} :
    d.finish stop = .ok t ↔ d.Yields t := by
  simp only [Draft.finish, bind_eq_ok, Node.required_eq_ok, Except.ok.injEq]
  constructor
  · rintro ⟨i, hi, w, hw, x, hx, rfl⟩
    exact ⟨hi, hw, hx, rfl, rfl, rfl, rfl⟩
  · rintro ⟨hi, hw, hx, ha, ht, hu, he⟩
    exact ⟨_, hi, _, hw, _, hx, by rw [ha, ht, hu, he]⟩

structure Describes (depth : Nat) (ms : Members) (t : Tab) : Prop where
  less : depth < Node.maxDepth
  valid : Members.Valid fieldNames (Fits (depth + 1)) ms
  yields : (Draft.ofMembers ms).Yields t

theorem ofNode_eq_ok {depth : Nat} {n : Node} {v : Json} (hn : Denotes n v) {t : Tab} :
    ofNode depth n = .ok t ↔ ∃ ms, v = .object ms ∧ Describes depth ms t := by
  cases hn with
  | object start stop hn =>
      have hobject := (Draft.tracks (depth + 1)).object_eq_ok hn stop Draft.finish t
      rw [Draft.finish_eq_ok] at hobject
      refine bind_eq_ok.trans ⟨?_, ?_⟩
      · rintro ⟨_, less, h⟩
        obtain ⟨valid, yields⟩ := hobject.mp h
        exact ⟨_, rfl, Node.checkDepth_eq_ok.mp less, valid, yields⟩
      · rintro ⟨_, ⟨⟩, less, valid, yields⟩
        exact ⟨(), Node.checkDepth_eq_ok.mpr less, hobject.mpr ⟨valid, yields⟩⟩
  | _ => simp [ofNode]

theorem byValue_ofNode (depth : Nat) : Node.ByValue (ofNode depth) :=
  Node.byValue_of_iff fun _ _ hn _ => ofNode_eq_ok hn

theorem read_ofNode {depth : Nat} {v : Json} {t : Tab} :
    v.read (ofNode depth) = some t ↔ ∃ ms, v = .object ms ∧ Describes depth ms t :=
  toOption_eq_some.trans (ofNode_eq_ok (Node.denotes_ofJson v))

theorem Describes.perm {depth : Nat} {ms ms' : Members} {t : Tab} (h : Describes depth ms t)
    (nodup : (ms.map Prod.fst).Nodup) (hp : ms.Perm ms') : Describes depth ms' t := by
  have hslot {α : Type} {name : String} (known : name ∈ fieldNames)
      (reader : Node → Except Fault α) :
      Members.slot name reader ms = Members.slot name reader ms' :=
    Members.slot_perm h.valid.distinct hp known reader
  have hdraft : Draft.ofMembers ms = Draft.ofMembers ms' := by
    rw [Draft.ofMembers, Draft.ofMembers, hslot (by decide), hslot (by decide), hslot (by decide),
      hslot (by decide), hslot (by decide), hslot (by decide), Members.others_perm nodup hp]
  exact ⟨h.less, h.valid.perm hp, hdraft ▸ h.yields⟩

def fields (t : Tab) : Members :=
  [("id", .ofInt t.id), ("windowId", .ofInt t.windowId), ("index", .ofNat t.index),
    ("active", .bool t.active)]
  ++ optionalMember "title" .string t.title
  ++ optionalMember "url" .string t.url

theorem toJson_eq (t : Tab) : t.toJson = .object (t.fields ++ t.extra) := rfl

theorem fields_sublist (t : Tab) : (t.fields.map Prod.fst).Sublist fieldNames := by
  simp only [fields, List.map_append]
  exact ((List.Sublist.refl _).append Members.optionalMember_sublist).append
    Members.optionalMember_sublist

section

variable {P : Number → Prop} {depth : Nat} {t : Tab}

theorem Kept.nodup (h : t.Kept P depth) : ((t.fields ++ t.extra).map Prod.fst).Nodup :=
  h.extra.nodup_append (by decide) (fields_sublist t)

theorem Kept.fits (h : t.Kept P depth) :
    ∀ m ∈ t.fields ++ t.extra, Fits (depth + 1) m.1 m.2 := by
  have htext (name : String) (hname : ∀ s, Fits (depth + 1) name (.string s)) (x : Option String) :=
    forall_optionalMember (Q := fun m => Fits (depth + 1) m.1 m.2) hname x
  simp only [fields, List.forall_mem_append, List.forall_mem_cons]
  refine ⟨⟨⟨⟨?_, ?_, ?_, rfl, List.forall_mem_nil _⟩, htext "title" (fun _ => rfl) t.title⟩,
    htext "url" (fun _ => rfl) t.url⟩, fun m hm => ?_⟩
  · exact Option.isSome_of_eq_some (Node.read_id h.id)
  · exact Option.isSome_of_eq_some (Node.read_id h.windowId)
  · exact Option.isSome_of_eq_some (Node.read_index h.index)
  · exact (fits_other (h.extra.foreign m hm)).mpr (h.extra.kept m hm).nests

theorem Kept.yields (h : t.Kept P depth) : (Draft.ofMembers (t.fields ++ t.extra)).Yields t := by
  have hslot {α : Type} {name : String} (known : name ∈ fieldNames)
      (reader : Node → Except Fault α) :
      Members.slot name reader (t.fields ++ t.extra) = Members.slot name reader t.fields :=
    Members.slot_append_foreign h.extra.foreign known reader t.fields
  refine ⟨?_, ?_, ?_, ?_, ?_, ?_, h.extra.others_append (fields_sublist t)⟩
  all_goals
    simp only [Draft.ofMembers]
    rw [hslot (by decide)]
    simp [Members.slot, fields, Members.get?_append, Members.get?]
  · exact Node.read_id h.id
  · exact Node.read_id h.windowId
  · exact Node.read_index h.index
  · rfl
  · exact Node.join_bind_read Node.read_text t.title
  · exact Node.join_bind_read Node.read_text t.url

theorem Kept.describes (h : t.Kept P depth) : Describes depth (t.fields ++ t.extra) t :=
  ⟨h.less, ⟨h.fits, Members.distinct_of_nodup fieldNames h.nodup⟩, h.yields⟩

theorem Kept.read_reordered (h : t.Kept P depth) {v : Json} (hv : t.toJson.Reorders v) :
    v.read (ofNode depth) = some t := by
  cases hv with
  | object perm => exact read_ofNode.mpr ⟨_, rfl, h.describes.perm h.nodup perm⟩

theorem forall_members {Q : Json → Prop} (hQ : ForFields Q) (h : t.Kept P depth)
    (hextra : ∀ m ∈ t.extra, Q m.2) : ∀ m ∈ t.fields ++ t.extra, Q m.2 := by
  simp only [fields, List.forall_mem_append, List.forall_mem_cons]
  exact ⟨⟨⟨⟨hQ.id _ h.id, hQ.id _ h.windowId, hQ.index _ h.index, hQ.bool _,
      List.forall_mem_nil _⟩,
    forall_optionalMember hQ.string _⟩, forall_optionalMember hQ.string _⟩, hextra⟩

theorem nests_toJson (h : t.Kept P depth) : t.toJson.Nests depth := by
  rw [toJson_eq]
  exact .object h.less <|
    forall_members (forFields_nests (depth + 1)) h fun m hm => (h.extra.kept m hm).nests

theorem whole_toJson (h : t.Kept Number.Whole depth) : t.toJson.Numbers Number.Whole := by
  rw [toJson_eq]
  exact .object <| forall_members forFields_whole h fun m hm => (h.extra.kept m hm).numbers

end

end Tab

namespace ChangeInfo

def fieldNames : List String :=
  ["status", "url", "title", "pinned", "audible", "discarded", "favIconUrl"]

structure Kept (P : Number → Prop) (depth : Nat) (c : ChangeInfo) : Prop where
  less : depth < Node.maxDepth
  extra : Members.Extra P fieldNames (depth + 1) c.extra

def Integral (c : ChangeInfo) : Prop := ∀ m ∈ c.extra, m.2.Numbers Number.Integral

theorem Kept.integral {depth : Nat} {c : ChangeInfo} (h : c.Kept Number.Integral depth) :
    c.Integral := fun m hm => (h.extra.kept m hm).numbers

theorem Kept.whole {depth : Nat} {c : ChangeInfo} (h : c.Kept Number.Fits depth)
    (hi : c.Integral) : c.Kept Number.Whole depth := { h with extra := h.extra.whole hi }

theorem Draft.extra_add {P : Number → Prop} {depth : Nat} {d d' : Draft} {name : String}
    {key : Key} {n : Node} (hn : n.Numbers P) (h : Members.Extra P fieldNames depth d.extra)
    (hadd : d.add depth name key n = .ok d') : Members.Extra P fieldNames depth d'.extra := by
  rw [Draft.add.eq_def] at hadd
  dsimp only at hadd
  split at hadd
  all_goals
    obtain ⟨x, hx, hd⟩ := bind_eq_ok.mp hadd
    cases hd
  case h_8 =>
    have hf : name ∉ fieldNames := by
      simp only [fieldNames, List.mem_cons, List.not_mem_nil]
      tauto
    exact h.insert hf (Node.value?_kept n hn hx)
  all_goals exact h

theorem kept_of_ofNode {P : Number → Prop} {depth : Nat} {n : Node} {c : ChangeInfo}
    (hn : n.Numbers P) (h : ofNode depth n = .ok c) : c.Kept P depth := by
  rw [ofNode.eq_def] at h
  split at h
  · obtain ⟨u, hdepth, h⟩ := bind_eq_ok.mp h
    obtain ⟨d, hfold, h⟩ := bind_eq_ok.mp h
    obtain ⟨stop, _, h⟩ := bind_eq_ok.mp h
    cases h
    refine ⟨Node.checkDepth_eq_ok.mp hdepth, ?_⟩
    cases hn with
    | object _ _ hn =>
        exact Node.foldMembers_preserves
          (P := fun d : Draft => Members.Extra P fieldNames (depth + 1) d.extra)
          (fun _ _ _ _ _ hm hs hadd => Draft.extra_add hm hs hadd) hn
          (.nil P fieldNames (depth + 1)) hfold
  · cases h

def Fits (depth : Nat) (name : String) (v : Json) : Prop :=
  match name with
  | "status" | "url" | "title" | "favIconUrl" => (v.read (Node.readOptional Node.readText)).isSome
  | "pinned" | "audible" | "discarded" => (v.read (Node.readOptional Node.readBool)).isSome
  | _ => v.Nests depth

theorem fits_other {name : String} (h : name ∉ fieldNames) {depth : Nat} {v : Json} :
    Fits depth name v ↔ v.Nests depth := by
  rw [Fits.eq_def]
  split
  case h_8 => rfl
  all_goals exact absurd (by decide) h

def Draft.ofMembers (ms : Members) : Draft where
  status := Members.slot "status" (Node.readOptional Node.readText) ms
  url := Members.slot "url" (Node.readOptional Node.readText) ms
  title := Members.slot "title" (Node.readOptional Node.readText) ms
  pinned := Members.slot "pinned" (Node.readOptional Node.readBool) ms
  audible := Members.slot "audible" (Node.readOptional Node.readBool) ms
  discarded := Members.slot "discarded" (Node.readOptional Node.readBool) ms
  favIconUrl := Members.slot "favIconUrl" (Node.readOptional Node.readText) ms
  extra := Members.others fieldNames ms

theorem Draft.tracks (depth : Nat) :
    Node.Tracks (Draft.add depth) fieldNames (Fits depth) Draft.ofMembers := by
  intro ms name v key n s hms hn
  rw [Draft.add.eq_def]
  dsimp only
  split
  case h_1 | h_2 | h_3 | h_7 =>
    exact Node.once_tracks (Node.byValue_readOptional Node.byValue_readText) (by decide)
      (fun _ => Iff.rfl) hms hn (fun hg => by simp [Draft.ofMembers, fieldNames, hg]) key s
  case h_4 | h_5 | h_6 =>
    exact Node.once_tracks (Node.byValue_readOptional Node.byValue_readBool) (by decide)
      (fun _ => Iff.rfl) hms hn (fun hg => by simp [Draft.ofMembers, fieldNames, hg]) key s
  case h_8 =>
    have hf : name ∉ fieldNames := by
      simp only [fieldNames, List.mem_cons, List.not_mem_nil]
      tauto
    refine Node.other_tracks hf hms (fun _ => (Node.value?_eq_ok hn).trans
      (and_congr_left' (fits_other hf).symm)) ?_ s
    simp only [fieldNames, List.mem_cons, List.not_mem_nil, not_or] at hf
    simp [Draft.ofMembers, hf, fieldNames, Members.others_concat]

structure Describes (depth : Nat) (ms : Members) (c : ChangeInfo) : Prop where
  less : depth < Node.maxDepth
  valid : Members.Valid fieldNames (Fits (depth + 1)) ms
  finish : (Draft.ofMembers ms).finish = c

theorem ofNode_eq_ok {depth : Nat} {n : Node} {v : Json} (hn : Denotes n v) {c : ChangeInfo} :
    ofNode depth n = .ok c ↔ ∃ ms, v = .object ms ∧ Describes depth ms c := by
  cases hn with
  | object start stop hn =>
      have hobject :=
        (Draft.tracks (depth + 1)).object_eq_ok hn stop (fun d _ => .ok d.finish) c
      refine bind_eq_ok.trans ⟨?_, ?_⟩
      · rintro ⟨_, less, h⟩
        obtain ⟨valid, finish⟩ := hobject.mp h
        exact ⟨_, rfl, Node.checkDepth_eq_ok.mp less, valid, Except.ok.inj finish⟩
      · rintro ⟨_, ⟨⟩, less, valid, rfl⟩
        exact ⟨(), Node.checkDepth_eq_ok.mpr less, hobject.mpr ⟨valid, rfl⟩⟩
  | _ => simp [ofNode]

theorem byValue_ofNode (depth : Nat) : Node.ByValue (ofNode depth) :=
  Node.byValue_of_iff fun _ _ hn _ => ofNode_eq_ok hn

theorem read_ofNode {depth : Nat} {v : Json} {c : ChangeInfo} :
    v.read (ofNode depth) = some c ↔ ∃ ms, v = .object ms ∧ Describes depth ms c :=
  toOption_eq_some.trans (ofNode_eq_ok (Node.denotes_ofJson v))

theorem Describes.perm {depth : Nat} {ms ms' : Members} {c : ChangeInfo}
    (h : Describes depth ms c) (nodup : (ms.map Prod.fst).Nodup) (hp : ms.Perm ms') :
    Describes depth ms' c := by
  have hslot {α : Type} {name : String} (known : name ∈ fieldNames)
      (reader : Node → Except Fault α) :
      Members.slot name reader ms = Members.slot name reader ms' :=
    Members.slot_perm h.valid.distinct hp known reader
  have hdraft : Draft.ofMembers ms = Draft.ofMembers ms' := by
    rw [Draft.ofMembers, Draft.ofMembers, hslot (by decide), hslot (by decide), hslot (by decide),
      hslot (by decide), hslot (by decide), hslot (by decide), hslot (by decide),
      Members.others_perm nodup hp]
  exact ⟨h.less, h.valid.perm hp, hdraft ▸ h.finish⟩

def fields (c : ChangeInfo) : Members :=
  optionalMember "status" .string c.status
  ++ optionalMember "url" .string c.url
  ++ optionalMember "title" .string c.title
  ++ optionalMember "pinned" .bool c.pinned
  ++ optionalMember "audible" .bool c.audible
  ++ optionalMember "discarded" .bool c.discarded
  ++ optionalMember "favIconUrl" .string c.favIconUrl

theorem toJson_eq (c : ChangeInfo) : c.toJson = .object (c.fields ++ c.extra) := rfl

theorem fields_sublist (c : ChangeInfo) : (c.fields.map Prod.fst).Sublist fieldNames := by
  simp only [fields, List.map_append]
  exact (((((Members.optionalMember_sublist.append Members.optionalMember_sublist).append
    Members.optionalMember_sublist).append Members.optionalMember_sublist).append
    Members.optionalMember_sublist).append Members.optionalMember_sublist).append
    Members.optionalMember_sublist

section

variable {P : Number → Prop} {depth : Nat} {c : ChangeInfo}

theorem Kept.nodup (h : c.Kept P depth) : ((c.fields ++ c.extra).map Prod.fst).Nodup :=
  h.extra.nodup_append (by decide) (fields_sublist c)

theorem Kept.fits (h : c.Kept P depth) :
    ∀ m ∈ c.fields ++ c.extra, Fits (depth + 1) m.1 m.2 := by
  have htext (name : String) (hname : ∀ s, Fits (depth + 1) name (.string s)) (x : Option String) :=
    forall_optionalMember (Q := fun m => Fits (depth + 1) m.1 m.2) hname x
  have hflag (name : String) (hname : ∀ b, Fits (depth + 1) name (.bool b)) (x : Option Bool) :=
    forall_optionalMember (Q := fun m => Fits (depth + 1) m.1 m.2) hname x
  simp only [fields, List.forall_mem_append]
  exact ⟨⟨⟨⟨⟨⟨⟨htext "status" (fun _ => rfl) c.status, htext "url" (fun _ => rfl) c.url⟩,
    htext "title" (fun _ => rfl) c.title⟩, hflag "pinned" (fun _ => rfl) c.pinned⟩,
    hflag "audible" (fun _ => rfl) c.audible⟩, hflag "discarded" (fun _ => rfl) c.discarded⟩,
    htext "favIconUrl" (fun _ => rfl) c.favIconUrl⟩,
    fun m hm => (fits_other (h.extra.foreign m hm)).mpr (h.extra.kept m hm).nests⟩

theorem Kept.finish (h : c.Kept P depth) :
    (Draft.ofMembers (c.fields ++ c.extra)).finish = c := by
  have hslot {α : Type} {name : String} (known : name ∈ fieldNames)
      (reader : Node → Except Fault α) :
      Members.slot name reader (c.fields ++ c.extra) = Members.slot name reader c.fields :=
    Members.slot_append_foreign h.extra.foreign known reader c.fields
  have htext := fun x => Node.join_bind_read Node.read_text x
  have hflag := fun x => Node.join_bind_read Node.read_flag x
  simp only [Draft.finish, Draft.ofMembers, h.extra.others_append (fields_sublist c)]
  rw [hslot (by decide), hslot (by decide), hslot (by decide), hslot (by decide),
    hslot (by decide), hslot (by decide), hslot (by decide)]
  simp [Members.slot, fields, Members.get?_append, htext, hflag]

theorem Kept.describes (h : c.Kept P depth) : Describes depth (c.fields ++ c.extra) c :=
  ⟨h.less, ⟨h.fits, Members.distinct_of_nodup fieldNames h.nodup⟩, h.finish⟩

theorem Kept.read_reordered (h : c.Kept P depth) {v : Json} (hv : c.toJson.Reorders v) :
    v.read (ofNode depth) = some c := by
  cases hv with
  | object perm => exact read_ofNode.mpr ⟨_, rfl, h.describes.perm h.nodup perm⟩

theorem forall_members {Q : Json → Prop} (hQ : ForFields Q) (hextra : ∀ m ∈ c.extra, Q m.2) :
    ∀ m ∈ c.fields ++ c.extra, Q m.2 := by
  simp only [fields, List.forall_mem_append]
  exact ⟨⟨⟨⟨⟨⟨⟨forall_optionalMember hQ.string _, forall_optionalMember hQ.string _⟩,
    forall_optionalMember hQ.string _⟩, forall_optionalMember hQ.bool _⟩,
    forall_optionalMember hQ.bool _⟩, forall_optionalMember hQ.bool _⟩,
    forall_optionalMember hQ.string _⟩, hextra⟩

theorem nests_toJson (h : c.Kept P depth) : c.toJson.Nests depth := by
  rw [toJson_eq]
  exact .object h.less <|
    forall_members (forFields_nests (depth + 1)) fun m hm => (h.extra.kept m hm).nests

theorem whole_toJson (h : c.Kept Number.Whole depth) : c.toJson.Numbers Number.Whole := by
  rw [toJson_eq]
  exact .object <| forall_members forFields_whole fun m hm => (h.extra.kept m hm).numbers

end

end ChangeInfo

namespace RemoveInfo

theorem isId_zero : IsId 0 := ⟨by decide, by decide⟩

theorem isId_of_add {d d' : Draft} {name : String} {key : Key} {n : Node}
    (h : ∀ w, d.windowId = some w → IsId w) (hadd : d.add name key n = .ok d') :
    ∀ w, d'.windowId = some w → IsId w := by
  rw [Draft.add.eq_def] at hadd
  split at hadd
  all_goals
    obtain ⟨x, hx, hd⟩ := bind_eq_ok.mp hadd
    cases hd
  case h_1 =>
    obtain ⟨i, hi, rfl⟩ := Node.once_eq_ok hx
    rintro j ⟨⟩
    exact Node.isId_of_readId hi
  all_goals exact h

theorem isId_of_ofItems {atEnd : List Node → Except Fault Unit} {items : List Node}
    {r : RemoveInfo} (h : ofItems atEnd items = .ok r) : IsId r.windowId := by
  rw [ofItems.eq_def] at h
  split at h
  · obtain ⟨_, _, h⟩ := bind_eq_ok.mp h
    cases h
    exact isId_zero
  · obtain ⟨w, hw, h⟩ := bind_eq_ok.mp h
    obtain ⟨_, _, h⟩ := bind_eq_ok.mp h
    cases h
    exact Node.isId_of_readId hw
  · obtain ⟨w, hw, h⟩ := bind_eq_ok.mp h
    obtain ⟨_, _, h⟩ := bind_eq_ok.mp h
    obtain ⟨_, _, h⟩ := bind_eq_ok.mp h
    cases h
    exact Node.isId_of_readId hw

theorem isId_of_ofNode {n : Node} {r : RemoveInfo} (h : ofNode n = .ok r) : IsId r.windowId := by
  rw [ofNode.eq_def] at h
  split at h
  · obtain ⟨d, hfold, h⟩ := bind_eq_ok.mp h
    obtain ⟨_, _, h⟩ := bind_eq_ok.mp h
    cases h
    have hd : ∀ w, d.windowId = some w → IsId w :=
      Node.foldMembers_preserves (P := fun d : Draft => ∀ w, d.windowId = some w → IsId w)
        (Q := fun _ => True) (fun _ _ _ _ _ _ hs hadd => isId_of_add hs hadd) (fun _ _ => trivial)
        (by rintro w ⟨⟩) hfold
    rw [Draft.finish]
    cases hw : d.windowId with
    | none => exact isId_zero
    | some w => exact hd w hw
  · exact isId_of_ofItems h
  · cases h

theorem isId_of_ofPart {n : Node} {r : RemoveInfo} (h : ofPart n = .ok r) : IsId r.windowId := by
  rw [ofPart.eq_def] at h
  split at h
  · exact isId_of_ofItems h
  · exact isId_of_ofNode h

def fieldNames : List String := ["windowId", "isWindowClosing"]

def Fits (name : String) (v : Json) : Prop :=
  match name with
  | "windowId" => (v.read Node.readId).isSome
  | "isWindowClosing" => (v.read Node.readBool).isSome
  | _ => True

theorem fits_other {name : String} (h : name ∉ fieldNames) {v : Json} : Fits name v := by
  rw [Fits.eq_def]
  split
  case h_3 => trivial
  all_goals exact absurd (by decide) h

def Draft.ofMembers (ms : Members) : Draft where
  windowId := Members.slot "windowId" Node.readId ms
  isWindowClosing := Members.slot "isWindowClosing" Node.readBool ms

theorem Draft.tracks : Node.Tracks Draft.add fieldNames Fits Draft.ofMembers := by
  intro ms name v key n s hms hn
  rw [Draft.add.eq_def]
  split
  case h_1 =>
    exact Node.once_tracks Node.byValue_readId (by decide) (fun _ => Iff.rfl) hms hn
      (fun hg => by simp [Draft.ofMembers, hg]) key s
  case h_2 =>
    exact Node.once_tracks Node.byValue_readBool (by decide) (fun _ => Iff.rfl) hms hn
      (fun hg => by simp [Draft.ofMembers, hg]) key s
  case h_3 =>
    have hf : name ∉ fieldNames := by
      simp only [fieldNames, List.mem_cons, List.not_mem_nil]
      tauto
    refine Node.other_tracks (b := ()) hf hms (fun _ => ?_) ?_ s
    · simp [Node.skip_denotes hn, fits_other hf]
    · simp only [fieldNames, List.mem_cons, List.not_mem_nil, not_or] at hf
      simp [Draft.ofMembers, hf]

inductive Describes : Json → RemoveInfo → Prop
  | object {ms : Members} (valid : Members.Valid fieldNames Fits ms) :
      Describes (.object ms) (Draft.ofMembers ms).finish
  | none : Describes (.array []) {}
  | window {w : Json} {i : WindowId} (hw : w.read Node.readId = some i) :
      Describes (.array [w]) { windowId := i }
  | pair {w c : Json} {i : WindowId} {b : Bool} (hw : w.read Node.readId = some i)
      (hc : c.read Node.readBool = some b) : Describes (.array [w, c]) ⟨i, b⟩

theorem ofPart_eq_ok {n : Node} {v : Json} (hn : Denotes n v) {r : RemoveInfo} :
    ofPart n = .ok r ↔ Describes v r := by
  cases hn with
  | object start stop hn =>
      refine (Draft.tracks.object_eq_ok hn stop (fun d _ => .ok d.finish) r).trans ⟨?_, ?_⟩
      · rintro ⟨valid, ⟨⟩⟩
        exact .object valid
      · rintro ⟨valid⟩
        exact ⟨valid, rfl⟩
  | array start stop hs =>
      rw [ofPart]
      cases hs with
      | nil =>
          constructor
          · rintro ⟨⟩
            exact .none
          · rintro ⟨⟩
            rfl
      | cons hw hs =>
          cases hs with
          | nil =>
              simp only [ofItems, bind_eq_ok, Node.byValue_readId.eq_ok hw]
              constructor
              · rintro ⟨i, hi, _, _, ⟨⟩⟩
                exact .window hi
              · rintro ⟨⟩
                exact ⟨_, ‹_›, (), rfl, rfl⟩
          | cons hc hs =>
              simp only [ofItems, bind_eq_ok, Node.byValue_readId.eq_ok hw,
                Node.byValue_readBool.eq_ok hc]
              constructor
              · rintro ⟨i, hi, b, hb, _, hend, ⟨⟩⟩
                cases hs with
                | nil => exact .pair hi hb
                | cons _ _ => cases hend
              · rintro ⟨⟩
                cases hs
                exact ⟨_, ‹_›, _, ‹_›, (), rfl, rfl⟩
  | _ =>
      constructor
      · rintro ⟨⟩
      · rintro ⟨⟩

theorem read_ofPart {v : Json} {r : RemoveInfo} : v.read ofPart = some r ↔ Describes v r :=
  toOption_eq_some.trans (ofPart_eq_ok (Node.denotes_ofJson v))

theorem byValue_ofPart : Node.ByValue ofPart := Node.byValue_of_iff fun _ _ hn _ => ofPart_eq_ok hn

def fields (r : RemoveInfo) : Members :=
  [("windowId", .ofInt r.windowId), ("isWindowClosing", .bool r.isWindowClosing)]

theorem toJson_eq (r : RemoveInfo) : r.toJson = .object r.fields := rfl

theorem valid_fields {r : RemoveInfo} (h : IsId r.windowId) {added : Members}
    (foreign : ∀ m ∈ added, m.1 ∉ fieldNames) :
    Members.Valid fieldNames Fits (r.fields ++ added) where
  fits := by
    simp only [fields, List.forall_mem_append, List.forall_mem_cons]
    exact ⟨⟨Option.isSome_of_eq_some (Node.read_id h), rfl, List.forall_mem_nil _⟩,
      fun m hm => fits_other (foreign m hm)⟩
  distinct := (Members.distinct_of_nodup fieldNames (by simp [fields])).append_foreign foreign

theorem finish_fields {r : RemoveInfo} (h : IsId r.windowId) {added : Members}
    (foreign : ∀ m ∈ added, m.1 ∉ fieldNames) :
    (Draft.ofMembers (r.fields ++ added)).finish = r := by
  simp only [Draft.finish, Draft.ofMembers]
  rw [Members.slot_append_foreign foreign (by decide),
    Members.slot_append_foreign foreign (by decide)]
  simp [Members.slot, fields, Members.get?, Node.read_id h, Node.read_bool]

theorem forall_members {Q : Json → Prop} (hQ : ForFields Q) {r : RemoveInfo}
    (h : IsId r.windowId) : ∀ m ∈ r.fields, Q m.2 := by
  simp only [fields, List.forall_mem_cons]
  exact ⟨hQ.id _ h, hQ.bool _, List.forall_mem_nil _⟩

theorem whole_toJson {r : RemoveInfo} (h : IsId r.windowId) : r.toJson.Numbers Number.Whole := by
  rw [toJson_eq]
  exact .object (forall_members forFields_whole h)

end RemoveInfo

end TabSearch
