import TabSearch.Event.Reader
import TabSearch.Proofs.Tab.Reader

namespace TabSearch.Event

def Kept (P : Number → Prop) : Event → Prop
  | .created tab => tab.Kept P 1
  | .updated tabId changeInfo tab => IsId tabId ∧ changeInfo.Kept P 1 ∧ tab.Kept P 1
  | .removed tabId removeInfo => IsId tabId ∧ IsId removeInfo.windowId

def Integral : Event → Prop
  | .created tab => tab.Integral
  | .updated _ changeInfo tab => changeInfo.Integral ∧ tab.Integral
  | .removed _ _ => True

theorem Kept.integral {e : Event} (h : e.Kept Number.Integral) : e.Integral := by
  cases e with
  | created tab => exact Tab.Kept.integral h
  | updated tabId changeInfo tab => exact ⟨h.2.1.integral, h.2.2.integral⟩
  | removed tabId removeInfo => trivial

theorem Kept.whole {e : Event} (h : e.Kept Number.Fits) (hi : e.Integral) :
    e.Kept Number.Whole := by
  cases e with
  | created tab => exact Tab.Kept.whole h hi
  | updated tabId changeInfo tab => exact ⟨h.1, h.2.1.whole hi.1, h.2.2.whole hi.2⟩
  | removed tabId removeInfo => exact h

structure Draft.Kept (P : Number → Prop) (d : Draft) : Prop where
  tabId : ∀ i, d.tabId = some i → IsId i
  changeInfo : ∀ c, d.changeInfo = some c → c.Kept P 1
  removeInfo : ∀ r, d.removeInfo = some r → IsId r.windowId
  tab : ∀ t, d.tab = some t → t.Kept P 1

theorem Draft.kept_empty (P : Number → Prop) : Draft.Kept P {} where
  tabId := by rintro i ⟨⟩
  changeInfo := by rintro c ⟨⟩
  removeInfo := by rintro r ⟨⟩
  tab := by rintro t ⟨⟩

theorem Draft.Kept.addTab {P : Number → Prop} {d d' : Draft} {name : String} {key : Key} {n : Node}
    (hn : n.Numbers P) (h : d.Kept P) (hadd : Draft.add.addTab d name key n = .ok d') :
    d'.Kept P := by
  obtain ⟨x, hx, hd⟩ := bind_eq_ok.mp hadd
  cases hd
  obtain ⟨t, ht, rfl⟩ := Node.once_eq_ok hx
  exact { h with tab := by rintro u ⟨⟩; exact Tab.kept_of_ofNode hn ht }

theorem Draft.Kept.addId {P : Number → Prop} {d d' : Draft} {name : String} {key : Key} {n : Node}
    (h : d.Kept P) (hadd : Draft.add.addId d name key n = .ok d') : d'.Kept P := by
  obtain ⟨x, hx, hd⟩ := bind_eq_ok.mp hadd
  cases hd
  obtain ⟨i, hi, rfl⟩ := Node.once_eq_ok hx
  exact { h with tabId := by rintro j ⟨⟩; exact Node.isId_of_readId hi }

theorem Draft.Kept.add {P : Number → Prop} {kind : Kind} {d d' : Draft} {name : String} {key : Key}
    {n : Node} (hn : n.Numbers P) (h : d.Kept P) (hadd : d.add kind name key n = .ok d') :
    d'.Kept P := by
  rw [Draft.add.eq_def] at hadd
  split at hadd
  · exact h.addTab hn hadd
  · exact h.addTab hn hadd
  · exact h.addId hadd
  · exact h.addId hadd
  · obtain ⟨x, hx, hd⟩ := bind_eq_ok.mp hadd
    cases hd
    obtain ⟨c, hc, rfl⟩ := Node.once_eq_ok hx
    exact { h with changeInfo := by rintro e ⟨⟩; exact ChangeInfo.kept_of_ofNode hn hc }
  · obtain ⟨x, hx, hd⟩ := bind_eq_ok.mp hadd
    cases hd
    obtain ⟨r, hr, rfl⟩ := Node.once_eq_ok hx
    exact { h with removeInfo := by rintro e ⟨⟩; exact RemoveInfo.isId_of_ofPart hr }
  · cases hadd
    exact h

theorem changeInfo_kept (P : Number → Prop) : ChangeInfo.Kept P 1 {} where
  less := by decide
  extra := .nil P ChangeInfo.fieldNames 2

theorem Draft.Kept.finish {P : Number → Prop} {kind : Kind} {d : Draft} {e : Event}
    (h : d.Kept P) (he : d.finish kind = .ok e) : e.Kept P := by
  cases kind with
  | created =>
      obtain ⟨t, ht, he⟩ := bind_eq_ok.mp he
      cases he
      exact h.tab t (Node.required_eq_ok.mp ht)
  | updated =>
      obtain ⟨i, hi, he⟩ := bind_eq_ok.mp he
      obtain ⟨t, ht, he⟩ := bind_eq_ok.mp he
      cases he
      refine ⟨h.tabId i (Node.required_eq_ok.mp hi), ?_, h.tab t (Node.required_eq_ok.mp ht)⟩
      cases hc : d.changeInfo with
      | none => exact changeInfo_kept P
      | some c => exact h.changeInfo c hc
  | removed =>
      obtain ⟨i, hi, he⟩ := bind_eq_ok.mp he
      cases he
      refine ⟨h.tabId i (Node.required_eq_ok.mp hi), ?_⟩
      cases hr : d.removeInfo with
      | none => exact RemoveInfo.isId_zero
      | some r => exact h.removeInfo r hr

theorem kept_of_ofItems {P : Number → Prop} {kind : Kind} {items : List Node} {e : Event}
    (hn : ∀ n ∈ items, n.Numbers P) (h : ofItems kind items = .ok e) : e.Kept P := by
  rw [ofItems.eq_def] at h
  split at h
  · cases h
  · obtain ⟨t, ht, h⟩ := bind_eq_ok.mp h
    obtain ⟨_, _, h⟩ := bind_eq_ok.mp h
    cases h
    exact Tab.kept_of_ofNode (hn _ (by simp)) ht
  · cases h
  · obtain ⟨_, _, h⟩ := bind_eq_ok.mp h
    cases h
  · obtain ⟨_, _, h⟩ := bind_eq_ok.mp h
    obtain ⟨_, _, h⟩ := bind_eq_ok.mp h
    cases h
  · obtain ⟨i, hi, h⟩ := bind_eq_ok.mp h
    obtain ⟨c, hc, h⟩ := bind_eq_ok.mp h
    obtain ⟨t, ht, h⟩ := bind_eq_ok.mp h
    obtain ⟨_, _, h⟩ := bind_eq_ok.mp h
    cases h
    exact ⟨Node.isId_of_readId hi, ChangeInfo.kept_of_ofNode (hn _ (by simp)) hc,
      Tab.kept_of_ofNode (hn _ (by simp)) ht⟩
  · cases h
  · obtain ⟨i, hi, h⟩ := bind_eq_ok.mp h
    cases h
    exact ⟨Node.isId_of_readId hi, RemoveInfo.isId_zero⟩
  · obtain ⟨i, hi, h⟩ := bind_eq_ok.mp h
    obtain ⟨r, hr, h⟩ := bind_eq_ok.mp h
    obtain ⟨_, _, h⟩ := bind_eq_ok.mp h
    cases h
    exact ⟨Node.isId_of_readId hi, RemoveInfo.isId_of_ofPart hr⟩

theorem mapError_eq_ok {ε ε' α : Type} {f : ε → ε'} {x : Except ε α} {a : α} :
    x.mapError f = .ok a ↔ x = .ok a := by
  cases x <;> simp [Except.mapError]

theorem kept_of_ofNode {P : Number → Prop} {n : Node} {e : Event} (hn : n.Numbers P)
    (h : ofNode n = .ok e) : e.Kept P := by
  rw [ofNode.eq_def] at h
  split at h
  · obtain ⟨found, _, h⟩ := bind_eq_ok.mp h
    obtain ⟨stop, _, h⟩ := bind_eq_ok.mp h
    obtain ⟨kind, _, h⟩ := bind_eq_ok.mp h
    obtain ⟨d, hd, h⟩ := bind_eq_ok.mp (mapError_eq_ok.mp h)
    cases hn with
    | object _ _ hn =>
        exact (Node.foldMembers_preserves (fun _ _ _ _ _ hm hs hadd => hs.add hm hadd)
          (fun m hm => hn m (List.mem_filter.mp hm).1) (Draft.kept_empty P) hd).finish h
  · obtain ⟨_, _, h⟩ := bind_eq_ok.mp h
    cases h
  · obtain ⟨kind, _, h⟩ := bind_eq_ok.mp h
    obtain ⟨_, _, h⟩ := bind_eq_ok.mp h
    obtain ⟨_, _, h⟩ := bind_eq_ok.mp h
    cases hn with
    | array _ _ hn =>
        exact kept_of_ofItems (fun n hm => hn n (List.mem_cons_of_mem _ hm)) (mapError_eq_ok.mp h)
  · cases h

theorem kept_of_parse {P : Number → Prop} {text : List Char} {e : Event}
    (hn : (Document.ofText text).root.Numbers P) (h : parse text = .ok e) : e.Kept P :=
  kept_of_ofNode hn (readText_eq_ok.mp h).1

def Sent (e : Event) : Prop := ∃ text, parse text = .ok e

theorem Sent.kept {e : Event} (h : e.Sent) : e.Kept Number.Fits := by
  obtain ⟨text, h⟩ := h
  exact kept_of_parse (ofText_numbers text) h

def Fits (kind : Kind) (name : String) (v : Json) : Prop :=
  match name, kind with
  | "tab", .created => (v.read (Tab.ofNode 1)).isSome
  | "tab", .updated => (v.read (Tab.ofNode 1)).isSome
  | "tabId", .updated => (v.read Node.readId).isSome
  | "tabId", .removed => (v.read Node.readId).isSome
  | "changeInfo", .updated => (v.read (ChangeInfo.ofNode 1)).isSome
  | "removeInfo", .removed => (v.read RemoveInfo.ofPart).isSome
  | _, _ => True

def Kind.fieldNames : Kind → List String
  | .created => ["tab"]
  | .updated => ["tabId", "changeInfo", "tab"]
  | .removed => ["tabId", "removeInfo"]

theorem fits_other {kind : Kind} {name : String} (h : name ∉ kind.fieldNames) {v : Json} :
    Fits kind name v := by
  rw [Fits.eq_def]
  split
  case h_7 => trivial
  all_goals exact absurd (by decide) h

def Draft.ofMembers (kind : Kind) (ms : Members) : Draft :=
  match kind with
  | .created => { tab := Members.slot "tab" (Tab.ofNode 1) ms }
  | .updated =>
      { tabId := Members.slot "tabId" Node.readId ms
        changeInfo := Members.slot "changeInfo" (ChangeInfo.ofNode 1) ms
        tab := Members.slot "tab" (Tab.ofNode 1) ms }
  | .removed =>
      { tabId := Members.slot "tabId" Node.readId ms
        removeInfo := Members.slot "removeInfo" RemoveInfo.ofPart ms }

theorem Draft.ofMembers_congr {kind : Kind} {ms ms' : Members}
    (h : ∀ name ∈ kind.fieldNames, Members.get? name ms = Members.get? name ms') :
    Draft.ofMembers kind ms = Draft.ofMembers kind ms' := by
  cases kind <;> simp only [Kind.fieldNames, List.forall_mem_cons] at h <;>
    simp [Draft.ofMembers, Members.slot, h]

theorem Draft.tracks (kind : Kind) :
    Node.Tracks (Draft.add kind) kind.fieldNames (Fits kind) (Draft.ofMembers kind) := by
  intro ms name v key n s hms hn
  have hid := Node.byValue_readId
  have htab := Tab.byValue_ofNode 1
  rw [Draft.add.eq_def]
  split
  case h_1 | h_2 =>
    exact Node.once_tracks htab (by decide) (fun _ => Iff.rfl) hms hn
      (fun hg => by simp [Draft.ofMembers, hg]) key s
  case h_3 | h_4 =>
    exact Node.once_tracks hid (by decide) (fun _ => Iff.rfl) hms hn
      (fun hg => by simp [Draft.ofMembers, hg]) key s
  case h_5 =>
    exact Node.once_tracks (ChangeInfo.byValue_ofNode 1) (by decide) (fun _ => Iff.rfl) hms hn
      (fun hg => by simp [Draft.ofMembers, hg]) key s
  case h_6 =>
    exact Node.once_tracks RemoveInfo.byValue_ofPart (by decide) (fun _ => Iff.rfl) hms hn
      (fun hg => by simp [Draft.ofMembers, hg]) key s
  case h_7 =>
    have hf : name ∉ kind.fieldNames := by
      cases kind <;> simp_all [Kind.fieldNames]
    change (Except.ok () >>= fun _ => .ok (Draft.ofMembers kind ms)) = .ok s ↔ _
    refine Node.other_tracks (b := ()) hf hms
      (fun _ => by simp [fits_other hf]) ?_ s
    cases kind <;> simp only [Kind.fieldNames, List.mem_cons, List.not_mem_nil, not_or] at hf <;>
      simp [Draft.ofMembers, hf]

end TabSearch.Event
