import TabSearch.Proofs.Snapshot
import TabSearch.Proofs.Tab.Format

namespace TabSearch

section

variable {α β γ : Type} {R : α → β → Prop} {l : List α} {l' : List β}

theorem map_eq_map_iff_forall₂ {f : α → γ} {g : β → γ} :
    l.map f = l'.map g ↔ List.Forall₂ (fun a b => f a = g b) l l' := by
  rw [← List.forall₂_eq_eq_eq, List.forall₂_map_left_iff, List.forall₂_map_right_iff]

theorem exists_forall₂ (h : ∀ a ∈ l, ∃ b, R a b) : ∃ l', List.Forall₂ R l l' := by
  induction l with
  | nil => exact ⟨[], .nil⟩
  | cons a l ih =>
      obtain ⟨hfirst, hrest⟩ := List.forall_mem_cons.mp h
      obtain ⟨b, hb⟩ := hfirst
      obtain ⟨bs, hbs⟩ := ih hrest
      exact ⟨b :: bs, .cons hb hbs⟩

theorem forall_mem_of_forall₂ {P : α → Prop} {Q : β → Prop} (hR : ∀ a b, R a b → P a → Q b)
    (h : List.Forall₂ R l l') (hP : ∀ a ∈ l, P a) : ∀ b ∈ l', Q b := by
  induction h with
  | nil => nofun
  | cons hab _ ih =>
      obtain ⟨hfirst, hrest⟩ := List.forall_mem_cons.mp hP
      exact List.forall_mem_cons.mpr ⟨hR _ _ hab hfirst, ih hrest⟩

theorem forall₂_of_forall₂ {S : α → γ → Prop} {T : β → γ → Prop}
    (hR : ∀ a b c, R a b → S a c → T b c) (h : List.Forall₂ R l l') {cs : List γ}
    (hS : List.Forall₂ S l cs) : List.Forall₂ T l' cs := by
  induction h generalizing cs with
  | nil =>
      cases hS
      exact .nil
  | cons hab _ ih =>
      cases hS with
      | cons hac hS => exact .cons (hR _ _ _ hab hac) (ih hS)

end

namespace Snapshot

inductive Format : Json → Prop
  | array {items : List Json} (h : ∀ v ∈ items, Tab.Formatted v) : Format (.array items)

inductive Holds : Json → List Tab → Prop
  | array {items : List Json} {tabs : List Tab} (h : List.Forall₂ Tab.Recorded items tabs) :
      Holds (.array items) tabs

inductive Itemwise (R : Json → Json → Prop) : Json → Json → Prop
  | array {items items' : List Json} (h : List.Forall₂ R items items') :
      Itemwise R (.array items) (.array items')

section

variable {v v' : Json} {text text' : String} {tabs : List Tab} {R : Json → Json → Prop}

theorem nests_items {items : List Json} (h : (Json.array items).Nests 0) :
    ∀ v ∈ items, v.Nests 1 := by
  cases h with
  | array _ hitems => exact hitems

theorem forall₂_read {items : List Json} (nests : ∀ v ∈ items, v.Nests 1) :
    List.Forall₂ (fun v t => v.read (Tab.ofNode 1) = some t) items tabs ↔
      (∀ v ∈ items, Tab.Formatted v) ∧ List.Forall₂ Tab.Recorded items tabs := by
  rw [← List.forall₂_and_left]
  constructor
  · intro h
    exact ((List.forall₂_and_left _ _).mpr ⟨nests, h⟩).imp fun v t ⟨hn, hread⟩ =>
      (Tab.read_iff hn).mp hread
  · intro h
    exact ((List.forall₂_and_left _ _).mpr ⟨nests, h⟩).imp fun v t ⟨hn, hread⟩ =>
      (Tab.read_iff hn).mpr hread

theorem parse_iff (nests : v.Nests 0) (ht : v.Text text.toList) :
    parse text = .ok tabs ↔ Format v ∧ Holds v tabs := by
  rw [parse_text ht, Json.read, toOption_eq_some, Tab.listOfNode_eq_ok (Node.denotes_ofJson v)]
  simp only [map_eq_map_iff_forall₂]
  constructor
  · rintro ⟨items, rfl, hread⟩
    obtain ⟨format, holds⟩ := (forall₂_read (nests_items nests)).mp hread
    exact ⟨.array format, .array holds⟩
  · rintro ⟨⟨format⟩, ⟨holds⟩⟩
    exact ⟨_, rfl, (forall₂_read (nests_items nests)).mpr ⟨format, holds⟩⟩

theorem Format.holds (h : Format v) : ∃ tabs, Holds v tabs := by
  cases h with
  | array format =>
      obtain ⟨tabs, holds⟩ := exists_forall₂ (R := Tab.Recorded) fun v hv => by
        obtain ⟨hformat⟩ := format v hv
        exact hformat.records.imp fun _ => .object
      exact ⟨tabs, .array holds⟩

theorem accepts_iff (nests : v.Nests 0) (ht : v.Text text.toList) :
    (∃ tabs, parse text = .ok tabs) ↔ Format v := by
  simp only [parse_iff nests ht, exists_and_left, and_iff_left_iff_imp]
  exact Format.holds

theorem refuses (nests : v.Nests 0) (ht : v.Text text.toList) (h : ¬ Format v) :
    ∃ message, parse text = .error (.snapshot message) := by
  have hfail : ∀ tabs, parse text ≠ .ok tabs := fun tabs hok =>
    h ((parse_iff nests ht).mp hok).1
  rw [parse] at hfail ⊢
  split
  next tabs hlist => exact absurd (by rw [hlist]) (hfail tabs)
  next f _ => exact ⟨_, rfl⟩

theorem Itemwise.nests (hR : ∀ u u', R u u' → u.Nests 1 → u'.Nests 1) (h : Itemwise R v v')
    (hv : v.Nests 0) : v'.Nests 0 := by
  cases h with
  | array h => exact .array (by decide) (forall_mem_of_forall₂ hR h (nests_items hv))

theorem Itemwise.format (hR : ∀ u u', R u u' → Tab.Formatted u → Tab.Formatted u')
    (h : Itemwise R v v') (hv : Format v) : Format v' := by
  cases h with
  | array h =>
      cases hv with
      | array hv => exact .array (forall_mem_of_forall₂ hR h hv)

theorem Itemwise.holds (hR : ∀ u u' t, R u u' → Tab.Recorded u t → Tab.Recorded u' t)
    (h : Itemwise R v v') (hv : Holds v tabs) : Holds v' tabs := by
  cases h with
  | array h =>
      cases hv with
      | array hv => exact .array (forall₂_of_forall₂ hR h hv)

theorem Itemwise.symm (hR : ∀ u u', R u u' → R u' u) (h : Itemwise R v v') :
    Itemwise R v' v := by
  cases h with
  | array h => exact .array (h.imp hR).flip

theorem accepts_reordered (nests : v.Nests 0) (ht' : v'.Text text'.toList)
    (h : Itemwise Json.Reorders v v') : (∃ tabs, parse text' = .ok tabs) ↔ Format v := by
  rw [accepts_iff (h.nests (fun _ _ hu => hu.nests) nests) ht']
  have hformat : ∀ u u', Json.Reorders u u' → Tab.Formatted u → Tab.Formatted u' := by
    rintro _ _ ⟨perm⟩ ⟨format⟩
    exact .object (format.perm perm)
  exact ⟨(h.symm fun _ _ => Json.Reorders.symm).format hformat, h.format hformat⟩

theorem parse_sameByKey (nests : v.Nests 0) (ht : v.Text text.toList)
    (ht' : v'.Text text'.toList) (h : Itemwise Json.SameByKey v v')
    (accepted : parse text = .ok tabs) : parse text' = .ok tabs := by
  obtain ⟨format, holds⟩ := (parse_iff nests ht).mp accepted
  refine (parse_iff (h.nests (fun _ _ hu => hu.nests) nests) ht').mpr
    ⟨h.format ?_ format, h.holds ?_ holds⟩
  · rintro _ _ ⟨same⟩ ⟨hformat⟩
    exact .object (hformat.congr fun k _ => same k)
  · rintro _ _ t ⟨same⟩ ⟨records⟩
    exact .object (records.congr same)

theorem refuses_number (nests : v.Nests 0) (ht : v.Text text.toList) {items : List Json}
    (hv : v = .array items) {ms : Members} (hitem : .object ms ∈ items) {k : String}
    (hk : k ∈ ["id", "windowId", "index"]) {n : Number} (hm : (k, .number n) ∈ ms)
    {cs : List Char} (hs : Spells (.number n) cs)
    (hcs : '.' ∈ cs ∨ 'e' ∈ cs ∨ 'E' ∈ cs ∨ cs = ['-', '0']) :
    ∃ message, parse text = .error (.snapshot message) := by
  refine refuses nests ht fun hformat => ?_
  rw [hv] at hformat
  obtain ⟨hformat⟩ := hformat
  obtain ⟨format⟩ := hformat _ hitem
  obtain ⟨i, hi⟩ := format.number_text hk hm hs
  exact int_plain hi hcs

end

theorem reads_exactly_format {v : Json} {text : String} (nests : v.Nests 0)
    (ht : v.Text text.toList) :
    ((∃ tabs, parse text = .ok tabs) ↔ Format v) ∧
      (∀ tabs, parse text = .ok tabs ↔ Format v ∧ Holds v tabs) ∧
      (¬ Format v → ∃ message, parse text = .error (.snapshot message)) ∧
      (∀ v' (text' : String), v'.Text text'.toList →
        (Itemwise Json.Reorders v v' → ((∃ tabs, parse text' = .ok tabs) ↔ Format v)) ∧
          (Itemwise Json.SameByKey v v' →
            ∀ tabs, parse text = .ok tabs → parse text' = .ok tabs)) ∧
      ∀ items ms k n cs, v = .array items → .object ms ∈ items → k ∈ ["id", "windowId", "index"] →
        (k, .number n) ∈ ms → Spells (.number n) cs →
          '.' ∈ cs ∨ 'e' ∈ cs ∨ 'E' ∈ cs ∨ cs = ['-', '0'] →
            ∃ message, parse text = .error (.snapshot message) := by
  refine ⟨accepts_iff nests ht, fun tabs => parse_iff nests ht, refuses nests ht,
    fun v' text' ht' => ⟨accepts_reordered nests ht', fun h tabs => parse_sameByKey nests ht ht' h⟩,
    fun items ms k n cs hv hitem hk hm hs => refuses_number nests ht hv hitem hk hm hs⟩

def outermost : Members :=
  [("x", .bool true), ("windowId", .ofInt largestId), ("id", .ofInt smallestId), ("x", .null),
    ("index", .ofNat largestIndex), ("title", .null)]

def outermostTab : Tab :=
  { id := smallestId, windowId := largestId, index := largestIndex, extra := [("x", .null)] }

theorem nests_outermost : (Json.array [.object outermost]).Nests 0 := by
  refine .array (by decide) (List.forall_mem_singleton.mpr (.object (by decide) ?_))
  simp only [outermost, List.forall_mem_cons]
  exact ⟨.bool _ _, .number _ _, .number _ _, .null _, .number _ _, .null _,
    List.forall_mem_nil _⟩

theorem whole_outermost : (Json.array [.object outermost]).Numbers Number.Whole := by
  refine .array (List.forall_mem_singleton.mpr (.object ?_))
  simp only [outermost, List.forall_mem_cons]
  exact ⟨.bool _, forFields_whole.id _ ⟨by decide, by decide⟩,
    forFields_whole.id _ ⟨by decide, by decide⟩, .null, forFields_whole.index _ (Nat.le_refl _),
    .null, List.forall_mem_nil _⟩

theorem format_outermost : Tab.Format outermost :=
  ⟨⟨smallestId, ⟨by decide, by decide⟩, rfl⟩, ⟨largestId, ⟨by decide, by decide⟩, rfl⟩,
    ⟨largestIndex, Nat.le_refl _, rfl⟩, ⟨false, .absent⟩, ⟨none, .null⟩, ⟨none, .absent⟩⟩

theorem records_outermost : Tab.Records outermost outermostTab := by
  have hothers : Members.others Tab.fieldNames outermost = outermostTab.extra := rfl
  obtain ⟨order, extra⟩ := Members.others_eq_iff.mp hothers
  exact ⟨rfl, rfl, rfl, .absent, .null, .absent, order, extra⟩

theorem spells_fraction : ∃ x, Spells (.number (.float x)) ['1', '.', '0'] := by
  have digits (d : Char) (hd : Digit.isDecimal d = true) : Digits [d] :=
    ⟨List.cons_ne_nil d [], List.forall_mem_singleton.mpr hd⟩
  have parts : Number.Parts.Spells ⟨false, ['1'], some ['0'], none⟩ ['1', '.', '0'] :=
    .intro false (digits '1' (by decide)) (by simp) (.digits (digits '0' (by decide))) .absent
  exact ⟨_, .number parts fun _ _ => rfl⟩

theorem reads_exactly_format_outermost :
    parse (Json.array [.object outermost]).compact = .ok [outermostTab] ∧
      ∃ message, parse "[\x7b\"id\":1.0\x7d]" = .error (.snapshot message) := by
  constructor
  · refine ((reads_exactly_format nests_outermost whole_outermost.text).2.1 _).mpr
      ⟨.array ?_, .array ?_⟩
    · exact List.forall_mem_singleton.mpr (.object format_outermost)
    · exact .cons (.object records_outermost) .nil
  · obtain ⟨x, hx⟩ := spells_fraction
    have nests : (Json.array [.object [("id", .number (.float x))]]).Nests 0 :=
      .array (by decide) <| List.forall_mem_singleton.mpr <| .object (by decide) <|
        List.forall_mem_singleton.mpr (.number _ _)
    have key : Json.SpellsChars "id".toList ['i', 'd'] :=
      .plain (by decide) (by decide) (by decide) <| .plain (by decide) (by decide) (by decide) .nil
    have text : (Json.array [.object [("id", .number (.float x))]]).Text
        "[\x7b\"id\":1.0\x7d]".toList :=
      (Spells.array .nil <| .last (.object .nil <| .last key .nil .nil hx .nil) .nil).text
    obtain ⟨-, -, -, -, refused⟩ := reads_exactly_format nests text
    exact refused _ _ "id" _ _ rfl List.mem_cons_self List.mem_cons_self List.mem_cons_self hx
      (.inl (by decide))

end Snapshot

end TabSearch
