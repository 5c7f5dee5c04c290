import TabSearch.Proofs.Json.Field

namespace TabSearch

mutual

theorem Denotes.unique {n : Node} {v v' : Json} : Denotes n v → Denotes n v' → v = v'
  | .null _ _, .null _ _ => rfl
  | .bool _ _ _, .bool _ _ _ => rfl
  | .number _ _ _, .number _ _ _ => rfl
  | .string _ _ _, .string _ _ _ => rfl
  | .array _ _ h, .array _ _ h' => congrArg Json.array (h.unique h')
  | .object _ _ h, .object _ _ h' => congrArg Json.object (h.unique h')

theorem DenotesItems.unique {nodes : List Node} {items items' : List Json} :
    DenotesItems nodes items → DenotesItems nodes items' → items = items'
  | .nil, .nil => rfl
  | .cons h hs, .cons h' hs' => by rw [h.unique h', hs.unique hs']

theorem DenotesMembers.unique {nodes : List (Key × Node)} {ms ms' : List (String × Json)} :
    DenotesMembers nodes ms → DenotesMembers nodes ms' → ms = ms'
  | .nil, .nil => rfl
  | .cons _ _ h hs, .cons _ _ h' hs' => by rw [h.unique h', hs.unique hs']

end

mutual

theorem Denotes.numbers {P : Number → Prop} {n : Node} {v : Json} :
    Denotes n v → v.Numbers P → n.Numbers P
  | .null _ _, _ => .atom _ _ nofun
  | .bool _ _ _, _ => .atom _ _ nofun
  | .number _ _ m, .number h => .atom _ _ fun _ heq => by cases heq; exact h
  | .string _ _ _, _ => .atom _ _ nofun
  | .array _ _ h, .array hv => .array _ _ (h.numbers hv)
  | .object _ _ h, .object hv => .object _ _ (h.numbers hv)

theorem DenotesItems.numbers {P : Number → Prop} {nodes : List Node} {items : List Json} :
    DenotesItems nodes items → (∀ v ∈ items, v.Numbers P) → ∀ n ∈ nodes, n.Numbers P
  | .nil, _ => nofun
  | .cons h hs, hv => List.forall_mem_cons.mpr
      ⟨h.numbers (hv _ List.mem_cons_self), hs.numbers (List.forall_mem_cons.mp hv).2⟩

theorem DenotesMembers.numbers {P : Number → Prop} {nodes : List (Key × Node)}
    {ms : List (String × Json)} :
    DenotesMembers nodes ms → (∀ m ∈ ms, m.2.Numbers P) → ∀ m ∈ nodes, m.2.Numbers P
  | .nil, _ => nofun
  | .cons _ _ h hs, hv => List.forall_mem_cons.mpr
      ⟨h.numbers (hv _ List.mem_cons_self), hs.numbers (List.forall_mem_cons.mp hv).2⟩

end

theorem Json.Text.numbers {P : Number → Prop} {v : Json} {text : List Char} (h : v.Text text)
    (hv : v.Numbers P) : (Document.ofText text).root.Numbers P := h.denotes.1.numbers hv

namespace Node

mutual

def ofJson : Json → Node
  | .null => .atom 0 0 (.ok .null)
  | .bool b => .atom 0 0 (.ok (.bool b))
  | .number n => .atom 0 0 (.ok (.number n))
  | .string s => .atom 0 0 (.ok (.string s))
  | .array items => .array 0 (ofItems items) (.closed 0)
  | .object members => .object 0 (ofMembers members) (.closed 0)

def ofItems : List Json → List Node
  | [] => []
  | v :: rest => ofJson v :: ofItems rest

def ofMembers : List (String × Json) → List (Key × Node)
  | [] => []
  | (k, v) :: rest => (⟨.ok k, 0⟩, ofJson v) :: ofMembers rest

end

mutual

theorem denotes_ofJson : (v : Json) → Denotes (ofJson v) v
  | .null => .null 0 0
  | .bool b => .bool 0 0 b
  | .number n => .number 0 0 n
  | .string s => .string 0 0 s
  | .array items => .array 0 0 (denotes_ofItems items)
  | .object members => .object 0 0 (denotes_ofMembers members)

theorem denotes_ofItems : (items : List Json) → DenotesItems (ofItems items) items
  | [] => .nil
  | v :: rest => .cons (denotes_ofJson v) (denotes_ofItems rest)

theorem denotes_ofMembers :
    (members : List (String × Json)) → DenotesMembers (ofMembers members) members
  | [] => .nil
  | (k, v) :: rest => .cons k 0 (denotes_ofJson v) (denotes_ofMembers rest)

end

end Node

inductive Json.Reorders : Json → Json → Prop
  | object {ms ms' : List (String × Json)} (perm : ms.Perm ms') :
      Reorders (.object ms) (.object ms')

theorem Json.Reorders.refl (ms : List (String × Json)) : Reorders (.object ms) (.object ms) :=
  .object (.refl ms)

theorem Json.Reorders.nests {v v' : Json} (h : v.Reorders v') {depth : Nat}
    (hv : v.Nests depth) : v'.Nests depth := by
  cases h with
  | object perm =>
      cases hv with
      | object less hms => exact .object less fun m hm => hms m (perm.mem_iff.mpr hm)

theorem Json.Reorders.numbers {P : Number → Prop} {v v' : Json} (h : v.Reorders v')
    (hv : v.Numbers P) : v'.Numbers P := by
  cases h with
  | object perm =>
      cases hv with
      | object hms => exact .object fun m hm => hms m (perm.mem_iff.mpr hm)

theorem Json.Reorders.symm {v v' : Json} (h : v.Reorders v') : v'.Reorders v := by
  cases h with
  | object perm => exact .object perm.symm

inductive Json.SameByKey : Json → Json → Prop
  | object {ms ms' : Members} (same : ∀ k, Members.values k ms = Members.values k ms') :
      SameByKey (.object ms) (.object ms')

theorem Json.SameByKey.nests {v v' : Json} (h : v.SameByKey v') {depth : Nat}
    (hv : v.Nests depth) : v'.Nests depth := by
  cases h with
  | object same =>
      cases hv with
      | object less hms =>
          refine .object less fun m hm => hms m ?_
          rw [← Members.mem_values, same]
          exact Members.mem_values.mpr hm

def Json.read {α : Type} (reader : Node → Except Fault α) (v : Json) : Option α :=
  (reader (Node.ofJson v)).toOption

theorem toOption_eq_some {ε α : Type} {x : Except ε α} {a : α} :
    x.toOption = some a ↔ x = .ok a := by
  cases x <;> simp [Except.toOption]

namespace Node

def ByValue {α : Type} (reader : Node → Except Fault α) : Prop :=
  ∀ n v, Denotes n v → (reader n).toOption = v.read reader

theorem ByValue.eq_ok {α : Type} {reader : Node → Except Fault α} (h : ByValue reader) {n : Node}
    {v : Json} (hn : Denotes n v) {a : α} : reader n = .ok a ↔ v.read reader = some a := by
  rw [← toOption_eq_some, h n v hn]

theorem ByValue.readText_eq_ok {α : Type} {reader : Node → Except Fault α} (h : ByValue reader)
    {v : Json} {text : List Char} (ht : v.Text text) {a : α} :
    TabSearch.readText reader text = .ok a ↔ v.read reader = some a := by
  obtain ⟨hd, hend⟩ := ht.denotes
  rw [TabSearch.readText_eq_ok, h.eq_ok hd, and_iff_left hend]

theorem byValue_of_iff {α : Type} {reader : Node → Except Fault α} {P : Json → α → Prop}
    (h : ∀ n v, Denotes n v → ∀ a, reader n = .ok a ↔ P v a) : ByValue reader := by
  intro n v hn
  ext a
  rw [Json.read, toOption_eq_some, toOption_eq_some, h n v hn, h _ v (denotes_ofJson v)]

theorem byValue_readId : ByValue readId := by
  intro n v hn
  cases hn with
  | number start stop m =>
      cases m with
      | int i =>
          simp only [Json.read, ofJson, readId]
          split <;> rfl
      | float x => rfl
  | _ => rfl

theorem byValue_readIndex : ByValue readIndex := by
  intro n v hn
  cases hn with
  | number start stop m =>
      cases m with
      | int i =>
          simp only [Json.read, ofJson, readIndex]
          split <;> rfl
      | float x => rfl
  | _ => rfl

theorem byValue_readBool : ByValue readBool := by
  intro n v hn
  cases hn <;> rfl

theorem byValue_readText : ByValue readText := by
  intro n v hn
  cases hn <;> rfl

theorem byValue_readOptional {α : Type} {reader : Node → Except Fault α} (h : ByValue reader) :
    ByValue (readOptional reader) := by
  have hmap (x : Except Fault α) : (x.map some).toOption = x.toOption.map some := by
    cases x <;> rfl
  have hsome {n : Node} {v : Json} (hn : Denotes n v) :
      ((reader n).map some).toOption = ((reader (ofJson v)).map some).toOption := by
    rw [hmap, hmap, h n v hn, Json.read]
  intro n v hn
  cases hn with
  | null => rfl
  | bool start stop b => exact hsome (.bool start stop b)
  | number start stop m => exact hsome (.number start stop m)
  | string start stop s => exact hsome (.string start stop s)
  | array start stop hs => exact hsome (.array start stop hs)
  | object start stop hs => exact hsome (.object start stop hs)

theorem read_id {i : Int} (h : IsId i) : (Json.ofInt i).read readId = some i :=
  toOption_eq_some.mpr (if_pos h)

theorem read_index {i : Nat} (h : i ≤ largestIndex) : (Json.ofNat i).read readIndex = some i :=
  toOption_eq_some.mpr (if_pos ⟨Int.natCast_nonneg i, Int.ofNat_le.mpr h⟩)

theorem read_bool (b : Bool) : (Json.bool b).read readBool = some b := rfl

theorem read_text (s : String) : (Json.string s).read (readOptional readText) = some (some s) := rfl

theorem read_flag (b : Bool) : (Json.bool b).read (readOptional readBool) = some (some b) := rfl

theorem read_id_iff {v : Json} {i : Int} :
    v.read readId = some i ↔ IsId i ∧ v = .ofInt i := by
  constructor
  · rw [Json.read, toOption_eq_some]
    intro h
    refine ⟨isId_of_readId h, ?_⟩
    match v with
    | .number (.int j) =>
        rw [ofJson, readId] at h
        split at h <;> cases h
        rfl
  · rintro ⟨hi, rfl⟩
    exact read_id hi

theorem read_index_iff {v : Json} {i : Nat} :
    v.read readIndex = some i ↔ i ≤ largestIndex ∧ v = .ofNat i := by
  constructor
  · rw [Json.read, toOption_eq_some]
    intro h
    refine ⟨le_of_readIndex h, ?_⟩
    match v with
    | .number (.int j) =>
        rw [ofJson, readIndex] at h
        split at h
        next hj =>
          cases h
          rw [Json.ofNat, Int.toNat_of_nonneg hj.1]
        next => cases h
  · rintro ⟨hi, rfl⟩
    exact read_index hi

theorem read_bool_iff {v : Json} {b : Bool} : v.read readBool = some b ↔ v = .bool b := by
  constructor
  · intro h
    cases v with
    | bool c =>
        cases h
        rfl
    | _ => cases h
  · rintro rfl
    rfl

theorem read_text_iff {v : Json} {s : Option String} :
    v.read (readOptional readText) = some s ↔
      (v = .null ∧ s = none) ∨ ∃ text, v = .string text ∧ s = some text := by
  constructor
  · intro h
    cases v with
    | null =>
        cases h
        exact .inl ⟨rfl, rfl⟩
    | string text =>
        cases h
        exact .inr ⟨text, rfl, rfl⟩
    | _ => cases h
  · rintro (⟨rfl, rfl⟩ | ⟨text, rfl, rfl⟩)
    · rfl
    · rfl

mutual

theorem skip_denotes {n : Node} {v : Json} : Denotes n v → n.skip = .ok ()
  | .null _ _ | .bool _ _ _ | .number _ _ _ | .string _ _ _ => rfl
  | .array _ _ h => by
      rw [skip, skipAll_denotes h]
      rfl
  | .object _ _ h => by
      rw [skip, skipMembers_denotes h]
      rfl

theorem skipAll_denotes {nodes : List Node} {items : List Json} :
    DenotesItems nodes items → skipAll nodes = .ok ()
  | .nil => rfl
  | .cons h hs => by
      rw [skipAll, skip_denotes h, skipAll_denotes hs]
      rfl

theorem skipMembers_denotes {nodes : List (Key × Node)} {ms : List (String × Json)} :
    DenotesMembers nodes ms → skipMembers nodes = .ok ()
  | .nil => rfl
  | .cons _ _ h hs => by
      rw [skipMembers, skip_denotes h, skipMembers_denotes hs]
      rfl

end

theorem join_bind_read {α : Type} {encode : α → Json} {reader : Node → Except Fault (Option α)}
    (h : ∀ v, (encode v).read reader = some (some v)) (x : Option α) :
    ((x.map encode).bind fun v => v.read reader).join = x := by
  cases x with
  | none => rfl
  | some v => simp [h]

end Node

namespace Members

def slot {α : Type} (name : String) (reader : Node → Except Fault α) (ms : Members) : Option α :=
  (get? name ms).bind fun v => v.read reader

def others (names : List String) (ms : Members) : Members :=
  ofList ((ms.filter fun m => m.1 ∉ names).map fun m => (m.1, m.2.normal))

section

variable {α : Type} {reader : Node → Except Fault α} {name other : String} {ms ms' : Members}
  {v : Json}

@[simp]
theorem slot_insert_self (h : get? name (ms ++ ms') = none) :
    slot name reader (ms ++ (name, v) :: ms') = v.read reader := by
  rw [get?_append, Option.or_eq_none_iff] at h
  simp [slot, get?_append, h.1, get?]

@[simp]
theorem slot_insert_other (h : other ≠ name) :
    slot name reader (ms ++ (other, v) :: ms') = slot name reader (ms ++ ms') := by
  simp [slot, get?_append, get?, Ne.symm h]

@[simp]
theorem others_insert_known {names : List String} (h : other ∈ names) :
    others names (ms ++ (other, v) :: ms') = others names (ms ++ ms') := by
  simp [others, h]

theorem others_concat {names : List String} (h : other ∉ names) :
    others names (ms ++ [(other, v)]) = insert other v.normal (others names ms) := by
  simp [others, h, ofList_concat]

end

theorem get?_others (names : List String) (ms : Members) (k : String) :
    get? k (others names ms) =
      if k ∈ names then none else (values k ms).getLast?.map Json.normal := by
  have hvalues : values k ((ms.filter fun m => m.1 ∉ names).map fun m => (m.1, m.2.normal)) =
      if k ∈ names then [] else (values k ms).map Json.normal := by
    induction ms with
    | nil => simp [values]
    | cons m ms ih => grind [values]
  rw [others, get?_ofList, hvalues]
  split <;> simp

theorem others_eq_iff {names : List String} {ms extra : Members} :
    others names ms = extra ↔ Ordered extra ∧ ∀ k, get? k extra =
      if k ∈ names then none else (values k ms).getLast?.map Json.normal := by
  constructor
  · rintro rfl
    exact ⟨ordered_ofList _, get?_others names ms⟩
  · rintro ⟨order, hget⟩
    exact (ordered_ofList _).ext order fun k => by rw [hget, ← get?_others, others]

theorem slot_perm {α : Type} {names : List String} {ms ms' : Members} (h : Distinct names ms)
    (hp : ms.Perm ms') {name : String} (known : name ∈ names) (reader : Node → Except Fault α) :
    slot name reader ms = slot name reader ms' := by
  rw [slot, slot, get?_perm h hp known]

theorem others_perm {ms ms' : Members} (nodup : (ms.map Prod.fst).Nodup) (hp : ms.Perm ms')
    (names : List String) : others names ms = others names ms' := by
  refine ofList_perm ((hp.filter _).map _) ?_
  rw [List.map_map]
  exact (List.filter_sublist.map Prod.fst).nodup nodup

section

variable {P : Number → Prop} {names : List String} {depth : Nat} {given ms : Members}

theorem get?_foreign (foreign : ∀ m ∈ ms, m.1 ∉ names) {name : String} (known : name ∈ names) :
    get? name ms = none := by
  refine get?_eq_none.mpr fun hm => ?_
  obtain ⟨m, hmem, rfl⟩ := List.mem_map.mp hm
  exact foreign m hmem known

theorem get?_append_foreign (foreign : ∀ m ∈ ms, m.1 ∉ names) {name : String}
    (known : name ∈ names) (given : Members) : get? name (given ++ ms) = get? name given := by
  rw [get?_append, get?_foreign foreign known, Option.or_none]

theorem slot_append_foreign (foreign : ∀ m ∈ ms, m.1 ∉ names) {name : String}
    (known : name ∈ names) {α : Type} (reader : Node → Except Fault α) (given : Members) :
    slot name reader (given ++ ms) = slot name reader given := by
  rw [slot, slot, get?_append_foreign foreign known]

theorem Distinct.append_foreign (h : Distinct names given) (foreign : ∀ m ∈ ms, m.1 ∉ names) :
    Distinct names (given ++ ms) := by
  refine List.pairwise_append.mpr ⟨h, ?_, fun m _ n hn heq => heq ▸ foreign n hn⟩
  exact (List.pairwise_of_forall fun _ _ => trivial).imp_of_mem fun hm _ _ _ => foreign _ hm

theorem Extra.nodup_append (h : Extra P names depth ms) (nodup : names.Nodup)
    (known : (given.map Prod.fst).Sublist names) : ((given ++ ms).map Prod.fst).Nodup := by
  rw [List.map_append]
  refine (known.nodup nodup).append h.ordered.nodup_keys fun k hk hm => ?_
  obtain ⟨m, hmem, rfl⟩ := List.mem_map.mp hm
  exact h.foreign m hmem (known.subset hk)

theorem Extra.others_append (h : Extra P names depth ms)
    (known : (given.map Prod.fst).Sublist names) : others names (given ++ ms) = ms := by
  have hgiven : given.filter (fun m => m.1 ∉ names) = [] := by
    simp only [List.filter_eq_nil_iff, decide_not, Bool.not_eq_true', decide_eq_false_iff_not,
      not_not]
    exact fun m hm => known.subset (List.mem_map_of_mem hm)
  have hextra : ms.filter (fun m => m.1 ∉ names) = ms := by
    simpa only [List.filter_eq_self, decide_eq_true_eq] using h.foreign
  have hnormal : ms.map (fun m => (m.1, m.2.normal)) = ms := by
    conv_rhs => rw [← List.map_id ms]
    exact List.map_congr_left fun m hm => Prod.ext rfl (h.kept m hm).ordered.normal_eq
  rw [others, List.filter_append, hgiven, hextra, List.nil_append, hnormal,
    ofList_ordered h.ordered]

end

section

variable {α : Type} {name other : String} {encode : α → Json} {x : Option α}

theorem optionalMember_sublist :
    ((optionalMember name encode x).map Prod.fst).Sublist [name] := by
  cases x with
  | none => exact List.nil_sublist [name]
  | some v => exact .refl [name]

@[simp]
theorem get?_optionalMember_self : get? name (optionalMember name encode x) = x.map encode := by
  cases x <;> simp [optionalMember, get?]

@[simp]
theorem get?_optionalMember_other (h : other ≠ name) :
    get? other (optionalMember name encode x) = none := by
  cases x <;> simp [optionalMember, get?, h]

end

structure Valid (names : List String) (fits : String → Json → Prop) (ms : Members) : Prop where
  fits : ∀ m ∈ ms, fits m.1 m.2
  distinct : Distinct names ms

section

variable {names : List String} {fits : String → Json → Prop} {ms ms' : Members}

theorem Valid.nil : Valid names fits [] := ⟨List.forall_mem_nil _, .nil⟩

theorem Valid.left (h : Valid names fits (ms ++ ms')) : Valid names fits ms :=
  ⟨(List.forall_mem_append.mp h.fits).1, (List.pairwise_append.mp h.distinct).1⟩

theorem valid_concat {m : String × Json} : Valid names fits (ms ++ [m]) ↔
    Valid names fits ms ∧ fits m.1 m.2 ∧ (m.1 ∈ names → get? m.1 ms = none) := by
  constructor
  · intro h
    have hfits := (List.forall_mem_append.mp h.fits).2
    exact ⟨h.left, hfits m List.mem_cons_self, (distinct_concat.mp h.distinct).2⟩
  · rintro ⟨⟨hfits, hdistinct⟩, hm, hfresh⟩
    exact ⟨List.forall_mem_append.mpr ⟨hfits, List.forall_mem_singleton.mpr hm⟩,
      distinct_concat.mpr ⟨hdistinct, hfresh⟩⟩

theorem Valid.perm (h : Valid names fits ms) (hp : ms.Perm ms') : Valid names fits ms' :=
  ⟨fun m hm => h.fits m (hp.mem_iff.mpr hm), h.distinct.perm hp⟩

theorem valid_insert {m : String × Json} : Valid names fits (ms ++ m :: ms') ↔
    Valid names fits (ms ++ ms') ∧ fits m.1 m.2 ∧
      (m.1 ∈ names → get? m.1 (ms ++ ms') = none) := by
  have hp : (ms ++ m :: ms').Perm (ms ++ ms' ++ [m]) :=
    List.perm_middle.trans (List.perm_append_singleton m (ms ++ ms')).symm
  rw [← valid_concat]
  exact ⟨fun h => h.perm hp, fun h => h.perm hp.symm⟩

theorem valid_iff_values : Valid names fits ms ↔
    (∀ k ∈ names, (values k ms).length ≤ 1 ∧ ∀ v ∈ values k ms, fits k v) ∧
      ∀ m ∈ ms, m.1 ∉ names → fits m.1 m.2 := by
  simp only [mem_values]
  constructor
  · rintro ⟨hfits, hdistinct⟩
    exact ⟨fun k hk => ⟨distinct_iff_values.mp hdistinct k hk, fun v hv => hfits (k, v) hv⟩,
      fun m hm _ => hfits m hm⟩
  · rintro ⟨known, foreign⟩
    refine ⟨fun m hm => ?_, distinct_iff_values.mpr fun k hk => (known k hk).1⟩
    by_cases hk : m.1 ∈ names
    · exact (known m.1 hk).2 m.2 hm
    · exact foreign m hm hk

end

inductive Takes {α : Type} (reader : Node → Except Fault α) : List Json → Option α → Prop
  | absent : Takes reader [] none
  | once {v : Json} {a : α} (h : v.read reader = some a) : Takes reader [v] (some a)

theorem takes_iff_slot {α : Type} {reader : Node → Except Fault α} {name : String} {ms : Members}
    {x : Option α} : Takes reader (values name ms) x ↔
      ((values name ms).length ≤ 1 ∧ ∀ v ∈ values name ms, (v.read reader).isSome) ∧
        slot name reader ms = x := by
  rw [slot, get?_eq_head?]
  generalize values name ms = vs
  constructor
  · rintro (_ | h)
    · exact ⟨⟨Nat.zero_le 1, List.forall_mem_nil _⟩, rfl⟩
    · exact ⟨⟨Nat.le_refl 1, List.forall_mem_singleton.mpr (Option.isSome_of_eq_some h)⟩, h⟩
  · rintro ⟨⟨hlength, hread⟩, rfl⟩
    match vs with
    | [] => exact .absent
    | [v] =>
        obtain ⟨a, ha⟩ := Option.isSome_iff_exists.mp (hread v List.mem_cons_self)
        rw [List.head?_cons, Option.bind_some, ha]
        exact .once ha
    | _ :: _ :: _ => simp at hlength

end Members

namespace Node

section

variable {σ : Type} {step : σ → String → Key → Node → Except Fault σ} {names : List String}
  {fits : String → Json → Prop} {state : Members → σ} {ms : Members}

def Tracks (step : σ → String → Key → Node → Except Fault σ) (names : List String)
    (fits : String → Json → Prop) (state : Members → σ) : Prop :=
  ∀ ms name v key n s, Members.Valid names fits ms → Denotes n v →
    (step (state ms) name key n = .ok s ↔
      Members.Valid names fits (ms ++ [(name, v)]) ∧ s = state (ms ++ [(name, v)]))

theorem once_tracks {α : Type} {reader : Node → Except Fault α} (hr : ByValue reader)
    {name : String} (known : name ∈ names) (hfits : ∀ v, fits name v ↔ (v.read reader).isSome)
    (hms : Members.Valid names fits ms) {v : Json} {n : Node} (hn : Denotes n v)
    {put : Option α → σ}
    (hput : Members.get? name ms = none → put (v.read reader) = state (ms ++ [(name, v)]))
    (key : Key) (s : σ) :
    (once (Members.slot name reader ms) name key (reader n) >>= fun x => .ok (put x)) = .ok s ↔
      Members.Valid names fits (ms ++ [(name, v)]) ∧ s = state (ms ++ [(name, v)]) := by
  simp only [Members.valid_concat, hms, known, hfits, true_and, forall_const]
  -- A second member of the name is a fault, whatever it holds.
  cases hg : Members.get? name ms with
  | some u =>
      have hu : (u.read reader).isSome := (hfits u).mp (hms.fits _ (Members.mem_of_get? hg))
      obtain ⟨a, ha⟩ := Option.isSome_iff_exists.mp hu
      have hslot : Members.slot name reader ms = some a := by simp [Members.slot, hg, ha]
      rw [hslot]
      simp [once, bind, Except.bind]
  | none =>
      have hslot : Members.slot name reader ms = none := by simp [Members.slot, hg]
      rw [hslot, ← hput hg, ← hr n v hn]
      cases hread : reader n with
      | error f => simp [once, bind, Except.bind, Except.map, Except.toOption]
      | ok a => simp [once, bind, Except.bind, Except.map, Except.toOption, eq_comm]

theorem other_tracks {β : Type} {name : String} (foreign : name ∉ names)
    (hms : Members.Valid names fits ms) {v : Json} {x : Except Fault β} {b : β}
    (hx : ∀ b', x = .ok b' ↔ fits name v ∧ b' = b) {put : β → σ}
    (hput : put b = state (ms ++ [(name, v)])) (s : σ) :
    (x >>= fun b => .ok (put b)) = .ok s ↔
      Members.Valid names fits (ms ++ [(name, v)]) ∧ s = state (ms ++ [(name, v)]) := by
  simp only [Members.valid_concat, hms, foreign, false_imp_iff, and_true, true_and, bind_eq_ok, hx,
    ← hput]
  constructor
  · rintro ⟨_, ⟨hv, rfl⟩, hs⟩
    exact ⟨hv, (Except.ok.inj hs).symm⟩
  · rintro ⟨hv, rfl⟩
    exact ⟨_, ⟨hv, rfl⟩, rfl⟩

theorem Tracks.fold_from (h : Tracks step names fits state) {nodes : List (Key × Node)}
    {given : Members} (hn : DenotesMembers nodes ms) (hgiven : Members.Valid names fits given)
    (s : σ) :
    foldMembers step (state given) nodes = .ok s ↔
      Members.Valid names fits (given ++ ms) ∧ s = state (given ++ ms) := by
  -- On the members to come; those that went before are valid, so the step law applies to each.
  induction ms generalizing nodes given with
  | nil =>
      cases hn
      simp [foldMembers, hgiven, eq_comm]
  | cons m ms ih =>
      cases hn with
      | @cons k resume n v nodes ms hd hs =>
          have hcons : given ++ (k, v) :: ms = given ++ [(k, v)] ++ ms := by simp
          have hstep := fun s => h given k v ⟨.ok k, resume⟩ n s hgiven hd
          rw [foldMembers, hcons]
          change (step (state given) k ⟨.ok k, resume⟩ n >>= fun s => foldMembers step s nodes) =
            .ok s ↔ _
          simp only [bind_eq_ok, hstep]
          constructor
          · rintro ⟨_, ⟨hvalid, rfl⟩, hfold⟩
            exact (ih hs hvalid).mp hfold
          · rintro ⟨hvalid, rfl⟩
            exact ⟨_, ⟨hvalid.left, rfl⟩, (ih hs hvalid.left).mpr ⟨hvalid, rfl⟩⟩

theorem Tracks.fold (h : Tracks step names fits state) {nodes : List (Key × Node)}
    (hn : DenotesMembers nodes ms) (s : σ) :
    foldMembers step (state []) nodes = .ok s ↔ Members.Valid names fits ms ∧ s = state ms :=
  h.fold_from hn .nil s

theorem Tracks.object_eq_ok (h : Tracks step names fits state) {nodes : List (Key × Node)}
    (hn : DenotesMembers nodes ms) (stop : Nat) {α : Type} (finish : σ → Nat → Except Fault α)
    (a : α) :
    (foldMembers step (state []) nodes >>= fun s =>
        Ending.check (.closed stop) >>= fun stop => finish s stop) = .ok a ↔
      Members.Valid names fits ms ∧ finish (state ms) stop = .ok a := by
  rw [bind_eq_ok]
  constructor
  · rintro ⟨s, hs, hfinish⟩
    obtain ⟨valid, rfl⟩ := (h.fold hn s).mp hs
    exact ⟨valid, hfinish⟩
  · rintro ⟨valid, hfinish⟩
    exact ⟨_, (h.fold hn _).mpr ⟨valid, rfl⟩, hfinish⟩

end

end Node

end TabSearch
