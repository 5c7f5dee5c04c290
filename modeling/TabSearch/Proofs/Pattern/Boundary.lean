import TabSearch.Pattern.Program
import TabSearch.Text.Bytes

namespace TabSearch.Pattern

variable {P : Nat → Prop}

theorem reach_starts (p : Pattern) (place : Place) (fuel : Nat) {stack reached : List Thread}
    (hs : ∀ t ∈ stack, P t.start) (hr : ∀ t ∈ reached, P t.start) (seen : Array Bool) :
    ∀ t ∈ reach p place fuel stack seen reached, P t.start := by
  induction fuel generalizing stack seen reached with
  | zero => exact hr
  | succ fuel ih =>
      cases stack with
      | nil => exact hr
      | cons t stack =>
          have ht : P t.start := hs t (by simp)
          have hrest : ∀ u ∈ stack, P u.start := fun u hu => hs u (by simp [hu])
          rw [reach]
          split
          · exact ih hrest hr seen
          · dsimp only
            split
            · refine ih ?_ hr _
              simp only [List.forall_mem_cons]
              exact ⟨ht, ht, hrest⟩
            · split
              · refine ih ?_ hr _
                exact List.forall_mem_cons.mpr ⟨ht, hrest⟩
              · exact ih hrest hr _
            · exact ih hrest (List.forall_mem_cons.mpr ⟨ht, hr⟩) _

theorem threadsAt_starts (p : Pattern) (place : Place) {roots : List Thread}
    (h : ∀ t ∈ roots, P t.start) : ∀ t ∈ p.threadsAt place roots, P t.start := by
  intro t ht
  exact reach_starts p place _ h (by simp) _ t (List.mem_reverse.mp ht)

theorem untilDone_starts (p : Pattern) {threads : List Thread} (h : ∀ t ∈ threads, P t.start) :
    (∀ t ∈ (p.untilDone threads).1, P t.start) ∧ ∀ t ∈ (p.untilDone threads).2, P t.start := by
  induction threads with
  | nil => simp [untilDone]
  | cons t rest ih =>
      obtain ⟨ht, hrest⟩ := List.forall_mem_cons.mp h
      obtain ⟨hbefore, hdone⟩ := ih hrest
      rw [untilDone]
      split
      · exact ⟨by simp, by simpa using ht⟩
      · exact ⟨List.forall_mem_cons.mpr ⟨ht, hbefore⟩, hdone⟩

theorem consume_starts (p : Pattern) (c : Char) {threads : List Thread}
    (h : ∀ t ∈ threads, P t.start) : ∀ t ∈ p.consume c threads, P t.start := by
  intro t ht
  obtain ⟨u, hu, he⟩ := List.mem_filterMap.mp ht
  have hstart : t.start = u.start := by
    split at he
    · split at he
      · obtain rfl := Option.some.inj he
        rfl
      · cases he
    · cases he
  exact hstart ▸ h u hu

def IsBoundary (text : List Char) (n : Nat) : Prop :=
  ∃ before after, text = before ++ after ∧ n = byteCount before

def IsPart (text : List Char) (m : Nat × Nat) : Prop :=
  ∃ before part after, text = before ++ (part ++ after) ∧ m.1 = byteCount before ∧
    m.2 = byteCount before + byteCount part

-- of two beginnings of a text the one with fewer bytes is a beginning of the other
theorem prefix_of_byteCount_le {s t text : List Char} (hs : s <+: text) (ht : t <+: text)
    (h : byteCount s ≤ byteCount t) : s <+: t := by
  rcases List.prefix_or_prefix_of_prefix hs ht with hst | ⟨more, rfl⟩
  · exact hst
  · rw [byteCount_append] at h
    have hmore : more = [] := byteCount_eq_zero.mp (by omega)
    simp [hmore]

theorem isPart_iff {text : List Char} {b e : Nat} :
    IsPart text (b, e) ↔ IsBoundary text b ∧ IsBoundary text e ∧ b ≤ e := by
  constructor
  · rintro ⟨before, part, after, rfl, rfl, rfl⟩
    refine ⟨⟨before, part ++ after, rfl, rfl⟩, ?_, Nat.le_add_right _ _⟩
    exact ⟨before ++ part, after, (List.append_assoc _ _ _).symm, (byteCount_append _ _).symm⟩
  · rintro ⟨⟨before, rest, hbefore, rfl⟩, ⟨whole, after, hwhole, rfl⟩, hle⟩
    obtain ⟨part, rfl⟩ := prefix_of_byteCount_le ⟨rest, hbefore.symm⟩ ⟨after, hwhole.symm⟩ hle
    exact ⟨before, part, after, by rw [hwhole, List.append_assoc], rfl, byteCount_append _ _⟩

theorem IsBoundary.append {text : List Char} {n : Nat} (h : IsBoundary text n) (more : List Char) :
    IsBoundary (text ++ more) n := by
  obtain ⟨before, after, rfl, rfl⟩ := h
  exact ⟨before, after ++ more, List.append_assoc _ _ _, rfl⟩

theorem isBoundary_byteCount (text : List Char) : IsBoundary text (byteCount text) :=
  ⟨text, [], (List.append_nil text).symm, rfl⟩

theorem IsBoundary.isPart {text : List Char} {n : Nat} (h : IsBoundary text n)
    (rest : List Char) : IsPart (text ++ rest) (n, byteCount text) := by
  obtain ⟨before, after, rfl, rfl⟩ := h
  exact ⟨before, after, rest, List.append_assoc _ _ _, rfl, byteCount_append _ _⟩

theorem step_parts (p : Pattern) (before after : Option Char) {seen rest : List Char}
    {roots : List Thread} {found : Option (Nat × Nat)}
    (hroots : ∀ t ∈ roots, IsBoundary seen t.start) (hfound : ∀ m ∈ found, IsPart (seen ++ rest) m) :
    (∀ t ∈ (searchFrom.step p before (byteCount seen) roots found after).1,
      IsBoundary seen t.start) ∧
    ∀ m ∈ (searchFrom.step p before (byteCount seen) roots found after).2,
      IsPart (seen ++ rest) m := by
  have hall : ∀ t ∈ (if found.isNone then roots ++ [⟨p.start, byteCount seen⟩] else roots),
      IsBoundary seen t.start := by
    split
    · simp only [List.forall_mem_append, List.forall_mem_singleton]
      exact ⟨hroots, isBoundary_byteCount seen⟩
    · exact hroots
  obtain ⟨hthreads, hdone⟩ := untilDone_starts p (threadsAt_starts p ⟨before, after⟩ hall)
  rw [searchFrom.step]
  generalize p.untilDone _ = reached at hthreads hdone ⊢
  obtain ⟨threads, done⟩ := reached
  cases done with
  | some t =>
      refine ⟨hthreads, fun m hm => ?_⟩
      obtain rfl := Option.some.inj hm
      exact (hdone t rfl).isPart rest
  | none => exact ⟨hthreads, hfound⟩

theorem searchFrom_parts (p : Pattern) (before : Option Char) {seen rest : List Char}
    {roots : List Thread} {found : Option (Nat × Nat)}
    (hroots : ∀ t ∈ roots, IsBoundary seen t.start) (hfound : ∀ m ∈ found, IsPart (seen ++ rest) m) :
    ∀ m ∈ p.searchFrom before (byteCount seen) roots found rest, IsPart (seen ++ rest) m := by
  induction rest generalizing before seen roots found with
  | nil =>
      rw [searchFrom, searchFrom.visit]
      exact (step_parts p before none hroots hfound).2
  | cons c rest ih =>
      obtain ⟨hthreads, hbest⟩ := step_parts p before (some c) hroots hfound
      have hseen : byteCount (seen ++ [c]) = byteCount seen + c.utf8Size := by
        simp [byteCount_append, byteCount]
      have hsplit : seen ++ c :: rest = (seen ++ [c]) ++ rest := by simp
      rw [searchFrom, ← hseen]
      rw [hsplit] at hbest ⊢
      refine ih _ (fun t ht => ?_) hbest
      exact (consume_starts p c hthreads t ht).append [c]

theorem find?_isPart {p : Pattern} {text : List Char} {m : Nat × Nat} (h : p.find? text = some m) :
    IsPart text m := by
  have hroots : ∀ t ∈ ([] : List Thread), IsBoundary [] t.start := by simp
  have hfound : ∀ n ∈ (none : Option (Nat × Nat)), IsPart ([] ++ text) n := by simp
  exact searchFrom_parts p none hroots hfound m h

end TabSearch.Pattern
