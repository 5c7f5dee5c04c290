import Mathlib.Data.List.Induction
import Mathlib.Data.List.TakeDrop
import TabSearch.Json.Literal
import TabSearch.Json.Printer

namespace TabSearch

theorem isDecimal_of_isDigit {c : Char} (h : c.isDigit = true) : Digit.isDecimal c = true := by
  simpa [Digit.isDecimal, Char.isDigit, Char.le_def] using h

theorem digit_value {c : Char} (h : Digit.isDecimal c = true) :
    Digit.value c = c.toNat - '0'.toNat := by
  have hc : '0' ≤ c ∧ c ≤ '9' := by simpa [Digit.isDecimal] using h
  simp [Digit.value, Digit.value?, hc]

theorem toDigits_isDecimal (n : Nat) : ∀ c ∈ Nat.toDigits 10 n, Digit.isDecimal c = true :=
  fun _ hc => isDecimal_of_isDigit (Nat.isDigit_of_mem_toDigits (by decide) (by decide) hc)

theorem number_toDigits (n : Nat) : Digit.number 10 (Nat.toDigits 10 n) = n := by
  have h (ds : List Char) (hd : ∀ c ∈ ds, Digit.isDecimal c = true) (k : Nat) :
      ds.foldl (fun n d => 10 * n + Digit.value d) k = Nat.ofDigitChars 10 ds k := by
    induction ds generalizing k with
    | nil => rfl
    | cons d ds ih =>
        rw [List.foldl_cons, ih (fun c hc => hd c (by simp [hc])), Nat.ofDigitChars_cons,
          digit_value (hd d (by simp))]
  rw [Digit.number, h _ (toDigits_isDecimal n), Nat.ofDigitChars_ten_toDigits]

theorem toDigits_head {n : Nat} (h : 0 < n) :
    ∃ d ds, Nat.toDigits 10 n = d :: ds ∧ d ≠ '0' := by
  induction n using Nat.strongRecOn with
  | ind n ih =>
      by_cases hn : n < 10
      · have hd : ∀ k < 10, 0 < k → k.digitChar ≠ '0' := by decide
        exact ⟨_, [], Nat.toDigits_of_lt_base hn, hd n hn h⟩
      · obtain ⟨d, ds, he, hd⟩ := ih (n / 10) (by omega) (by omega)
        rw [Nat.toDigits_of_base_le (by decide) (by omega), he]
        exact ⟨d, _, rfl, hd⟩

def Digits (ds : List Char) : Prop := ds ≠ [] ∧ ∀ c ∈ ds, Digit.isDecimal c = true

theorem digits_toDigits (n : Nat) : Digits (Nat.toDigits 10 n) :=
  ⟨Nat.toDigits_ne_nil, toDigits_isDecimal n⟩

def EndsNumber (rest : List Char) : Prop :=
  ∀ c ∈ rest.head?, Digit.isDecimal c = false ∧ c ≠ '.' ∧ c ≠ 'e' ∧ c ≠ 'E'

def EndsDigits (rest : List Char) : Prop := ∀ c ∈ rest.head?, Digit.isDecimal c = false

theorem EndsNumber.digits {rest : List Char} (h : EndsNumber rest) : EndsDigits rest :=
  fun c hc => (h c hc).1

theorem endsDigits_cons {c : Char} (h : Digit.isDecimal c = false) (rest : List Char) :
    EndsDigits (c :: rest) := by
  rintro d ⟨⟩
  exact h

theorem spanDigits_append {ds rest : List Char} (hd : ∀ c ∈ ds, Digit.isDecimal c = true)
    (hr : EndsDigits rest) : Number.spanDigits (ds ++ rest) = (ds, rest) := by
  rw [Number.spanDigits, List.span_eq_takeWhile_dropWhile, List.takeWhile_append_of_pos hd,
    List.dropWhile_append_of_pos hd]
  cases rest with
  | nil => simp
  | cons c rest =>
      have hc : Digit.isDecimal c = false := hr c rfl
      simp [hc]

namespace Number

inductive SpellsFraction : Option (List Char) → List Char → Prop
  | absent : SpellsFraction none []
  | digits {ds : List Char} (hd : Digits ds) : SpellsFraction (some ds) ('.' :: ds)

inductive SpellsExponent : Option (Bool × List Char) → List Char → Prop
  | absent : SpellsExponent none []
  | plain {mark : Char} {ds : List Char} (hm : mark = 'e' ∨ mark = 'E') (hd : Digits ds) :
      SpellsExponent (some (true, ds)) (mark :: ds)
  | signed {mark : Char} {ds : List Char} (positive : Bool) (hm : mark = 'e' ∨ mark = 'E')
      (hd : Digits ds) :
      SpellsExponent (some (positive, ds)) (mark :: (if positive then '+' else '-') :: ds)

inductive Parts.Spells : Parts → List Char → Prop
  | intro (negative : Bool) {whole fs es : List Char} {fraction : Option (List Char)}
      {exponent : Option (Bool × List Char)} (hw : Digits whole)
      (hz : ∀ c ds, whole ≠ '0' :: c :: ds) (hf : SpellsFraction fraction fs)
      (he : SpellsExponent exponent es) :
      Spells ⟨negative, whole, fraction, exponent⟩
        ((if negative then ['-'] else []) ++ (whole ++ (fs ++ es)))

def ReadsParts (r : Reading Number) (p : Parts) (rest : List Char) : Prop :=
  ∃ start stop next, r = .read (p.number start stop) ⟨next, rest⟩

theorem readExponent_digits (p : Parts) {ds rest : List Char} (hd : Digits ds)
    (hr : EndsNumber rest) (offset : Nat) :
    ReadsParts (readExponent p offset (ds ++ rest)) { p with exponent := some (true, ds) } rest := by
  obtain ⟨hne, hdec⟩ := hd
  obtain ⟨d, ds, rfl⟩ := List.exists_cons_of_ne_nil hne
  have hspan := spanDigits_append hdec hr.digits
  have hsign : d ≠ '+' ∧ d ≠ '-' := by
    constructor <;> rintro rfl <;> have := hdec _ List.mem_cons_self <;> revert this <;> decide
  rw [List.cons_append] at hspan ⊢
  refine ⟨offset, offset + (d :: ds).length, offset + (d :: ds).length, ?_⟩
  simp [readExponent, hspan, hsign]

theorem readExponent_signed (p : Parts) (positive : Bool) {ds rest : List Char} (hd : Digits ds)
    (hr : EndsNumber rest) (offset : Nat) :
    ReadsParts (readExponent p offset ((if positive then '+' else '-') :: (ds ++ rest)))
      { p with exponent := some (positive, ds) } rest := by
  obtain ⟨hne, hdec⟩ := hd
  obtain ⟨d, ds, rfl⟩ := List.exists_cons_of_ne_nil hne
  have hspan := spanDigits_append hdec hr.digits
  rw [List.cons_append] at hspan ⊢
  refine ⟨offset + 1, offset + 1 + (d :: ds).length, offset + 1 + (d :: ds).length, ?_⟩
  cases positive <;> simp [readExponent, hspan]

theorem readAfterFraction_spelled {p : Parts} {exponent : Option (Bool × List Char)}
    {es rest : List Char} (he : SpellsExponent exponent es) (hr : EndsNumber rest)
    (hp : p.exponent = none) (offset : Nat) :
    ReadsParts (readAfterFraction p offset (es ++ rest)) { p with exponent := exponent } rest := by
  cases he with
  | absent =>
      refine ⟨offset, offset, offset, ?_⟩
      rw [← hp]
      cases rest with
      | nil => rfl
      | cons c rest =>
          obtain ⟨_, _, he, hE⟩ := hr c rfl
          simp [readAfterFraction, he, hE]
  | plain hm hd =>
      have h := readExponent_digits p hd hr (offset + 1)
      rcases hm with rfl | rfl <;> exact h
  | signed positive hm hd =>
      have h := readExponent_signed p positive hd hr (offset + 1)
      rcases hm with rfl | rfl <;> exact h

theorem SpellsExponent.head {exponent : Option (Bool × List Char)} {es rest : List Char}
    (he : SpellsExponent exponent es) (hr : EndsNumber rest) :
    ∀ c ∈ (es ++ rest).head?, Digit.isDecimal c = false ∧ c ≠ '.' := by
  cases he with
  | absent => exact fun c hc => ⟨(hr c hc).1, (hr c hc).2.1⟩
  | plain hm hd =>
      rintro c ⟨⟩
      rcases hm with rfl | rfl <;> decide
  | signed positive hm hd =>
      rintro c ⟨⟩
      rcases hm with rfl | rfl <;> decide

theorem readAfterWhole_spelled {p : Parts} {fraction : Option (List Char)}
    {exponent : Option (Bool × List Char)} {fs es rest : List Char}
    (hf : SpellsFraction fraction fs) (he : SpellsExponent exponent es) (hr : EndsNumber rest)
    (hpf : p.fraction = none) (hpe : p.exponent = none) (offset : Nat) :
    ReadsParts (readAfterWhole p offset (fs ++ (es ++ rest)))
      { p with fraction := fraction, exponent := exponent } rest := by
  have hhead := he.head hr
  cases hf with
  | absent =>
      have h := readAfterFraction_spelled he hr hpe offset
      rw [← hpf]
      rw [readAfterWhole.eq_def]
      split
      next more hdot =>
        exact absurd rfl (hhead '.' (by rw [← List.nil_append (es ++ rest), hdot]; rfl)).2
      next => exact h
  | @digits ds hd =>
      obtain ⟨hne, hdec⟩ := hd
      have hspan := spanDigits_append hdec fun c hc => (hhead c hc).1
      have h := readAfterFraction_spelled (p := { p with fraction := some ds }) he hr hpe
        (offset + 1 + ds.length)
      obtain ⟨d, ds, rfl⟩ := List.exists_cons_of_ne_nil hne
      rw [List.cons_append, readAfterWhole]
      simp only [hspan]
      exact h

theorem SpellsFraction.head {fraction : Option (List Char)} {fs rest : List Char}
    (hf : SpellsFraction fraction fs) (hr : EndsDigits rest) : EndsDigits (fs ++ rest) := by
  cases hf with
  | absent => exact hr
  | digits hd => exact endsDigits_cons (by decide) _

theorem read_spelled {p : Parts} {cs rest : List Char} (h : p.Spells cs) (hr : EndsNumber rest)
    (offset : Nat) : ReadsParts (read ⟨offset, cs ++ rest⟩) p rest := by
  cases h with
  | @intro negative whole fs es fraction exponent hw hz hf he =>
      obtain ⟨hne, hdec⟩ := hw
      have hends : EndsDigits (fs ++ (es ++ rest)) := hf.head fun c hc => (he.head hr c hc).1
      have hspan := spanDigits_append hdec hends
      have hdigits (offset : Nat) :
          ReadsParts (readDigits negative offset (whole ++ (fs ++ (es ++ rest))))
            ⟨negative, whole, fraction, exponent⟩ rest := by
        have h := readAfterWhole_spelled (p := ⟨negative, whole, none, none⟩) hf he hr rfl rfl
          (offset + whole.length)
        rw [readDigits, hspan]
        dsimp only
        split
        · exact absurd rfl hne
        · exact absurd rfl hne
        next c ds => exact absurd rfl (hz c ds)
        · exact h
      simp only [List.append_assoc]
      cases negative with
      | true => exact hdigits (offset + 1)
      | false =>
          obtain ⟨d, ds, rfl⟩ := List.exists_cons_of_ne_nil hne
          have hd : d ≠ '-' := by
            rintro rfl
            have := hdec '-' List.mem_cons_self
            revert this
            decide
          have h := hdigits offset
          simpa [read, hd] using h

def InRange (i : Int) : Prop := smallestInteger ≤ i ∧ i ≤ largestNatural

end Number

theorem toList_ofNat (n : Nat) : (toString (Int.ofNat n)).toList = Nat.toDigits 10 n :=
  Nat.toList_repr

theorem toList_negSucc (n : Nat) :
    (toString (Int.negSucc n)).toList = '-' :: Nat.toDigits 10 (n + 1) := by
  change ("-" ++ Nat.repr (n + 1)).toList = _
  rw [String.toList_append, Nat.toList_repr]
  rfl

theorem mem_int {i : Int} {c : Char} (h : c ∈ (toString i).toList) :
    c = '-' ∨ Digit.isDecimal c = true := by
  cases i with
  | ofNat n =>
      rw [toList_ofNat] at h
      exact .inr (toDigits_isDecimal n c h)
  | negSucc n =>
      rw [toList_negSucc] at h
      exact (List.mem_cons.mp h).imp_right (toDigits_isDecimal (n + 1) c)

theorem toDigits_no_zero (n : Nat) (c : Char) (ds : List Char) :
    Nat.toDigits 10 n ≠ '0' :: c :: ds := by
  intro h
  by_cases hn : 0 < n
  · obtain ⟨d, rest, he, hd⟩ := toDigits_head hn
    rw [he] at h
    exact hd (List.cons.inj h).1
  · obtain rfl : n = 0 := by omega
    cases h

theorem int_plain {i : Int} {cs : List Char} (h : cs = (toString i).toList) :
    ¬ ('.' ∈ cs ∨ 'e' ∈ cs ∨ 'E' ∈ cs ∨ cs = ['-', '0']) := by
  have hchar {c : Char} (hc : ¬ (c = '-' ∨ Digit.isDecimal c = true)) : c ∉ cs :=
    fun hmem => hc (mem_int (h ▸ hmem))
  rintro (hmem | hmem | hmem | hzero)
  · exact hchar (by decide) hmem
  · exact hchar (by decide) hmem
  · exact hchar (by decide) hmem
  · rw [h] at hzero
    cases i with
    | ofNat n =>
        rw [toList_ofNat] at hzero
        have hminus := toDigits_isDecimal n '-' (hzero ▸ List.mem_cons_self)
        revert hminus
        decide
    | negSucc n =>
        obtain ⟨d, ds, he, hd⟩ := toDigits_head (Nat.succ_pos n)
        rw [toList_negSucc, he] at hzero
        cases hzero
        exact hd rfl

theorem digitChar_value {d : Char} (h : Digit.isDecimal d = true) :
    Digit.value d < 10 ∧ (Digit.value d).digitChar = d := by
  have hd : '0'.toNat ≤ d.toNat ∧ d.toNat ≤ '9'.toNat := by
    simpa [Digit.isDecimal, Char.le_def, UInt32.le_iff_toNat_le] using h
  have hzero : '0'.toNat = 48 := rfl
  have hnine : '9'.toNat = 57 := rfl
  have hlt : d.toNat - '0'.toNat < 10 := by omega
  rw [digit_value h]
  refine ⟨hlt, Char.toNat_inj.mp ?_⟩
  rw [Nat.toNat_digitChar_of_lt_ten hlt]
  omega

theorem toDigits_number {ds : List Char} (hd : Digits ds) (hz : ∀ c rest, ds ≠ '0' :: c :: rest) :
    Nat.toDigits 10 (Digit.number 10 ds) = ds := by
  obtain ⟨hne, hdec⟩ := hd
  induction ds using List.reverseRecOn with
  | nil => exact absurd rfl hne
  | append_singleton ds d ih =>
      obtain ⟨hlt, hchar⟩ := digitChar_value (hdec d (by simp))
      rw [Digit.number_concat]
      cases ds with
      | nil =>
          have hvalue : 10 * Digit.number 10 [] + Digit.value d = Digit.value d := Nat.zero_add _
          rw [hvalue, Nat.toDigits_of_lt_base hlt, hchar, List.nil_append]
      | cons c ds =>
          -- more than one digit, so the first is not zero and neither is what precedes the last
          have hfirst := ih (fun b rest h => hz b (rest ++ [d]) (by rw [h]; rfl))
            (List.cons_ne_nil c ds) fun b hb => hdec b (List.mem_append_left _ hb)
          have hpos : 0 < Digit.number 10 (c :: ds) := by
            refine Nat.pos_of_ne_zero fun hzero => ?_
            rw [hzero] at hfirst
            exact hz d [] (by rw [← hfirst]; rfl)
          rw [← Nat.toDigits_append_toDigits (by decide) hpos hlt, hfirst,
            Nat.toDigits_of_lt_base hlt, hchar]

namespace Number

theorem spells_toDigits (negative : Bool) (n : Nat) :
    Parts.Spells ⟨negative, Nat.toDigits 10 n, none, none⟩
      ((if negative then ['-'] else []) ++ Nat.toDigits 10 n) := by
  have h := Parts.Spells.intro negative (digits_toDigits n) (toDigits_no_zero n) .absent .absent
  simpa using h

theorem spells_int {i : Int} (hi : InRange i) :
    ∃ p : Parts, p.Spells (toString i).toList ∧ ∀ start stop, p.number start stop = .ok (.int i) := by
  cases i with
  | ofNat n =>
      have hn : n ≤ largestNatural := Int.ofNat_le.mp hi.2
      refine ⟨⟨false, Nat.toDigits 10 n, none, none⟩, ?_, fun start stop => ?_⟩
      · rw [toList_ofNat]
        exact spells_toDigits false n
      · simp [Parts.number, number_toDigits, hn]
  | negSucc n =>
      have hn : -((n : Int) + 1) = Int.negSucc n := by omega
      refine ⟨⟨true, Nat.toDigits 10 (n + 1), none, none⟩, ?_, fun start stop => ?_⟩
      · rw [toList_negSucc]
        exact spells_toDigits true (n + 1)
      · simp [Parts.number, number_toDigits, hn, hi.1]

def Fits (n : Number) : Prop := ∀ i, n = .int i → InRange i

theorem Parts.float_ne_int {p : Parts} {stop n : Nat} {e i : Int} :
    Parts.number.float p stop n e ≠ .ok (.int i) := by
  rw [Parts.number.float]
  split <;> nofun

theorem Parts.number_eq_int {p : Parts} {start stop : Nat} {i : Int}
    (h : p.number start stop = .ok (.int i)) :
    p.fraction = none ∧ p.exponent = none ∧ InRange i ∧
      ((p.negative = false ∧ i = Int.ofNat (Digit.number 10 p.whole)) ∨
        ∃ n, p.negative = true ∧ Digit.number 10 p.whole = n + 1 ∧ i = Int.negSucc n) := by
  rw [Parts.number] at h
  split at h
  next hfraction hexponent =>
    refine ⟨hfraction, hexponent, ?_⟩
    dsimp only at h
    split at h
    next hn =>
      simp only [Bool.and_eq_true, Bool.not_eq_true', decide_eq_true_eq] at hn
      cases h
      exact ⟨⟨Int.le_trans (by decide) (Int.natCast_nonneg _), Int.ofNat_le.mpr hn.2⟩,
        .inl ⟨hn.1, rfl⟩⟩
    next =>
      split at h
      next hn =>
        simp only [Bool.and_eq_true, bne_iff_ne, decide_eq_true_eq] at hn
        obtain ⟨⟨hnegative, hzero⟩, hsmallest⟩ := hn
        obtain ⟨n, hn⟩ := Nat.exists_eq_succ_of_ne_zero hzero
        cases h
        rw [hn] at hsmallest ⊢
        have : (0 : Int) ≤ largestNatural := Int.natCast_nonneg _
        exact ⟨⟨hsmallest, by omega⟩, .inr ⟨n, hnegative, rfl, rfl⟩⟩
      next => exact absurd h float_ne_int
  next => exact absurd h float_ne_int
  next =>
    split at h
    · split at h <;> cases h
    · exact absurd h float_ne_int

theorem Parts.number_fits {p : Parts} {start stop : Nat} {n : Number}
    (h : p.number start stop = .ok n) : n.Fits := by
  rintro i rfl
  exact (number_eq_int h).2.2.1

theorem Parts.Spells.eq_toString {p : Parts} {cs : List Char} {i : Int} {start stop : Nat}
    (h : p.Spells cs) (value : p.number start stop = .ok (.int i)) : cs = (toString i).toList := by
  obtain ⟨hfraction, hexponent, -, hi⟩ := number_eq_int value
  cases h with
  | intro negative hw hz hf he =>
      cases hfraction
      cases hexponent
      cases hf
      cases he
      have hdigits := toDigits_number hw hz
      rcases hi with ⟨rfl, rfl⟩ | ⟨n, rfl, hn, rfl⟩
      · rw [toList_ofNat, hdigits]
        simp
      · rw [toList_negSucc, ← hn, hdigits]
        simp

def ReadsFit (r : Reading Number) : Prop := ∀ n next, r = .read (.ok n) next → n.Fits

theorem readsFit_number (p : Parts) (start stop : Nat) (next : Cursor) :
    ReadsFit (.read (p.number start stop) next) := by
  intro n c h
  injection h with h
  exact Parts.number_fits h

theorem readsFit_broken (b : Break) : ReadsFit (.broken b) := nofun

theorem readExponent_fits (p : Parts) (offset : Nat) (cs : List Char) :
    ReadsFit (readExponent p offset cs) := by
  rw [readExponent.eq_def]
  split
  split
  split
  · exact readsFit_broken _
  · exact readsFit_broken _
  · exact readsFit_number _ _ _ _

theorem readAfterFraction_fits (p : Parts) (offset : Nat) (cs : List Char) :
    ReadsFit (readAfterFraction p offset cs) := by
  rw [readAfterFraction.eq_def]
  split
  · exact readExponent_fits _ _ _
  · exact readExponent_fits _ _ _
  · exact readsFit_number _ _ _ _

theorem readAfterWhole_fits (p : Parts) (offset : Nat) (cs : List Char) :
    ReadsFit (readAfterWhole p offset cs) := by
  rw [readAfterWhole.eq_def]
  split
  · split
    split
    · exact readsFit_broken _
    · exact readsFit_broken _
    · exact readAfterFraction_fits _ _ _
  · exact readAfterFraction_fits _ _ _

theorem readDigits_fits (negative : Bool) (offset : Nat) (cs : List Char) :
    ReadsFit (readDigits negative offset cs) := by
  rw [readDigits]
  split
  split
  · exact readsFit_broken _
  · exact readsFit_broken _
  · exact readsFit_broken _
  · exact readAfterWhole_fits _ _ _

theorem read_fits (c : Cursor) : ReadsFit (read c) := by
  rw [read.eq_def]
  split
  · exact readDigits_fits _ _ _
  · exact readDigits_fits _ _ _

end Number

namespace Json

theorem fourHex_control : ∀ n < 0x20,
    fourHex? '0' '0' (hexDigit (n / 16)) (hexDigit (n % 16)) = some n := by
  decide

theorem readString_unit {a b c d : Char} {n : Nat} (hx : fourHex? a b c d = some n)
    (hhigh : isHighSurrogate n = false) (hlow : isLowSurrogate n = false) (rev : List Char)
    (offset : Nat) (rest : List Char) :
    readString ⟨rev, none, none⟩ offset ('\\' :: 'u' :: a :: b :: c :: d :: rest) =
      readString ⟨Char.ofNat n :: rev, none, none⟩ (offset + 6) rest := by
  rw [readString, hx]
  simp [Partial.unit, hhigh, hlow, Partial.push]

theorem readString_pair {a b c d e f g h : Char} {n m : Nat} (hx : fourHex? a b c d = some n)
    (hhigh : isHighSurrogate n = true) (hy : fourHex? e f g h = some m)
    (hlow : isLowSurrogate m = true) (rev : List Char) (offset : Nat) (rest : List Char) :
    readString ⟨rev, none, none⟩ offset
        ('\\' :: 'u' :: a :: b :: c :: d :: '\\' :: 'u' :: e :: f :: g :: h :: rest) =
      readString ⟨pairValue n m :: rev, none, none⟩ (offset + 12) rest := by
  rw [readString, hx]
  simp only [Partial.unit, hhigh, if_true]
  rw [readString, hy]
  simp [Partial.unit, hlow, Partial.push]

theorem readString_short {e c : Char} (h : shortEscape? e = some c) (rev : List Char)
    (offset : Nat) (rest : List Char) :
    readString ⟨rev, none, none⟩ offset ('\\' :: e :: rest) =
      readString ⟨c :: rev, none, none⟩ (offset + 2) rest := by
  have hu : e ≠ 'u' := by
    rintro rfl
    cases h
  simp [readString, hu, h, Partial.push]

theorem readString_plain {c : Char} (hq : c ≠ '"') (hb : c ≠ '\\') (hc : 0x20 ≤ c.toNat)
    (rev : List Char) (offset : Nat) (rest : List Char) :
    readString ⟨rev, none, none⟩ offset (c :: rest) =
      readString ⟨c :: rev, none, none⟩ (offset + c.utf8Size) rest := by
  rw [readString, if_neg (Nat.not_lt.mpr hc)]
  · rfl
  -- the patterns above start with a quote or a backslash
  · exact hq
  · exact fun h _ => hb h
  · exact fun _ _ _ _ _ h _ => hb h
  · exact fun _ h _ => hb h
  · exact fun _ _ h _ => hb h

theorem escapeChar_cases (c : Char) :
    (∃ e, shortEscape? e = some c ∧ escapeChar c = ['\\', e]) ∨
    (c.toNat < 0x20 ∧ escapeChar c =
      ['\\', 'u', '0', '0', hexDigit (c.toNat / 16), hexDigit (c.toNat % 16)]) ∨
    (c ≠ '"' ∧ c ≠ '\\' ∧ 0x20 ≤ c.toNat ∧ escapeChar c = [c]) := by
  rw [escapeChar]
  iterate 7
    split
    next h =>
      subst h
      exact .inl ⟨_, rfl, rfl⟩
  split
  next h => exact .inr (.inl ⟨h, rfl⟩)
  next hq hb _ _ _ _ _ hc => exact .inr (.inr ⟨hq, hb, Nat.not_lt.mp hc, rfl⟩)

inductive SpellsChars : List Char → List Char → Prop
  | nil : SpellsChars [] []
  | plain {c : Char} {cs text : List Char} (hq : c ≠ '"') (hb : c ≠ '\\') (hc : 0x20 ≤ c.toNat)
      (hs : SpellsChars cs text) : SpellsChars (c :: cs) (c :: text)
  | short {e c : Char} {cs text : List Char} (he : shortEscape? e = some c)
      (hs : SpellsChars cs text) : SpellsChars (c :: cs) ('\\' :: e :: text)
  | unit {a b c d : Char} {n : Nat} {cs text : List Char} (hx : fourHex? a b c d = some n)
      (hhigh : isHighSurrogate n = false) (hlow : isLowSurrogate n = false)
      (hs : SpellsChars cs text) :
      SpellsChars (Char.ofNat n :: cs) ('\\' :: 'u' :: a :: b :: c :: d :: text)
  | pair {a b c d e f g h : Char} {n m : Nat} {cs text : List Char}
      (hx : fourHex? a b c d = some n) (hhigh : isHighSurrogate n = true)
      (hy : fourHex? e f g h = some m) (hlow : isLowSurrogate m = true)
      (hs : SpellsChars cs text) :
      SpellsChars (pairValue n m :: cs)
        ('\\' :: 'u' :: a :: b :: c :: d :: '\\' :: 'u' :: e :: f :: g :: h :: text)

theorem readString_spelled {cs text : List Char} (hs : SpellsChars cs text) (rev : List Char)
    (offset : Nat) (rest : List Char) :
    ∃ stop, readString ⟨rev, none, none⟩ offset (text ++ '"' :: rest) =
      .read (.ok (String.ofList (rev.reverse ++ cs))) ⟨stop, rest⟩ := by
  induction hs generalizing rev offset with
  | nil => exact ⟨offset + 1, by simp [readString, Partial.value]⟩
  | @plain c cs text hq hb hc hs ih =>
      obtain ⟨stop, h⟩ := ih (c :: rev) (offset + c.utf8Size)
      refine ⟨stop, ?_⟩
      rw [List.cons_append, readString_plain hq hb hc, h]
      simp
  | @short e c cs text he hs ih =>
      obtain ⟨stop, h⟩ := ih (c :: rev) (offset + 2)
      refine ⟨stop, ?_⟩
      simp only [List.cons_append]
      rw [readString_short he, h]
      simp
  | @unit a b c d n cs text hx hhigh hlow hs ih =>
      obtain ⟨stop, h⟩ := ih (Char.ofNat n :: rev) (offset + 6)
      refine ⟨stop, ?_⟩
      simp only [List.cons_append]
      rw [readString_unit hx hhigh hlow, h]
      simp
  | @pair a b c d e f g h n m cs text hx hhigh hy hlow hs ih =>
      obtain ⟨stop, hread⟩ := ih (pairValue n m :: rev) (offset + 12)
      refine ⟨stop, ?_⟩
      simp only [List.cons_append]
      rw [readString_pair hx hhigh hy hlow, hread]
      simp

theorem readString_text {s : String} {text : List Char} (hs : SpellsChars s.toList text)
    (offset : Nat) (rest : List Char) :
    ∃ stop, readString .start offset (text ++ '"' :: rest) = .read (.ok s) ⟨stop, rest⟩ := by
  obtain ⟨stop, h⟩ := readString_spelled hs [] offset rest
  exact ⟨stop, by simpa [Partial.start] using h⟩

theorem spellsChars_control {c : Char} (hc : c.toNat < 0x20) {cs text : List Char}
    (hs : SpellsChars cs text) :
    SpellsChars (c :: cs) ('\\' :: 'u' :: '0' :: '0' :: hexDigit (c.toNat / 16) ::
      hexDigit (c.toNat % 16) :: text) := by
  have hhigh : isHighSurrogate c.toNat = false := by
    simp only [isHighSurrogate, Bool.and_eq_false_iff, decide_eq_false_iff_not]
    omega
  have hlow : isLowSurrogate c.toNat = false := by
    simp only [isLowSurrogate, Bool.and_eq_false_iff, decide_eq_false_iff_not]
    omega
  have h := SpellsChars.unit (fourHex_control _ hc) hhigh hlow hs
  rwa [Char.ofNat_toNat] at h

theorem spellsChars_escape (cs : List Char) : SpellsChars cs (cs.flatMap escapeChar) := by
  induction cs with
  | nil => exact .nil
  | cons c cs ih =>
      rw [List.flatMap_cons]
      rcases escapeChar_cases c with ⟨e, he, h⟩ | ⟨hc, h⟩ | ⟨hq, hb, hc, h⟩ <;> rw [h]
      · exact .short he ih
      · exact spellsChars_control hc ih
      · exact .plain hq hb hc ih

end Json

end TabSearch
