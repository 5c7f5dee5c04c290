import TabSearch.Proofs.Source
import TabSearch.Proofs.Text.Encoding
import Mathlib.Data.List.TakeWhile

namespace TabSearch

theorem cutLines_line {bytes : List UInt8} (h : 10 ∉ bytes) (rest : List UInt8) :
    cutLines (bytes ++ 10 :: rest) = (bytes ++ [10]) :: cutLines rest := by
  induction bytes with
  | nil => rfl
  | cons b bytes ih =>
      have hb : (b == 10) = false := beq_eq_false_iff_ne.mpr fun he => h (by simp [he])
      rw [List.cons_append, cutLines, hb, ih fun hm => h (List.mem_cons_of_mem b hm)]
      rfl

theorem cutLines_last {bytes : List UInt8} (h : 10 ∉ bytes) (hne : bytes ≠ []) :
    cutLines bytes = [bytes] := by
  induction bytes with
  | nil => exact absurd rfl hne
  | cons b bytes ih =>
      have hb : (b == 10) = false := beq_eq_false_iff_ne.mpr fun he => h (by simp [he])
      rw [cutLines, hb]
      cases bytes with
      | nil => rfl
      | cons c bytes => rw [ih (fun hm => h (List.mem_cons_of_mem b hm)) (List.cons_ne_nil c bytes)]

def Blank (w : List Char) : Prop := ∀ c ∈ w, isBlank c = true ∧ c ≠ '\n'

instance (w : List Char) : Decidable (Blank w) :=
  List.decidableBAll (fun c => isBlank c = true ∧ c ≠ '\n') w

theorem Blank.newline_not_mem {w : List Char} (h : Blank w) : '\n' ∉ w :=
  fun hm => (h _ hm).2 rfl

theorem Blank.all {w : List Char} (h : Blank w) : ∀ c ∈ w, isBlank c = true :=
  fun c hc => (h c hc).1

theorem Blank.all_newline {w : List Char} (h : Blank w) : ∀ c ∈ w ++ ['\n'], isBlank c = true := by
  simp only [List.forall_mem_append, List.forall_mem_singleton]
  exact ⟨h.all, by decide⟩

theorem trim_blank {w : List Char} (h : ∀ c ∈ w, isBlank c = true) : trim w = [] := by
  rw [trim, List.dropWhile_eq_nil_iff.mpr h]
  rfl

structure Trimmed (w core w' : List Char) : Prop where
  before : ∀ c ∈ w, isBlank c = true
  after : ∀ c ∈ w', isBlank c = true
  first : ∀ c ∈ core.head?, isBlank c = false
  last : ∀ c ∈ core.getLast?, isBlank c = false
  nonempty : core ≠ []

theorem Trimmed.trim_eq {w core w' : List Char} (h : Trimmed w core w') :
    trim (w ++ (core ++ w')) = core := by
  have hstart : (w ++ (core ++ w')).dropWhile isBlank = core ++ w' := by
    rw [List.dropWhile_append_of_pos h.before]
    obtain ⟨c, ds, rfl⟩ := List.exists_cons_of_ne_nil h.nonempty
    rw [List.cons_append, List.dropWhile_cons_of_neg (by simp [h.first c rfl])]
  have hend : (core ++ w').reverse.dropWhile isBlank = core.reverse := by
    rw [List.reverse_append, List.dropWhile_append_of_pos (by simpa using h.after)]
    obtain ⟨c, ds, he⟩ := List.exists_cons_of_ne_nil (List.reverse_ne_nil_iff.mpr h.nonempty)
    have hc : isBlank c = false := h.last c (by rw [List.getLast?_eq_head?_reverse, he]; rfl)
    rw [he, List.dropWhile_cons_of_neg (by simp [hc])]
  rw [trim, hstart, hend, List.reverse_reverse]

theorem blank_of_trim {cs : List Char} (h : trim cs = []) : ∀ c ∈ cs, isBlank c = true := by
  rw [trim, List.reverse_eq_nil_iff, List.dropWhile_eq_nil_iff] at h
  rw [← List.dropWhile_eq_nil_iff]
  cases hd : cs.dropWhile isBlank with
  | nil => rfl
  | cons c ds =>
      -- the first that is left is not blank, and all that are left are
      have hc := List.head?_dropWhile_not isBlank cs
      rw [hd] at hc h
      have hblank : isBlank c = true := h c (by simp)
      rw [List.head?_cons] at hc
      exact absurd (hblank.symm.trans hc) (by decide)

theorem trimmed_trim {cs : List Char} (h : trim cs ≠ []) :
    ∃ w w', cs = w ++ (trim cs ++ w') ∧ Trimmed w (trim cs) w' := by
  have hleft : cs.takeWhile isBlank ++ cs.dropWhile isBlank = cs := List.takeWhile_append_dropWhile
  have hright : trim cs ++ ((cs.dropWhile isBlank).reverse.takeWhile isBlank).reverse =
      cs.dropWhile isBlank := by
    rw [trim, ← List.reverse_append, List.takeWhile_append_dropWhile, List.reverse_reverse]
  refine ⟨_, _, (hright ▸ hleft).symm, ?_, ?_, ?_, ?_, h⟩
  · intro c hc
    exact List.mem_takeWhile_imp hc
  · intro c hc
    exact List.mem_takeWhile_imp (List.mem_reverse.mp hc)
  · intro c hc
    have hfirst := List.head?_dropWhile_not isBlank cs
    rw [← hright, List.head?_append, Option.mem_def.mp hc, Option.some_or] at hfirst
    exact hfirst
  · intro c hc
    have hlast := List.head?_dropWhile_not isBlank (cs.dropWhile isBlank).reverse
    rw [trim, List.getLast?_reverse] at hc
    rw [Option.mem_def.mp hc] at hlast
    exact hlast

namespace EventLog

def readLines : Nat → List (List UInt8) → List (Except InputError Event)
  | _, [] => []
  | line, bytes :: rest => match decodeText bytes with
      | none => .error (.file .notText) :: readLines line rest
      | some text => match trim text.toList with
          | [] => readLines (line + 1) rest
          | c :: cs => readEvent (line + 1) (c :: cs) :: readLines (line + 1) rest

theorem items_log (pending : List (List UInt8)) (line : Nat) :
    Source.items (⟨pending, line⟩ : EventLog) = readLines line pending := by
  induction pending generalizing line with
  | nil => exact Source.items_of_end (t := ⟨[], line⟩) rfl
  | cons bytes rest ih =>
      have hnext : Source.next (⟨bytes :: rest, line⟩ : EventLog) =
        nextFrom line (bytes :: rest) := rfl
      rw [readLines]
      rw [nextFrom] at hnext
      cases hd : decodeText bytes with
      | none =>
          rw [hd] at hnext
          rw [Source.items_of_item hnext, ih]
      | some text =>
          rw [hd] at hnext
          cases ht : trim text.toList with
          | nil =>
              simp only [ht] at hnext ⊢
              rw [← ih (line + 1)]
              exact Source.items_congr hnext
          | cons c cs =>
              simp only [ht] at hnext ⊢
              rw [Source.items_of_item hnext, ih]

end EventLog

end TabSearch
