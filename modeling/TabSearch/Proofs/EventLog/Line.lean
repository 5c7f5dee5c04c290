import Mathlib.Data.List.Forall2
import Mathlib.Data.List.ReduceOption
import TabSearch.Proofs.EventLog

namespace TabSearch.EventLog

inductive Says : List UInt8 → Option Event → Prop
  | blank {bytes : List UInt8} {text : String} (decoded : decodeText bytes = some text)
      (empty : trim text.toList = []) : Says bytes none
  | event {bytes : List UInt8} {text : String} {e : Event} (decoded : decodeText bytes = some text)
      (nonempty : trim text.toList ≠ []) (parsed : Event.parse (trim text.toList) = .ok e) :
      Says bytes (some e)

inductive Spoils (number : Nat) : List UInt8 → InputError → Prop
  | notText {bytes : List UInt8} (undecoded : decodeText bytes = none) :
      Spoils number bytes (.file .notText)
  | malformed {bytes : List UInt8} {text : String} {f : Fault}
      (decoded : decodeText bytes = some text) (nonempty : trim text.toList ≠ [])
      (failed : Event.parse (trim text.toList) = .error f) :
      Spoils number bytes (.event number (f.message (trim text.toList)))

theorem says_or_spoils (bytes : List UInt8) :
    (∃ said, Says bytes said) ∨ ∀ number, ∃ e, Spoils number bytes e := by
  cases hd : decodeText bytes with
  | none => exact .inr fun _ => ⟨_, .notText hd⟩
  | some text =>
      by_cases ht : trim text.toList = []
      · exact .inl ⟨_, .blank hd ht⟩
      · cases he : Event.parse (trim text.toList) with
        | ok e => exact .inl ⟨_, .event hd ht he⟩
        | error f => exact .inr fun _ => ⟨_, .malformed hd ht he⟩

theorem readLines_text {bytes : List UInt8} {text : String} (decoded : decodeText bytes = some text)
    (nonempty : trim text.toList ≠ []) (line : Nat) (rest : List (List UInt8)) :
    readLines line (bytes :: rest) =
      readEvent (line + 1) (trim text.toList) :: readLines (line + 1) rest := by
  obtain ⟨c, cs, hc⟩ := List.exists_cons_of_ne_nil nonempty
  simp only [readLines, decoded, hc]

theorem readLines_says {bytes : List UInt8} {said : Option Event} (h : Says bytes said) (line : Nat)
    (rest : List (List UInt8)) :
    readLines line (bytes :: rest) = said.toList.map .ok ++ readLines (line + 1) rest := by
  cases h with
  | blank decoded empty =>
      simp only [readLines, decoded, empty]
      rfl
  | event decoded nonempty parsed =>
      rw [readLines_text decoded nonempty, readEvent, parsed]
      rfl

theorem readLines_spoils {bytes : List UInt8} {e : InputError} {line : Nat}
    (h : Spoils (line + 1) bytes e) (rest : List (List UInt8)) :
    ∃ items, readLines line (bytes :: rest) = .error e :: items := by
  cases h with
  | notText undecoded => exact ⟨readLines line rest, by simp only [readLines, undecoded]⟩
  | malformed decoded nonempty failed =>
      refine ⟨readLines (line + 1) rest, ?_⟩
      rw [readLines_text decoded nonempty, readEvent, failed]

theorem readLines_good {lines : List (List UInt8)} {said : List (Option Event)}
    (h : List.Forall₂ Says lines said) (line : Nat) (rest : List (List UInt8)) :
    readLines line (lines ++ rest) =
      said.reduceOption.map .ok ++ readLines (line + lines.length) rest := by
  induction h generalizing line with
  | nil => rfl
  | @cons bytes s lines said hs _ ih =>
      rw [List.cons_append, readLines_says hs, ih, List.length_cons, Nat.add_right_comm]
      cases s <;> rfl

theorem good_or_spoiled (lines : List (List UInt8)) :
    (∃ said, List.Forall₂ Says lines said) ∨
      ∃ good said bad rest, lines = good ++ bad :: rest ∧ List.Forall₂ Says good said ∧
        ∀ number, ∃ e, Spoils number bad e := by
  induction lines with
  | nil => exact .inl ⟨[], .nil⟩
  | cons bytes lines ih =>
      rcases says_or_spoils bytes with ⟨s, hs⟩ | hbad
      · rcases ih with ⟨said, hsaid⟩ | ⟨good, said, bad, rest, rfl, hgood, hbad⟩
        · exact .inl ⟨s :: said, .cons hs hsaid⟩
        · exact .inr ⟨bytes :: good, s :: said, bad, rest, rfl, .cons hs hgood, hbad⟩
      · exact .inr ⟨[], [], bytes, lines, rfl, .nil, hbad⟩

end TabSearch.EventLog
