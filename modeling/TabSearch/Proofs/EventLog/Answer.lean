import TabSearch.Proofs.EventLog.Line

namespace TabSearch.EventLog

inductive Lines : List UInt8 → List (List UInt8) → Prop
  | nil : Lines [] []
  | last {line : List UInt8} (closed : 10 ∉ line) (nonempty : line ≠ []) : Lines line [line]
  | more {line rest : List UInt8} {lines : List (List UInt8)} (closed : 10 ∉ line)
      (h : Lines rest lines) : Lines (line ++ 10 :: rest) ((line ++ [10]) :: lines)

theorem Lines.eq_cutLines {bytes : List UInt8} {lines : List (List UInt8)} (h : Lines bytes lines) :
    lines = cutLines bytes := by
  induction h with
  | nil => rfl
  | last closed nonempty => exact (cutLines_last closed nonempty).symm
  | more closed h ih => rw [cutLines_line closed, ih]

theorem lines_cutLines (bytes : List UInt8) : Lines bytes (cutLines bytes) := by
  induction bytes with
  | nil => exact .nil
  | cons b rest ih =>
      rcases eq_or_ne b 10 with rfl | hb
      · exact .more List.not_mem_nil ih
      · have hne : (b == 10) = false := beq_eq_false_iff_ne.mpr hb
        rw [cutLines, hne]
        generalize cutLines rest = lines at ih ⊢
        cases ih with
        | nil => exact .last (by simpa using Ne.symm hb) (List.cons_ne_nil b [])
        | last closed nonempty =>
            exact .last (by simpa [Ne.symm hb] using closed) (List.cons_ne_nil b rest)
        | @more line rest lines closed h =>
            have hclosed : 10 ∉ b :: line := by simpa [Ne.symm hb] using closed
            exact .more hclosed h

theorem lines_iff {bytes : List UInt8} {lines : List (List UInt8)} :
    Lines bytes lines ↔ lines = cutLines bytes := by
  constructor
  · exact Lines.eq_cutLines
  · rintro rfl
    exact lines_cutLines bytes

/-- What a line comes to, whatever the others are; the number of an error is left open. -/
inductive Answers : List UInt8 → Option (Except InputError Event) → Prop
  | notText {bytes : List UInt8} (undecoded : ∀ text, encodeText text ≠ bytes) :
      Answers bytes (some (.error (.file .notText)))
  | blank {text : List Char} (blank : ∀ c ∈ text, isBlank c = true) :
      Answers (encodeText text) none
  | event {w core w' : List Char} {e : Event} (trimmed : Trimmed w core w')
      (parsed : Event.parse core = .ok e) :
      Answers (encodeText (w ++ (core ++ w'))) (some (.ok e))
  | malformed {w core w' : List Char} {f : Fault} (number : Nat) (trimmed : Trimmed w core w')
      (failed : Event.parse core = .error f) :
      Answers (encodeText (w ++ (core ++ w'))) (some (.error (.event number (f.message core))))

theorem Says.answers {bytes : List UInt8} {said : Option Event} (h : Says bytes said) :
    Answers bytes (said.map .ok) := by
  cases h with
  | blank decoded empty =>
      rw [← encodeText_of_decodeText decoded]
      exact .blank (blank_of_trim empty)
  | event decoded nonempty parsed =>
      obtain ⟨w, w', hsplit, htrimmed⟩ := trimmed_trim nonempty
      have hbytes := encodeText_of_decodeText decoded
      rw [hsplit] at hbytes
      exact hbytes ▸ .event htrimmed parsed

theorem Spoils.answers {number : Nat} {bytes : List UInt8} {e : InputError}
    (h : Spoils number bytes e) : Answers bytes (some (.error e)) := by
  cases h with
  | notText undecoded => exact .notText (decodeText_eq_none.mp undecoded)
  | malformed decoded nonempty failed =>
      obtain ⟨w, w', hsplit, htrimmed⟩ := trimmed_trim nonempty
      have hbytes := encodeText_of_decodeText decoded
      rw [hsplit] at hbytes
      exact hbytes ▸ .malformed number htrimmed failed

theorem answers_readEvent {bytes : List UInt8} {text : String}
    (decoded : decodeText bytes = some text) (nonempty : trim text.toList ≠ []) (number : Nat) :
    Answers bytes (some (readEvent number (trim text.toList))) := by
  rw [readEvent]
  cases hparse : Event.parse (trim text.toList) with
  | ok e => exact (Says.event decoded nonempty hparse).answers
  | error f => exact (Spoils.malformed decoded nonempty hparse).answers

/-- A call reads no further than the line that it answers. -/
inductive Call (lines : List (List UInt8)) :
    Option (Except InputError Event) → List (List UInt8) → Prop
  | ended (blank : ∀ bytes ∈ lines, Answers bytes none) : Call lines none []
  | answered (blanks : List (List UInt8)) {bytes : List UInt8} {rest : List (List UInt8)}
      {item : Except InputError Event} (split : lines = blanks ++ bytes :: rest)
      (blank : ∀ b ∈ blanks, Answers b none) (answer : Answers bytes (some item)) :
      Call lines (some item) rest

theorem Call.pass {bytes : List UInt8} {lines rest : List (List UInt8)}
    {item : Option (Except InputError Event)} (hb : Answers bytes none)
    (h : Call lines item rest) : Call (bytes :: lines) item rest := by
  cases h with
  | ended blank => exact .ended (List.forall_mem_cons.mpr ⟨hb, blank⟩)
  | answered blanks split blank answer =>
      refine .answered (bytes :: blanks) ?_ (List.forall_mem_cons.mpr ⟨hb, blank⟩) answer
      rw [split, List.cons_append]

theorem call_nextFrom (line : Nat) (lines : List (List UInt8)) :
    Call lines (nextFrom line lines).1 (nextFrom line lines).2.pending := by
  induction lines generalizing line with
  | nil => exact .ended (by simp)
  | cons bytes rest ih =>
      rw [nextFrom]
      cases hd : decodeText bytes with
      | none => exact .answered [] rfl (by simp) (Spoils.notText hd : Spoils line bytes _).answers
      | some text =>
          cases ht : trim text.toList with
          | nil =>
              simp only [ht]
              exact (ih (line + 1)).pass (Says.blank hd ht).answers
          | cons c cs =>
              have hanswer := answers_readEvent hd (ht ▸ List.cons_ne_nil c cs) (line + 1)
              simp only [ht] at hanswer ⊢
              exact .answered [] rfl (by simp) hanswer

theorem call_next (log : EventLog) :
    Call log.pending (Source.next log).1 (Source.next log).2.pending :=
  call_nextFrom log.line log.pending

theorem next_skip_of_read {log : EventLog} (h : log.pending = []) (n : Nat) :
    (Source.next (Source.skip n log)).1 = none := by
  obtain ⟨pending, line⟩ := log
  subst h
  induction n with
  | zero => rfl
  | succ n ih => exact ih

theorem reduceOption_blank {lines : List (List UInt8)} :
    (lines.map fun _ => (none : Option (Except InputError Event))).reduceOption = [] := by
  rw [List.map_const', List.reduceOption_replicate_none]

theorem answers_calls (log : EventLog) :
    ∃ answers, List.Forall₂ Answers log.pending answers ∧
      ∀ n, (Source.next (Source.skip n log)).1 = answers.reduceOption[n]? := by
  generalize hlines : log.pending = lines
  induction hl : lines.length using Nat.strongRecOn generalizing log lines with
  | ind l ih =>
      have hcall := call_next log
      rw [hlines] at hcall
      generalize hitem : (Source.next log).1 = item at hcall
      generalize hrest : (Source.next log).2.pending = rest at hcall
      cases hcall with
      | ended blank =>
          refine ⟨lines.map fun _ => none, ?_, fun n => ?_⟩
          · rw [List.forall₂_map_right_iff, List.forall₂_same]
            exact blank
          · rw [reduceOption_blank, List.getElem?_nil]
            cases n with
            | zero => exact hitem
            | succ n => exact next_skip_of_read hrest n
      | @answered blanks bytes rest item split blank answer =>
          have hless : rest.length < l := by
            rw [← hl, split, List.length_append, List.length_cons]
            omega
          obtain ⟨answers, hanswers, hcalls⟩ := ih _ hless (Source.next log).2 rest hrest rfl
          have hblanks : List.Forall₂ Answers blanks (blanks.map fun _ => none) := by
            rw [List.forall₂_map_right_iff, List.forall₂_same]
            exact blank
          refine ⟨(blanks.map fun _ => none) ++ some item :: answers, ?_, fun n => ?_⟩
          · rw [split]
            exact List.rel_append hblanks (.cons answer hanswers)
          · rw [List.reduceOption_append, reduceOption_blank, List.nil_append,
              List.reduceOption_cons_of_some]
            cases n with
            | zero => exact hitem
            | succ n => exact hcalls n

theorem lines_answered_once (bytes : List UInt8) :
    (∀ lines, Lines bytes lines ↔ lines = cutLines bytes) ∧
    (∀ log : EventLog, Call log.pending (Source.next log).1 (Source.next log).2.pending) ∧
    ∃ answers, List.Forall₂ Answers (cutLines bytes) answers ∧
      ∀ n, (Source.next (Source.skip n (ofBytes bytes))).1 = answers.reduceOption[n]? := by
  refine ⟨fun _ => lines_iff, call_next, ?_⟩
  exact answers_calls (ofBytes bytes)

end TabSearch.EventLog
