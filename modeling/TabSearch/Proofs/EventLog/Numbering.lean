import TabSearch.Proofs.EventLog.Answer

namespace TabSearch.EventLog

def undecoded (lines : List (List UInt8)) : Nat := lines.countP fun line => (decodeText line).isNone

theorem undecoded_append (lines more : List (List UInt8)) :
    undecoded (lines ++ more) = undecoded lines + undecoded more := List.countP_append

theorem undecoded_singleton {line : List UInt8} (h : (decodeText line).isSome = true) :
    undecoded [line] = 0 := by simp [undecoded, Option.ne_none_iff_isSome.mpr h]

theorem undecoded_eq_zero {lines : List (List UInt8)} :
    undecoded lines = 0 ↔ ∀ line ∈ lines, (decodeText line).isSome = true := by
  simp [undecoded, List.countP_eq_zero, Option.isSome_iff_ne_none]

structure Reads (log : EventLog) (lines : List (List UInt8)) (later : EventLog) : Prop where
  split : log.pending = lines ++ later.pending
  counted : later.line + undecoded lines = log.line + lines.length

theorem Reads.refl (log : EventLog) : Reads log [] log := ⟨rfl, rfl⟩

theorem Reads.trans {log middle later : EventLog} {lines more : List (List UInt8)}
    (h : Reads log lines middle) (hmore : Reads middle more later) :
    Reads log (lines ++ more) later where
  split := by rw [h.split, hmore.split, List.append_assoc]
  counted := by
    have hfirst := h.counted
    have hthen := hmore.counted
    rw [undecoded_append, List.length_append]
    omega

theorem reads_undecoded {bytes : List UInt8} (h : decodeText bytes = none)
    (rest : List (List UInt8)) (line : Nat) :
    Reads ⟨bytes :: rest, line⟩ [bytes] ⟨rest, line⟩ := ⟨rfl, by simp [undecoded, h]⟩

theorem reads_text {bytes : List UInt8} {text : String} (h : decodeText bytes = some text)
    (rest : List (List UInt8)) (line : Nat) :
    Reads ⟨bytes :: rest, line⟩ [bytes] ⟨rest, line + 1⟩ := ⟨rfl, by simp [undecoded, h]⟩

def Ends (lines : List (List UInt8)) (later : EventLog) :
    Option (Except InputError Event) → Prop
  | some (.error (.event number _)) => number = later.line ∧
      ∃ before reported, lines = before ++ [reported] ∧ (decodeText reported).isSome = true
  | _ => True

theorem Ends.cons {bytes : List UInt8} {lines : List (List UInt8)} {later : EventLog}
    {item : Option (Except InputError Event)} (h : Ends lines later item) :
    Ends (bytes :: lines) later item := by
  rw [Ends.eq_def] at h ⊢
  split
  next =>
    obtain ⟨hnumber, before, reported, rfl, htext⟩ := h
    exact ⟨hnumber, bytes :: before, reported, rfl, htext⟩
  next => trivial

theorem ends_readEvent {bytes : List UInt8} {decoded : String}
    (h : decodeText bytes = some decoded) (text : List Char) (rest : List (List UInt8))
    (number : Nat) : Ends [bytes] ⟨rest, number⟩ (some (readEvent number text)) := by
  rw [readEvent]
  split
  · trivial
  · exact ⟨rfl, [], bytes, rfl, Option.isSome_of_eq_some h⟩

theorem reads_nextFrom (lines : List (List UInt8)) (line : Nat) :
    ∃ read, Reads ⟨lines, line⟩ read (nextFrom line lines).2 ∧
      Ends read (nextFrom line lines).2 (nextFrom line lines).1 := by
  induction lines generalizing line with
  | nil => exact ⟨[], .refl _, trivial⟩
  | cons bytes rest ih =>
      rw [nextFrom]
      cases hd : decodeText bytes with
      | none => exact ⟨[bytes], reads_undecoded hd rest line, trivial⟩
      | some text =>
          have hread := reads_text hd rest line
          cases ht : trim text.toList with
          | nil =>
              obtain ⟨read, hreads, hends⟩ := ih (line + 1)
              simp only [ht]
              exact ⟨[bytes] ++ read, hread.trans hreads, hends.cons⟩
          | cons c cs =>
              simp only [ht]
              exact ⟨[bytes], hread, ends_readEvent hd (c :: cs) rest (line + 1)⟩

theorem reads_next (log : EventLog) :
    ∃ read, Reads log read (Source.next log).2 ∧
      Ends read (Source.next log).2 (Source.next log).1 := reads_nextFrom log.pending log.line

theorem reads_skip (n : Nat) (log : EventLog) : ∃ read, Reads log read (Source.skip n log) := by
  induction n generalizing log with
  | zero => exact ⟨[], .refl log⟩
  | succ n ih =>
      obtain ⟨first, hfirst, _⟩ := reads_next log
      obtain ⟨more, hmore⟩ := ih (Source.next log).2
      exact ⟨first ++ more, hfirst.trans hmore⟩

theorem Lines.complete {bytes line : List UInt8} {lines before rest : List (List UInt8)}
    (h : Lines bytes lines) (split : lines = before ++ line :: rest) :
    cutLines before.flatten = before ∧ before.flatten.count 10 = before.length := by
  induction h generalizing before with
  | nil => simp at split
  | last =>
      cases before with
      | nil => exact ⟨rfl, rfl⟩
      | cons _ before => simp at split
  | @more first _ _ closed _ ih =>
      cases before with
      | nil => exact ⟨rfl, rfl⟩
      | cons _ before =>
          obtain ⟨rfl, hrest⟩ := List.cons.inj split
          obtain ⟨hcut, hcount⟩ := ih hrest
          have hbytes : (((first ++ [10]) :: before).flatten : List UInt8) =
              first ++ 10 :: before.flatten := by simp
          rw [hbytes, cutLines_line closed, hcut, List.count_append, List.count_cons_self, hcount,
            List.count_eq_zero.mpr closed, List.length_cons, Nat.zero_add]
          exact ⟨rfl, rfl⟩

/-- A call, after `n` others, reports a fault of the line that stands behind these bytes. -/
inductive Reports (bytes : List UInt8) (n : Nat) : List UInt8 → Nat → Prop
  | intro {before : List (List UInt8)} {reported : List UInt8} {number : Nat} {message : String}
      (split : cutLines bytes =
        before ++ reported :: (Source.next (Source.skip n (ofBytes bytes))).2.pending)
      (fault : (Source.next (Source.skip n (ofBytes bytes))).1 =
        some (.error (.event number message))) :
      Reports bytes n before.flatten number

theorem reads_reported {bytes : List UInt8} {n number : Nat} {message : String}
    (fault : (Source.next (Source.skip n (ofBytes bytes))).1 =
      some (.error (.event number message))) :
    ∃ before reported, cutLines bytes =
        before ++ reported :: (Source.next (Source.skip n (ofBytes bytes))).2.pending ∧
      number + undecoded before = 1 + before.length := by
  obtain ⟨passed, hpassed⟩ := reads_skip n (ofBytes bytes)
  obtain ⟨read, hread, hends⟩ := reads_next (Source.skip n (ofBytes bytes))
  have hall := hpassed.trans hread
  rw [fault] at hends
  obtain ⟨hnumber, before, reported, rfl, htext⟩ := hends
  have hsplit : cutLines bytes = passed ++ (before ++ [reported]) ++ _ := hall.split
  have hcounted : _ + undecoded (passed ++ (before ++ [reported])) = 0 + _ := hall.counted
  rw [← hnumber, ← List.append_assoc, undecoded_append, undecoded_singleton htext] at hcounted
  refine ⟨passed ++ before, reported, by simpa using hsplit, ?_⟩
  simp only [List.length_append, List.length_singleton] at hcounted ⊢
  omega

theorem Reports.counts {bytes before : List UInt8} {n number : Nat}
    (h : Reports bytes n before number) :
    number + undecoded (cutLines before) = 1 + before.count 10 := by
  cases h with
  | intro split fault =>
      obtain ⟨passed, line, hsplit, hcounted⟩ := reads_reported fault
      -- what the call leaves unread tells the lines before the reported one
      obtain rfl := List.append_inj_left' (hsplit.symm.trans split) rfl
      obtain ⟨hcut, hcount⟩ := (lines_cutLines bytes).complete split
      rw [hcut, hcount, hcounted]

theorem faults_number_texts (bytes : List UInt8) (n : Nat) :
    (∀ number message,
      (Source.next (Source.skip n (ofBytes bytes))).1 = some (.error (.event number message)) →
        ∃ before, Reports bytes n before number) ∧
    ∀ before number, Reports bytes n before number →
      number + undecoded (cutLines before) = 1 + before.count 10 ∧
        (number = 1 + before.count 10 ↔
          ∀ line ∈ cutLines before, (decodeText line).isSome = true) := by
  constructor
  · intro number message fault
    obtain ⟨before, reported, hsplit, _⟩ := reads_reported fault
    exact ⟨_, .intro hsplit fault⟩
  · intro before number h
    have hcounts := h.counts
    refine ⟨hcounts, ?_⟩
    rw [← undecoded_eq_zero]
    omega

def garbled : List UInt8 := [0xff, 10, 123, 10]

theorem reports_garbled : Reports garbled 1 [0xff, 10] 1 := by
  have fault : (Source.next (Source.skip 1 (ofBytes garbled))).1 =
      some (.error (.event 1 ((⟨.endInObject, some 1⟩ : Fault).message ['\x7b']))) := rfl
  have split : cutLines garbled =
      [[0xff, 10]] ++ [123, 10] :: (Source.next (Source.skip 1 (ofBytes garbled))).2.pending := rfl
  exact .intro split fault

theorem faults_number_texts_garbled :
    (∃ before, Reports garbled 1 before 1) ∧
      1 + undecoded (cutLines [0xff, 10]) = 1 + ([0xff, 10] : List UInt8).count 10 ∧
      ¬ ∀ line ∈ cutLines [0xff, 10], (decodeText line).isSome = true := by
  obtain ⟨hreported, hcounted⟩ := faults_number_texts garbled 1
  have fault : ∃ message, (Source.next (Source.skip 1 (ofBytes garbled))).1 =
      some (.error (.event 1 message)) := ⟨_, rfl⟩
  obtain ⟨message, fault⟩ := fault
  obtain ⟨hsum, hnumber⟩ := hcounted _ _ reports_garbled
  refine ⟨hreported _ _ fault, hsum, ?_⟩
  rw [← hnumber]
  decide

theorem undecoded_line_uncounted :
    ¬ ∀ bytes n before number, Reports bytes n before number → number = 1 + before.count 10 := by
  intro h
  have hnumber := h _ _ _ _ reports_garbled
  revert hnumber
  decide

end TabSearch.EventLog
