import TabSearch.Proofs.Event.Spelling
import TabSearch.Proofs.EventLog.Line
import TabSearch.Proofs.Registry.Attachment

namespace TabSearch

inductive Recording : List Event → List Char → Prop
  | blankEnd {w : List Char} (hw : Blank w) : Recording [] w
  | eventEnd {w w' : List Char} (e : Event) (hw : Blank w) (hw' : Blank w') :
      Recording [e] (w ++ (e.toJson.compactChars ++ w'))
  | blank {es : List Event} {w text : List Char} (hw : Blank w) (h : Recording es text) :
      Recording es (w ++ '\n' :: text)
  | event {es : List Event} {w w' text : List Char} (e : Event) (hw : Blank w) (hw' : Blank w')
      (h : Recording es text) :
      Recording (e :: es) (w ++ (e.toJson.compactChars ++ (w' ++ '\n' :: text)))

namespace EventLog

theorem says_blank {w : List Char} (hw : ∀ c ∈ w, isBlank c = true) : Says (encodeText w) none :=
  .blank (decodeText_encodeText w) (by rw [String.toList_ofList, trim_blank hw])

theorem compactChars_object (ms : List (String × Json)) :
    ∃ cs, (Json.object ms).compactChars = '\x7b' :: (cs ++ ['\x7d']) := ⟨_, rfl⟩

theorem says_event {e : Event} (he : e.Kept Number.Whole) {w w' : List Char}
    (hw : ∀ c ∈ w, isBlank c = true) (hw' : ∀ c ∈ w', isBlank c = true) :
    Says (encodeText (w ++ (e.toJson.compactChars ++ w'))) (some e) := by
  obtain ⟨cs, hcs⟩ := compactChars_object (("type", .string e.kind.name) :: e.fields)
  have hne : e.toJson.compactChars ≠ [] := by simp [Event.toJson, hcs]
  have htrim : trim (w ++ (e.toJson.compactChars ++ w')) = e.toJson.compactChars := by
    refine Trimmed.trim_eq ⟨hw, hw', ?_, ?_, hne⟩ <;> rw [Event.toJson, hcs]
    · rintro c ⟨⟩
      decide
    · intro c hc
      rw [← List.cons_append, List.getLast?_concat] at hc
      cases hc
      decide
  have hparse := Event.parse_compact he
  rw [← htrim] at hne hparse
  exact .event (decodeText_encodeText _) (by rwa [String.toList_ofList])
    (by rwa [String.toList_ofList])

theorem cutLines_text {line : List Char} (h : '\n' ∉ line) (text : List Char) :
    cutLines (encodeText (line ++ '\n' :: text)) =
      encodeText (line ++ ['\n']) :: cutLines (encodeText text) := by
  rw [encodeText_append, encodeText_newline, cutLines_line (newline_not_mem_encodeText h),
    encodeText_append]
  rfl

theorem newline_not_mem_line {e : Event} (he : e.Kept Number.Whole) {w w' : List Char}
    (hw : Blank w) (hw' : Blank w') : '\n' ∉ w ++ (e.toJson.compactChars ++ w') := by
  simp only [List.mem_append, not_or]
  exact ⟨hw.newline_not_mem, (Event.whole_toJson he).newline_not_mem, hw'.newline_not_mem⟩

theorem readLines_recording {es : List Event} {text : List Char} (h : Recording es text)
    (hes : ∀ e ∈ es, e.Kept Number.Whole) (line : Nat) :
    readLines line (cutLines (encodeText text)) = es.map .ok := by
  induction h generalizing line with
  | @blankEnd w hw =>
      by_cases hne : w = []
      · subst hne
        rfl
      · rw [cutLines_last (newline_not_mem_encodeText hw.newline_not_mem)
          (mt encodeText_eq_nil.mp hne), readLines_says (says_blank hw.all)]
        rfl
  | eventEnd e hw hw' =>
      have he := hes e (by simp)
      have hne : e.toJson.compactChars ≠ [] := by
        rw [Event.toJson, Json.compactChars]
        exact List.cons_ne_nil _ _
      rw [cutLines_last (newline_not_mem_encodeText (newline_not_mem_line he hw hw'))
        (mt encodeText_eq_nil.mp (by simp [hne])), readLines_says (says_event he hw.all hw'.all)]
      rfl
  | blank hw h ih =>
      rw [cutLines_text hw.newline_not_mem, readLines_says (says_blank hw.all_newline), ih hes]
      rfl
  | @event es w w' text e hw hw' h ih =>
      have he := hes e (by simp)
      have hcut := cutLines_text (newline_not_mem_line he hw hw') text
      simp only [List.append_assoc] at hcut
      rw [hcut, readLines_says (says_event he hw.all hw'.all_newline),
        ih fun x hx => hes x (by simp [hx])]
      rfl

end EventLog

namespace Registry

theorem attach_recording (r : Registry) {es : List Event} {text : List Char}
    (sent : ∀ e ∈ es, e.Sent ∧ e.Integral) (recorded : Recording es text) :
    (r.attach (EventLog.ofBytes (encodeText text))).1 = (r.attach (es : Queue)).1 ∧
      (r.Calm → (r.attach (es : Queue)).1.result = .ok es.length) := by
  have hitems : Source.items (EventLog.ofBytes (encodeText text)) = Source.items (es : Queue) := by
    rw [EventLog.ofBytes, EventLog.items_log, Source.items_queue]
    exact EventLog.readLines_recording recorded
      (fun e he => ((sent e he).1.kept.whole (sent e he).2)) 0
  refine ⟨?_, fun hr => ?_⟩
  · rw [attach_play, attach_play, hitems]
  · rw [attach_play, Source.items_queue, play_events hr, Nat.zero_add]

def pinned : Tab := { id := 7, windowId := 1, index := 0, extra := [("pinned", .bool true)] }

def visit : List Event := [.created pinned, .removed 7 {}]

def visitText : List Char :=
  [' '] ++ ((Event.created pinned).toJson.compactChars ++ (['\t'] ++ '\n' :: ([] ++ '\n' ::
    ([] ++ ((Event.removed 7 {}).toJson.compactChars ++ [' '])))))

theorem isId_digit {i : Int} (h : 0 ≤ i ∧ i ≤ 9) : IsId i :=
  ⟨Int.le_trans (by decide) h.1, Int.le_trans h.2 (by decide)⟩

theorem pinned_kept : pinned.Kept Number.Whole 1 where
  id := isId_digit (by decide)
  windowId := isId_digit (by decide)
  index := Nat.zero_le _
  less := by decide
  extra := (Members.Extra.nil _ _ 2).insert (by decide) ⟨.bool 2 true, .bool true, .bool true⟩

theorem visit_kept : ∀ e ∈ visit, e.Kept Number.Whole :=
  List.forall_mem_cons.mpr ⟨pinned_kept, List.forall_mem_singleton.mpr
    ⟨isId_digit (by decide), RemoveInfo.isId_zero⟩⟩

theorem attach_recording_visit :
    (∀ e ∈ visit, e.Sent ∧ e.Integral) ∧ Recording visit visitText ∧
      ((⟨[], [⟨0, fun _ => false, 1⟩], 1⟩ : Registry).attach
        (EventLog.ofBytes (encodeText visitText))).1.result = .ok 2 := by
  have hsent : ∀ e ∈ visit, e.Sent ∧ e.Integral := by
    intro e he
    refine ⟨⟨_, Event.parse_compact (visit_kept e he)⟩, ?_⟩
    simp only [visit, List.mem_cons, List.not_mem_nil, or_false] at he
    rcases he with rfl | rfl
    · exact List.forall_mem_singleton.mpr (.bool true)
    · trivial
  have hrecorded : Recording visit visitText :=
    .event (.created pinned) (by decide) (by decide) <|
      .blank (by decide) <| .eventEnd (.removed 7 {}) (by decide) (by decide)
  obtain ⟨hsame, hok⟩ := attach_recording _ hsent hrecorded
  refine ⟨hsent, hrecorded, ?_⟩
  rw [hsame, hok (by simp [Calm, Subscription.Calm])]
  rfl

end Registry

end TabSearch
