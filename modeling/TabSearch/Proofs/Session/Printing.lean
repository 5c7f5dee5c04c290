import TabSearch.Proofs.Registry.Replay
import TabSearch.Proofs.Snapshot
import TabSearch.Session

namespace TabSearch.Session

section Replay

variable (tabs : List Tab) {log : EventLog} {es : List Event}

theorem replay_eq (log : EventLog) :
    replay tabs log = match (Registry.play 0 ⟨tabs, [], 0⟩ (Source.items log)).result with
      | .error (.input e) => .error e
      | _ => .ok (Registry.play 0 ⟨tabs, [], 0⟩ (Source.items log)).registry.tabs := by
  have hsync : (Registry.empty.sync tabs).registry = ⟨tabs, [], 0⟩ := rfl
  simp only [replay, hsync, Registry.attach_play]
  split <;> simp_all

theorem calm_of_no_subscriptions : (⟨tabs, [], 0⟩ : Registry).Calm := fun s hs => by cases hs

theorem replay_events (h : Source.items log = es.map .ok) :
    replay tabs log = .ok (effects es tabs) := by
  have hplay := Registry.play_of_calm (calm_of_no_subscriptions tabs) 0 es []
  rw [List.append_nil] at hplay
  rw [replay_eq, h, hplay]
  exact congrArg Except.ok (Registry.tabs_performAll_calls _ es)

theorem replay_fault {e : InputError} {rest : List (Except InputError Event)}
    (h : Source.items log = es.map .ok ++ .error e :: rest) : replay tabs log = .error e := by
  rw [replay_eq, h, Registry.play_of_calm (calm_of_no_subscriptions tabs)]
  rfl

end Replay

def snapshotFile (s : Surroundings) (a : Arguments) : File :=
  match a.tabs with
  | some path => s.files path
  | none => s.input

inductive Recorded (s : Surroundings) (a : Arguments) : List Event → Prop
  | absent (given : a.events = none) : Recorded s a []
  | file {path : String} {bytes : List UInt8} {said : List (Option Event)}
      (given : a.events = some path) (opened : (s.files path).contents = .ok bytes)
      (good : List.Forall₂ EventLog.Says (cutLines bytes) said) : Recorded s a said.reduceOption

structure Reads (s : Surroundings) (a : Arguments) (tabs : List Tab) (es : List Event) : Prop where
  snapshot : Snapshot.read (snapshotFile s a) = .ok tabs
  events : Recorded s a es

variable {s : Surroundings} {a : Arguments} {tabs : List Tab}

theorem load_eq (s : Surroundings) (a : Arguments) :
    load s a = (Snapshot.read (snapshotFile s a)).bind fun tabs => match a.events with
      | none => .ok tabs
      | some path => (EventLog.openFile (s.files path)).bind (replay tabs) := rfl

theorem load_of_snapshot_fault {e : InputError} (h : Snapshot.read (snapshotFile s a) = .error e) :
    load s a = .error e := by
  rw [load_eq, h]
  rfl

theorem load_of_log {path : String} {bytes : List UInt8}
    (hsnapshot : Snapshot.read (snapshotFile s a) = .ok tabs) (hgiven : a.events = some path)
    (hopened : (s.files path).contents = .ok bytes) :
    load s a = replay tabs (.ofBytes bytes) := by
  simp only [load_eq, hsnapshot, Except.bind, hgiven, EventLog.openFile, hopened]

theorem load_of_reads {es : List Event} (h : Reads s a tabs es) :
    load s a = .ok (effects es tabs) := by
  obtain ⟨hsnapshot, hevents⟩ := h
  cases hevents with
  | absent given =>
      rw [load_eq, hsnapshot, Except.bind, given]
      rfl
  | @file path bytes said given opened good =>
      rw [load_of_log hsnapshot given opened]
      refine replay_events tabs ?_
      have hitems := EventLog.readLines_good good 0 []
      rw [List.append_nil] at hitems
      rw [EventLog.ofBytes, EventLog.items_log, hitems]
      exact List.append_nil _

theorem load_of_spoiled {path : String} {bytes bad : List UInt8} {good rest : List (List UInt8)}
    {said : List (Option Event)} {e : InputError}
    (hsnapshot : Snapshot.read (snapshotFile s a) = .ok tabs) (hgiven : a.events = some path)
    (hopened : (s.files path).contents = .ok bytes) (hlines : cutLines bytes = good ++ bad :: rest)
    (hgood : List.Forall₂ EventLog.Says good said)
    (hbad : EventLog.Spoils (good.length + 1) bad e) : load s a = .error e := by
  rw [← Nat.zero_add good.length] at hbad
  obtain ⟨items, hitems⟩ := EventLog.readLines_spoils hbad rest
  rw [load_of_log hsnapshot hgiven hopened]
  have hfault : Source.items (EventLog.ofBytes bytes) =
      said.reduceOption.map .ok ++ .error e :: items := by
    rw [EventLog.ofBytes, EventLog.items_log, hlines, EventLog.readLines_good hgood, hitems]
  exact replay_fault tabs hfault

theorem load_fails (h : ¬ ∃ tabs es, Reads s a tabs es) : ∃ e, load s a = .error e := by
  cases hsnapshot : Snapshot.read (snapshotFile s a) with
  | error e => exact ⟨e, load_of_snapshot_fault hsnapshot⟩
  | ok tabs =>
      cases hgiven : a.events with
      | none => exact absurd ⟨tabs, [], hsnapshot, .absent hgiven⟩ h
      | some path =>
          cases hopened : (s.files path).contents with
          | error e =>
              refine ⟨.file e, ?_⟩
              simp only [load_eq, hsnapshot, Except.bind, hgiven, EventLog.openFile, hopened]
          | ok bytes =>
              rcases EventLog.good_or_spoiled (cutLines bytes) with
                ⟨said, hgood⟩ | ⟨good, said, bad, rest, hlines, hgood, hbad⟩
              · exact absurd ⟨tabs, _, hsnapshot, .file hgiven hopened hgood⟩ h
              · obtain ⟨e, he⟩ := hbad (good.length + 1)
                exact ⟨e, load_of_spoiled hsnapshot hgiven hopened hlines hgood he⟩

theorem run_eq {arguments : List String} (accepted : CommandLine.parse arguments = .run a) :
    run s arguments = match load s a with
      | .error e => ⟨1, "", some e, (Settings.load s.settings).warning.map (s!"Warning: {·}")⟩
      | .ok tabs => ⟨0, report (effective (Settings.load s.settings).settings a) tabs
          (a.query.getD ""), none, (Settings.load s.settings).warning.map (s!"Warning: {·}")⟩ := by
  cases h : load s a <;> simp only [run, accepted, h]

theorem run_of_fault {arguments : List String} (accepted : CommandLine.parse arguments = .run a)
    {e : InputError} (h : load s a = .error e) :
    (run s arguments).code = 1 ∧ (run s arguments).output = "" ∧
      (run s arguments).error = some e := by
  rw [run_eq accepted, h]
  exact ⟨rfl, rfl, rfl⟩

theorem run_prints_what_is_read (s : Surroundings) (arguments : List String) (a : Arguments)
    (accepted : CommandLine.parse arguments = .run a) :
    (∀ tabs es, Reads s a tabs es →
      (run s arguments).code = 0 ∧ (run s arguments).error = none ∧
        (run s arguments).output =
          (let final := effects es tabs
          let outcome := search final (a.query.getD "").toList
          let chosen := effective (Settings.load s.settings).settings a
          match chosen.format with
          | .plain => Report.plain outcome final.length chosen.markers
          | .json => Report.json outcome ++ "\n")) ∧
    ((¬ ∃ tabs es, Reads s a tabs es) →
      (run s arguments).code = 1 ∧ (run s arguments).output = "" ∧
        ∃ e, (run s arguments).error = some e) ∧
    (∀ e, Snapshot.read (snapshotFile s a) = .error e → (run s arguments).error = some e) ∧
    (∀ tabs path bytes good said bad rest e, Snapshot.read (snapshotFile s a) = .ok tabs →
      a.events = some path → (s.files path).contents = .ok bytes →
      cutLines bytes = good ++ bad :: rest → List.Forall₂ EventLog.Says good said →
      EventLog.Spoils (good.length + 1) bad e → (run s arguments).error = some e) := by
  refine ⟨fun tabs es h => ?_, fun h => ?_, fun e h => ?_, ?_⟩
  · rw [run_eq accepted, load_of_reads h]
    exact ⟨rfl, rfl, rfl⟩
  · obtain ⟨e, he⟩ := load_fails h
    obtain ⟨hcode, houtput, herror⟩ := run_of_fault accepted he
    exact ⟨hcode, houtput, e, herror⟩
  · exact (run_of_fault accepted (load_of_snapshot_fault h)).2.2
  · intro tabs path bytes good said bad rest e hsnapshot hgiven hopened hlines hgood hbad
    exact (run_of_fault accepted
      (load_of_spoiled hsnapshot hgiven hopened hlines hgood hbad)).2.2

open TabSearch.Registry (pinned pinned_kept)

/-- One tab to start with; a log that closes it, and a log without an event. Both start blank. -/
def desk : Surroundings where
  settings := .missing
  input := .bytes (encodeText (Tab.listToJson [pinned]).compactChars)
  files path :=
    if path = "gone" then .bytes (10 :: encodeText (Event.removed 7 {}).toJson.compactChars)
    else .bytes [10, 123, 125]

theorem run_prints_what_is_read_desk :
    (CommandLine.parse ["-e", "gone"] = .run { events := some "gone" } ∧
      Reads desk { events := some "gone" } [pinned] [.removed 7 {}] ∧
      (run desk ["-e", "gone"]).output = "0 tabs\n") ∧
    (CommandLine.parse ["-e", "bad"] = .run { events := some "bad" } ∧
      cutLines [10, 123, 125] = [[10], [123, 125]] ∧
      ∃ m, (run desk ["-e", "bad"]).error = some (.event 2 m)) := by
  have hsnapshot (events : Option String) :
      Snapshot.read (snapshotFile desk { events }) = .ok [pinned] := by
    have hparse := Snapshot.parse_compact (List.forall_mem_singleton.mpr pinned_kept)
    simp only [snapshotFile, desk, Snapshot.read, File.text, File.contents, bind, Except.bind,
      decodeText_encodeText]
    exact hparse
  have hblank : EventLog.Says [10] none :=
    EventLog.says_blank (w := ['\n']) (List.forall_mem_singleton.mpr rfl)
  have hkept : (Event.removed 7 {}).Kept Number.Whole :=
    Registry.visit_kept _ (List.mem_cons_of_mem _ (List.mem_singleton_self _))
  have hgone : EventLog.Says (encodeText ([] ++ ((Event.removed 7 {}).toJson.compactChars ++ [])))
      (some (.removed 7 {})) := EventLog.says_event hkept nofun nofun
  rw [List.nil_append, List.append_nil] at hgone
  have hlines : cutLines (10 :: encodeText (Event.removed 7 {}).toJson.compactChars) =
      [[10], encodeText (Event.removed 7 {}).toJson.compactChars] := by
    have hnewline := newline_not_mem_encodeText (Event.whole_toJson hkept).newline_not_mem
    have hcut := cutLines_line (List.not_mem_nil (a := 10))
      (encodeText (Event.removed 7 {}).toJson.compactChars)
    rw [cutLines_last hnewline (mt encodeText_eq_nil.mp (by simp [Event.toJson, Json.compactChars]))]
      at hcut
    exact hcut
  have hgood : List.Forall₂ EventLog.Says
      (cutLines (10 :: encodeText (Event.removed 7 {}).toJson.compactChars))
      [none, some (.removed 7 {})] := by
    rw [hlines]
    exact .cons hblank (.cons hgone .nil)
  have hreads : Reads desk { events := some "gone" } [pinned] [.removed 7 {}] :=
    ⟨hsnapshot _, .file rfl rfl hgood⟩
  have hbad : ∃ m, EventLog.Spoils 2 [123, 125] (.event 2 m) := by
    have hdecoded : decodeText [123, 125] = some "\x7b\x7d" := by rfl
    exact ⟨_, .malformed hdecoded (by decide) (by rfl)⟩
  obtain ⟨m, hm⟩ := hbad
  have hgoneRun := run_prints_what_is_read desk ["-e", "gone"] { events := some "gone" } (by rfl)
  have hbadRun := run_prints_what_is_read desk ["-e", "bad"] { events := some "bad" } (by rfl)
  refine ⟨⟨by rfl, hreads, (hgoneRun.1 _ _ hreads).2.2⟩, by rfl, by rfl, m, ?_⟩
  exact hbadRun.2.2.2 _ _ _ [[10]] [none] _ [] _ (hsnapshot _) rfl rfl rfl
    (.cons hblank .nil) hm

end TabSearch.Session
