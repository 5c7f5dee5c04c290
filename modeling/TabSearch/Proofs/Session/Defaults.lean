import TabSearch.Proofs.CommandLine
import TabSearch.Proofs.Session.Printing

namespace TabSearch

def File.Says (f : File) (c : Settings) : Prop :=
  ∃ text, f.text = .ok text ∧ Settings.parse text = .ok c

theorem File.not_says_of_error {f : File} {e : FileError} (h : f.text = .error e) (c : Settings) :
    ¬ f.Says c := by
  rintro ⟨text, htext, -⟩
  rw [h] at htext
  cases htext

namespace Settings

theorem load_of_says {f : File} {c : Settings} (h : f.Says c) : load f = ⟨c, none⟩ := by
  obtain ⟨text, htext, hparse⟩ := h
  cases f with
  | bytes content => simp only [load, File.present, htext, hparse, if_true]
  | _ => cases htext

theorem load_of_fault {f : File} (h : ∀ c, ¬ f.Says c) :
    (load f).settings = .default ∧ (load f).warning.isSome = f.present := by
  cases hpresent : f.present with
  | false => simp [load, hpresent]
  | true =>
      cases htext : f.text with
      | error e => simp [load, hpresent, htext]
      | ok text =>
          cases hparse : parse text with
          | ok c => exact absurd ⟨text, htext, hparse⟩ (h c)
          | error message => simp [load, hpresent, htext, hparse]

def options (c : Settings) : List (Opt × String) :=
  [(.format, c.format.name), (.opening, c.markers.opening), (.closing, c.markers.closing)]

end Settings

namespace Arguments

def gives (a : Arguments) : Opt → Bool
  | .tabs => a.tabs.isSome
  | .events => a.events.isSome
  | .format => a.format.isSome
  | .opening => a.opening.isSome
  | .closing => a.closing.isSome

def gaps (a : Arguments) (c : Settings) : List (Opt × String) :=
  c.options.filter fun e => !a.gives e.1

def complete (a : Arguments) (c : Settings) : Arguments :=
  { a with
    format := some (a.format.getD c.format)
    opening := some (a.opening.getD c.markers.opening)
    closing := some (a.closing.getD c.markers.closing) }

theorem setAll_gaps (a : Arguments) (c : Settings) : a.setAll (a.gaps c) = some (a.complete c) := by
  obtain ⟨query, tabs, events, format, opening, closing⟩ := a
  obtain ⟨chosen, markers⟩ := c
  cases chosen <;> cases format <;> cases opening <;> cases closing <;> rfl

end Arguments

def Request.complete (c : Settings) : Request → Request
  | .run a => .run (a.complete c)
  | request => request

def CommandLine.withSettings (c : Settings) (arguments : List String) : List String :=
  match parse arguments with
  | .run a => (a.gaps c).map (fun e => optionWord e.1 e.2) ++ arguments
  | _ => arguments

theorem CommandLine.parse_withSettings (c : Settings) (arguments : List String) :
    parse (withSettings c arguments) = (parse arguments).complete c := by
  cases h : parse arguments with
  | run a =>
      simp only [withSettings, h]
      exact parse_optionWords h (a.setAll_gaps c)
  | _ => simp only [withSettings, h, Request.complete]

def Surroundings.bare (s : Surroundings) : Surroundings := { s with settings := .missing }

structure Result.Agrees (r r' : Result) : Prop where
  code : r.code = r'.code
  output : r.output = r'.output
  error : r.error = r'.error

namespace Session

variable {s : Surroundings} {arguments words : List String}

theorem load_complete (c : Settings) (a : Arguments) : load s (a.complete c) = load s a := rfl

theorem report_complete (c : Settings) (a : Arguments) (tabs : List Tab) :
    report (effective .default (a.complete c)) tabs ((a.complete c).query.getD "") =
      report (effective c a) tabs (a.query.getD "") := rfl

theorem run_agrees (file : File)
    (h : (CommandLine.parse arguments).complete (Settings.load s.settings).settings =
      (CommandLine.parse words).complete (Settings.load file).settings) :
    (run s arguments).Agrees (run { s with settings := file } words) := by
  cases harguments : CommandLine.parse arguments <;> cases hwords : CommandLine.parse words <;>
    rw [harguments, hwords] at h <;> simp only [Request.complete, reduceCtorEq] at h
  case run.run a b =>
    have hcomplete := Request.run.inj h
    have hload : load s a = load { s with settings := file } b := by
      rw [← load_complete (Settings.load s.settings).settings a, hcomplete, load_complete]
      rfl
    rw [run_eq harguments, run_eq hwords, ← hload]
    cases load s a with
    | error e => exact ⟨rfl, rfl, rfl⟩
    | ok tabs =>
        refine ⟨rfl, ?_, rfl⟩
        change report _ tabs _ = report _ tabs _
        rw [← report_complete, hcomplete, report_complete]
  all_goals
    simp only [run, harguments, hwords]
    exact ⟨rfl, rfl, rfl⟩

theorem run_agrees_of_fault (h : ∀ c, ¬ s.settings.Says c) (arguments : List String) :
    (run s arguments).Agrees (run s.bare arguments) :=
  run_agrees .missing (by rw [(Settings.load_of_fault h).1]; rfl)

theorem run_agrees_of_says {c : Settings} (h : s.settings.Says c)
    (hwords : CommandLine.parse words = (CommandLine.parse arguments).complete c) :
    (run s arguments).Agrees (run s.bare words) := by
  refine run_agrees .missing ?_
  rw [Settings.load_of_says h, hwords]
  cases CommandLine.parse arguments <;> rfl

theorem warning_eq (s : Surroundings) (arguments : List String) :
    (run s arguments).warning = (Settings.load s.settings).warning.map (s!"Warning: {·}") := by
  cases h : CommandLine.parse arguments with
  | run a =>
      rw [run_eq h]
      cases load s a <;> rfl
  | _ => rw [run, h]

theorem settings_fill_gaps (s : Surroundings) (arguments : List String) :
    ((∀ c, ¬ s.settings.Says c) →
      (run s arguments).warning.isSome = s.settings.present ∧
        (run s arguments).Agrees (run s.bare arguments)) ∧
    (∀ c, s.settings.Says c → (run s arguments).warning = none ∧
      CommandLine.parse (CommandLine.withSettings c arguments) =
        (CommandLine.parse arguments).complete c ∧
      ∀ words, CommandLine.parse words = (CommandLine.parse arguments).complete c →
        (run s arguments).Agrees (run s.bare words)) := by
  refine ⟨fun h => ⟨?_, run_agrees_of_fault h arguments⟩, fun c h =>
    ⟨?_, CommandLine.parse_withSettings c arguments, fun words => run_agrees_of_says h⟩⟩
  · rw [warning_eq, Option.isSome_map, (Settings.load_of_fault h).2]
  · rw [warning_eq, Settings.load_of_says h, Option.map_none]

def deskWith (text : String) : Surroundings :=
  { desk with settings := .bytes (encodeText text.toList) }

def lockedDesk : Surroundings :=
  { desk with settings := .inaccessible "Permission denied (os error 13)" }

theorem lockedDesk_not_says : ∀ c, ¬ lockedDesk.settings.Says c := File.not_says_of_error rfl

/-- The second file has a marker and then a fault, and its marker is dropped too. -/
theorem settings_fill_gaps_desk :
    ((deskWith "output.format=\"json\"").settings.Says ⟨.json, .default⟩ ∧
      CommandLine.withSettings ⟨.json, .default⟩ ["--open", "<"] =
        ["--format=json", "--close=]", "--open", "<"] ∧
      (run (deskWith "output.format=\"json\"") ["--open", "<"]).warning = none ∧
      (run (deskWith "output.format=\"json\"") ["--open", "<"]).Agrees
        (run desk ["-fjson", "--open=<", "--close", "]"])) ∧
    ((∀ c, ¬ (deskWith "highlight.open=\"<\"\noutput=1").settings.Says c) ∧
      (run (deskWith "highlight.open=\"<\"\noutput=1") ["bo"]).warning.isSome ∧
      (run (deskWith "highlight.open=\"<\"\noutput=1") ["bo"]).Agrees
        (run desk ["bo"])) ∧
    ((∀ c, ¬ lockedDesk.settings.Says c) ∧
      (run lockedDesk ["bo"]).warning.isSome = false ∧
      (run lockedDesk ["bo"]).Agrees (run desk ["bo"])) := by
  have htext (text : String) : (deskWith text).settings.text = .ok text := by
    simp only [deskWith, File.text, File.contents, bind, Except.bind, decodeText_encodeText,
      String.ofList_toList]
  have hgood : (deskWith "output.format=\"json\"").settings.Says ⟨.json, .default⟩ :=
    ⟨_, htext _, by rfl⟩
  have hfault (c : Settings) :
      ¬ (deskWith "highlight.open=\"<\"\noutput=1").settings.Says c := by
    rintro ⟨text, hread, hparse⟩
    rw [htext] at hread
    cases hread
    have hnone : (Settings.parse "highlight.open=\"<\"\noutput=1").toOption = none := by rfl
    rw [hparse] at hnone
    cases hnone
  obtain ⟨hwarning, -, hagrees⟩ :=
    (settings_fill_gaps (deskWith "output.format=\"json\"") ["--open", "<"]).2 _ hgood
  obtain ⟨hwarned, hsame⟩ :=
    (settings_fill_gaps (deskWith "highlight.open=\"<\"\noutput=1") ["bo"]).1 hfault
  exact ⟨⟨hgood, by rfl, hwarning, hagrees _ (by rfl)⟩, ⟨hfault, hwarned, hsame⟩,
    lockedDesk_not_says, (settings_fill_gaps lockedDesk ["bo"]).1 lockedDesk_not_says⟩

/-- Settings that cannot be read, with no warning: of a file that is missing, and of one that is there
in a directory that cannot be searched. -/
theorem unread_settings_unwarned :
    ((∀ c, ¬ desk.settings.Says c) ∧ (run desk ["bo"]).warning = none) ∧
    ((∀ c, ¬ lockedDesk.settings.Says c) ∧ (run lockedDesk ["bo"]).warning = none) :=
  ⟨⟨File.not_says_of_error rfl, warning_eq desk ["bo"]⟩,
    lockedDesk_not_says, warning_eq lockedDesk ["bo"]⟩

end Session

end TabSearch
