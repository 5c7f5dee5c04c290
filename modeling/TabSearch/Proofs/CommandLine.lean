import Mathlib.Data.List.Basic
import TabSearch.CommandLine

namespace TabSearch

namespace Opt

def name : Opt → String
  | .tabs => "tabs"
  | .events => "events"
  | .format => "format"
  | .opening => "open"
  | .closing => "close"

@[simp] theorem ofLong?_name (o : Opt) : ofLong? o.name = some o := by
  cases o <;> rfl

theorem equals_not_mem_name (o : Opt) : '=' ∉ o.name.toList := by
  cases o <;> decide

end Opt

namespace Arguments

theorem fill_fill {α β : Type} (slot v w : Option α) (f : Option α → β) :
    ((fill slot v).bind fun s => (fill s w).map f) = none := by
  cases slot <;> cases v <;> cases w <;> rfl

theorem bind_map_comm {α β γ : Type} (x : Option α) (y : Option β) (f : α → β → γ) :
    (x.bind fun u => y.map (f u)) = y.bind fun w => x.map (f · w) := by
  cases x <;> cases y <;> rfl

theorem set_set_self (a : Arguments) (o : Opt) (v w : String) :
    (a.set o v).bind (·.set o w) = none := by
  cases o <;> simp only [set, Option.bind_map, Function.comp_def] <;> exact fill_fill _ _ _ _

theorem set_comm (a : Arguments) (o o' : Opt) (v v' : String) :
    (a.set o v).bind (·.set o' v') = (a.set o' v').bind (·.set o v) := by
  by_cases h : o = o'
  · subst h
    rw [set_set_self, set_set_self]
  · cases o <;> cases o' <;> simp only [set, Option.bind_map, Function.comp_def]
    all_goals first | exact absurd rfl h | exact bind_map_comm _ _ _

theorem setQuery_comm (a : Arguments) (o : Opt) (v text : String) :
    (a.setQuery text).bind (·.set o v) = (a.set o v).bind (·.setQuery text) := by
  cases o <;> simp only [set, setQuery, Option.bind_map, Function.comp_def] <;>
    exact bind_map_comm _ _ _

def setAll (a : Arguments) (options : List (Opt × String)) : Option Arguments :=
  options.foldrM (fun e a => a.set e.1 e.2) a

theorem setAll_cons (a : Arguments) (e : Opt × String) (options : List (Opt × String)) :
    a.setAll (e :: options) = (a.setAll options).bind (·.set e.1 e.2) := List.foldrM_cons

end Arguments

namespace CommandLine

variable {s t : State} {a b : Arguments} {o : Opt} {v : String}

def State.take (s : State) : Word → Option State
  | .separator => none
  | .long name value => (Opt.ofLong? name).bind (s.option · value)
  | .short letter more => (Opt.ofShort? letter).bind (s.option · (attached more))
  | .plain text => s.plain text

def State.set (s : State) (o : Opt) (v : String) : Option State :=
  (s.arguments.set o v).map fun arguments => { s with arguments }

theorem State.option_set (s : State) (o o' : Opt) (v : String) (value : Option String) :
    (s.option o' value).bind (·.set o v) = (s.set o v).bind (·.option o' value) := by
  obtain ⟨arguments, waiting⟩ := s
  cases waiting with
  | some waits => cases h : arguments.set o v <;> simp [State.option, State.set, h]
  | none =>
      cases value with
      | none => cases h : arguments.set o v <;> simp [State.option, State.set, h]
      | some w =>
          have hcomm := congrArg (Option.map (State.mk · none)) (arguments.set_comm o' o w v)
          simpa [State.option, State.set, Option.map_bind, Option.bind_map, Function.comp_def]
            using hcomm

theorem State.plain_set (s : State) (o : Opt) (v text : String) :
    (s.plain text).bind (·.set o v) = (s.set o v).bind (·.plain text) := by
  obtain ⟨arguments, waiting⟩ := s
  cases waiting with
  | some waits =>
      have hcomm := congrArg (Option.map (State.mk · none)) (arguments.set_comm waits o text v)
      simpa [State.plain, State.set, Option.map_bind, Option.bind_map, Function.comp_def] using hcomm
  | none =>
      have hcomm := congrArg (Option.map (State.mk · none)) (arguments.setQuery_comm o v text)
      simpa [State.plain, State.set, Option.map_bind, Option.bind_map, Function.comp_def] using hcomm

theorem State.set_waiting (h : s.set o v = some t) : t.waiting = s.waiting := by
  obtain ⟨arguments, -, rfl⟩ := Option.map_eq_some_iff.mp h
  rfl

theorem State.take_set (s : State) (o : Opt) (v : String) (w : Word) :
    (s.take w).bind (·.set o v) = (s.set o v).bind (·.take w) := by
  have hoption (named : Option Opt) (value : Option String) :
      (named.bind (s.option · value)).bind (·.set o v) =
        (s.set o v).bind fun s => named.bind (s.option · value) := by
    cases named with
    | none => cases s.set o v <;> rfl
    | some o' => exact s.option_set o o' v value
  cases w with
  | separator => cases s.set o v <;> rfl
  | long name value => exact hoption (Opt.ofLong? name) value
  | short letter more => exact hoption (Opt.ofShort? letter) (attached more)
  | plain text => exact s.plain_set o v text

theorem State.swap_set {step : State → Option State} {stepped : Option State} {u : State}
    (hcomm : stepped.bind (·.set o v) = (s.set o v).bind step)
    (hstep : stepped = some t) (hset : t.set o v = some u) :
    ∃ w, s.set o v = some w ∧ step w = some u := by
  rw [hstep, Option.bind_some, hset] at hcomm
  exact Option.bind_eq_some_iff.mp hcomm.symm

theorem read_cons_eq_run {text : String} {rest : List String} :
    read s (text :: rest) = .run a ↔
      (Word.ofText text = .separator ∧ readQueries s rest = .run a) ∨
        ∃ t, s.take (Word.ofText text) = some t ∧ read t rest = .run a := by
  have hask (r : Request) (hr : r ≠ .run a) :
      ¬ (if s.waiting.isSome then .wrong else r) = .run a := by
    split <;> simp [hr]
  rw [read]
  cases Word.ofText text with
  | separator => simp [State.take]
  | plain text => cases h : s.plain text <;> simp [State.take, h]
  | long name value =>
      simp only [State.take, reduceCtorEq, false_and, false_or]
      split <;> rename_i heq <;> cases heq
      · simp [hask, Opt.ofLong?]
      · simp [hask, Opt.ofLong?]
      · cases Opt.ofLong? name with
        | none => simp
        | some o => cases h : s.option o value <;> simp [h]
  | short letter more =>
      simp only [State.take, reduceCtorEq, false_and, false_or]
      split <;> rename_i heq <;> cases heq
      · simp [hask, Opt.ofShort?]
      · simp [hask, Opt.ofShort?]
      · cases Opt.ofShort? letter with
        | none => simp
        | some o => cases h : s.option o (attached more) <;> simp [h]

theorem readQueries_cons_eq_run {text : String} {rest : List String} :
    readQueries s (text :: rest) = .run a ↔
      s.waiting = none ∧ ∃ t, s.plain text = some t ∧ readQueries t rest = .run a := by
  obtain ⟨arguments, waiting⟩ := s
  cases waiting with
  | some waits => simp [readQueries]
  | none => cases h : arguments.setQuery text <;> simp [readQueries, State.plain, h]

theorem set_of_ended (h : read s [] = .run a) (hset : a.set o v = some b) :
    ∃ t, s.set o v = some t ∧ read t [] = .run b := by
  obtain ⟨arguments, waiting⟩ := s
  cases waiting with
  | some waits => simp [read] at h
  | none =>
      obtain rfl : arguments = a := by simpa [read] using h
      exact ⟨⟨b, none⟩, by simp [State.set, hset], rfl⟩

theorem readQueries_set {words : List String} (h : readQueries s words = .run a)
    (hset : a.set o v = some b) : ∃ t, s.set o v = some t ∧ readQueries t words = .run b := by
  induction words generalizing s with
  | nil => exact set_of_ended h hset
  | cons text rest ih =>
      obtain ⟨hwaiting, t, ht, hrest⟩ := readQueries_cons_eq_run.mp h
      obtain ⟨u, hu, hread⟩ := ih hrest
      obtain ⟨w, hw, hplain⟩ := State.swap_set (s.plain_set o v text) ht hu
      exact ⟨w, hw, readQueries_cons_eq_run.mpr
        ⟨(State.set_waiting hw).trans hwaiting, u, hplain, hread⟩⟩

theorem read_set {words : List String} (h : read s words = .run a)
    (hset : a.set o v = some b) : ∃ t, s.set o v = some t ∧ read t words = .run b := by
  -- The option moves from the end of the words to their front, past one of them at a time.
  induction words generalizing s with
  | nil => exact set_of_ended h hset
  | cons text rest ih =>
      rcases read_cons_eq_run.mp h with ⟨hseparator, hrest⟩ | ⟨t, ht, hrest⟩
      · obtain ⟨u, hu, hread⟩ := readQueries_set hrest hset
        exact ⟨u, hu, read_cons_eq_run.mpr (.inl ⟨hseparator, hread⟩)⟩
      · obtain ⟨u, hu, hread⟩ := ih hrest
        obtain ⟨w, hw, htake⟩ := State.swap_set (s.take_set o v _) ht hu
        exact ⟨w, hw, read_cons_eq_run.mpr (.inr ⟨u, htake, hread⟩)⟩

def optionWord (o : Opt) (v : String) : String :=
  String.ofList ('-' :: '-' :: (o.name.toList ++ '=' :: v.toList))

theorem splitEquals_append {name : List Char} (h : '=' ∉ name) (value : List Char) :
    splitEquals (name ++ '=' :: value) = (name, some value) := by
  have hname : ∀ c ∈ name, (c != '=') = true := fun c hc => by
    simpa using ne_of_mem_of_not_mem hc h
  rw [splitEquals, List.dropWhile_append_of_pos hname, List.takeWhile_append_of_pos hname]
  simp

theorem Word.ofText_optionWord (o : Opt) (v : String) :
    Word.ofText (optionWord o v) = .long o.name (some v) := by
  have hsplit := splitEquals_append o.equals_not_mem_name v.toList
  rw [Word.ofText, optionWord, String.toList_ofList]
  cases hrest : o.name.toList ++ '=' :: v.toList with
  | nil => simp at hrest
  | cons c cs =>
      rw [hrest] at hsplit
      simp only [hsplit, Option.map_some, String.ofList_toList]

theorem parse_optionWord {words : List String} (h : parse words = .run a)
    (hset : a.set o v = some b) : parse (optionWord o v :: words) = .run b := by
  obtain ⟨t, ht, hread⟩ := read_set h hset
  have htake : State.take ⟨{}, none⟩ (Word.ofText (optionWord o v)) = some t := by
    rw [Word.ofText_optionWord, State.take, Opt.ofLong?_name]
    exact ht
  exact read_cons_eq_run.mpr (.inr ⟨t, htake, hread⟩)

theorem parse_optionWords {words : List String} {options : List (Opt × String)}
    (h : parse words = .run a) (hset : a.setAll options = some b) :
    parse (options.map (fun e => optionWord e.1 e.2) ++ words) = .run b := by
  induction options generalizing b with
  | nil =>
      obtain rfl : a = b := by simpa [Arguments.setAll] using hset
      exact h
  | cons e options ih =>
      rw [Arguments.setAll_cons] at hset
      obtain ⟨c, hc, hset⟩ := Option.bind_eq_some_iff.mp hset
      exact parse_optionWord (ih hc) hset

end CommandLine

end TabSearch
