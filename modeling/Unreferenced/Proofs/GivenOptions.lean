import Unreferenced.Command.Options

/-! The settings that arguments choose. Every option is given a value as often as the arguments name it,
and the last value counts. The options act from left to right, and a run is started only if none of them
is refused and none of them ends it, so the last values are all that the settings depend on. -/

namespace Unreferenced.Command

/-- The value of an option with the words behind it: the one attached to it, or else the plain word that
comes next. An option that takes no value ignores it. -/
def valueOf : Attached → List Word → String
  | .equals value, _ => value
  | .direct value, _ => value
  | .none, .plain value :: _ => value
  | .none, _ => ""

/-- The options that words name, in order, with their values. -/
def choices : List Word → List (Switch × String)
  | [] => []
  | .named switch attached :: rest => (switch, valueOf attached rest) :: choices rest
  | _ :: rest => choices rest

def valuesFor (switch : Switch) (choices : List (Switch × String)) : List String :=
  (choices.filter fun choice => choice.1 = switch).map Prod.snd

/-- The values that arguments give to an option, in order. -/
def valuesGiven (switch : Switch) (arguments : List String) : List String :=
  match wordsOf arguments with
  | .ok words => valuesFor switch (choices words)
  | .error _ => []

/-- The settings with a choice that is not refused. -/
def Settings.choose (settings : Settings) : Switch × String → Settings
  | (.path, value) => { settings with path := value }
  | (.ignoreFile, value) => { settings with ignoreFile := given? value }
  | (.output, value) => { settings with output := given? value }
  | (.format, value) => { settings with format := (Format.ofName? value).getD .text }
  | (.logLevel, value) => { settings with logLevel := (Level.ofName? value).getD .warning }
  | (.strict, _) => { settings with strict := true }
  | (.help, _) | (.version, _) => settings

theorem choose_of_assign {settings settings' : Settings} {switch : Switch} {value : String}
    (h : settings.assign switch value = .ok settings') :
    settings' = settings.choose (switch, value) := by
  cases switch with
  | format =>
      rw [Settings.assign] at h
      rw [Settings.choose]
      cases hname : Format.ofName? value with
      | none => rw [hname] at h; cases h
      | some format => rw [hname] at h; exact (Except.ok.inj h).symm
  | logLevel =>
      rw [Settings.assign] at h
      rw [Settings.choose]
      cases hname : Level.ofName? value with
      | none => rw [hname] at h; cases h
      | some level => rw [hname] at h; exact (Except.ok.inj h).symm
  | _ => exact (Except.ok.inj h).symm

theorem bind_eq_ok {ε α β : Type} {x : Except ε α} {f : α → Except ε β} {b : β}
    (h : x >>= f = .ok b) : ∃ a, x = .ok a ∧ f a = .ok b := by
  cases x with
  | error e => cases h
  | ok a => exact ⟨a, rfl, h⟩

theorem foldl_choose_of_assign {settings final : Settings} {switch : Switch} {value : String}
    {rest : List (Switch × String)} {next : Settings → Except UsageError Request}
    (hnext : ∀ settings' : Settings, next settings' = .ok (.run final) →
      final = rest.foldl Settings.choose settings')
    (h : settings.assign switch value >>= next = .ok (.run final)) :
    final = ((switch, value) :: rest).foldl Settings.choose settings := by
  obtain ⟨settings', hassign, hrun⟩ := bind_eq_ok h
  rw [List.foldl_cons, ← choose_of_assign hassign]
  exact hnext settings' hrun

/-- If the options start a run, its settings are those that the choices make one after another. -/
theorem settings_of_act {settings final : Settings} {extra : List String} {words : List Word}
    (h : act settings extra words = .ok (.run final)) :
    final = (choices words).foldl Settings.choose settings := by
  fun_induction act settings extra words with
  | case1 settings extra hextra => exact (Request.run.inj (Except.ok.inj h)).symm
  | case2 settings extra hextra => cases h
  | case3 settings extra text rest ih => exact ih h
  | case4 settings extra text rest ih => exact ih h
  | case5 settings extra switch rest htakes value ih => exact foldl_choose_of_assign ih h
  | case6 settings extra switch rest htakes value ih => exact foldl_choose_of_assign ih h
  | case7 settings extra switch htakes value others ih => exact foldl_choose_of_assign ih h
  | case8 settings extra switch rest htakes hrest => cases h
  | case9 settings extra switch rest htakes value => cases h
  | case10 settings extra switch rest htakes value =>
      obtain ⟨_, _, hhelp⟩ := bind_eq_ok h
      cases hhelp
  | case11 settings extra rest htakes => cases h
  | case12 settings extra rest htakes => cases h
  | case13 settings extra switch rest htakes hhelp hversion ih =>
      -- The only other option without a value does not look at the word behind it.
      cases switch with
      | strict => exact ih _ h
      | help => exact absurd rfl hhelp
      | version => exact absurd rfl hversion
      | _ => exact absurd rfl htakes

theorem valuesFor_cons (switch other : Switch) (value : String)
    (choices : List (Switch × String)) :
    valuesFor switch ((other, value) :: choices) =
      if other = switch then value :: valuesFor switch choices else valuesFor switch choices := by
  by_cases h : other = switch <;> simp [valuesFor, h]

/-- Of the values given to an option, the last one decides about its setting. -/
theorem foldl_choose (settings : Settings) (choices : List (Switch × String)) :
    choices.foldl Settings.choose settings =
      { path := (valuesFor .path choices).getLast?.getD settings.path
        ignoreFile := ((valuesFor .ignoreFile choices).getLast?.map given?).getD settings.ignoreFile
        format := ((valuesFor .format choices).getLast?.map fun value =>
          (Format.ofName? value).getD .text).getD settings.format
        output := ((valuesFor .output choices).getLast?.map given?).getD settings.output
        logLevel := ((valuesFor .logLevel choices).getLast?.map fun value =>
          (Level.ofName? value).getD .warning).getD settings.logLevel
        strict := settings.strict || !(valuesFor .strict choices).isEmpty } := by
  induction choices generalizing settings with
  | nil => simp [valuesFor]
  | cons choice choices ih =>
      obtain ⟨switch, value⟩ := choice
      rw [List.foldl_cons, ih]
      cases switch <;> simp [valuesFor_cons, Settings.choose, List.getLast?_cons]

/-- The settings by the last value of every option. -/
def Settings.lastGiven (arguments : List String) : Settings where
  path := (valuesGiven .path arguments).getLast?.getD "."
  ignoreFile := (valuesGiven .ignoreFile arguments).getLast?.bind given?
  format := ((valuesGiven .format arguments).getLast?.bind Format.ofName?).getD .text
  output := (valuesGiven .output arguments).getLast?.bind given?
  logLevel := ((valuesGiven .logLevel arguments).getLast?.bind Level.ofName?).getD .warning
  strict := !(valuesGiven .strict arguments).isEmpty

/-- A run is started with the last value of every option. -/
theorem eq_lastGiven_of_readArguments {arguments : List String} {settings : Settings}
    (h : readArguments arguments = .ok (.run settings)) : settings = .lastGiven arguments := by
  obtain ⟨words, hwords, hact⟩ := bind_eq_ok h
  have hgiven : ∀ switch, valuesGiven switch arguments = valuesFor switch (choices words) := by
    intro switch
    rw [valuesGiven, hwords]
  have hbind : ∀ {α : Type} (read : String → Option α) (default : α) (value : Option String),
      (value.map fun text => (read text).getD default).getD default =
        (value.bind read).getD default := by
    rintro α read default (_ | text) <;> rfl
  have hjoin : ∀ value : Option String, (value.map given?).getD none = value.bind given? := by
    rintro (_ | text) <;> rfl
  rw [settings_of_act hact, foldl_choose, Settings.lastGiven]
  simp only [hgiven, Settings.initial, hbind, hjoin, Bool.false_or]

end Unreferenced.Command
