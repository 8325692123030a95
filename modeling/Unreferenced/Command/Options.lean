import Unreferenced.Log
import Unreferenced.Report.Format
import Unreferenced.Text.Lines

/-! The options of the command line. An option may be cut short as long as it stays unique, and its
value may follow an equals sign or be the next argument. Arguments are read twice: first each one is
taken for an option or a plain word, then the options act in their order. -/

namespace Unreferenced.Command

inductive Switch where
  | help
  | path
  | ignoreFile
  | format
  | output
  | logLevel
  | strict
  | version
  deriving DecidableEq, Repr

namespace Switch

def all : List Switch := [help, path, ignoreFile, format, output, logLevel, strict, version]

def spellings : Switch → List String
  | help => ["-h", "--help"]
  | path => ["--path"]
  | ignoreFile => ["--ignore-file"]
  | format => ["--format"]
  | output => ["--output"]
  | logLevel => ["--log-level"]
  | strict => ["--strict"]
  | version => ["--version"]

def takesValue : Switch → Bool
  | path | ignoreFile | format | output | logLevel => true
  | help | strict | version => false

def ofSpelling? (text : String) : Option Switch := all.find? (·.spellings.contains text)

/-- The spellings that start with a text, each with its option. -/
def startingWith (text : List Char) : List (Switch × String) :=
  all.flatMap fun switch =>
    (switch.spellings.filter fun spelling => text.isPrefixOf spelling.toList).map (switch, ·)

end Switch

inductive UsageError where
  | ambiguous (text : String) (spellings : List String)
  | valueMissing (switch : Switch)
  | valueRefused (switch : Switch) (value : String)
  | unknownChoice (switch : Switch) (value : String) (choices : List String)
  | unrecognized (arguments : List String)
  deriving DecidableEq, Repr

def UsageError.message : UsageError → String
  | ambiguous text spellings =>
    "ambiguous option: " ++ text ++ " could match " ++ ", ".intercalate spellings
  | valueMissing switch => about switch ++ "expected one argument"
  | valueRefused switch value =>
    about switch ++ "ignored explicit argument " ++ Text.quoted value
  | unknownChoice switch value choices =>
    about switch ++ "invalid choice: " ++ Text.quoted value ++ " (choose from " ++
      ", ".intercalate (choices.map Text.quoted) ++ ")"
  | unrecognized arguments => "unrecognized arguments: " ++ " ".intercalate arguments
where
  /-- The option that a refusal is about. -/
  about (switch : Switch) : String := "argument " ++ "/".intercalate switch.spellings ++ ": "

/-- A value that stands in the argument of its option. -/
inductive Attached where
  | none
  /-- After an equals sign. -/
  | equals (value : String)
  /-- Right after an option of one letter. -/
  | direct (value : String)
  deriving DecidableEq, Repr

/-- What an argument is. -/
inductive Word where
  | plain (text : String)
  | named (switch : Switch) (attached : Attached)
  /-- It looks like an option, but there is none of that name. -/
  | unknown (text : String)
  deriving DecidableEq, Repr

/-- A number with a minus sign, which no option looks like. It may have a fraction, and a line feed may
follow it. -/
def isNegativeNumber (text : List Char) : Bool :=
  match text with
  | '-' :: number =>
    let number := if number.getLast? == some '\n' then number.dropLast else number
    let whole := number.takeWhile Text.isDecimal
    match number.dropWhile Text.isDecimal with
    | [] => !whole.isEmpty
    | '.' :: fraction => !fraction.isEmpty && fraction.all Text.isDecimal
    | _ => false
  | _ => false

/-- Takes an argument for what it is. -/
def Word.ofArgument (argument : String) : Except UsageError Word :=
  let chars := argument.toList
  let name := chars.takeWhile (· != '=')
  let attached :=
    match chars.dropWhile (· != '=') with
    | [] => Attached.none
    | _ :: value => .equals (String.ofList value)
  match chars with
  | [] | ['-'] => .ok (.plain argument)
  | '-' :: second :: rest =>
    match Switch.ofSpelling? argument, Switch.ofSpelling? (String.ofList name) with
    | some switch, _ => .ok (.named switch .none)
    | none, some switch => .ok (.named switch attached)
    | none, none =>
      let candidates :=
        if second = '-' then
          (Switch.startingWith name).map fun (switch, spelling) => (switch, spelling, attached)
        else
          ((Switch.ofSpelling? (String.ofList ['-', second])).toList.map fun switch =>
            (switch, String.ofList ['-', second], Attached.direct (String.ofList rest)))
      match candidates with
      | [(switch, _, value)] => .ok (.named switch value)
      | _ :: _ => .error (.ambiguous argument (candidates.map fun (_, spelling, _) => spelling))
      | [] =>
        if isNegativeNumber chars || chars.contains ' ' then .ok (.plain argument)
        else .ok (.unknown argument)
  | _ => .ok (.plain argument)

/-- Takes all arguments for what they are. From two hyphens on, all are plain. The two hyphens
themselves are no value of an option. -/
def wordsOf : List String → Except UsageError (List Word)
  | [] => .ok []
  | argument :: rest =>
    if argument = "--" then .ok (.unknown argument :: rest.map .plain)
    else do
      let word ← Word.ofArgument argument
      return word :: (← wordsOf rest)

structure Settings where
  path : String
  ignoreFile : Option String
  format : Format
  output : Option String
  logLevel : Level
  strict : Bool
  deriving DecidableEq, Repr

def Settings.initial : Settings := ⟨".", none, .text, none, .warning, false⟩

/-- A text that is given and not empty. -/
def given? (text : String) : Option String := if text = "" then none else some text

/-- The settings with a value set. -/
def Settings.assign (settings : Settings) (switch : Switch) (value : String) :
    Except UsageError Settings :=
  match switch with
  | .path => .ok { settings with path := value }
  | .ignoreFile => .ok { settings with ignoreFile := given? value }
  | .output => .ok { settings with output := given? value }
  | .format =>
    match Format.ofName? value with
    | some format => .ok { settings with format := format }
    | none => .error (.unknownChoice switch value (Format.all.map Format.name))
  | .logLevel =>
    match Level.ofName? value with
    | some level => .ok { settings with logLevel := level }
    | none => .error (.unknownChoice switch value (Level.all.map Level.name))
  | .strict => .ok { settings with strict := true }
  | .help | .version => .ok settings

inductive Request where
  | help
  | version
  | run (settings : Settings)
  deriving DecidableEq, Repr

/-- Checks what stands right after `-h`: further options of one letter, of which `-h` is the only one.
Another letter ends the check, for the help text comes before any complaint about it. -/
def checkCluster : List Char → Except UsageError Unit
  | [] => .ok ()
  | c :: rest =>
    if c = '-' then .error (.valueRefused .help (String.ofList (c :: rest)))
    else if c = 'h' then
      match rest with
      | '=' :: value => .error (.valueRefused .help (String.ofList value))
      | _ => checkCluster rest
    else .ok ()

/-- Lets the options act in their order. `extra` holds the arguments that no option took. -/
def act (settings : Settings) (extra : List String) : List Word → Except UsageError Request
  | [] => if extra.isEmpty then .ok (.run settings) else .error (.unrecognized extra)
  | .plain text :: rest => act settings (extra ++ [text]) rest
  | .unknown text :: rest => act settings (extra ++ [text]) rest
  | .named switch attached :: rest =>
    if switch.takesValue then
      match attached with
      | .equals value => do act (← settings.assign switch value) extra rest
      | .direct value => do act (← settings.assign switch value) extra rest
      | .none =>
        match rest with
        | .plain value :: others => do act (← settings.assign switch value) extra others
        | _ => .error (.valueMissing switch)
    else
      match attached with
      | .equals value => .error (.valueRefused switch value)
      | .direct value => do
        checkCluster value.toList
        return .help
      | .none =>
        match switch with
        | .help => .ok .help
        | .version => .ok .version
        | _ => do act (← settings.assign switch "") extra rest

def readArguments (arguments : List String) : Except UsageError Request := do
  act .initial [] (← wordsOf arguments)

end Unreferenced.Command
