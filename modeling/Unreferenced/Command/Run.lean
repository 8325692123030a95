import Unreferenced.Command.Options
import Unreferenced.Project.Analysis

/-! A run of the command on a directory tree: what it prints, how it ends, and the tree afterwards. Only
the output file of a run that gets so far is written. -/

namespace Unreferenced.Command

def usage : String :=
  "usage: unusedcode [-h] [--path PATH] [--ignore-file IGNORE_FILE]\n" ++
  "                  [--format \x7bjson,text\x7d] [--output OUTPUT]\n" ++
  "                  [--log-level \x7bdebug,info,warning,error\x7d] [--strict]\n" ++
  "                  [--version]\n"

def helpText : String :=
  usage ++ "\n" ++
  "Report Swift declarations whose name appears nowhere but on their own\n" ++
  "declaration line. Exits 1 when any are found.\n" ++
  "\n" ++
  "options:\n" ++
  "  -h, --help            show this help message and exit\n" ++
  "  --path PATH           Project directory to scan\n" ++
  "  --ignore-file IGNORE_FILE\n" ++
  "                        Ignore rules file (default: <path>/.unusedignore)\n" ++
  "  --format \x7bjson,text\x7d  Report format\n" ++
  "  --output OUTPUT       Write the report to this file instead of stdout\n" ++
  "  --log-level \x7bdebug,info,warning,error\x7d\n" ++
  "                        Diagnostic verbosity\n" ++
  "  --strict              Also fail when an ignore rule matched nothing\n" ++
  "  --version             show program's version number and exit\n"

def versionText : String := "unusedcode 0.1.0\n"

def usageErrorText (error : UsageError) : String :=
  usage ++ "unusedcode: error: " ++ error.message ++ "\n"

/-- A machine that runs the command: it reads patterns, and it writes text to files and to its
terminal. -/
structure Machine where
  patterns : Regex.Host
  files : Text.Codec
  terminal : Text.Codec

/-- A machine that writes all text as UTF-8, and on which all names of files are text. -/
def Machine.standard : Machine :=
  ⟨.standard, .utf8 fun _ => none, .utf8 fun _ => none⟩

/-- What breaks a run off. -/
inductive Abort where
  | limit (reached : Regex.Limit)
  | file (fault : Project.FileFault)
  | terminal (refusal : Text.Refusal)
  deriving DecidableEq, Repr

def Abort.message : Abort → String
  | limit reached => reached.message
  | file fault => fault.message
  | terminal refusal => refusal.message

inductive Ending where
  | exit (status : Nat)
  | abort (reason : Abort)
  deriving DecidableEq, Repr

structure Outcome where
  ending : Ending
  output : String
  errors : String
  tree : Project.Tree

/-- The log of a run, a line for every event that is serious enough. -/
def logText (settings : Settings) (events : List Event) : String :=
  String.join ((renderLog settings.logLevel events).map (· ++ "\n"))

/-- What a run prints when it has written its report to a file. -/
def notice (path : Project.Path) : String := "Report written to " ++ path.text ++ "\n"

/-- Ends a run that has its files as in the tree by printing a text. -/
def finish (machine : Machine) (text : String) (status : Nat) (errors : String)
    (tree : Project.Tree) : Outcome :=
  match machine.terminal text with
  | .ok _ => ⟨.exit status, text, errors, tree⟩
  | .error refusal => ⟨.abort (.terminal refusal), "", errors, tree⟩

/-- Ends a run by showing its report, in the output file or on the terminal. -/
def deliver (machine : Machine) (settings : Settings) (report : Report) (errors : String)
    (tree : Project.Tree) (current : Project.Place) : Outcome :=
  let rendered := settings.format.render report
  let status := report.exitStatus settings.strict
  match settings.output.map Project.Path.parse with
  | none => finish machine rendered status errors tree
  | some path =>
    match tree.writeText machine.files current path rendered with
    | .ok written => finish machine (notice path) status errors written
    | .error (fault, left) => ⟨.abort (.file fault), "", errors, left⟩

def runWith (machine : Machine) (settings : Settings) (tree : Project.Tree)
    (current : Project.Place) : Outcome :=
  let root := Project.Path.parse settings.path
  let place := root.resolve current
  if root.hasNull then ⟨.abort (.file .nullByte), "", "", tree⟩
  else if !tree.isDirectoryAt place then
    ⟨.exit 1, "",
      "Path does not exist or is not a directory: " ++ Project.Place.text place ++ "\n", tree⟩
  else
    let analysis := Project.analyze machine.patterns tree current ⟨1, place⟩
      (settings.ignoreFile.map Project.Path.parse)
    let errors := logText settings analysis.events
    match analysis.value with
    | .error reached => ⟨.abort (.limit reached), "", errors, tree⟩
    | .ok report => deliver machine settings report errors tree current

/-- Runs the command with its arguments, on a tree and seen from the current place. -/
def run (machine : Machine) (arguments : List String) (tree : Project.Tree)
    (current : Project.Place) : Outcome :=
  match readArguments arguments with
  | .error error => ⟨.exit 2, "", usageErrorText error, tree⟩
  | .ok .help => ⟨.exit 0, helpText, "", tree⟩
  | .ok .version => ⟨.exit 0, versionText, "", tree⟩
  | .ok (.run settings) => runWith machine settings tree current

end Unreferenced.Command
