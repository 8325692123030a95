import Mathlib.Data.List.TakeWhile
import Unreferenced.Command.Run
import Unreferenced.Proofs.GivenOptions
import Unreferenced.Proofs.TreeFiles

/-! What a run does to the files. It opens one file at most, the one that the last output option names,
and only when it has a report to write there. Where it ends earlier, or cannot open that file, all files
are as they were. A machine that has no bytes for the report, or for the line that names the file, breaks
the run off when the file is open already. Otherwise the run shows the report in the format that was
chosen last, in that file or in its output, and the exit status says whether the report asks for action. -/

namespace Unreferenced

/-- UTF-8 has bytes exactly for the text in which no character stands for a stray byte. -/
theorem Text.Codec.utf8_eq_ok_iff {stray? : Char → Option UInt8} {text : String}
    {content : List UInt8} : Codec.utf8 stray? text = .ok content ↔
      (∀ c ∈ text.toList, stray? c = none) ∧ content = text.toUTF8.toList := by
  have hplain : (∀ c ∈ text.toList, stray? c = none) ↔
      text.toList.dropWhile (fun c => (stray? c).isNone) = [] := by
    simp only [List.dropWhile_eq_nil_iff, Option.isNone_iff_eq_none]
  rw [hplain, Codec.utf8]
  dsimp only
  split
  · rename_i hnone
    simp [hnone, eq_comm]
  · rename_i c rest hsome
    simp [hsome]

namespace Command

open Project

def rootOf (settings : Settings) (current : Place) : Place :=
  (Path.parse settings.path).resolve current

def reportOf (host : Regex.Host) (settings : Settings) (tree : Tree) (current : Place) :
    Except Regex.Limit Report :=
  (analyze host tree current ⟨1, rootOf settings current⟩
    (settings.ignoreFile.map Path.parse)).value

/-- A run that its arguments start, and that has a report to show. -/
structure Reports (machine : Machine) (arguments : List String) (tree : Tree) (current : Place)
    (settings : Settings) (report : Report) : Prop where
  read : readArguments arguments = .ok (.run settings)
  plain : (Path.parse settings.path).hasNull = false
  root : tree.isDirectoryAt (rootOf settings current) = true
  made : reportOf machine.patterns settings tree current = .ok report

/-- An outcome shows a report: in the output file, of which it then prints the name, or in what it
prints. The exit status is one if something is unused or if, under strict settings, a rule is stale. -/
structure Shows (machine : Machine) (settings : Settings) (tree : Tree) (current : Place)
    (report : Report) (outcome : Outcome) : Prop where
  status : outcome.ending = .exit (if report.unused ≠ [] ∨
    settings.strict = true ∧ report.staleRules ≠ [] then 1 else 0)
  printed : settings.output = none →
    outcome.output = settings.format.render report ∧ outcome.tree = tree
  written : ∀ name, settings.output = some name →
    outcome.output = notice (Path.parse name) ∧
      ∃ content, machine.files (settings.format.render report) = .ok content ∧
        ∀ place, outcome.tree.fileAt? place =
          if place = (Path.parse name).resolve current then some content else tree.fileAt? place

/-- A run that opens no file and shows no report: it gives help or its version, refuses its arguments, has
no path or no directory to look at, reaches a limit on the way, cannot open its output file, or has no
output file and a report that the terminal does not take. -/
inductive EndsEarly (machine : Machine) (arguments : List String) (tree : Tree) (current : Place) :
    Prop where
  | help (h : readArguments arguments = .ok .help)
  | version (h : readArguments arguments = .ok .version)
  | refused (error : UsageError) (h : readArguments arguments = .error error)
  | rootRefused (settings : Settings) (h : readArguments arguments = .ok (.run settings))
      (hnull : (Path.parse settings.path).hasNull = true)
  | rootMissing (settings : Settings) (h : readArguments arguments = .ok (.run settings))
      (hplain : (Path.parse settings.path).hasNull = false)
      (hroot : tree.isDirectoryAt (rootOf settings current) = false)
  | limitReached (settings : Settings) (h : readArguments arguments = .ok (.run settings))
      (hplain : (Path.parse settings.path).hasNull = false)
      (hroot : tree.isDirectoryAt (rootOf settings current) = true) (reached : Regex.Limit)
      (hreport : reportOf machine.patterns settings tree current = .error reached)
  | unopened (settings : Settings) (report : Report)
      (h : Reports machine arguments tree current settings report) (name : String)
      (houtput : settings.output = some name) (fault : FileFault)
      (hopen : tree.opened current (Path.parse name) = .error fault)
  | unprinted (settings : Settings) (report : Report)
      (h : Reports machine arguments tree current settings report)
      (houtput : settings.output = none) (refusal : Text.Refusal)
      (hprint : machine.terminal (settings.format.render report) = .error refusal)

/-- A run that is broken off with the file of the name open, for a reason and with the bytes that are in
the file then: none if the report has no bytes, or the report if the line that names the file has none. -/
inductive BrokenOff (machine : Machine) (arguments : List String) (tree : Tree) (current : Place)
    (name : String) : Abort → List UInt8 → Prop where
  | unwritten (settings : Settings) (report : Report)
      (h : Reports machine arguments tree current settings report)
      (houtput : settings.output = some name) (place : Place)
      (hopen : tree.opened current (Path.parse name) = .ok place) (refusal : Text.Refusal)
      (hwrite : machine.files (settings.format.render report) = .error refusal) :
      BrokenOff machine arguments tree current name (.file (.notEncodable refusal)) []
  | unannounced (settings : Settings) (report : Report)
      (h : Reports machine arguments tree current settings report)
      (houtput : settings.output = some name) (place : Place)
      (hopen : tree.opened current (Path.parse name) = .ok place) (content : List UInt8)
      (hwrite : machine.files (settings.format.render report) = .ok content)
      (refusal : Text.Refusal)
      (hprint : machine.terminal (notice (Path.parse name)) = .error refusal) :
      BrokenOff machine arguments tree current name (.terminal refusal) content

/-- What a run puts out is written as UTF-8: its report, and the line that names the output file. -/
structure WritesUtf8 (machine : Machine) (arguments : List String) (tree : Tree)
    (current : Place) : Prop where
  printed : ∀ settings report, Reports machine arguments tree current settings report →
    settings.output = none → machine.terminal (settings.format.render report) =
      .ok (settings.format.render report).toUTF8.toList
  written : ∀ settings report, Reports machine arguments tree current settings report →
    ∀ name, settings.output = some name →
      machine.files (settings.format.render report) =
          .ok (settings.format.render report).toUTF8.toList ∧
        machine.terminal (notice (Path.parse name)) =
          .ok (notice (Path.parse name)).toUTF8.toList

theorem exitStatus_eq (strict : Bool) (report : Report) :
    report.exitStatus strict =
      if report.unused ≠ [] ∨ strict = true ∧ report.staleRules ≠ [] then 1 else 0 := by
  rw [Report.exitStatus]
  cases report.unused <;> cases report.staleRules <;> cases strict <;> rfl

/-! ### Showing the report -/

section Deliver

variable {machine : Machine} {settings : Settings} {report : Report} {tree : Tree} {current : Place}

theorem finish_of_ok {text : String} {bytes : List UInt8} (h : machine.terminal text = .ok bytes)
    (status : Nat) (errors : String) (tree : Tree) :
    finish machine text status errors tree = ⟨.exit status, text, errors, tree⟩ := by
  rw [finish, h]

theorem finish_of_error {text : String} {refusal : Text.Refusal}
    (h : machine.terminal text = .error refusal) (status : Nat) (errors : String) (tree : Tree) :
    finish machine text status errors tree = ⟨.abort (.terminal refusal), "", errors, tree⟩ := by
  rw [finish, h]

theorem deliver_of_output_none (houtput : settings.output = none) (errors : String) :
    deliver machine settings report errors tree current =
      finish machine (settings.format.render report) (report.exitStatus settings.strict) errors
        tree := by
  rw [deliver, houtput]
  rfl

theorem deliver_of_unopened {name : String} (houtput : settings.output = some name)
    {fault : FileFault} (hopen : tree.opened current (Path.parse name) = .error fault)
    (errors : String) :
    deliver machine settings report errors tree current =
      ⟨.abort (.file fault), "", errors, tree⟩ := by
  rw [deliver, houtput, Option.map_some]
  simp only [Tree.writeText, hopen]

section Opened

variable {name : String} {place : Place} (houtput : settings.output = some name)
  (hopen : tree.opened current (Path.parse name) = .ok place)
include houtput hopen

theorem deliver_of_refused {refusal : Text.Refusal}
    (hwrite : machine.files (settings.format.render report) = .error refusal) (errors : String) :
    deliver machine settings report errors tree current =
      ⟨.abort (.file (.notEncodable refusal)), "", errors, tree.put place (.file [])⟩ := by
  rw [deliver, houtput, Option.map_some]
  simp only [Tree.writeText, hopen, hwrite]

theorem deliver_of_written {content : List UInt8}
    (hwrite : machine.files (settings.format.render report) = .ok content) (errors : String) :
    deliver machine settings report errors tree current =
      finish machine (notice (Path.parse name)) (report.exitStatus settings.strict) errors
        (tree.put place (.file content)) := by
  rw [deliver, houtput, Option.map_some]
  simp only [Tree.writeText, hopen, hwrite]

end Opened

theorem shows_of_printed (houtput : settings.output = none) {bytes : List UInt8}
    (hprint : machine.terminal (settings.format.render report) = .ok bytes) (errors : String) :
    Shows machine settings tree current report
      (deliver machine settings report errors tree current) := by
  rw [deliver_of_output_none houtput, finish_of_ok hprint, exitStatus_eq]
  refine ⟨rfl, fun _ => ⟨rfl, rfl⟩, fun name hname => ?_⟩
  cases houtput.symm.trans hname

theorem shows_of_written {name : String} (houtput : settings.output = some name) {place : Place}
    (hopen : tree.opened current (Path.parse name) = .ok place) {content : List UInt8}
    (hwrite : machine.files (settings.format.render report) = .ok content) {bytes : List UInt8}
    (hprint : machine.terminal (notice (Path.parse name)) = .ok bytes) (errors : String) :
    Shows machine settings tree current report
      (deliver machine settings report errors tree current) := by
  rw [deliver_of_written houtput hopen hwrite, finish_of_ok hprint, exitStatus_eq]
  refine ⟨rfl, fun hnone => ?_, fun other hother => ?_⟩
  · cases houtput.symm.trans hnone
  · obtain rfl := Option.some.inj (houtput.symm.trans hother)
    exact ⟨rfl, content, hwrite, Tree.fileAt?_put_opened hopen content⟩

end Deliver

/-! ### A whole run -/

section Run

variable {machine : Machine} {arguments : List String} {tree : Tree} {current : Place}
  {settings : Settings} {report : Report}

theorem run_of_settings (h : readArguments arguments = .ok (.run settings)) :
    run machine arguments tree current = runWith machine settings tree current := by
  rw [run, h]

theorem tree_runWith_of_rootRefused (hnull : (Path.parse settings.path).hasNull = true) :
    (runWith machine settings tree current).tree = tree := by
  rw [runWith]
  simp only [hnull, if_true]

theorem tree_runWith_of_rootMissing (hplain : (Path.parse settings.path).hasNull = false)
    (hroot : tree.isDirectoryAt (rootOf settings current) = false) :
    (runWith machine settings tree current).tree = tree := by
  rw [rootOf] at hroot
  rw [runWith]
  simp only [hplain, hroot, Bool.not_false, Bool.false_eq_true, if_false, if_true]

theorem tree_runWith_of_limit (hplain : (Path.parse settings.path).hasNull = false)
    (hroot : tree.isDirectoryAt (rootOf settings current) = true) {reached : Regex.Limit}
    (hreport : reportOf machine.patterns settings tree current = .error reached) :
    (runWith machine settings tree current).tree = tree := by
  rw [rootOf] at hroot
  rw [reportOf, rootOf] at hreport
  rw [runWith]
  simp only [hplain, hroot, hreport, Bool.not_true, Bool.false_eq_true, if_false]

/-- With a report, a run ends as showing that report does. -/
theorem Reports.run_eq (h : Reports machine arguments tree current settings report) :
    ∃ errors, run machine arguments tree current =
      deliver machine settings report errors tree current := by
  obtain ⟨hread, hplain, hroot, hmade⟩ := h
  rw [rootOf] at hroot
  rw [reportOf, rootOf] at hmade
  rw [run_of_settings hread, runWith]
  simp only [hplain, hroot, hmade, Bool.not_true, Bool.false_eq_true, if_false]
  exact ⟨_, rfl⟩

theorem Reports.eq_lastGiven (h : Reports machine arguments tree current settings report) :
    settings = .lastGiven arguments :=
  eq_lastGiven_of_readArguments h.read

/-- A run that ends early leaves all files as they were. -/
theorem tree_of_endsEarly (h : EndsEarly machine arguments tree current) :
    (run machine arguments tree current).tree = tree := by
  cases h with
  | help h => rw [run, h]
  | version h => rw [run, h]
  | refused error h => rw [run, h]
  | rootRefused settings h hnull => rw [run_of_settings h, tree_runWith_of_rootRefused hnull]
  | rootMissing settings h hplain hroot =>
      rw [run_of_settings h, tree_runWith_of_rootMissing hplain hroot]
  | limitReached settings h hplain hroot reached hreport =>
      rw [run_of_settings h, tree_runWith_of_limit hplain hroot hreport]
  | unopened settings report h name houtput fault hopen =>
      obtain ⟨errors, hrun⟩ := h.run_eq
      rw [hrun, deliver_of_unopened houtput hopen]
  | unprinted settings report h houtput refusal hprint =>
      obtain ⟨errors, hrun⟩ := h.run_eq
      rw [hrun, deliver_of_output_none houtput, finish_of_error hprint]

/-- A run that is broken off changes the file that it has opened, and no other. -/
theorem outcome_of_brokenOff {name : String} {reason : Abort} {left : List UInt8}
    (h : BrokenOff machine arguments tree current name reason left) :
    (run machine arguments tree current).ending = .abort reason ∧
      (Settings.lastGiven arguments).output = some name ∧
      ∀ place, (run machine arguments tree current).tree.fileAt? place =
        if place = (Path.parse name).resolve current then some left else tree.fileAt? place := by
  cases h with
  | unwritten settings report h houtput place hopen refusal hwrite =>
      obtain ⟨errors, hrun⟩ := h.run_eq
      rw [hrun, deliver_of_refused houtput hopen hwrite, ← h.eq_lastGiven]
      exact ⟨rfl, houtput, Tree.fileAt?_put_opened hopen []⟩
  | unannounced settings report h houtput place hopen content hwrite refusal hprint =>
      obtain ⟨errors, hrun⟩ := h.run_eq
      rw [hrun, deliver_of_written houtput hopen hwrite, finish_of_error hprint, ← h.eq_lastGiven]
      exact ⟨rfl, houtput, Tree.fileAt?_put_opened hopen left⟩

/-- A run ends early, is broken off, or shows its report. -/
theorem run_classification (machine : Machine) (arguments : List String) (tree : Tree)
    (current : Place) :
    EndsEarly machine arguments tree current ∨
      (∃ name reason left, BrokenOff machine arguments tree current name reason left) ∨
      ∃ report, Reports machine arguments tree current (.lastGiven arguments) report ∧
        Shows machine (.lastGiven arguments) tree current report
          (run machine arguments tree current) := by
  cases hread : readArguments arguments with
  | error error => exact .inl (.refused error hread)
  | ok request =>
  cases request with
  | help => exact .inl (.help hread)
  | version => exact .inl (.version hread)
  | run settings =>
  obtain rfl := eq_lastGiven_of_readArguments hread
  generalize Settings.lastGiven arguments = settings at hread ⊢
  cases hplain : (Path.parse settings.path).hasNull with
  | true => exact .inl (.rootRefused settings hread hplain)
  | false =>
  cases hroot : tree.isDirectoryAt (rootOf settings current) with
  | false => exact .inl (.rootMissing settings hread hplain hroot)
  | true =>
  cases hmade : reportOf machine.patterns settings tree current with
  | error reached => exact .inl (.limitReached settings hread hplain hroot reached hmade)
  | ok report =>
  have h : Reports machine arguments tree current settings report := ⟨hread, hplain, hroot, hmade⟩
  obtain ⟨errors, hrun⟩ := h.run_eq
  cases houtput : settings.output with
  | none =>
      cases hprint : machine.terminal (settings.format.render report) with
      | error refusal => exact .inl (.unprinted settings report h houtput refusal hprint)
      | ok bytes =>
          refine .inr (.inr ⟨report, h, ?_⟩)
          rw [hrun]
          exact shows_of_printed houtput hprint errors
  | some name =>
  cases hopen : tree.opened current (Path.parse name) with
  | error fault => exact .inl (.unopened settings report h name houtput fault hopen)
  | ok place =>
  cases hwrite : machine.files (settings.format.render report) with
  | error refusal =>
      exact .inr (.inl ⟨name, _, _, .unwritten settings report h houtput place hopen refusal hwrite⟩)
  | ok content =>
  cases hprint : machine.terminal (notice (Path.parse name)) with
  | error refusal =>
      exact .inr (.inl ⟨name, _, _, .unannounced settings report h houtput place hopen content hwrite
        refusal hprint⟩)
  | ok bytes =>
      refine .inr (.inr ⟨report, h, ?_⟩)
      rw [hrun]
      exact shows_of_written houtput hopen hwrite hprint errors

/-- What a run with a report puts out. -/
def outputTexts (settings : Settings) (report : Report) : List String :=
  settings.format.render report :: (settings.output.map (notice ∘ Path.parse)).toList

/-- On a machine for UTF-8, what a run puts out is written as UTF-8 exactly if no character in it stands
for a stray byte. -/
theorem writesUtf8_iff {stray? : Char → Option UInt8} (hfiles : machine.files = .utf8 stray?)
    (hterminal : machine.terminal = .utf8 stray?) :
    WritesUtf8 machine arguments tree current ↔
      ∀ settings report, Reports machine arguments tree current settings report →
        ∀ text ∈ outputTexts settings report, ∀ c ∈ text.toList, stray? c = none := by
  have hbytes : ∀ text, Text.Codec.utf8 stray? text = .ok text.toUTF8.toList ↔
      ∀ c ∈ text.toList, stray? c = none := by
    simp [Text.Codec.utf8_eq_ok_iff]
  constructor
  · rintro ⟨hprinted, hwritten⟩ settings report h
    cases houtput : settings.output with
    | none =>
        have hprint := hprinted settings report h houtput
        rw [hterminal, hbytes] at hprint
        simpa [outputTexts, houtput] using hprint
    | some name =>
        have hwrite := hwritten settings report h name houtput
        rw [hfiles, hterminal, hbytes, hbytes] at hwrite
        simpa [outputTexts, houtput] using hwrite
  · intro hplain
    refine ⟨fun settings report h houtput => ?_, fun settings report h name houtput => ?_⟩
    · rw [hterminal, hbytes]
      simpa [outputTexts, houtput] using hplain settings report h
    · rw [hfiles, hterminal, hbytes, hbytes]
      simpa [outputTexts, houtput] using hplain settings report h

theorem writesUtf8_standard (arguments : List String) (tree : Tree) (current : Place) :
    WritesUtf8 .standard arguments tree current :=
  (writesUtf8_iff rfl rfl).mpr fun _ _ _ _ _ _ _ => rfl

/-- A run with a report for an output file does not end early if that file can be opened. -/
theorem Reports.not_endsEarly (h : Reports machine arguments tree current settings report)
    {name : String} (houtput : settings.output = some name) {place : Place}
    (hopen : tree.opened current (Path.parse name) = .ok place) :
    ¬ EndsEarly machine arguments tree current := by
  intro hearly
  cases hearly with
  | help hread => cases h.read.symm.trans hread
  | version hread => cases h.read.symm.trans hread
  | refused error hread => cases h.read.symm.trans hread
  | rootRefused other hread hnull =>
      cases h.read.symm.trans hread
      cases h.plain.symm.trans hnull
  | rootMissing other hread hplain hroot =>
      cases h.read.symm.trans hread
      cases h.root.symm.trans hroot
  | limitReached other hread hplain hroot reached hreport =>
      cases h.read.symm.trans hread
      cases h.made.symm.trans hreport
  | unopened other report' h' name' houtput' fault hfault =>
      cases h.read.symm.trans h'.read
      cases houtput.symm.trans houtput'
      cases hopen.symm.trans hfault
  | unprinted other report' h' hnone refusal hprint =>
      cases h.read.symm.trans h'.read
      cases houtput.symm.trans hnone

/-- No run is broken off with its output file open if what it puts out is written as UTF-8. -/
theorem WritesUtf8.not_brokenOff (hutf8 : WritesUtf8 machine arguments tree current) {name : String}
    {reason : Abort} {left : List UInt8} :
    ¬ BrokenOff machine arguments tree current name reason left := by
  intro h
  cases h with
  | unwritten settings report h houtput place hopen refusal hwrite =>
      cases hwrite.symm.trans (hutf8.written settings report h name houtput).1
  | unannounced settings report h houtput place hopen content hwrite refusal hprint =>
      cases hprint.symm.trans (hutf8.written settings report h name houtput).2

end Run

/-- The output file of the settings is the last one that is given by a name. -/
theorem getLast?_of_output {arguments : List String} {name : String}
    (h : (Settings.lastGiven arguments).output = some name) :
    ((valuesGiven .output arguments).filter (· ≠ "")).getLast? = some name := by
  obtain ⟨value, hvalue, hgiven⟩ := Option.bind_eq_some_iff.mp h
  rw [given?] at hgiven
  split at hgiven
  · cases hgiven
  rename_i hne
  obtain rfl := Option.some.inj hgiven
  obtain ⟨front, hfront⟩ := List.getLast?_eq_some_iff.mp hvalue
  have hlast : [value].filter (· ≠ "") = [value] := by simp [hne]
  rw [hfront, List.filter_append, hlast, List.getLast?_concat]

/-- A run changes no file but the one that the last output option with a name is for, and none if it ends
early. Otherwise it shows the report by the last value of every option, and its exit status is one exactly
if the report and the strict option ask for action, unless the machine lacks bytes for what it puts out:
then the run is broken off, and the file is empty or holds the report. So if that is written as UTF-8, all
files are as they were when a run is broken off, and the file holds the report when it is not. -/
theorem run_effect (machine : Machine) (arguments : List String) (tree : Tree) (current : Place) :
    let outcome := run machine arguments tree current
    let settings := Settings.lastGiven arguments
    (∀ place, (∀ name, ((valuesGiven .output arguments).filter (· ≠ "")).getLast? = some name →
        place ≠ (Path.parse name).resolve current) →
      outcome.tree.fileAt? place = tree.fileAt? place) ∧
      (EndsEarly machine arguments tree current → outcome.tree = tree) ∧
      (∀ name reason left, BrokenOff machine arguments tree current name reason left →
        outcome.ending = .abort reason ∧ settings.output = some name ∧
          ∀ place, outcome.tree.fileAt? place =
            if place = (Path.parse name).resolve current then some left else tree.fileAt? place) ∧
      (¬ EndsEarly machine arguments tree current →
        (∀ name reason left, ¬ BrokenOff machine arguments tree current name reason left) →
          ∃ report, reportOf machine.patterns settings tree current = .ok report ∧
            Shows machine settings tree current report outcome) ∧
      (WritesUtf8 machine arguments tree current →
        (∀ reason, outcome.ending = .abort reason → outcome.tree = tree) ∧
        (¬ EndsEarly machine arguments tree current →
          ∃ report, reportOf machine.patterns settings tree current = .ok report ∧
            Shows machine settings tree current report outcome ∧
            ∀ name, settings.output = some name →
              outcome.tree.fileAt? ((Path.parse name).resolve current) =
                some (settings.format.render report).toUTF8.toList)) := by
  intro outcome settings
  have hclasses := run_classification machine arguments tree current
  refine ⟨fun place hplace => ?_, tree_of_endsEarly, fun name reason left => outcome_of_brokenOff,
    fun hearly hbroken => ?_, fun hutf8 => ⟨fun reason habort => ?_, fun hearly => ?_⟩⟩
  · rcases hclasses with hearly | ⟨name, reason, left, hbroken⟩ | ⟨report, -, hshows⟩
    · exact congrArg (fun tree : Tree => tree.fileAt? place) (tree_of_endsEarly hearly)
    · obtain ⟨-, houtput, hfiles⟩ := outcome_of_brokenOff hbroken
      rw [hfiles place, if_neg (hplace name (getLast?_of_output houtput))]
    · cases houtput : settings.output with
      | none =>
          exact congrArg (fun tree : Tree => tree.fileAt? place) (hshows.printed houtput).2
      | some name =>
          obtain ⟨-, content, -, hfiles⟩ := hshows.written name houtput
          rw [hfiles place, if_neg (hplace name (getLast?_of_output houtput))]
  · rcases hclasses with hearly' | ⟨name, reason, left, hbroken'⟩ | ⟨report, h, hshows⟩
    · exact absurd hearly' hearly
    · exact absurd hbroken' (hbroken name reason left)
    · exact ⟨report, h.made, hshows⟩
  · rcases hclasses with hearly | ⟨name, reason', left, hbroken⟩ | ⟨report, -, hshows⟩
    · exact tree_of_endsEarly hearly
    · exact absurd hbroken hutf8.not_brokenOff
    · cases hshows.status.symm.trans habort
  · rcases hclasses with hearly' | ⟨name, reason, left, hbroken⟩ | ⟨report, h, hshows⟩
    · exact absurd hearly' hearly
    · exact absurd hbroken hutf8.not_brokenOff
    · refine ⟨report, h.made, hshows, fun name houtput => ?_⟩
      obtain ⟨-, content, hwrite, hfiles⟩ := hshows.written name houtput
      obtain rfl := Except.ok.inj (hwrite.symm.trans (hutf8.written _ report h name houtput).1)
      rw [hfiles, if_pos rfl]

/-- Arguments that give an output file and a format twice. -/
def repeatedArguments : List String :=
  ["--output", "first.txt", "--format=text", "--form=json", "--out", "second.json"]

/-- A directory with files of both names and nothing to report on. -/
def twoReports : Tree :=
  .directory [("first.txt", .file [0x31]), ("second.json", .file [0x32])]

theorem run_effect_repeatedArguments :
    WritesUtf8 .standard repeatedArguments twoReports [] ∧
      ¬ EndsEarly .standard repeatedArguments twoReports [] ∧
      (run .standard repeatedArguments twoReports []).tree.fileAt? ["first.txt"] = some [0x31] ∧
      ∃ report, (run .standard repeatedArguments twoReports []).tree.fileAt? ["second.json"] =
        some (Report.renderJson report).toUTF8.toList := by
  have hread : readArguments repeatedArguments =
      .ok (.run ⟨".", none, .json, some "second.json", .warning, false⟩) := by cbv
  have hlast := eq_lastGiven_of_readArguments hread
  have hplace : (Path.parse "second.json").resolve [] = ["second.json"] := by decide +kernel
  have hutf8 := writesUtf8_standard repeatedArguments twoReports []
  obtain ⟨hkeep, -, -, -, hshow⟩ := run_effect .standard repeatedArguments twoReports []
  have hends : ¬ EndsEarly .standard repeatedArguments twoReports [] := by
    have hmade :
        (reportOf .standard (.lastGiven repeatedArguments) twoReports []).toBool = true := by
      decide +kernel
    rw [← hlast] at hmade
    cases hreport : reportOf .standard _ twoReports [] with
    | error reached => rw [hreport] at hmade; cases hmade
    | ok report =>
        have h : Reports .standard repeatedArguments twoReports [] _ report :=
          ⟨hread, by decide +kernel, by decide +kernel, hreport⟩
        have hopen : twoReports.opened [] (Path.parse "second.json") = .ok ["second.json"] := by
          decide +kernel
        exact h.not_endsEarly rfl hopen
  obtain ⟨report, -, -, hwritten⟩ := (hshow hutf8).2 hends
  rw [← hlast] at hwritten
  refine ⟨hutf8, hends, ?_, report, ?_⟩
  · refine (hkeep ["first.txt"] fun name hname => ?_).trans rfl
    have hsecond : ((valuesGiven .output repeatedArguments).filter (· ≠ "")).getLast? =
        some "second.json" := by decide +kernel
    cases hsecond.symm.trans hname
    rw [hplace]
    decide
  · rw [← hplace]
    exact hwritten "second.json" rfl

end Command

end Unreferenced
