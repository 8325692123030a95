import Mathlib.Data.List.Nodup
import Unreferenced.Declaration.Inventory

/-! What is extracted from source files. The rules act as one filter on what the files declare: it does
not matter at which of the two levels a rule stops a declaration, nor which rule stops it first. What
the files declare is told apart by file and line, since a line declares one thing at most. -/

namespace Unreferenced

/-- The characters of a file. One without text has none. -/
def TextFile.characters (file : TextFile) : List Char := (file.text.getD "").toList

/-- Where a declaration stands. -/
def Declaration.place (d : Declaration) : String × Int := (d.file, d.line)

namespace Ignore.RuleSet

variable {ε : Type} [Searchable ε]

/-- Whether the rules leave a declaration alone: none about whole files matches its file, and none about
names matches both its name and its file. -/
def keeps (set : RuleSet ε) (d : Declaration) : Bool :=
  set.rules.all fun rule =>
    match rule.name with
    | none => !rule.file.accepts d.file
    | some name => !(name.accepts d.name && rule.file.accepts d.file)

/-- A declaration is left alone if no rule stops it at either level. -/
theorem keeps_eq (set : RuleSet ε) (d : Declaration) :
    set.keeps d = ((set.forFile? d.file).isNone && (set.forName? d.file d.name).isNone) := by
  rw [Bool.eq_iff_iff, Bool.and_eq_true, Option.isNone_iff_eq_none, Option.isNone_iff_eq_none, forFile?,
    forName?, List.findIdx?_eq_none_iff, List.findIdx?_eq_none_iff, keeps, List.all_eq_true,
    ← forall₂_and]
  refine forall₂_congr fun rule _ => ?_
  rw [Rule.ignoresFile, Rule.ignoresName, Rule.filtersDeclarations, Rule.matchesFile,
    Rule.matchesName]
  cases rule.name with
  | none => simp
  | some name => simp [imp_iff_not_or]

@[simp]
theorem keeps_empty (d : Declaration) : (empty : RuleSet ε).keeps d = true := rfl

theorem keeps_perm {set reordered : RuleSet ε} (h : reordered.rules.Perm set.rules) :
    reordered.keeps = set.keeps :=
  funext fun _ => h.all_eq

end Ignore.RuleSet

namespace Inventory

variable {ε : Type} [Ignore.Searchable ε]

/-- What a file declares, before any rule. -/
def declarationsIn (file : TextFile) : List Declaration :=
  declarationsOf file.path file.characters

theorem declarationsOf_nil (path : String) : declarationsOf path [] = [] := by
  rw [declarationsOf, Source.blankBlockComments, Source.Delimiter.replaceSpans,
    Source.Delimiter.segments]
  rfl

theorem onLine?_fields {path text : String} {line : Int} {d : Declaration}
    (h : Declaration.onLine? path text line = some d) : d.file = path ∧ d.line = line := by
  obtain ⟨_, _, hd⟩ := Option.map_eq_some_iff.mp h
  rw [← hd]
  exact ⟨rfl, rfl⟩

theorem file_of_mem_declarationsOf {path : String} {text : List Char} {d : Declaration}
    (h : d ∈ declarationsOf path text) : d.file = path := by
  obtain ⟨_, _, hd⟩ := List.mem_filterMap.mp h
  exact (onLine?_fields hd).1

theorem file_of_mem_declarationsIn {file : TextFile} {d : Declaration}
    (h : d ∈ declarationsIn file) : d.file = file.path :=
  file_of_mem_declarationsOf h

theorem pairwise_snd_zipIdx {α : Type} (items : List α) :
    items.zipIdx.Pairwise fun a b => a.2 < b.2 := by
  rw [← List.pairwise_map (f := Prod.snd) (R := (· < ·)), List.zipIdx_map_snd]
  exact List.pairwise_lt_range'

/-- A line declares one thing at most, so what follows stands on a later line. -/
theorem pairwise_line_declarationsOf (path : String) (text : List Char) :
    (declarationsOf path text).Pairwise fun d e => d.line < e.line := by
  refine (pairwise_snd_zipIdx _).filterMap _ fun a b hab d hd e he => ?_
  rw [(onLine?_fields hd).2, (onLine?_fields he).2]
  omega

/-- Files with distinct paths declare no two things at one place. -/
theorem nodup_place {files : List TextFile} (hpaths : (files.map TextFile.path).Nodup) :
    ((files.flatMap declarationsIn).map Declaration.place).Nodup := by
  rw [List.map_flatMap, List.nodup_flatMap]
  constructor
  · intro file _
    refine (pairwise_line_declarationsOf file.path _).map _ fun d e hlt heq => ?_
    rw [Declaration.place, Declaration.place, Prod.mk.injEq] at heq
    omega
  · refine (List.pairwise_map.mp hpaths).imp fun {a b} hne => ?_
    rintro _ ha hb
    obtain ⟨d, hd, rfl⟩ := List.mem_map.mp ha
    obtain ⟨e, he, heq⟩ := List.mem_map.mp hb
    have hfile : e.file = d.file := congrArg Prod.fst heq
    rw [file_of_mem_declarationsIn hd, file_of_mem_declarationsIn he] at hfile
    exact hne hfile.symm

/-- Files with distinct paths declare nothing twice. -/
theorem nodup_identity {files : List TextFile} (hpaths : (files.map TextFile.path).Nodup) :
    ((files.flatMap declarationsIn).map Declaration.identity).Nodup := by
  have hplaces : (((files.flatMap declarationsIn).map Declaration.identity).map
      fun id => (id.file, id.line)).Nodup := by
    rw [List.map_map]
    exact nodup_place hpaths
  exact hplaces.of_map _

theorem declarations_consider (rules : Ignore.RuleSet ε) (d : Declaration)
    (rest : Logged Inventory) :
    (consider rules d rest).value.declarations =
      if (rules.forName? d.file d.name).isNone then d :: rest.value.declarations
      else rest.value.declarations := by
  rw [consider]
  cases rules.forName? d.file d.name <;> rfl

theorem declarations_foldr_consider (rules : Ignore.RuleSet ε) (found : List Declaration) :
    (found.foldr (consider rules) ⟨empty, []⟩).value.declarations =
      found.filter fun d => (rules.forName? d.file d.name).isNone := by
  induction found with
  | nil => rfl
  | cons d found ih => rw [List.foldr_cons, declarations_consider, ih, List.filter_cons]

/-- From one file, the rules keep what they leave alone. -/
theorem declarations_ofFile (rules : Ignore.RuleSet ε) (file : TextFile) :
    (ofFile rules file).value.declarations = (declarationsIn file).filter rules.keeps := by
  have hfile : ∀ d ∈ declarationsIn file, rules.keeps d =
      ((rules.forFile? file.path).isNone && (rules.forName? d.file d.name).isNone) := by
    intro d hd
    rw [Ignore.RuleSet.keeps_eq, ← file_of_mem_declarationsIn hd]
  rw [List.filter_congr hfile, ofFile]
  cases rules.forFile? file.path with
  | some index => simp
  | none =>
      rw [declarationsIn, TextFile.characters]
      cases file.text with
      | none => rw [Option.getD_none, String.toList_empty, declarationsOf_nil]; rfl
      | some text => simp [declarations_foldr_consider]

/-- The rules keep what they leave alone, in the order of the files and of their lines. -/
theorem declarations_ofFiles (rules : Ignore.RuleSet ε) (files : List TextFile) :
    (ofFiles rules files).value.declarations =
      (files.flatMap declarationsIn).filter rules.keeps := by
  induction files with
  | nil => rfl
  | cons file files ih =>
      have hstep : (ofFiles rules (file :: files)).value.declarations =
          (ofFile rules file).value.declarations ++ (ofFiles rules files).value.declarations := rfl
      rw [hstep, ih, declarations_ofFile, List.flatMap_cons, List.filter_append]

theorem declarations_ofFiles_empty (files : List TextFile) :
    (ofFiles (.empty : Ignore.RuleSet ε) files).value.declarations =
      files.flatMap declarationsIn := by
  rw [declarations_ofFiles, List.filter_eq_self]
  exact fun d _ => Ignore.RuleSet.keeps_empty d

/-- Under any rules, what is extracted from files with distinct paths is told apart. -/
theorem nodup_identity_ofFiles (rules : Ignore.RuleSet ε) {files : List TextFile}
    (hpaths : (files.map TextFile.path).Nodup) :
    ((ofFiles rules files).value.declarations.map Declaration.identity).Nodup := by
  rw [declarations_ofFiles]
  exact (nodup_identity hpaths).sublist (List.filter_sublist.map _)

end Inventory

end Unreferenced
