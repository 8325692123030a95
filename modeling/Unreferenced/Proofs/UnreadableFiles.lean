import Mathlib.Data.List.Forall2
import Unreferenced.Proofs.AddedFiles
import Unreferenced.Proofs.CountByEntry
import Unreferenced.Proofs.ReadFiles

/-! Files that could not be read. Such a file passes through every stage on a branch of its own: rules are
asked about its path before its text is missed, and searching it leaves the totals as they are, where an
empty file adds nothing to each of them. The stages are compared file by file, then list by list, and what
a run reads from a tree is compared with what it reads from one in which the contents at fault are empty. -/

namespace Unreferenced

/-! ### Missing and empty texts -/

/-- Whether an event tells of a file without text. -/
def Event.tellsOfMissing : Event → Bool
  | textMissing _ | fileNotCounted _ => true
  | _ => false

/-- A value with the events that do not tell of files without text. -/
def Logged.quiet {α : Type} (logged : Logged α) : Logged α :=
  ⟨logged.value, logged.events.filter fun event => !event.tellsOfMissing⟩

theorem Logged.value_eq_of_quiet_eq {α : Type} {logged logged' : Logged α}
    (h : logged'.quiet = logged.quiet) : logged'.value = logged.value := (Logged.mk.inj h).1

namespace TextFile

/-- Files with no difference but that one of them could not be read and the other is empty. -/
inductive Alike : TextFile → TextFile → Prop where
  | refl (file : TextFile) : Alike file file
  | filled (path : String) : Alike ⟨path, none⟩ ⟨path, some ""⟩
  | lost (path : String) : Alike ⟨path, some ""⟩ ⟨path, none⟩

variable {file file' : TextFile}

theorem Alike.path_eq (h : Alike file file') : file'.path = file.path := by
  cases h <;> rfl

theorem Alike.characters_eq (h : Alike file file') : file'.characters = file.characters := by
  cases h <;> rfl

end TextFile

/-- What is the same for two files at every place of two lists comes to the same lists. -/
theorem map_eq_of_forall₂ {α : Type} {value : TextFile → α} {files files' : List TextFile}
    (hvalue : ∀ {file file'}, TextFile.Alike file file' → value file' = value file)
    (h : List.Forall₂ TextFile.Alike files files') : files'.map value = files.map value := by
  induction h with
  | nil => rfl
  | cons hfile _ ih => rw [List.map_cons, List.map_cons, hvalue hfile, ih]

namespace Inventory

variable {ε : Type} [Ignore.Searchable ε] (rules : Ignore.RuleSet ε)

theorem quiet_ofFile {file file' : TextFile} (h : TextFile.Alike file file') :
    (ofFile rules file').quiet = (ofFile rules file).quiet := by
  cases h with
  | refl => rfl
  | filled path | lost path =>
      rw [ofFile, ofFile]
      dsimp only
      rw [String.toList_empty, declarationsOf_nil]
      cases rules.forFile? path <;> rfl

theorem quiet_ofFiles_cons (file : TextFile) (files : List TextFile) :
    (ofFiles rules (file :: files)).quiet =
      ⟨(ofFile rules file).quiet.value.append (ofFiles rules files).quiet.value,
        (ofFile rules file).quiet.events ++ (ofFiles rules files).quiet.events⟩ := by
  rw [ofFiles, List.foldr_cons, Logged.quiet, List.filter_append]
  rfl

theorem quiet_ofFiles {files files' : List TextFile}
    (h : List.Forall₂ TextFile.Alike files files') :
    (ofFiles rules files').quiet = (ofFiles rules files).quiet := by
  induction h with
  | nil => rfl
  | cons hfile _ ih => rw [quiet_ofFiles_cons, quiet_ofFiles_cons, quiet_ofFile rules hfile, ih]

end Inventory

namespace Reference

section Alike

variable {file file' : TextFile} {sources sources' interfaces interfaces' : List TextFile}

theorem inSourceFile_of_alike (d : Declaration) (h : TextFile.Alike file file') :
    inSourceFile d file' = inSourceFile d file := by
  rw [inSourceFile, inSourceFile, reaches, reaches, identifiersIn, identifiersIn, h.path_eq,
    h.characters_eq]

theorem inInterfaceFile_of_alike (d : Declaration) (h : TextFile.Alike file file') :
    inInterfaceFile d file' = inInterfaceFile d file := by
  have hnothing : (Mentions.ofText []).count d = 0 := by
    rw [Mentions.count]
    cases d.modifiers.isRestricted <;> cases d.modifiers.isInterfaceLinked <;> rfl
  cases h with
  | refl => rfl
  | filled path => exact hnothing
  | lost path => exact hnothing.symm

theorem references_of_alike (hsources : List.Forall₂ TextFile.Alike sources sources')
    (hinterfaces : List.Forall₂ TextFile.Alike interfaces interfaces') :
    references sources' interfaces' = references sources interfaces := by
  funext d
  rw [references, references, map_eq_of_forall₂ (inSourceFile_of_alike d) hsources,
    map_eq_of_forall₂ (inInterfaceFile_of_alike d) hinterfaces]

/-- Totals of the same declarations hold the same numbers if the same is referred to. -/
theorem equiv_counts_ofFiles (declarations : List Declaration)
    (h : references sources' interfaces' = references sources interfaces) :
    (Totals.ofFiles declarations sources' interfaces').counts.Equiv
      (Totals.ofFiles declarations sources interfaces).counts := by
  apply Std.HashMap.Equiv.of_forall_getElem?_eq
  intro id
  -- A total is looked up by the identity, so any declaration that has it will do.
  have hcount : (Totals.ofFiles declarations sources' interfaces').count
        ⟨id.file, id.line, id.kind, id.name, ⟨[]⟩, ""⟩ =
      (Totals.ofFiles declarations sources interfaces).count
        ⟨id.file, id.line, id.kind, id.name, ⟨[]⟩, ""⟩ := by
    rw [Totals.count_ofFiles, Totals.count_ofFiles, h]
  have hmem := Totals.covers_ofFiles declarations sources interfaces id
  have hmem' := Totals.covers_ofFiles declarations sources' interfaces' id
  by_cases hid : id ∈ declarations.map Declaration.identity
  · rw [Std.HashMap.getElem?_eq_some_getD (hmem.mpr hid),
      Std.HashMap.getElem?_eq_some_getD (hmem'.mpr hid)]
    exact congrArg some hcount
  · rw [Std.HashMap.getElem?_eq_none (mt hmem.mp hid),
      Std.HashMap.getElem?_eq_none (mt hmem'.mp hid)]

theorem quiet_events (totals : Totals) (declarations : List Declaration)
    (sources interfaces : List TextFile) :
    (totals.events declarations sources interfaces).filter (fun event => !event.tellsOfMissing) =
      (Declaration.sort (Declaration.distinct declarations)).map fun d =>
        .counted d (totals.count d) := by
  rw [Totals.events, List.filter_append, List.filter_map, List.filter_map]
  change (List.filter (fun _ => false) _).map _ ++ (List.filter (fun _ => true) _).map _ = _
  rw [List.filter_false, List.filter_true, List.map_nil, List.nil_append]

theorem quiet_unused (declarations : List Declaration)
    (h : references sources' interfaces' = references sources interfaces) :
    (unused declarations sources' interfaces').quiet =
      (unused declarations sources interfaces).quiet := by
  have hcount : (Totals.ofFiles declarations sources' interfaces').count =
      (Totals.ofFiles declarations sources interfaces).count := by
    funext d
    rw [Totals.count_ofFiles, Totals.count_ofFiles, h]
  rw [unused, unused, Logged.quiet, Logged.quiet]
  dsimp only
  rw [Totals.unused, Totals.unused, quiet_events, quiet_events, hcount]

end Alike

/-! ### Files that are lost -/

section Lost

variable (lost : TextFile → Bool)

/-- A file as it is read if some files cannot be. -/
def withhold (file : TextFile) : TextFile := if lost file then ⟨file.path, none⟩ else file

theorem path_comp_withhold : TextFile.path ∘ withhold lost = TextFile.path := by
  funext file
  rw [Function.comp_apply, withhold]
  split <;> rfl

theorem sum_map_eq_withhold {amount : TextFile → Nat} (hnone : ∀ path, amount ⟨path, none⟩ = 0)
    (files : List TextFile) : (files.map amount).sum =
      ((files.map (withhold lost)).map amount).sum + ((files.filter lost).map amount).sum := by
  induction files with
  | nil => rfl
  | cons file files ih =>
      simp only [List.map_cons, List.sum_cons, List.filter_cons, withhold, ih]
      cases lost file <;> simp [hnone, Nat.add_assoc, Nat.add_left_comm]

/-- Files that cannot be read take their own references away, and no others. -/
theorem references_eq_withhold (sources interfaces : List TextFile) (d : Declaration) :
    references sources interfaces d =
      references (sources.map (withhold lost)) (interfaces.map (withhold lost)) d +
        references (sources.filter lost) (interfaces.filter lost) d := by
  have hsource : ∀ path, inSourceFile d ⟨path, none⟩ = 0 := by
    intro path
    rw [inSourceFile, identifiersIn_of_none rfl, List.count_nil, ite_self]
  have hinterface : ∀ path, inInterfaceFile d ⟨path, none⟩ = 0 := fun _ => rfl
  rw [references, references, references, sum_map_eq_withhold lost hsource,
    sum_map_eq_withhold lost hinterface, Nat.add_add_add_comm]

end Lost

end Reference

variable {ε : Type} [Ignore.Searchable ε] (rules : Ignore.RuleSet ε)

theorem extracted_withhold (lost : TextFile → Bool) (sources : List TextFile) :
    extracted rules (sources.map (Reference.withhold lost)) =
      extracted rules (sources.filter fun file => !lost file) := by
  have hnothing : ∀ path, Inventory.declarationsIn ⟨path, none⟩ = [] := Inventory.declarationsOf_nil
  rw [extracted_eq_flatMap, extracted_eq_flatMap]
  induction sources with
  | nil => rfl
  | cons file sources ih =>
      rw [List.map_cons, List.flatMap_cons, ih, Reference.withhold]
      cases h : lost file <;> simp [h, hnothing]

section Withhold

variable {lost : TextFile → Bool} {sources : List TextFile} {d : Declaration}

theorem mem_extracted_of_withhold
    (hd : d ∈ extracted rules (sources.map (Reference.withhold lost))) :
    d ∈ extracted rules sources := by
  rw [extracted_withhold] at hd
  exact (extracted_sublist rules List.filter_sublist).subset hd

/-- A declaration of a file that is not lost has the references that it had, less those in files that
are. -/
theorem count_eq_withhold (hpaths : (sources.map TextFile.path).Nodup) (interfaces : List TextFile)
    (hd : d ∈ extracted rules (sources.map (Reference.withhold lost))) :
    (Reference.Totals.ofFiles (extracted rules sources) sources interfaces).count d =
      (Reference.Totals.ofFiles (extracted rules (sources.map (Reference.withhold lost)))
        (sources.map (Reference.withhold lost)) (interfaces.map (Reference.withhold lost))).count d +
        Reference.references (sources.filter lost) (interfaces.filter lost) d := by
  have hpathsLeft : ((sources.map (Reference.withhold lost)).map TextFile.path).Nodup := by
    rw [List.map_map, Reference.path_comp_withhold]
    exact hpaths
  rw [Reference.count_ofFiles_of_nodup (nodup_identity_extracted rules hpaths)
      (mem_extracted_of_withhold rules hd),
    Reference.count_ofFiles_of_nodup (nodup_identity_extracted rules hpathsLeft) hd,
    Reference.references_eq_withhold lost]

end Withhold

namespace Project

namespace Tree

mutual

/-- A tree with the contents of its files put through a function. -/
def mapContents (change : List UInt8 → List UInt8) : Tree → Tree
  | file content => file (change content)
  | directory entries => directory (mapEntries change entries)

def mapEntries (change : List UInt8 → List UInt8) : List (String × Tree) → List (String × Tree)
  | [] => []
  | (name, entry) :: rest => (name, mapContents change entry) :: mapEntries change rest

end

variable (change : List UInt8 → List UInt8)

theorem lookup_mapEntries (entries : List (String × Tree)) (name : String) :
    (mapEntries change entries).lookup name = (entries.lookup name).map (mapContents change) := by
  induction entries with
  | nil => simp [mapEntries]
  | cons first entries ih =>
      obtain ⟨other, entry⟩ := first
      rw [mapEntries, lookup_cons_eq_ite, lookup_cons_eq_ite, ih]
      split <;> rfl

theorem at?_mapContents (tree : Tree) (place : Place) :
    (tree.mapContents change).at? place = (tree.at? place).map (mapContents change) := by
  induction place generalizing tree with
  | nil => rfl
  | cons name place ih =>
      cases tree with
      | file content => simp [mapContents, at?]
      | directory entries =>
          rw [mapContents, at?, at?, lookup_mapEntries]
          cases entries.lookup name with
          | none => rfl
          | some entry => exact ih entry

theorem isSome_at?_mapContents (tree : Tree) (place : Place) :
    ((tree.mapContents change).at? place).isSome = (tree.at? place).isSome := by
  rw [at?_mapContents, Option.isSome_map]

theorem isDirectoryAt_mapContents (tree : Tree) (place : Place) :
    (tree.mapContents change).isDirectoryAt place = tree.isDirectoryAt place := by
  rw [isDirectoryAt, isDirectoryAt, at?_mapContents]
  cases tree.at? place with
  | none => rfl
  | some entry => cases entry <;> rfl

theorem fileAt?_mapContents (tree : Tree) (place : Place) :
    (tree.mapContents change).fileAt? place = (tree.fileAt? place).map change := by
  rw [fileAt?, fileAt?, at?_mapContents]
  cases tree.at? place with
  | none => rfl
  | some entry => cases entry <;> rfl

theorem follow_mapContents (tree : Tree) (text : String) (here : Place) (components : List String) :
    (tree.mapContents change).follow text here components = tree.follow text here components := by
  induction components generalizing here with
  | nil => rfl
  | cons component rest ih =>
      rw [follow, follow, isDirectoryAt_mapContents, isSome_at?_mapContents, ih, ih]

theorem leadsTo_mapContents (tree : Tree) (current : Place) (path : Path) :
    (tree.mapContents change).leadsTo current path = tree.leadsTo current path := by
  rw [leadsTo, leadsTo, locate, locate, follow_mapContents]

theorem under_mapContents (tree : Tree) (place : Place) :
    (tree.mapContents change).under place = (tree.under place).mapContents change := by
  rw [under, under, at?_mapContents]
  cases tree.at? place with
  | none => simp [empty, mapContents, mapEntries]
  | some entry => rfl

theorem filesOf_mapEntries (excluded : String → Bool) (entries : List (String × Tree)) :
    filesOf excluded (mapEntries change entries) =
      (filesOf excluded entries).map (Prod.map id change) := by
  fun_induction filesOf excluded entries with
  | case1 => simp [mapEntries, filesOf]
  | case2 name content rest ih => simp [mapEntries, mapContents, filesOf, ih]
  | case3 name entries rest ihentries ihrest =>
      simp only [mapEntries, mapContents, filesOf, ihentries, ihrest, List.map_append]
      cases excluded name <;> simp [Function.comp_def]

theorem filesBelow_mapContents (excluded : String → Bool) (tree : Tree) :
    (tree.mapContents change).filesBelow excluded =
      (tree.filesBelow excluded).map (Prod.map id change) := by
  cases tree with
  | file content => simp [mapContents, filesBelow]
  | directory entries => rw [mapContents, filesBelow, filesBelow, filesOf_mapEntries]

/-- The bytes of a file that is text, and none for another. -/
def textOrNothing (content : List UInt8) : List UInt8 :=
  match decodeText content with
  | .ok _ => content
  | .error _ => []

theorem textOrNothing_of_ok {content : List UInt8} {text : String}
    (h : decodeText content = .ok text) : textOrNothing content = content := by
  rw [textOrNothing, h]

theorem textOrNothing_of_error {content : List UInt8} {fault : FileFault}
    (h : decodeText content = .error fault) : textOrNothing content = [] := by
  rw [textOrNothing, h]

end Tree

theorem collect_mapContents (change : List UInt8 → List UInt8) (suffixes : List String)
    (tree : Tree) : collect suffixes (tree.mapContents change) =
      (collect suffixes tree).map (Prod.map id change) := by
  rw [collect, collect, Tree.filesBelow_mapContents, List.filter_map, List.map_mergeSort]
  · rfl
  · intro a _ b _
    rfl

theorem alike_readFile (place : Place) (content : List UInt8) :
    TextFile.Alike (readFile place content).value
      (readFile place (Tree.textOrNothing content)).value := by
  cases h : Tree.decodeText content with
  | ok text =>
      rw [Tree.textOrNothing_of_ok h]
      exact .refl _
  | error fault =>
      rw [Tree.textOrNothing_of_error h, readFile, h]
      exact .filled _

theorem alike_readFiles (files : List (Place × List UInt8)) :
    List.Forall₂ TextFile.Alike (readFiles files).value
      (readFiles (files.map (Prod.map id Tree.textOrNothing))).value := by
  induction files with
  | nil => exact .nil
  | cons file files ih => exact .cons (alike_readFile file.1 file.2) ih

theorem rulesIn_map_textOrNothing (host : Regex.Host) (content : Option (List UInt8)) :
    rulesIn host (content.map Tree.textOrNothing) = rulesIn host content := by
  cases content with
  | none => rfl
  | some content =>
      rw [Option.map_some]
      cases h : Tree.decodeText content with
      | ok text => rw [Tree.textOrNothing_of_ok h]
      | error fault =>
          rw [Tree.textOrNothing_of_error h, rulesIn, rulesIn, h]
          rfl

theorem value_readRules_textOrNothing (host : Regex.Host) (tree : Tree) (current : Place)
    (path : Path) :
    (readRules host (tree.mapContents Tree.textOrNothing) current path).value =
      (readRules host tree current path).value := by
  rw [value_readRules, value_readRules, Tree.leadsTo_mapContents, Tree.fileAt?_mapContents]
  split
  · exact rulesIn_map_textOrNothing host _
  · rfl

theorem value_report_of_alike (root : String) (rules : Ignore.RuleSet)
    {sources sources' interfaces interfaces' : List TextFile}
    (hsources : List.Forall₂ TextFile.Alike sources sources')
    (hinterfaces : List.Forall₂ TextFile.Alike interfaces interfaces') :
    (report root rules sources' interfaces').value = (report root rules sources interfaces).value := by
  have hinventory : (Inventory.ofFiles rules sources').value = (Inventory.ofFiles rules sources).value :=
    Logged.value_eq_of_quiet_eq (Inventory.quiet_ofFiles rules hsources)
  have hunused : ∀ declarations, (Reference.unused declarations sources' interfaces').value =
      (Reference.unused declarations sources interfaces).value := fun declarations =>
    Logged.value_eq_of_quiet_eq
      (Reference.quiet_unused declarations (Reference.references_of_alike hsources hinterfaces))
  rw [report, report]
  dsimp only
  rw [hinventory, hunused, hsources.length_eq, hinterfaces.length_eq]

/-- The result of a run is that for files which hold nothing where they hold no text. -/
theorem value_analyze_textOrNothing (host : Regex.Host) (tree : Tree) (current : Place)
    (root : Path) (ignoreFile : Option Path) :
    (analyze host (tree.mapContents Tree.textOrNothing) current root ignoreFile).value =
      (analyze host tree current root ignoreFile).value := by
  rw [value_analyze, value_analyze, value_readRules_textOrNothing, Tree.under_mapContents,
    collect_mapContents, collect_mapContents]
  congr 1
  funext set
  exact value_report_of_alike _ _ (alike_readFiles _) (alike_readFiles _)

section Limits

variable {host : Regex.Host} {tree : Tree} {current : Place} {root : Path} {ignoreFile : Option Path}
  {reached : Regex.Limit}

theorem exists_text_of_rulesIn_eq_error {content : Option (List UInt8)}
    (h : rulesIn host content = .error reached) :
    ∃ bytes text, content = some bytes ∧ Tree.decodeText bytes = .ok text ∧
      (Ignore.RuleSet.parse host text).value = .error reached := by
  cases content with
  | none => cases h
  | some bytes =>
      rw [rulesIn] at h
      cases htext : Tree.decodeText bytes with
      | error fault => rw [htext] at h; cases h
      | ok text =>
          rw [htext] at h
          exact ⟨bytes, text, rfl, htext, h⟩

theorem value_analyze_eq_error_iff :
    (analyze host tree current root ignoreFile).value = .error reached ↔
      (readRules host tree current (ignorePath current root ignoreFile)).value = .error reached := by
  rw [value_analyze]
  cases (readRules host tree current (ignorePath current root ignoreFile)).value with
  | error other => exact ⟨fun h => by cases h; rfl, fun h => by cases h; rfl⟩
  | ok set => constructor <;> intro h <;> cases h

/-- What ends a run without a report is a limit that the rules of a readable ignore file reach. -/
theorem limit_of_value_analyze
    (h : (analyze host tree current root ignoreFile).value = .error reached) :
    ∃ content text,
      tree.fileAt? ((ignorePath current root ignoreFile).resolve current) = some content ∧
        Tree.decodeText content = .ok text ∧
        (Ignore.RuleSet.parse host text).value = .error reached := by
  rw [value_analyze_eq_error_iff, value_readRules] at h
  split at h
  · exact exists_text_of_rulesIn_eq_error h
  · cases h

end Limits

end Project

section Main

open Reference

/-- It is the same for a file to be unreadable and to be empty. Replacing one by the other, at any places
of the lists, leaves the declarations, the rules that applied or are stale, the totals and the unused
declarations as they are, and the log but for what it says of files without text. So a run ends as it does
on files that hold nothing where they hold no text, and only a readable ignore file can keep it from its
report. Files that are lost take away their own declarations and the references in them. -/
theorem unreadable_as_empty {sources sources' interfaces interfaces' : List TextFile}
    (hsources : List.Forall₂ TextFile.Alike sources sources')
    (hinterfaces : List.Forall₂ TextFile.Alike interfaces interfaces') :
    let inventory := Inventory.ofFiles rules sources
    let inventory' := Inventory.ofFiles rules sources'
    (inventory'.quiet = inventory.quiet ∧
      rules.stale inventory'.value.applied = rules.stale inventory.value.applied ∧
      ∀ declarations, (Totals.ofFiles declarations sources' interfaces').counts.Equiv
          (Totals.ofFiles declarations sources interfaces).counts ∧
        (unused declarations sources' interfaces').quiet =
          (unused declarations sources interfaces).quiet) ∧
      (∀ host tree current root ignoreFile,
        (Project.analyze host (tree.mapContents Project.Tree.textOrNothing) current root
            ignoreFile).value = (Project.analyze host tree current root ignoreFile).value ∧
          ∀ reached, (Project.analyze host tree current root ignoreFile).value = .error reached →
            ∃ content text, tree.fileAt?
                ((Project.ignorePath current root ignoreFile).resolve current) = some content ∧
              Project.Tree.decodeText content = .ok text ∧
              (Ignore.RuleSet.parse host text).value = .error reached) ∧
      ∀ lost, (sources.map TextFile.path).Nodup →
        let left := sources.map (withhold lost)
        let interfacesLeft := interfaces.map (withhold lost)
        extracted rules left = extracted rules (sources.filter fun file => !lost file) ∧
          ∀ d ∈ extracted rules left, d ∈ extracted rules sources ∧
            (Totals.ofFiles (extracted rules sources) sources interfaces).count d =
              (Totals.ofFiles (extracted rules left) left interfacesLeft).count d +
                references (sources.filter lost) (interfaces.filter lost) d ∧
            (references (sources.filter lost) (interfaces.filter lost) d = 0 →
              (d ∈ reported rules left interfacesLeft ↔ d ∈ reported rules sources interfaces)) := by
  intro inventory inventory'
  have hinventory : inventory'.quiet = inventory.quiet := Inventory.quiet_ofFiles rules hsources
  have hreferences := references_of_alike hsources hinterfaces
  refine ⟨⟨hinventory, ?_, fun declarations => ⟨?_, ?_⟩⟩, fun host tree current root ignoreFile =>
    ⟨?_, fun reached hreached => ?_⟩, fun lost hpaths => ⟨?_, fun d hd => ?_⟩⟩
  · rw [Logged.value_eq_of_quiet_eq hinventory]
  · exact equiv_counts_ofFiles declarations hreferences
  · exact quiet_unused declarations hreferences
  · exact Project.value_analyze_textOrNothing host tree current root ignoreFile
  · exact Project.limit_of_value_analyze hreached
  · exact extracted_withhold rules lost sources
  · have hfound := mem_extracted_of_withhold rules hd
    have hcount := count_eq_withhold rules hpaths interfaces hd
    refine ⟨hfound, hcount, fun hnone => ?_⟩
    rw [hnone, Nat.add_zero] at hcount
    rw [mem_reported, mem_reported, hcount]
    exact and_congr_left fun _ => iff_of_true hd hfound

/-- A project with a file for icons in front, which may have no text. -/
def iconsProject (icons : Option String) : List TextFile := ⟨"Icons.swift", icons⟩ :: generatedProject

theorem unreadable_as_empty_iconsProject :
    List.Forall₂ TextFile.Alike (iconsProject none) (iconsProject (some "")) ∧
      List.Forall₂ TextFile.Alike [⟨"Main.xib", some ""⟩] [⟨"Main.xib", none⟩] ∧
      ((iconsProject none).map TextFile.path).Nodup ∧
      (Inventory.ofFiles generatedRules (iconsProject (some ""))).value =
        (Inventory.ofFiles generatedRules (iconsProject none)).value ∧
      extracted generatedRules
          ((iconsProject none).map (withhold fun file => file.path == "Generated.swift")) =
        extracted generatedRules
          ((iconsProject none).filter fun file => !(file.path == "Generated.swift")) := by
  have hsources : List.Forall₂ TextFile.Alike (iconsProject none) (iconsProject (some "")) :=
    .cons (.filled _) (.cons (.refl _) (.cons (.refl _) .nil))
  have hinterfaces : List.Forall₂ TextFile.Alike [⟨"Main.xib", some ""⟩] [⟨"Main.xib", none⟩] :=
    .cons (.lost _) .nil
  have hpaths : ((iconsProject none).map TextFile.path).Nodup := by decide
  obtain ⟨⟨hquiet, -, -⟩, -, hlost⟩ := unreadable_as_empty generatedRules hsources hinterfaces
  obtain ⟨hextracted, -⟩ := hlost (fun file => file.path == "Generated.swift") hpaths
  exact ⟨hsources, hinterfaces, hpaths, Logged.value_eq_of_quiet_eq hquiet, hextracted⟩

end Main

end Unreferenced
