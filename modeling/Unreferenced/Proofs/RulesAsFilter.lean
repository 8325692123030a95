import Unreferenced.Proofs.Extraction
import Unreferenced.Proofs.ReferenceCount

/-! Rules as a filter on the report. Files that rules ignore are still searched for references, and the
references to a declaration are counted apart from those to any other. So rules take declarations off
the report, and have no effect on what is said of the rest. -/

namespace Unreferenced

variable {ε : Type} [Ignore.Searchable ε]

/-- The declarations that are extracted from source files under rules. -/
def extracted (rules : Ignore.RuleSet ε) (sources : List TextFile) : List Declaration :=
  (Inventory.ofFiles rules sources).value.declarations

/-- The declarations that are reported as unused in a project under rules. -/
def reported (rules : Ignore.RuleSet ε) (sources interfaces : List TextFile) : List Declaration :=
  (Reference.unused (extracted rules sources) sources interfaces).value

theorem mem_reported {rules : Ignore.RuleSet ε} {sources interfaces : List TextFile}
    {d : Declaration} :
    d ∈ reported rules sources interfaces ↔ d ∈ extracted rules sources ∧
      (Reference.Totals.ofFiles (extracted rules sources) sources interfaces).count d ≤ 1 ∧
      d.modifiers.isOverride = false := by
  change d ∈ List.filter (fun d => Reference.isUnused d _) _ ↔ _
  rw [List.mem_filter, Reference.isUnused, Bool.and_eq_true, decide_eq_true_eq, Bool.not_eq_true',
    Reference.unusedLimit]

theorem extracted_eq_filter (rules : Ignore.RuleSet ε) (sources : List TextFile) :
    extracted rules sources = (extracted (.empty : Ignore.RuleSet ε) sources).filter rules.keeps := by
  rw [extracted, extracted, Inventory.declarations_ofFiles_empty, Inventory.declarations_ofFiles]

/-- What is extracted comes file by file. -/
theorem extracted_eq_flatMap (rules : Ignore.RuleSet ε) (sources : List TextFile) :
    extracted rules sources = sources.flatMap fun file =>
      (Inventory.declarationsIn file).filter rules.keeps := by
  rw [extracted, Inventory.declarations_ofFiles, List.filter_flatMap]

theorem nodup_identity_extracted (rules : Ignore.RuleSet ε) {sources : List TextFile}
    (hpaths : (sources.map TextFile.path).Nodup) :
    ((extracted rules sources).map Declaration.identity).Nodup :=
  Inventory.nodup_identity_ofFiles rules hpaths

/-- Every declaration that is extracted stands in one of the files. -/
theorem exists_file_of_mem_extracted {rules : Ignore.RuleSet ε} {sources : List TextFile}
    {d : Declaration} (hd : d ∈ extracted rules sources) :
    ∃ file ∈ sources, d ∈ Inventory.declarationsIn file := by
  rw [extracted, Inventory.declarations_ofFiles] at hd
  exact List.mem_flatMap.mp (List.mem_filter.mp hd).1

theorem reported_eq_filter (rules : Ignore.RuleSet ε) {sources : List TextFile}
    (hpaths : (sources.map TextFile.path).Nodup) (interfaces : List TextFile) :
    reported rules sources interfaces = (extracted rules sources).filter fun d =>
      Reference.isUnused d (Reference.references sources interfaces d) :=
  Reference.unused_of_nodup (nodup_identity_extracted rules hpaths) sources interfaces

/-- Rules are a filter on what is extracted and on what is reported, and their order is of no
consequence. -/
theorem rules_filter_report (rules : Ignore.RuleSet ε) (sources interfaces : List TextFile)
    (hpaths : (sources.map TextFile.path).Nodup) :
    extracted rules sources =
        (extracted (.empty : Ignore.RuleSet ε) sources).filter rules.keeps ∧
      reported rules sources interfaces =
        (reported (.empty : Ignore.RuleSet ε) sources interfaces).filter rules.keeps ∧
      ∀ reordered : Ignore.RuleSet ε, reordered.rules.Perm rules.rules →
        extracted reordered sources = extracted rules sources ∧
          reported reordered sources interfaces = reported rules sources interfaces := by
  refine ⟨extracted_eq_filter rules sources, ?_, fun reordered hperm => ?_⟩
  · rw [reported_eq_filter rules hpaths, reported_eq_filter .empty hpaths,
      extracted_eq_filter rules, List.filter_filter, List.filter_filter]
    exact List.filter_congr fun d _ => Bool.and_comm _ _
  · have hsame : extracted reordered sources = extracted rules sources := by
      rw [extracted_eq_filter reordered, extracted_eq_filter rules,
        Ignore.RuleSet.keeps_perm hperm]
    exact ⟨hsame, by rw [reported, reported, hsame]⟩

/-- A project in which a generated file holds the only reference to a function. -/
def generatedProject : List TextFile :=
  [⟨"Lib.swift", some "func helper()\nfunc spare()\nfunc other()\n"⟩,
    ⟨"Generated.swift", some "let made = helper()\n"⟩]

/-- Rules for the generated file and for one declaration of the other. -/
def generatedRules : Ignore.RuleSet :=
  ⟨[⟨"Generated.swift", .literal "Generated.swift", none⟩,
    ⟨"Lib.swift: spare", .literal "Lib.swift", some (.literal "spare")⟩]⟩

theorem reported_generatedProject :
    (generatedProject.map TextFile.path).Nodup ∧
      extracted generatedRules generatedProject =
        (extracted (.empty : Ignore.RuleSet) generatedProject).filter generatedRules.keeps ∧
      reported generatedRules generatedProject [] =
        (reported (.empty : Ignore.RuleSet) generatedProject []).filter generatedRules.keeps ∧
      reported ⟨generatedRules.rules.reverse⟩ generatedProject [] =
        reported generatedRules generatedProject [] := by
  have hpaths : (generatedProject.map TextFile.path).Nodup := by decide
  obtain ⟨hextracted, hreported, horder⟩ :=
    rules_filter_report generatedRules generatedProject [] hpaths
  exact ⟨hpaths, hextracted, hreported,
    (horder ⟨generatedRules.rules.reverse⟩ (List.reverse_perm _)).2⟩

end Unreferenced
