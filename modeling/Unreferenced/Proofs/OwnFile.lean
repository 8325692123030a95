import Unreferenced.Proofs.RulesAsFilter

/-! Private declarations, and the one file that they depend on. Source files other than its own do not
count for a restricted declaration, and interface files do not if it is not linked to them. So such a
declaration has the references that its own file alone has to it, and what a project reports of such
declarations is what its source files report of them one by one. -/

namespace Unreferenced

/-- A declaration that no other file can refer to: it is restricted and not linked to interface
files. -/
def Declaration.isPrivate (d : Declaration) : Bool :=
  d.modifiers.isRestricted && !d.modifiers.isInterfaceLinked

namespace Reference

variable {d : Declaration}

theorem inInterfaceFile_of_isPrivate (hprivate : d.isPrivate = true) (file : TextFile) :
    inInterfaceFile d file = 0 := by
  obtain ⟨hrestricted, hlinked⟩ := Bool.and_eq_true_iff.mp hprivate
  rw [inInterfaceFile]
  cases file.text with
  | none => rfl
  | some text => simp only [Mentions.count, hrestricted, hlinked, Bool.and_true, if_true]

/-- The only file that a private declaration has references in is its own. -/
theorem references_of_isPrivate {sources : List TextFile} {file : TextFile}
    (hpaths : (sources.map TextFile.path).Nodup) (hfile : file ∈ sources)
    (hown : d.file = file.path) (hprivate : d.isPrivate = true) (interfaces : List TextFile) :
    references sources interfaces d = (identifiersIn file).count d.name := by
  have hreached : sources.filter (reaches d) = [file] := by
    rw [← filter_key_of_nodup TextFile.path hpaths hfile]
    unfold reaches
    rw [(Bool.and_eq_true_iff.mp hprivate).1, hown]
    rfl
  have hinterfaces : (interfaces.map (inInterfaceFile d)).sum = 0 := by
    rw [List.map_congr_left fun file _ => inInterfaceFile_of_isPrivate hprivate file,
      List.map_const', List.sum_replicate_nat, Nat.mul_zero]
  rw [references, hinterfaces, Nat.add_zero, sum_map_inSourceFile, hreached, List.map_singleton,
    List.sum_singleton]

end Reference

theorem nodup_path_singleton (file : TextFile) : ([file].map TextFile.path).Nodup :=
  List.nodup_singleton file.path

variable {ε : Type} [Ignore.Searchable ε] (rules : Ignore.RuleSet ε)

theorem mem_extracted_iff {sources : List TextFile} {file : TextFile} {d : Declaration}
    (hpaths : (sources.map TextFile.path).Nodup) (hfile : file ∈ sources)
    (hown : d.file = file.path) : d ∈ extracted rules sources ↔ d ∈ extracted rules [file] := by
  rw [extracted_eq_flatMap, extracted_eq_flatMap, List.mem_flatMap, List.flatMap_singleton]
  constructor
  · rintro ⟨other, hother, hd⟩
    have hpath : other.path = file.path :=
      (Inventory.file_of_mem_declarationsIn (List.mem_filter.mp hd).1).symm.trans hown
    rwa [List.inj_on_of_nodup_map hpaths hother hfile hpath] at hd
  · exact fun hd => ⟨file, hfile, hd⟩

/-- A private declaration is judged alike in a project and in its own file alone. -/
theorem isUnused_of_isPrivate {sources : List TextFile} {file : TextFile} {d : Declaration}
    (hpaths : (sources.map TextFile.path).Nodup) (hfile : file ∈ sources)
    (hown : d.file = file.path) (hprivate : d.isPrivate = true) (interfaces : List TextFile) :
    Reference.isUnused d (Reference.references sources interfaces d) =
      Reference.isUnused d (Reference.references [file] [] d) := by
  rw [Reference.references_of_isPrivate hpaths hfile hown hprivate,
    Reference.references_of_isPrivate (nodup_path_singleton file) List.mem_cons_self hown hprivate]

theorem mem_reported_iff_of_isPrivate {sources : List TextFile} {file : TextFile} {d : Declaration}
    (hpaths : (sources.map TextFile.path).Nodup) (hfile : file ∈ sources)
    (hown : d.file = file.path) (hprivate : d.isPrivate = true) (interfaces : List TextFile) :
    d ∈ reported rules sources interfaces ↔ d ∈ reported rules [file] [] := by
  rw [reported_eq_filter rules hpaths, reported_eq_filter rules (nodup_path_singleton file),
    List.mem_filter, List.mem_filter, mem_extracted_iff rules hpaths hfile hown,
    isUnused_of_isPrivate hpaths hfile hown hprivate]

/-- The private declarations that a project reports are those that its source files report one by one.
Whether one of them is reported is the same in all projects that have its file, whatever their other
source files and their interface files are. -/
theorem private_reported_by_file {sources : List TextFile}
    (hpaths : (sources.map TextFile.path).Nodup) (interfaces : List TextFile) :
    (reported rules sources interfaces).filter Declaration.isPrivate =
        sources.flatMap (fun file => (reported rules [file] []).filter Declaration.isPrivate) ∧
      ∀ sources' interfaces' : List TextFile, (sources'.map TextFile.path).Nodup →
        ∀ file ∈ sources, file ∈ sources' → ∀ d : Declaration, d.file = file.path →
          d.isPrivate = true →
          (d ∈ reported rules sources' interfaces' ↔ d ∈ reported rules sources interfaces) := by
  constructor
  · rw [reported_eq_filter rules hpaths, extracted_eq_flatMap, List.filter_flatMap,
      List.filter_flatMap]
    refine List.flatMap_congr fun file hfile => ?_
    rw [reported_eq_filter rules (nodup_path_singleton file), extracted_eq_flatMap,
      List.flatMap_singleton]
    simp only [List.filter_filter]
    refine List.filter_congr fun d hd => ?_
    cases hprivate : d.isPrivate with
    | false => rfl
    | true =>
        rw [isUnused_of_isPrivate hpaths hfile (Inventory.file_of_mem_declarationsIn hd) hprivate]
  · intro sources' interfaces' hpaths' file hfile hfile' d hown hprivate
    rw [mem_reported_iff_of_isPrivate rules hpaths' hfile' hown hprivate,
      mem_reported_iff_of_isPrivate rules hpaths hfile hown hprivate]

/-- A file with a private function that only another file calls, in code and from an interface. -/
def toolFile : TextFile :=
  ⟨"Tool.swift", some "private func trim()\nprivate func sort()\nsort()\n"⟩

def toolTrim : Declaration :=
  ⟨"Tool.swift", 1, .function, "trim", ⟨["private"]⟩, "private func trim()"⟩

/-- A project with that file and one that calls a function of the same name. -/
def toolProject : List TextFile :=
  [toolFile, ⟨"Main.swift", some "private func trim()\nlet short = trim()\nsort()\n"⟩]

/-- An interface that names both functions. -/
def toolInterface : TextFile :=
  ⟨"Main.xib", some "<view customClass=\"trim\"><action selector=\"sort:\"/></view>\n"⟩

theorem private_reported_toolProject :
    (toolProject.map TextFile.path).Nodup ∧
      toolTrim ∈ reported (.empty : Ignore.RuleSet) toolProject [toolInterface] ∧
      (toolTrim ∈ reported (.empty : Ignore.RuleSet) toolProject [toolInterface] ↔
        toolTrim ∈ reported (.empty : Ignore.RuleSet) [toolFile] []) ∧
      toolTrim ∈ toolProject.flatMap fun file =>
        (reported (.empty : Ignore.RuleSet) [file] []).filter Declaration.isPrivate := by
  have hpaths : (toolProject.map TextFile.path).Nodup := by decide
  have halone := nodup_path_singleton toolFile
  obtain ⟨hfiles, -⟩ := private_reported_by_file (.empty : Ignore.RuleSet) hpaths [toolInterface]
  obtain ⟨-, hsame⟩ := private_reported_by_file (.empty : Ignore.RuleSet) halone []
  have hiff := hsame toolProject [toolInterface] hpaths toolFile List.mem_cons_self
    List.mem_cons_self toolTrim rfl (by decide)
  have htrim : toolTrim ∈ reported (.empty : Ignore.RuleSet) [toolFile] [] := by
    rw [reported_eq_filter _ halone, List.mem_filter]
    decide +kernel
  refine ⟨hpaths, hiff.mpr htrim, hiff, ?_⟩
  rw [← hfiles]
  exact List.mem_filter.mpr ⟨hiff.mpr htrim, by decide⟩

end Unreferenced
