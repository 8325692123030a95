import Unreferenced.Proofs.CollectedFiles

/-! The files that a run reads: that of the rules, and those that are collected under the root. The
report is a function of these, so it is the same on two trees that have the same files at those places. A
path to the ignore file that goes back through parents asks for the directories on its way as well. -/

namespace Unreferenced.Project

variable {host : Regex.Host} {tree tree' : Tree} {current : Place}

/-! ### The ignore file -/

namespace Tree

theorem isSome_at?_iff {place : Place} :
    (tree.at? place).isSome = (tree.isDirectoryAt place || (tree.fileAt? place).isSome) := by
  rw [isDirectoryAt, fileAt?]
  cases tree.at? place with
  | none => rfl
  | some entry => cases entry <;> rfl

theorem leadsTo_eq_true_iff {path : Path} :
    tree.leadsTo current path = true ↔ tree.locate current path = .ok (path.resolve current) := by
  rw [leadsTo]
  cases h : tree.locate current path with
  | error fault => simp
  | ok place => simp [eq_foldl_of_follow h, Path.resolve, startOf]

/-- Without two dots in it, a path leads to whatever stands at the place that it resolves to. -/
theorem follow_of_isSome {text : String} {components : List String} {here : Place}
    (hdots : ".." ∉ components) (h : (tree.at? (here ++ components)).isSome = true) :
    tree.follow text here components = .ok (here ++ components) := by
  induction components generalizing here with
  | nil => rw [follow, List.append_nil]
  | cons component rest ih =>
      obtain ⟨hne, hrest⟩ := not_or.mp (mt List.mem_cons.mpr hdots)
      have hhere : tree.isDirectoryAt here = true := by
        rw [at?_append] at h
        rw [isDirectoryAt]
        cases hentry : tree.at? here with
        | none => rw [hentry] at h; cases h
        | some entry =>
            cases entry with
            | file content => rw [hentry] at h; cases h
            | directory entries => rfl
      rw [List.append_cons] at h ⊢
      have hnext : (tree.at? (here ++ [component])).isSome = true := by
        rw [at?_append] at h
        cases hentry : tree.at? (here ++ [component]) with
        | none => rw [hentry] at h; cases h
        | some entry => rfl
      rw [follow, if_pos hhere, if_neg (Ne.symm hne), if_pos hnext, ih hrest h]

/-- A path that goes through the same directories leads to the same file. -/
theorem follow_of_isDirectoryAt_eq {text : String} {components : List String} {here place : Place}
    (hdirectories : ∀ place, tree'.isDirectoryAt place = tree.isDirectoryAt place)
    (hplace : (tree'.at? place).isSome = (tree.at? place).isSome)
    (h : tree.follow text here components = .ok place) :
    tree'.follow text here components = .ok place := by
  induction components generalizing here with
  | nil => exact h
  | cons component rest ih =>
      rw [follow] at h ⊢
      rw [hdirectories]
      split at h
      · rename_i hhere
        rw [if_pos hhere]
        split at h
        · rename_i hdots
          rw [if_pos hdots]
          exact ih h
        · rename_i hdots
          rw [if_neg hdots]
          split at h
          · rename_i hnext
            have hnext' : (tree'.at? (here ++ [component])).isSome = true := by
              cases rest with
              | nil =>
                  obtain rfl := Except.ok.inj h
                  rwa [hplace]
              | cons next rest =>
                  rw [follow] at h
                  split at h
                  · rename_i hdirectory
                    rw [isSome_at?_iff, hdirectories, hdirectory, Bool.true_or]
                  · cases h
            rw [if_pos hnext', ih h]
          · cases h
      · cases h

end Tree

theorem Path.foldl_enter_of_not_mem {components : List String} (hdots : ".." ∉ components)
    (here : Place) : components.foldl enter here = here ++ components := by
  induction components generalizing here with
  | nil => rw [List.foldl_nil, List.append_nil]
  | cons component rest ih =>
      obtain ⟨hne, hrest⟩ := not_or.mp (mt List.mem_cons.mpr hdots)
      rw [List.foldl_cons, ih hrest, enter, if_neg (Ne.symm hne)]
      exact (List.append_cons here component rest).symm

/-- The rules in the bytes of an ignore file, if there is such a file. -/
def rulesIn (host : Regex.Host) : Option (List UInt8) → Except Regex.Limit Ignore.RuleSet
  | none => .ok .empty
  | some content =>
    match Tree.decodeText content with
    | .ok text => (Ignore.RuleSet.parse host text).value
    | .error _ => .ok .empty

/-- The rules are those in the file that the path leads to. -/
theorem value_readRules (host : Regex.Host) (tree : Tree) (current : Place) (path : Path) :
    (readRules host tree current path).value = rulesIn host
      (if tree.leadsTo current path then tree.fileAt? (path.resolve current) else none) := by
  rw [readRules]
  split
  · rename_i hleads
    rw [Tree.readText, Tree.leadsTo_eq_true_iff.mp hleads, Tree.fileAt?]
    dsimp only
    cases tree.at? (path.resolve current) with
    | none => rfl
    | some entry =>
        cases entry with
        | directory entries => rfl
        | file content =>
            dsimp only
            rw [rulesIn]
            cases Tree.decodeText content <;> rfl
  · rfl

/-- The same rules are read from the same file. Where the path goes back through parents, it is taken
through the same directories. -/
theorem value_readRules_congr {path : Path}
    (hfile : tree'.fileAt? (path.resolve current) = tree.fileAt? (path.resolve current))
    (hdirectories : ".." ∈ path.components →
      ∀ place, tree'.isDirectoryAt place = tree.isDirectoryAt place) :
    (readRules host tree' current path).value = (readRules host tree current path).value := by
  rw [value_readRules, value_readRules, hfile]
  cases hcontent : tree.fileAt? (path.resolve current) with
  | none => rw [ite_self, ite_self]
  | some content =>
      have hexists : ∀ {tree : Tree}, tree.fileAt? (path.resolve current) = some content →
          (tree.at? (path.resolve current)).isSome = true := by
        intro tree h
        rw [Tree.isSome_at?_iff, h, Option.isSome_some, Bool.or_true]
      have hleads : tree'.leadsTo current path = tree.leadsTo current path := by
        rw [Bool.eq_iff_iff, Tree.leadsTo_eq_true_iff, Tree.leadsTo_eq_true_iff]
        -- The way matters if it goes back, and otherwise only where it ends.
        by_cases hdots : ".." ∈ path.components
        · have hplace := (hexists (hfile.trans hcontent)).trans (hexists hcontent).symm
          constructor
          · exact Tree.follow_of_isDirectoryAt_eq (fun place => (hdirectories hdots place).symm)
              hplace.symm
          · exact Tree.follow_of_isDirectoryAt_eq (hdirectories hdots) hplace
        · have hfollow : ∀ {tree : Tree}, (tree.at? (path.resolve current)).isSome = true →
              tree.locate current path = .ok (path.resolve current) := by
            intro tree h
            rw [Path.resolve, Path.foldl_enter_of_not_mem hdots] at h ⊢
            exact Tree.follow_of_isSome hdots h
          exact iff_of_true (hfollow (hexists (hfile.trans hcontent))) (hfollow (hexists hcontent))
      rw [hleads]

/-! ### The report -/

/-- The path of the ignore file of a project: the one given, or that of the file in the root with the
usual name. -/
def ignorePath (current : Place) (root : Path) (ignoreFile : Option Path) : Path :=
  ignoreFile.getD ⟨1, root.resolve current ++ [ignoreFileName]⟩

/-- What stands at a place. Where nothing does, there are no files to be found. -/
def Tree.under (tree : Tree) (place : Place) : Tree := (tree.at? place).getD .empty

theorem Tree.WellFormed.under (h : tree.WellFormed) (place : Place) : (tree.under place).WellFormed := by
  rw [Tree.under]
  cases hentry : tree.at? place with
  | none => exact .directory List.nodup_nil nofun nofun
  | some entry => exact (h.of_at? hentry).2

theorem Tree.fileAt?_under {place rest : Place} (hrest : rest ≠ []) :
    (tree.under place).fileAt? rest = tree.fileAt? (place ++ rest) := by
  rw [Tree.under, fileAt?, fileAt?, at?_append]
  cases tree.at? place with
  | none =>
      cases rest with
      | nil => exact absurd rfl hrest
      | cons name rest => rfl
  | some entry => rfl

/-- The report is made of the rules and of the files that are collected under the root. -/
theorem value_analyze (host : Regex.Host) (tree : Tree) (current : Place) (root : Path)
    (ignoreFile : Option Path) :
    (analyze host tree current root ignoreFile).value =
      (readRules host tree current (ignorePath current root ignoreFile)).value.map fun set =>
        (report (Place.text (root.resolve current)) set
          (readFiles (collect sourceSuffixes (tree.under (root.resolve current)))).value
          (readFiles (collect interfaceSuffixes (tree.under (root.resolve current)))).value).value := by
  rw [analyze, ignorePath]
  dsimp only
  cases (readRules host tree current _).value <;> rfl

theorem value_readFiles (files : List (Place × List UInt8)) :
    (readFiles files).value = files.map fun file => (readFile file.1 file.2).value :=
  List.map_map

theorem path_readFile (place : Place) (content : List UInt8) :
    (readFile place content).value.path = Path.join place := by
  rw [readFile]
  cases Tree.decodeText content <;> rfl

theorem nodup_paths_collect (h : tree.WellFormed) (suffixes : List String) :
    ((readFiles (collect suffixes tree)).value.map TextFile.path).Nodup := by
  rw [value_readFiles, List.map_map]
  refine List.pairwise_map.mpr ((pairwise_collect h).imp fun hlt => ?_)
  rw [Function.comp_apply, Function.comp_apply, path_readFile, path_readFile]
  exact ne_of_lt hlt

/-- The report is the one on the files in whatever order they are found. -/
theorem value_analyze_of_perm (h : tree.WellFormed) (host : Regex.Host) (current : Place)
    (root : Path) (ignoreFile : Option Path) {sources interfaces : List (Place × List UInt8)}
    (hsources : sources.Perm (collect sourceSuffixes (tree.under (root.resolve current))))
    (hinterfaces : interfaces.Perm
      (collect interfaceSuffixes (tree.under (root.resolve current)))) :
    (analyze host tree current root ignoreFile).value =
      (readRules host tree current (ignorePath current root ignoreFile)).value.map fun set =>
        (report (Place.text (root.resolve current)) set (readFiles sources).value
          (readFiles interfaces).value).value := by
  have hread : ∀ {files files' : List (Place × List UInt8)}, files'.Perm files →
      (readFiles files').value.Perm (readFiles files).value := by
    intro files files' hperm
    rw [value_readFiles, value_readFiles]
    exact hperm.map _
  rw [value_analyze]
  congr 1
  funext set
  exact (report_of_perm _ set (nodup_paths_collect (h.under _) _) (hread hsources)
    (hread hinterfaces)).symm

/-- The places of the files that a run reads: that of the ignore file, and those under the root at which
source files and interface files are collected. -/
inductive IsRead (current : Place) (root : Path) (ignoreFile : Option Path) : Place → Prop where
  | rules : IsRead current root ignoreFile
      ((ignorePath current root ignoreFile).resolve current)
  | source {place : Place} (h : IsCollected sourceSuffixes place) :
      IsRead current root ignoreFile (root.resolve current ++ place)
  | interface {place : Place} (h : IsCollected interfaceSuffixes place) :
      IsRead current root ignoreFile (root.resolve current ++ place)

theorem IsCollected.ne_nil {suffixes : List String} {place : Place} (h : IsCollected suffixes place) :
    place ≠ [] := by
  obtain ⟨name, hname, -⟩ := h.suffix
  rintro rfl
  cases hname

theorem collect_under_eq (suffixes : List String) {root : Place} (h : tree.WellFormed)
    (h' : tree'.WellFormed) (hfiles : ∀ place, IsCollected suffixes place →
      tree'.fileAt? (root ++ place) = tree.fileAt? (root ++ place)) :
    collect suffixes (tree'.under root) = collect suffixes (tree.under root) := by
  apply collect_eq_of_fileAt?_eq (h.under root) (h'.under root)
  intro place hplace
  rw [Tree.fileAt?_under hplace.ne_nil, Tree.fileAt?_under hplace.ne_nil, hfiles place hplace]

/-- A search for files finds exactly the files with one of the suffixes to which no excluded directory is
on the way, each of them once and in the order of their paths. So the report is the same for two trees
that have the same files at the places of the ignore file, the source files and the interface files. If
the path of the ignore file goes back through parents, they have to have the same directories, too. -/
theorem files_collected {tree : Tree} (h : tree.WellFormed) :
    (∀ suffixes, (collect suffixes tree).Pairwise (fun a b => Path.join a.1 < Path.join b.1) ∧
      ∀ place content, (place, content) ∈ collect suffixes tree ↔
        tree.fileAt? place = some content ∧ IsCollected suffixes place) ∧
      ∀ (host : Regex.Host) (tree' : Tree) current root ignoreFile, tree'.WellFormed →
        (∀ place, IsRead current root ignoreFile place →
          tree'.fileAt? place = tree.fileAt? place) →
        (".." ∈ (ignorePath current root ignoreFile).components →
          ∀ place, tree'.isDirectoryAt place = tree.isDirectoryAt place) →
        (analyze host tree' current root ignoreFile).value =
          (analyze host tree current root ignoreFile).value := by
  refine ⟨fun suffixes => ⟨pairwise_collect h, fun place content => mem_collect_iff h⟩, ?_⟩
  intro host tree' current root ignoreFile h' hfiles hdirectories
  have hsources := collect_under_eq sourceSuffixes h h' fun place hplace =>
    hfiles _ (.source hplace)
  have hinterfaces := collect_under_eq interfaceSuffixes h h' fun place hplace =>
    hfiles _ (.interface hplace)
  rw [value_analyze, value_analyze, hsources, hinterfaces,
    value_readRules_congr (hfiles _ .rules) hdirectories]

/-- A project with a file of a dependency, a directory with the suffix of source files, and a file of
which the name is that suffix. -/
def podsTree (dependency : List UInt8) : Tree :=
  .directory [("App.swift", .file [0x61]), ("Pods", .directory [("Lib.swift", .file dependency)]),
    ("old.swift", .directory [("Pods", .file []), ("Main.xib", .file [])]), (".swift", .file [])]

theorem files_collected_podsTree :
    (∀ dependency, (podsTree dependency).WellFormed) ∧
      (["App.swift"], [0x61]) ∈ collect sourceSuffixes (podsTree []) ∧
      (["Pods", "Lib.swift"], []) ∉ collect sourceSuffixes (podsTree []) ∧
      (analyze .standard (podsTree [0x62]) [] ⟨0, []⟩ none).value =
        (analyze .standard (podsTree []) [] ⟨0, []⟩ none).value := by
  have hwell : ∀ dependency, (podsTree dependency).WellFormed := by
    intro dependency
    simp [podsTree, Tree.wellFormed_directory_iff, Tree.WellFormed.file]
  obtain ⟨hcollect, hreport⟩ := files_collected (hwell [])
  obtain ⟨-, hmem⟩ := hcollect sourceSuffixes
  have hexcluded : ∀ {suffixes}, ¬ IsCollected suffixes ["Pods", "Lib.swift"] :=
    fun h => h.included "Pods" (by decide) (by decide)
  have hname : "App.swift".toList = "App".toList ++ '.' :: "swift".toList := rfl
  refine ⟨hwell, (hmem _ _).mpr ⟨rfl, ?_, by decide⟩, fun h => hexcluded ((hmem _ _).mp h).2,
    hreport _ _ _ _ _ (hwell [0x62]) ?_ (fun hdots => absurd hdots (by decide))⟩
  · exact ⟨"App.swift", rfl, ".swift", by decide,
      .fromDot hname (by decide) (by decide) (by decide)⟩
  · intro place hread
    have hput : podsTree [0x62] = (podsTree []).put (["Pods"] ++ ["Lib.swift"]) (.file [0x62]) := rfl
    rw [hput, Tree.fileAt?_put _ rfl rfl, if_neg]
    intro heq
    cases hread with
    | rules => exact absurd heq (by decide)
    | source h =>
        obtain rfl : _ = ["Pods", "Lib.swift"] := heq
        exact hexcluded h
    | interface h =>
        obtain rfl : _ = ["Pods", "Lib.swift"] := heq
        exact hexcluded h

end Unreferenced.Project
