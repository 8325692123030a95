import Mathlib.Algebra.Order.BigOperators.Group.List
import Mathlib.Algebra.Order.Group.Nat
import Mathlib.Data.List.Flatten
import Unreferenced.Proofs.RulesAsFilter

/-! A project that gains files, at any places of its lists. What was extracted before still is, and every
file that was searched for references still is, so no declaration loses a reference and none becomes
unused. New declarations do not disturb the totals of the old ones, for they stand in other files. -/

namespace Unreferenced

theorem Reference.references_mono {sources sources' interfaces interfaces' : List TextFile}
    (hsources : sources.Sublist sources') (hinterfaces : interfaces.Sublist interfaces')
    (d : Declaration) : references sources interfaces d ≤ references sources' interfaces' d := by
  have hsource : (sources.map (inSourceFile d)).sum ≤ (sources'.map (inSourceFile d)).sum :=
    (hsources.map _).sum_le_sum fun _ _ => Nat.zero_le _
  have hinterface : (interfaces.map (inInterfaceFile d)).sum ≤
      (interfaces'.map (inInterfaceFile d)).sum :=
    (hinterfaces.map _).sum_le_sum fun _ _ => Nat.zero_le _
  exact Nat.add_le_add hsource hinterface

variable {ε : Type} [Ignore.Searchable ε] (rules : Ignore.RuleSet ε)
  {sources sources' interfaces interfaces' : List TextFile}

theorem extracted_sublist (hsources : sources.Sublist sources') :
    (extracted rules sources).Sublist (extracted rules sources') := by
  rw [extracted_eq_flatMap, extracted_eq_flatMap]
  exact hsources.flatMap _

theorem count_extracted_le (hsources : sources.Sublist sources')
    (hinterfaces : interfaces.Sublist interfaces') (hpaths' : (sources'.map TextFile.path).Nodup)
    {d : Declaration} (hd : d ∈ extracted rules sources) :
    (Reference.Totals.ofFiles (extracted rules sources) sources interfaces).count d ≤
      (Reference.Totals.ofFiles (extracted rules sources') sources' interfaces').count d := by
  have hpaths : (sources.map TextFile.path).Nodup := hpaths'.sublist (hsources.map _)
  have hd' : d ∈ extracted rules sources' := (extracted_sublist rules hsources).subset hd
  rw [Reference.count_ofFiles_of_nodup (nodup_identity_extracted rules hpaths) hd,
    Reference.count_ofFiles_of_nodup (nodup_identity_extracted rules hpaths') hd']
  exact Reference.references_mono hsources hinterfaces d

/-- With more files, the declarations from before are still extracted, each has at least as many
references as before, and those of them that are reported were reported before. -/
theorem files_added (hsources : sources.Sublist sources')
    (hinterfaces : interfaces.Sublist interfaces') (hpaths' : (sources'.map TextFile.path).Nodup) :
    let totals := Reference.Totals.ofFiles (extracted rules sources) sources interfaces
    let totals' := Reference.Totals.ofFiles (extracted rules sources') sources' interfaces'
    (extracted rules sources).Sublist (extracted rules sources') ∧
      ∀ d ∈ extracted rules sources, totals.count d ≤ totals'.count d ∧
        (d ∈ reported rules sources' interfaces' → d ∈ reported rules sources interfaces) := by
  intro totals totals'
  refine ⟨extracted_sublist rules hsources, fun d hd => ?_⟩
  have hle : totals.count d ≤ totals'.count d :=
    count_extracted_le rules hsources hinterfaces hpaths' hd
  refine ⟨hle, fun hreported => ?_⟩
  obtain ⟨-, hlimit, hoverride⟩ := mem_reported.mp hreported
  exact mem_reported.mpr ⟨hd, hle.trans hlimit, hoverride⟩

/-- A project of one file with two functions that nothing calls. -/
def barProject : List TextFile := [⟨"Bar.swift", some "func draw()\nfunc fill()\n"⟩]

/-- The same project with a file that calls the first of them in front, and a file behind that cannot be
read. -/
def grownProject : List TextFile :=
  ⟨"App.swift", some "class App \x7b draw() \x7d\n"⟩ :: barProject ++ [⟨"Zoom.swift", none⟩]

/-- An interface that names the class of the first file. -/
def grownInterface : TextFile := ⟨"Main.xib", some "<view customClass=\"App\"/>\n"⟩

/-- The second function, which nothing calls still. -/
def barFill : Declaration := ⟨"Bar.swift", 2, .function, "fill", ⟨[]⟩, "func fill()"⟩

theorem files_added_grownProject :
    barProject.Sublist grownProject ∧ [].Sublist [grownInterface] ∧
      (grownProject.map TextFile.path).Nodup ∧
      (extracted (.empty : Ignore.RuleSet) barProject).Sublist
        (extracted (.empty : Ignore.RuleSet) grownProject) ∧
      barFill ∈ reported (.empty : Ignore.RuleSet) grownProject [grownInterface] ∧
      barFill ∈ reported (.empty : Ignore.RuleSet) barProject [] := by
  have hsources : barProject.Sublist grownProject := (List.sublist_append_left _ _).cons _
  have hinterfaces : [].Sublist [grownInterface] := List.nil_sublist _
  have hpaths' : (grownProject.map TextFile.path).Nodup := by decide
  obtain ⟨hextracted, hevery⟩ :=
    files_added (.empty : Ignore.RuleSet) hsources hinterfaces hpaths'
  have hd : barFill ∈ extracted (.empty : Ignore.RuleSet) barProject := by decide +kernel
  have hreported : barFill ∈ reported (.empty : Ignore.RuleSet) grownProject [grownInterface] := by
    rw [reported_eq_filter _ hpaths', List.mem_filter]
    exact ⟨hextracted.subset hd, by decide +kernel⟩
  exact ⟨hsources, hinterfaces, hpaths', hextracted, hreported, (hevery barFill hd).2 hreported⟩

end Unreferenced
