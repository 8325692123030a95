import Mathlib.Data.Prod.Lex
import Mathlib.Data.String.Basic
import Unreferenced.Project.Analysis
import Unreferenced.Proofs.RulesAsFilter
import Unreferenced.Proofs.StaleRules

/-! The order of files is of no consequence. The order of declarations does not look at their kind, and
sorting leaves alone what the order does not tell apart, so a sorted list need not be unique. It is for
what is extracted from files with distinct paths, where no two declarations stand on the same line of
the same file: the sorted list is strictly increasing then, and a strictly increasing list is fixed by
its members. Which rules apply, and how often something is referred to, are sums and unions over the
files, to which their order means nothing. -/

namespace Unreferenced

/-! ### Sorting -/

section Sorting

variable {α κ : Type} [LinearOrder κ] {key : α → κ} {le : α → α → Bool}

theorem not_lt_eq_true_iff {a b : κ} : (!decide (b < a)) = true ↔ a ≤ b := by
  rw [Bool.not_eq_true', decide_eq_false_iff_not, not_lt]

theorem pairwise_mergeSort_of_key (hle : ∀ a b, le a b = true ↔ key a ≤ key b) (items : List α) :
    (items.mergeSort le).Pairwise fun a b => key a ≤ key b := by
  refine (List.pairwise_mergeSort ?_ ?_ items).imp (hle _ _).mp
  · intro a b c hab hbc
    rw [hle] at hab hbc ⊢
    exact hab.trans hbc
  · intro a b
    rw [Bool.or_eq_true, hle, hle]
    exact le_total _ _

/-- What has distinct keys is strictly increasing when it is sorted by them. -/
theorem pairwise_lt_mergeSort_of_key (hle : ∀ a b, le a b = true ↔ key a ≤ key b) {items : List α}
    (hkeys : (items.map key).Nodup) : (items.mergeSort le).Pairwise fun a b => key a < key b := by
  have hsorted : ((items.mergeSort le).map key).Nodup :=
    ((List.mergeSort_perm _ _).map key).nodup_iff.mpr hkeys
  refine ((pairwise_mergeSort_of_key hle items).and (List.pairwise_map.mp hsorted)).imp ?_
  rintro a b ⟨hab, hne⟩
  exact lt_of_le_of_ne hab hne

end Sorting

namespace Declaration

/-- What declarations are sorted by, compared from the left. -/
def sortKey (d : Declaration) : String ×ₗ Int ×ₗ String := toLex (d.file, toLex (d.line, d.name))

theorem before_eq_true_iff {d e : Declaration} : d.before e = true ↔ d.sortKey < e.sortKey := by
  rw [before, sortKey, sortKey, Prod.Lex.toLex_lt_toLex, Prod.Lex.toLex_lt_toLex]
  simp only [Bool.or_eq_true, Bool.and_eq_true, decide_eq_true_eq, beq_iff_eq]

theorem not_before_eq_true_iff {d e : Declaration} :
    (!e.before d) = true ↔ d.sortKey ≤ e.sortKey := by
  rw [Bool.not_eq_true', ← Bool.not_eq_true, before_eq_true_iff, not_lt]

theorem sort_perm (declarations : List Declaration) :
    (sort declarations).Perm declarations := List.mergeSort_perm _ _

theorem pairwise_sort (declarations : List Declaration) :
    (sort declarations).Pairwise fun d e => d.sortKey ≤ e.sortKey := by
  apply pairwise_mergeSort_of_key
  intro d e
  exact not_before_eq_true_iff

theorem place_eq_of_sortKey_eq {d e : Declaration} (h : d.sortKey = e.sortKey) :
    d.place = e.place := by
  have hfields := toLex_inj.mp h
  rw [Prod.mk.injEq, toLex_inj, Prod.mk.injEq] at hfields
  rw [place, place, hfields.1, hfields.2.1]

variable {declarations others : List Declaration}

/-- Declarations at different places are strictly increasing when they are sorted. -/
theorem pairwise_before_sort (hplaces : (declarations.map place).Nodup) :
    (sort declarations).Pairwise fun d e => d.before e = true := by
  have hsorted : ((sort declarations).map place).Nodup :=
    ((sort_perm declarations).map place).nodup_iff.mpr hplaces
  rw [List.Nodup, List.pairwise_map] at hsorted
  refine ((pairwise_sort declarations).and hsorted).imp ?_
  rintro d e ⟨hle, hne⟩
  rw [before_eq_true_iff]
  exact lt_of_le_of_ne hle fun heq => hne (place_eq_of_sortKey_eq heq)

/-- A strictly increasing list is fixed by its members. -/
theorem eq_of_perm_of_pairwise_before (hdeclarations : declarations.Pairwise fun d e => d.before e)
    (hothers : others.Pairwise fun d e => d.before e) (hperm : declarations.Perm others) :
    declarations = others := by
  refine hperm.eq_of_pairwise ?_ hdeclarations hothers
  intro d e _ _ hde hed
  rw [before_eq_true_iff] at hde hed
  exact absurd hed hde.asymm

theorem sort_eq_of_perm (hplaces : (others.map place).Nodup) (hperm : declarations.Perm others) :
    sort declarations = sort others := by
  have hdeclarations : (declarations.map place).Nodup := (hperm.map place).nodup_iff.mpr hplaces
  apply eq_of_perm_of_pairwise_before
  · exact pairwise_before_sort hdeclarations
  · exact pairwise_before_sort hplaces
  · exact (sort_perm declarations).trans (hperm.trans (sort_perm others).symm)

/-- At different places, it does not matter whether declarations are selected or sorted first. -/
theorem sort_filter (hplaces : (declarations.map place).Nodup) (selected : Declaration → Bool) :
    sort (declarations.filter selected) = (sort declarations).filter selected := by
  apply eq_of_perm_of_pairwise_before
  · exact pairwise_before_sort (hplaces.sublist (List.filter_sublist.map _))
  · exact (pairwise_before_sort hplaces).filter _
  · exact (sort_perm _).trans ((sort_perm declarations).symm.filter selected)

end Declaration

/-! ### Files in another order -/

namespace Ignore.RuleSet

theorem stale_congr {ε : Type} (set : RuleSet ε) {applied applied' : List Nat}
    (h : ∀ index, index ∈ applied' ↔ index ∈ applied) : set.stale applied' = set.stale applied := by
  rw [stale, stale]
  congr 1
  apply List.filter_congr
  intro entry _
  rw [Bool.eq_iff_iff, Bool.not_eq_true', Bool.not_eq_true', ← Bool.not_eq_true,
    ← Bool.not_eq_true, List.contains_iff_mem, List.contains_iff_mem, h]

end Ignore.RuleSet

section Reordered

variable {ε : Type} [Ignore.Searchable ε] (rules : Ignore.RuleSet ε)
  {sources sources' interfaces interfaces' : List TextFile}

theorem mem_applied_of_perm (hsources : sources'.Perm sources) (index : Nat) :
    index ∈ (Inventory.ofFiles rules sources').value.applied ↔
      index ∈ (Inventory.ofFiles rules sources).value.applied := by
  rw [Inventory.mem_applied_ofFiles, Inventory.mem_applied_ofFiles]
  simp only [hsources.mem_iff]

theorem nodup_place_extracted (hpaths : (sources.map TextFile.path).Nodup) :
    ((extracted rules sources).map Declaration.place).Nodup := by
  rw [extracted, Inventory.declarations_ofFiles]
  exact (Inventory.nodup_place hpaths).sublist (List.filter_sublist.map _)

theorem extracted_perm (hsources : sources'.Perm sources) :
    (extracted rules sources').Perm (extracted rules sources) := by
  rw [extracted, extracted, Inventory.declarations_ofFiles, Inventory.declarations_ofFiles]
  exact (hsources.flatMap_right _).filter _

theorem references_of_perm (hsources : sources'.Perm sources)
    (hinterfaces : interfaces'.Perm interfaces) (d : Declaration) :
    Reference.references sources' interfaces' d = Reference.references sources interfaces d := by
  rw [Reference.references, Reference.references, (hsources.map _).sum_nat,
    (hinterfaces.map _).sum_nat]

theorem nodup_paths_of_perm (hpaths : (sources.map TextFile.path).Nodup)
    (hsources : sources'.Perm sources) : (sources'.map TextFile.path).Nodup :=
  (hsources.map _).nodup_iff.mpr hpaths

/-- What is reported comes in the order of what is extracted. -/
theorem sort_reported (hpaths : (sources.map TextFile.path).Nodup) (interfaces : List TextFile) :
    Declaration.sort (reported rules sources interfaces) =
      (Declaration.sort (extracted rules sources)).filter fun d =>
        Reference.isUnused d (Reference.references sources interfaces d) := by
  rw [reported_eq_filter rules hpaths,
    Declaration.sort_filter (nodup_place_extracted rules hpaths)]

theorem sort_extracted_of_perm (hpaths : (sources.map TextFile.path).Nodup)
    (hsources : sources'.Perm sources) :
    Declaration.sort (extracted rules sources') = Declaration.sort (extracted rules sources) :=
  Declaration.sort_eq_of_perm (nodup_place_extracted rules hpaths) (extracted_perm rules hsources)

theorem sort_reported_of_perm (hpaths : (sources.map TextFile.path).Nodup)
    (hsources : sources'.Perm sources) (hinterfaces : interfaces'.Perm interfaces) :
    Declaration.sort (reported rules sources' interfaces') =
      Declaration.sort (reported rules sources interfaces) := by
  have hpaths' := nodup_paths_of_perm hpaths hsources
  rw [sort_reported rules hpaths, sort_reported rules hpaths',
    sort_extracted_of_perm rules hpaths hsources]
  simp only [references_of_perm hsources hinterfaces]

/-- With the files in another order, the same rules apply and the same ones are stale, and the sorted
declarations and the sorted report are the same lists. Both are strictly increasing, and the report is
a part of the declarations. -/
theorem files_reordered (hpaths : (sources.map TextFile.path).Nodup)
    (hsources : sources'.Perm sources) (hinterfaces : interfaces'.Perm interfaces) :
    let applied := (Inventory.ofFiles rules sources).value.applied
    let applied' := (Inventory.ofFiles rules sources').value.applied
    let declarations := Declaration.sort (extracted rules sources)
    let unused := Declaration.sort (reported rules sources interfaces)
    (∀ index, index ∈ applied' ↔ index ∈ applied) ∧
      rules.stale applied' = rules.stale applied ∧
      Declaration.sort (extracted rules sources') = declarations ∧
      Declaration.sort (reported rules sources' interfaces') = unused ∧
      declarations.Pairwise (fun d e => d.before e = true) ∧
      unused.Pairwise (fun d e => d.before e = true) ∧
      unused.Sublist declarations := by
  intro applied applied' declarations unused
  have happlied := mem_applied_of_perm rules hsources
  have hincreasing : declarations.Pairwise fun d e => d.before e = true :=
    Declaration.pairwise_before_sort (nodup_place_extracted rules hpaths)
  have hpart : unused.Sublist declarations := by
    change (Declaration.sort (reported rules sources interfaces)).Sublist _
    rw [sort_reported rules hpaths]
    exact List.filter_sublist
  refine ⟨happlied, ?_, ?_, ?_, hincreasing, ?_, hpart⟩
  · exact rules.stale_congr happlied
  · exact sort_extracted_of_perm rules hpaths hsources
  · exact sort_reported_of_perm rules hpaths hsources hinterfaces
  · exact hincreasing.sublist hpart

theorem files_reordered_generatedProject :
    (generatedProject.map TextFile.path).Nodup ∧
      generatedProject.reverse.Perm generatedProject ∧
      Declaration.sort (extracted generatedRules generatedProject.reverse) =
        Declaration.sort (extracted generatedRules generatedProject) ∧
      generatedRules.stale
          (Inventory.ofFiles generatedRules generatedProject.reverse).value.applied =
        generatedRules.stale
          (Inventory.ofFiles generatedRules generatedProject).value.applied := by
  have hpaths : (generatedProject.map TextFile.path).Nodup := by decide
  have hsources : generatedProject.reverse.Perm generatedProject := List.reverse_perm _
  obtain ⟨-, hstale, hdeclarations, -⟩ :=
    files_reordered generatedRules hpaths hsources (.refl [])
  exact ⟨hpaths, hsources, hdeclarations, hstale⟩

end Reordered

namespace Project

/-- The whole report is the same with the files in another order. -/
theorem report_of_perm (root : String) (rules : Ignore.RuleSet)
    {sources sources' interfaces interfaces' : List TextFile}
    (hpaths : (sources.map TextFile.path).Nodup) (hsources : sources'.Perm sources)
    (hinterfaces : interfaces'.Perm interfaces) :
    (report root rules sources' interfaces').value = (report root rules sources interfaces).value := by
  have hfound := sort_extracted_of_perm rules hpaths hsources
  have hunused := sort_reported_of_perm rules hpaths hsources hinterfaces
  have hstale := rules.stale_congr (mem_applied_of_perm rules hsources)
  have hlength := (extracted_perm rules hsources).length_eq
  rw [extracted, extracted] at hfound hlength
  rw [reported, reported, extracted, extracted] at hunused
  rw [report, report]
  dsimp only
  rw [hfound, hunused, hstale, hlength, hsources.length_eq, hinterfaces.length_eq]

end Project

end Unreferenced
