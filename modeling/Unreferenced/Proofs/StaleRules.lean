import Unreferenced.Proofs.Extraction

/-! Rule sets without their stale rules. A rule applies where it is the first to match, so a stale rule
may well match a file or a declaration that an earlier rule stops. Taking all stale rules away moves
the others up and leaves each of them first wherever it was first. What is extracted stays the same
then, and every rule that is left applies. -/

namespace Unreferenced

namespace Ignore.RuleSet

variable {ε : Type} (set : RuleSet ε) (applied : List Nat)

/-- The rules that applied, each with its index. -/
def exercised : List (Rule ε × Nat) :=
  set.rules.zipIdx.filter fun (_, index) => applied.contains index

/-- The rules that applied, in their order. -/
def withoutStale : RuleSet ε := ⟨(set.exercised applied).map Prod.fst⟩

variable {set applied}

theorem mem_exercised {rule : Rule ε} {index : Nat} :
    (rule, index) ∈ set.exercised applied ↔ set.rules[index]? = some rule ∧ index ∈ applied := by
  rw [exercised, List.mem_filter, List.mem_zipIdx_iff_getElem?, List.contains_iff_mem]

theorem pairwise_exercised : (set.exercised applied).Pairwise fun a b => a.2 < b.2 :=
  (Inventory.pairwise_snd_zipIdx set.rules).filter _

theorem withoutStale_append_stale_perm :
    ((set.withoutStale applied).rules ++ set.stale applied).Perm set.rules := by
  have hsplit := (List.filter_append_perm (fun entry : Rule ε × Nat => applied.contains entry.2)
    set.rules.zipIdx).map Prod.fst
  rw [List.map_append, List.zipIdx_map_fst] at hsplit
  exact hsplit

theorem mem_of_mem_withoutStale {rule : Rule ε} (h : rule ∈ (set.withoutStale applied).rules) :
    rule ∈ set.rules :=
  withoutStale_append_stale_perm.subset (List.mem_append_left _ h)

theorem stale_eq_nil (h : ∀ index < set.rules.length, index ∈ applied) : set.stale applied = [] := by
  rw [stale, List.map_eq_nil_iff, List.filter_eq_nil_iff]
  rintro ⟨rule, index⟩ hmem
  rw [List.mem_zipIdx_iff_getElem?, List.getElem?_eq_some_iff] at hmem
  obtain ⟨hlt, -⟩ := hmem
  simpa using h index hlt

/-! ### First matches -/

variable {matching : Rule ε → Bool} {index position : Nat} {rule : Rule ε}

theorem findIdx?_withoutStale_eq_none (h : set.rules.findIdx? matching = none) :
    (set.withoutStale applied).rules.findIdx? matching = none := by
  rw [List.findIdx?_eq_none_iff] at h ⊢
  intro rule hrule
  exact h rule (mem_of_mem_withoutStale hrule)

/-- The first rule that matches is still the first one, where it has moved to. -/
theorem findIdx?_withoutStale_eq_some (h : set.rules.findIdx? matching = some index)
    (hposition : (set.exercised applied)[position]? = some (rule, index)) :
    (set.withoutStale applied).rules.findIdx? matching = some position := by
  obtain ⟨hlt, hmatching, hfirst⟩ := List.findIdx?_eq_some_iff_getElem.mp h
  obtain ⟨hbound, hentry⟩ := List.getElem?_eq_some_iff.mp hposition
  have hindex : ∀ (other : Nat) (hother : other < (set.exercised applied).length),
      set.rules[(set.exercised applied)[other].2]? = some (set.exercised applied)[other].1 :=
    fun other hother => (mem_exercised.mp (List.getElem_mem hother)).1
  rw [withoutStale, List.findIdx?_eq_some_iff_getElem]
  refine ⟨by rwa [List.length_map], ?_, fun other hother => ?_⟩
  · have hrule := hindex position hbound
    rw [hentry, List.getElem?_eq_getElem hlt] at hrule
    rw [List.getElem_map, hentry, ← Option.some.inj hrule]
    exact hmatching
  · -- The indices grow along the list, so what stands earlier now stood earlier before.
    have hearlier : (set.exercised applied)[other].2 < index := by
      have hsorted : (set.exercised applied).Pairwise fun a b => a.2 < b.2 := pairwise_exercised
      have hlt := List.pairwise_iff_getElem.mp hsorted other position (by omega) hbound hother
      rwa [hentry] at hlt
    have hrule := hindex other (by omega)
    rw [List.getElem?_eq_getElem (Nat.lt_trans hearlier hlt)] at hrule
    rw [List.getElem_map, ← Option.some.inj hrule]
    exact hfirst _ hearlier

/-- Where the first rule that matches has applied, some rule matches as before. -/
theorem isNone_findIdx?_withoutStale
    (h : ∀ index, set.rules.findIdx? matching = some index → index ∈ applied) :
    ((set.withoutStale applied).rules.findIdx? matching).isNone =
      (set.rules.findIdx? matching).isNone := by
  cases hfind : set.rules.findIdx? matching with
  | none => rw [findIdx?_withoutStale_eq_none hfind]
  | some index =>
      obtain ⟨hlt, -⟩ := List.findIdx?_eq_some_iff_getElem.mp hfind
      have hmem := mem_exercised.mpr ⟨List.getElem?_eq_getElem hlt, h index hfind⟩
      obtain ⟨position, hposition⟩ := List.getElem?_of_mem hmem
      rw [findIdx?_withoutStale_eq_some hfind hposition]
      rfl

end Ignore.RuleSet

namespace Inventory

variable {ε : Type} [Ignore.Searchable ε]

/-! ### Which rules apply -/

/-- A rule is the first to stop a file, or in a file that none stops, the first to stop a declaration. -/
def Stops (rules : Ignore.RuleSet ε) (file : TextFile) (index : Nat) : Prop :=
  rules.forFile? file.path = some index ∨
    rules.forFile? file.path = none ∧
      ∃ d ∈ declarationsIn file, rules.forName? d.file d.name = some index

theorem applied_foldr_consider (rules : Ignore.RuleSet ε) (found : List Declaration) :
    (found.foldr (consider rules) ⟨empty, []⟩).value.applied =
      found.filterMap fun d => rules.forName? d.file d.name := by
  induction found with
  | nil => rfl
  | cons d found ih =>
      rw [List.foldr_cons, consider, List.filterMap_cons]
      cases rules.forName? d.file d.name with
      | none => exact ih
      | some index => exact congrArg (index :: ·) ih

theorem mem_applied_ofFile {rules : Ignore.RuleSet ε} {file : TextFile} {index : Nat} :
    index ∈ (ofFile rules file).value.applied ↔ Stops rules file index := by
  rw [ofFile, Stops]
  cases rules.forFile? file.path with
  | some first => simp [eq_comm]
  | none =>
      rw [declarationsIn, TextFile.characters]
      cases file.text with
      | none => simp [declarationsOf_nil, empty]
      | some text => simp [applied_foldr_consider]

theorem mem_applied_ofFiles {rules : Ignore.RuleSet ε} {files : List TextFile} {index : Nat} :
    index ∈ (ofFiles rules files).value.applied ↔ ∃ file ∈ files, Stops rules file index := by
  induction files with
  | nil => simp [ofFiles, empty]
  | cons file files ih =>
      have hstep : (ofFiles rules (file :: files)).value.applied =
          (ofFile rules file).value.applied ++ (ofFiles rules files).value.applied := rfl
      rw [hstep, List.mem_append, mem_applied_ofFile, ih, List.exists_mem_cons_iff]

theorem Stops.lt_length {rules : Ignore.RuleSet ε} {file : TextFile} {index : Nat}
    (h : Stops rules file index) : index < rules.rules.length := by
  rcases h with hfile | ⟨-, d, -, hname⟩
  · exact (List.findIdx?_eq_some_iff_getElem.mp hfile).1
  · exact (List.findIdx?_eq_some_iff_getElem.mp hname).1

/-! ### Without the stale rules -/

section WithoutStale

variable {rules : Ignore.RuleSet ε} {applied : List Nat} {file : TextFile}

/-- A rule that applies in a file still does, where it has moved to. -/
theorem Stops.withoutStale {index position : Nat} {rule : Ignore.Rule ε}
    (h : Stops rules file index)
    (hposition : (rules.exercised applied)[position]? = some (rule, index)) :
    Stops (rules.withoutStale applied) file position := by
  rcases h with hfile | ⟨hnone, d, hd, hname⟩
  · exact .inl (Ignore.RuleSet.findIdx?_withoutStale_eq_some hfile hposition)
  · exact .inr ⟨Ignore.RuleSet.findIdx?_withoutStale_eq_none hnone, d, hd,
      Ignore.RuleSet.findIdx?_withoutStale_eq_some hname hposition⟩

/-- If what applies in a file is kept, the same declarations of that file are left alone. -/
theorem keeps_withoutStale (h : ∀ index, Stops rules file index → index ∈ applied)
    {d : Declaration} (hd : d ∈ declarationsIn file) :
    (rules.withoutStale applied).keeps d = rules.keeps d := by
  have hpath := file_of_mem_declarationsIn hd
  have hforFile : ((rules.withoutStale applied).forFile? d.file).isNone =
      (rules.forFile? d.file).isNone := by
    apply Ignore.RuleSet.isNone_findIdx?_withoutStale
    intro index hindex
    rw [hpath] at hindex
    exact h index (.inl hindex)
  rw [Ignore.RuleSet.keeps_eq, Ignore.RuleSet.keeps_eq, hforFile]
  cases hfile : rules.forFile? d.file with
  | some first => rfl
  | none =>
      rw [hpath] at hfile
      congr 1
      apply Ignore.RuleSet.isNone_findIdx?_withoutStale
      intro index hindex
      exact h index (.inr ⟨hfile, d, hd, hindex⟩)

end WithoutStale

/-- Without the rules that are stale after a run, a second run extracts the same declarations, applies
every rule that is left, and finds none of them stale. -/
theorem ofFiles_withoutStale (rules : Ignore.RuleSet ε) (files : List TextFile) :
    let first := (ofFiles rules files).value
    let left := rules.withoutStale first.applied
    let second := (ofFiles left files).value
    (left.rules ++ rules.stale first.applied).Perm rules.rules ∧
      second.declarations = first.declarations ∧
      (∀ index, index ∈ second.applied ↔ index < left.rules.length) ∧
      left.stale second.applied = [] := by
  intro first left second
  have happlied : ∀ index, index ∈ second.applied ↔ index < left.rules.length := by
    intro index
    constructor
    · intro hmem
      obtain ⟨file, -, hstops⟩ := mem_applied_ofFiles.mp hmem
      exact hstops.lt_length
    · intro hlt
      have hbound : index < (rules.exercised first.applied).length := by
        change index < ((rules.exercised first.applied).map Prod.fst).length at hlt
        rwa [List.length_map] at hlt
      have hposition := List.getElem?_eq_getElem hbound
      obtain ⟨-, hfirst⟩ := Ignore.RuleSet.mem_exercised.mp (List.getElem_mem hbound)
      obtain ⟨file, hfile, hstops⟩ := mem_applied_ofFiles.mp hfirst
      exact mem_applied_ofFiles.mpr ⟨file, hfile, hstops.withoutStale hposition⟩
  refine ⟨Ignore.RuleSet.withoutStale_append_stale_perm, ?_, happlied,
    Ignore.RuleSet.stale_eq_nil fun index hlt => (happlied index).mpr hlt⟩
  change (ofFiles left files).value.declarations = (ofFiles rules files).value.declarations
  rw [declarations_ofFiles, declarations_ofFiles]
  apply List.filter_congr
  intro d hd
  obtain ⟨file, hfile, hmem⟩ := List.mem_flatMap.mp hd
  apply keeps_withoutStale _ hmem
  intro index hstops
  exact mem_applied_ofFiles.mpr ⟨file, hfile, hstops⟩

end Inventory

end Unreferenced
