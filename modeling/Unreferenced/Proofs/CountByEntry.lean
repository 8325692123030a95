import Mathlib.Data.List.Dedup
import Unreferenced.Proofs.ReferenceCount

/-! The totals of a project, entry by entry. A list may hold a declaration several times, and with other
modifiers each time. All its entries share one total, and each adds to it what its own modifiers let it
reach: the identifiers of the code of source files, and what the attributes of interface files name. A
file that could not be read adds nothing. -/

namespace Unreferenced.Reference

/-! ### What one entry adds -/

/-- The files that could be read, each with its path and its text. -/
def readable (files : List TextFile) : List (String × List Char) :=
  files.filterMap fun file => file.text.map fun text => (file.path, text.toList)

theorem sum_map_readable {amount : TextFile → Nat} {value : String × List Char → Nat}
    (hnone : ∀ file, file.text = none → amount file = 0)
    (hsome : ∀ file text, file.text = some text → amount file = value (file.path, text.toList))
    (files : List TextFile) : (files.map amount).sum = ((readable files).map value).sum := by
  induction files with
  | nil => rfl
  | cons file files ih =>
      rw [readable] at ih ⊢
      rw [List.map_cons, List.sum_cons, List.filterMap_cons, ih]
      cases h : file.text with
      | none => simp [hnone file h]
      | some text => simp [hsome file text h]

/-- How often a name stands in the code of source files, as far as a declaration reaches. -/
def inCode (sources : List TextFile) (d : Declaration) : Nat :=
  ((readable sources).map fun file =>
    if !d.modifiers.isRestricted || d.file == file.1 then
      (Source.identifiers (Source.codeOf file.2)).count d.name
    else 0).sum

/-- How often interface files name something by an attribute. -/
def Attribute.mentions (kind : Attribute) (interfaces : List TextFile) (name : String) : Nat :=
  ((readable interfaces).map fun file => (kind.values (oneLine file.2)).count name.toList).sum

/-- What an entry adds to the total of its declaration. -/
def entryCount (sources interfaces : List TextFile) (d : Declaration) : Nat :=
  inCode sources d +
    (if d.modifiers.isRestricted then 0 else Attribute.classes.mentions interfaces d.name) +
    if !d.modifiers.isRestricted || d.modifiers.isInterfaceLinked then
      Attribute.selectors.mentions interfaces d.name +
        Attribute.properties.mentions interfaces d.name
    else 0

theorem sum_inSourceFile (sources : List TextFile) (d : Declaration) :
    (sources.map (inSourceFile d)).sum = inCode sources d := by
  rw [inCode]
  apply sum_map_readable
  · intro file h
    rw [inSourceFile, identifiersIn_of_none h, List.count_nil, ite_self]
  · intro file text h
    rw [inSourceFile, reaches, identifiersIn, TextFile.characters, h, Option.getD_some]

theorem sum_inInterfaceFile (interfaces : List TextFile) (d : Declaration) :
    (interfaces.map (inInterfaceFile d)).sum =
      (if d.modifiers.isRestricted then 0 else Attribute.classes.mentions interfaces d.name) +
        if !d.modifiers.isRestricted || d.modifiers.isInterfaceLinked then
          Attribute.selectors.mentions interfaces d.name +
            Attribute.properties.mentions interfaces d.name
        else 0 := by
  have hreadable : (interfaces.map (inInterfaceFile d)).sum =
      ((readable interfaces).map fun file => (Mentions.ofText file.2).count d).sum := by
    apply sum_map_readable
    · intro file h
      rw [inInterfaceFile, h]
    · intro file text h
      rw [inInterfaceFile, h]
  rw [hreadable]
  -- What counts depends on the modifiers alone, so it is the same for all files.
  unfold Mentions.count Mentions.ofText Attribute.mentions
  cases d.modifiers.isRestricted <;> cases d.modifiers.isInterfaceLinked <;>
    simp [List.sum_map_add]

theorem references_eq_entryCount (sources interfaces : List TextFile) (d : Declaration) :
    references sources interfaces d = entryCount sources interfaces d := by
  rw [references, sum_inSourceFile, sum_inInterfaceFile, entryCount, Nat.add_assoc]

/-! ### Which declarations have a total -/

theorem mem_foldl_insert {κ α : Type} [BEq κ] [Hashable κ] [LawfulBEq κ] [LawfulHashable κ]
    (key : α → κ) (value : Std.HashMap κ Nat → α → Nat) (items : List α) (map : Std.HashMap κ Nat)
    (k : κ) :
    k ∈ items.foldl (fun map a => map.insert (key a) (value map a)) map ↔
      k ∈ map ∨ k ∈ items.map key := by
  induction items generalizing map with
  | nil => simp
  | cons a items ih =>
      rw [List.foldl_cons, ih, Std.HashMap.mem_insert, beq_iff_eq, List.map_cons, List.mem_cons,
        eq_comm, or_assoc]
      exact or_left_comm

namespace Totals

/-- The totals are those of the declarations of a list. -/
def Covers (totals : Totals) (declarations : List Declaration) : Prop :=
  ∀ id, id ∈ totals.counts ↔ id ∈ declarations.map Declaration.identity

variable {totals : Totals} {declarations : List Declaration}

theorem covers_start : (start declarations).Covers declarations := by
  intro id
  rw [start, mem_foldl_insert Declaration.identity fun _ _ => 0]
  simp

theorem Covers.addAll (h : totals.Covers declarations) (amount : Declaration → Nat) :
    (totals.addAll declarations amount).Covers declarations := by
  intro id
  rw [counts_addAll, mem_foldl_insert Declaration.identity fun counts d =>
    counts.getD d.identity 0 + amount d, h id, or_self]

theorem Covers.addSource (h : totals.Covers declarations) (file : TextFile) :
    (totals.addSource declarations file).Covers declarations := by
  rw [Totals.addSource]
  cases file.text with
  | none => exact h
  | some text => exact h.addAll _

theorem Covers.addInterface (h : totals.Covers declarations) (file : TextFile) :
    (totals.addInterface declarations file).Covers declarations := by
  rw [Totals.addInterface]
  cases file.text with
  | none => exact h
  | some text => exact h.addAll _

/-- Counting gives every declaration of the list a total, and no other. -/
theorem covers_ofFiles (declarations : List Declaration) (sources interfaces : List TextFile) :
    (ofFiles declarations sources interfaces).Covers declarations := by
  rw [ofFiles]
  apply List.foldlRecOn (motive := fun totals : Totals => totals.Covers declarations)
  · apply List.foldlRecOn (motive := fun totals : Totals => totals.Covers declarations)
    · exact covers_start
    · intro totals h file _
      exact h.addSource file
  · intro totals h file _
    exact h.addInterface file

end Totals

/-- The totals are those of the distinct declarations of the list. Each total is the sum of what the
entries for its declaration add, and the unused declarations are the entries that override nothing and
have a total of one at most. -/
theorem totals_by_entry (declarations : List Declaration) (sources interfaces : List TextFile) :
    let totals := Totals.ofFiles declarations sources interfaces
    totals.counts.keys.Perm (declarations.map Declaration.identity).dedup ∧
      (∀ d, totals.count d = ((declarations.filter fun e => e.identity = d.identity).map
        (entryCount sources interfaces)).sum) ∧
      (unused declarations sources interfaces).value = declarations.filter fun d =>
        !d.modifiers.isOverride && totals.count d ≤ 1 := by
  intro totals
  refine ⟨?_, fun d => ?_, ?_⟩
  · apply (List.perm_ext_iff_of_nodup Std.HashMap.nodup_keys (List.nodup_dedup _)).mpr
    intro id
    rw [Std.HashMap.mem_keys, List.mem_dedup]
    exact Totals.covers_ofFiles declarations sources interfaces id
  · have hentries : declarations.filter d.same =
        declarations.filter fun e => e.identity = d.identity := by
      apply List.filter_congr
      intro e _
      rw [Bool.eq_iff_iff, same_eq_true_iff, decide_eq_true_eq, eq_comm]
    rw [Totals.count_ofFiles, hentries]
    congr 1
    exact List.map_congr_left fun e _ => references_eq_entryCount sources interfaces e
  · apply List.filter_congr
    intro d _
    rw [isUnused, unusedLimit, Bool.and_comm]

end Unreferenced.Reference
