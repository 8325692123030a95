import Mathlib.Algebra.Order.BigOperators.Group.List
import Mathlib.Algebra.Order.Group.Nat
import Mathlib.Data.List.Count
import Unreferenced.Proofs.DeclarationName
import Unreferenced.Proofs.RulesAsFilter
import Unreferenced.Proofs.SettledCode

/-! The occurrence of a declaration in its own file. Declarations are looked for in a text that still has
its literals and in which block comments keep their line feeds, references in one without literals and
without block comments. Where a text has no literals and no block comment that spans lines, the two views
have the same identifiers, and every declaration of a name is one of its occurrences. Elsewhere the code
may lack the identifier that declares a name, and then a declaration can go without any reference. -/

namespace Unreferenced.Source

namespace Delimiter

/-- A text without opening mark has no spans. -/
theorem segments_of_not_infix (d : Delimiter) {text : List Char}
    (h : ¬ [d.outer, d.inner] <:+: text) : d.segments text = text.map .char := by
  fun_induction Delimiter.segments d text with
  | case1 => rfl
  | case2 c => rfl
  | case3 a b rest hopen inside after hcut ih =>
      rw [hopen.1, hopen.2] at h
      exact absurd (List.prefix_append [d.outer, d.inner] rest).isInfix h
  | case4 a b rest hopen hcut ih =>
      rw [hopen.1, hopen.2] at h
      exact absurd (List.prefix_append [d.outer, d.inner] rest).isInfix h
  | case5 a b rest hopen ih =>
      rw [ih fun htail => h (htail.trans (List.suffix_cons a _).isInfix)]
      rfl

theorem replaceSpans_of_not_infix (d : Delimiter) (replacement : List Char → List Char)
    {text : List Char} (h : ¬ [d.outer, d.inner] <:+: text) :
    d.replaceSpans replacement text = text := by
  rw [replaceSpans, d.segments_of_not_infix h, List.flatMap_map]
  exact List.flatMap_singleton' text

end Delimiter

/-- A text in which no literal is recognised and no block comment spans lines. -/
def Undisturbed (text : List Char) : Prop :=
  ¬ ['#', '/'] <:+: text ∧ ¬ ['\\', '\\'] <:+: text ∧ '"' ∉ text ∧
    ∀ inside, .span inside ∈ blockComment.segments text → '\n' ∉ inside

/-- Block comments that span no lines are dropped in both views. -/
theorem blankBlockComments_of_undisturbed {text : List Char} (h : Undisturbed text) :
    blankBlockComments text = withoutBlockComments text := by
  obtain ⟨-, -, -, hlines⟩ := h
  rw [blankBlockComments, withoutBlockComments, Delimiter.dropSpans, Delimiter.replaceSpans,
    Delimiter.replaceSpans]
  refine List.flatMap_congr fun segment hsegment => ?_
  cases segment with
  | char c => rfl
  | span inside =>
      have hcount : inside.count '\n' = 0 := List.count_eq_zero.mpr (hlines inside hsegment)
      simp only [hcount, List.replicate_zero]

/-- The code of an undisturbed text is what declarations are looked for in. -/
theorem codeOf_of_undisturbed {text : List Char} (h : Undisturbed text) :
    codeOf text = withoutLineComments (blankBlockComments text) := by
  rw [blankBlockComments_of_undisturbed h]
  obtain ⟨hregex, hescape, hquote, -⟩ := h
  have hescapes : withoutEscapes text = text :=
    shrinks_withoutEscapes.eq_self_iff.mpr ⟨hescape, fun h => hquote (h.subset (by simp))⟩
  rw [codeOf, Delimiter.dropSpans, Delimiter.replaceSpans_of_not_infix _ _ hregex, hescapes,
    withoutLiterals_of_not_mem hquote]

/-- A text without the characters that literals are made of and without block comments. -/
def LiteralFree (text : List Char) : Prop :=
  '"' ∉ text ∧ '\\' ∉ text ∧ '#' ∉ text ∧ ¬ ['/', '*'] <:+: text

instance (text : List Char) : Decidable (LiteralFree text) := inferInstanceAs (Decidable (_ ∧ _))

theorem LiteralFree.undisturbed {text : List Char} (h : LiteralFree text) : Undisturbed text := by
  obtain ⟨hquote, hbackslash, hsign, hcomment⟩ := h
  refine ⟨fun hregex => hsign (hregex.subset (by simp)),
    fun hescape => hbackslash (hescape.subset (by simp)), hquote, fun inside hinside => ?_⟩
  rw [Delimiter.segments_of_not_infix _ hcomment] at hinside
  simp at hinside

theorem LiteralFree.blankBlockComments_eq {text : List Char} (h : LiteralFree text) :
    blankBlockComments text = text :=
  Delimiter.replaceSpans_of_not_infix _ _ h.2.2.2

/-- How often a word stands in a text as a maximal run of word characters, each line cut at its first
two slashes. -/
def occurrencesOnLines (word : String) (text : List Char) : Nat :=
  ((text.splitOn '\n').map fun line =>
    (Text.runs Text.isWord (beforeSlashes line)).count word.toList).sum

theorem count_withoutLineComments (word : String) (text : List Char) :
    (identifiers (withoutLineComments text)).count word = occurrencesOnLines word text := by
  rw [identifiers_withoutLineComments, List.count_flatMap, occurrencesOnLines]
  congr 1
  refine List.map_congr_left fun line hline => ?_
  rw [Function.comp_apply, count_identifiers,
    withoutLineComments_eq_beforeSlashes (not_mem_of_mem_splitOn hline)]

end Unreferenced.Source

namespace Unreferenced.Reference

open Source

variable {ε : Type} [Ignore.Searchable ε]

/-- An undisturbed file declares a name no more often than it holds it. -/
theorem countP_name_le_identifiersIn {file : TextFile} (h : Undisturbed file.characters)
    (name : String) :
    (Inventory.declarationsIn file).countP (·.name == name) ≤ (identifiersIn file).count name := by
  rw [identifiersIn, codeOf_of_undisturbed h]
  exact Inventory.countP_name_le file.path file.characters name

/-- The files of a project in which a declaration can be referred to. -/
def reached (d : Declaration) (sources : List TextFile) : List TextFile :=
  sources.filter (reaches d)

/-- A declaration can be referred to in its own file. -/
theorem exists_reached_of_mem_extracted {rules : Ignore.RuleSet ε} {sources : List TextFile}
    {d : Declaration} (hd : d ∈ extracted rules sources) :
    ∃ file ∈ reached d sources, d.file = file.path ∧ d ∈ Inventory.declarationsIn file := by
  obtain ⟨file, hfile, hmem⟩ := exists_file_of_mem_extracted hd
  have hown : d.file = file.path := Inventory.file_of_mem_declarationsIn hmem
  refine ⟨file, List.mem_filter.mpr ⟨hfile, ?_⟩, hown, hmem⟩
  rw [reaches, hown, beq_self_eq_true, Bool.or_true]

/-- The number of references in source files is the number of identifiers in the files that a
declaration can be referred to in. -/
theorem count_extracted (rules : Ignore.RuleSet ε) {sources : List TextFile}
    (hpaths : (sources.map TextFile.path).Nodup) {d : Declaration} (hd : d ∈ extracted rules sources) :
    (Totals.ofFiles (extracted rules sources) sources []).count d =
      ((reached d sources).map fun file => (identifiersIn file).count d.name).sum := by
  rw [count_ofFiles_of_nodup (nodup_identity_extracted rules hpaths) hd, references,
    List.map_nil, List.sum_nil, Nat.add_zero, sum_map_inSourceFile]
  rfl

/-- A declaration has a reference exactly if its name is an identifier of a file in which it can be
referred to. -/
theorem count_extracted_pos_iff (rules : Ignore.RuleSet ε) {sources : List TextFile}
    (hpaths : (sources.map TextFile.path).Nodup) {d : Declaration} (hd : d ∈ extracted rules sources) :
    0 < (Totals.ofFiles (extracted rules sources) sources []).count d ↔
      ∃ file ∈ sources, reaches d file = true ∧ d.name ∈ identifiersIn file := by
  rw [count_extracted rules hpaths hd]
  constructor
  · intro hpos
    obtain ⟨amount, hamount, hpos⟩ := List.sum_pos_iff_exists_pos_nat.mp hpos
    obtain ⟨file, hfile, rfl⟩ := List.mem_map.mp hamount
    obtain ⟨hsource, hreaches⟩ := List.mem_filter.mp hfile
    exact ⟨file, hsource, hreaches, List.count_pos_iff.mp hpos⟩
  · rintro ⟨file, hsource, hreaches, hname⟩
    apply List.sum_pos_iff_exists_pos_nat.mpr
    exact ⟨_, List.mem_map_of_mem (List.mem_filter.mpr ⟨hsource, hreaches⟩),
      List.count_pos_iff.mpr hname⟩

/-- The number of declarations of one name, file by file. -/
theorem countP_name_extracted (sources : List TextFile) (name : String) :
    (extracted (.empty : Ignore.RuleSet ε) sources).countP (·.name == name) =
      (sources.map fun file => (Inventory.declarationsIn file).countP (·.name == name)).sum := by
  rw [extracted, Inventory.declarations_ofFiles_empty, List.countP_flatMap]
  rfl

/-! ### Files without literals -/

theorem count_identifiersIn_of_literalFree {file : TextFile} (h : LiteralFree file.characters)
    (word : String) : (identifiersIn file).count word = occurrencesOnLines word file.characters := by
  rw [identifiersIn, codeOf_of_undisturbed h.undisturbed, h.blankBlockComments_eq,
    count_withoutLineComments]

/-- Without literals and block comments, a declaration is referred to as often as its name stands on
the lines of the files that it can be referred to in, at least as often as those files declare its name,
and so at least once. It is reported if that is all, unless it overrides another. -/
theorem literalFree_references {sources : List TextFile}
    (hpaths : (sources.map TextFile.path).Nodup)
    (hfree : ∀ file ∈ sources, LiteralFree file.characters) {d : Declaration}
    (hd : d ∈ extracted (.empty : Ignore.RuleSet ε) sources) :
    let total := (Totals.ofFiles (extracted (.empty : Ignore.RuleSet ε) sources) sources []).count d
    let named := (extracted (.empty : Ignore.RuleSet ε) (reached d sources)).countP
      (·.name == d.name)
    total = ((reached d sources).map fun file =>
        occurrencesOnLines d.name file.characters).sum ∧
      1 ≤ named ∧ named ≤ total ∧
      (d ∈ reported (.empty : Ignore.RuleSet ε) sources [] ↔
        d.modifiers.isOverride = false ∧ total = 1) := by
  intro total named
  have hreached : ∀ file ∈ reached d sources, LiteralFree file.characters :=
    fun file hfile => hfree file (List.mem_filter.mp hfile).1
  have htotal : total = ((reached d sources).map fun file =>
      (identifiersIn file).count d.name).sum := count_extracted .empty hpaths hd
  have hlines : total = ((reached d sources).map fun file =>
      occurrencesOnLines d.name file.characters).sum := by
    rw [htotal]
    congr 1
    exact List.map_congr_left fun file hfile =>
      count_identifiersIn_of_literalFree (hreached file hfile) d.name
  have hpos : 1 ≤ named := by
    obtain ⟨file, hfile, -, hmem⟩ := exists_reached_of_mem_extracted hd
    apply List.countP_pos_iff.mpr
    refine ⟨d, ?_, beq_self_eq_true _⟩
    rw [extracted, Inventory.declarations_ofFiles_empty]
    exact List.mem_flatMap.mpr ⟨file, hfile, hmem⟩
  have hle : named ≤ total := by
    rw [htotal]
    refine (countP_name_extracted (reached d sources) d.name).trans_le ?_
    exact List.sum_le_sum fun file hfile =>
      countP_name_le_identifiersIn (hreached file hfile).undisturbed d.name
  refine ⟨hlines, hpos, hle, ?_⟩
  rw [mem_reported]
  constructor
  · rintro ⟨-, hlimit, hoverride⟩
    exact ⟨hoverride, Nat.le_antisymm hlimit (hpos.trans hle)⟩
  · rintro ⟨hoverride, hone⟩
    exact ⟨hd, hone.le, hoverride⟩

/-- A project with a function that nothing calls. -/
def shapeProject : List TextFile :=
  [⟨"Shape.swift", some "class Shape\n    private func area() // area\n    override func draw()\n"⟩,
    ⟨"Main.swift", some "let shape = Shape()\nshape.draw()\n"⟩]

def shapeArea : Declaration :=
  ⟨"Shape.swift", 2, .function, "area", ⟨["private"]⟩, "    private func area() // area"⟩

theorem shapeProject_literalFree : ∀ file ∈ shapeProject, LiteralFree file.characters := by
  decide +kernel

theorem shapeArea_mem_extracted : shapeArea ∈ extracted (.empty : Ignore.RuleSet) shapeProject := by
  decide +kernel

theorem references_shapeArea :
    (shapeProject.map TextFile.path).Nodup ∧
      (∀ file ∈ shapeProject, LiteralFree file.characters) ∧
      shapeArea ∈ extracted (.empty : Ignore.RuleSet) shapeProject ∧
      (Totals.ofFiles (extracted (.empty : Ignore.RuleSet) shapeProject) shapeProject []).count
        shapeArea = 1 ∧
      shapeArea ∈ reported (.empty : Ignore.RuleSet) shapeProject [] := by
  have hpaths : (shapeProject.map TextFile.path).Nodup := by decide
  obtain ⟨htotal, -, -, hreported⟩ :=
    literalFree_references hpaths shapeProject_literalFree shapeArea_mem_extracted
  have hone := htotal.trans (show _ = 1 by decide +kernel)
  exact ⟨hpaths, shapeProject_literalFree, shapeArea_mem_extracted, hone,
    hreported.mpr ⟨by decide, hone⟩⟩

/-! ### Any files -/

/-- A declaration has a reference exactly if its name is an identifier of a file in which it can be
referred to. It has one if no literal and no comment that spans lines is in its own file. -/
theorem one_le_count_iff (rules : Ignore.RuleSet ε) {sources : List TextFile}
    (hpaths : (sources.map TextFile.path).Nodup) {d : Declaration}
    (hd : d ∈ extracted rules sources) :
    (1 ≤ (Totals.ofFiles (extracted rules sources) sources []).count d ↔
        ∃ file ∈ sources, reaches d file = true ∧ d.name ∈ identifiersIn file) ∧
      ((∀ file ∈ sources, file.path = d.file → Undisturbed file.characters) →
        1 ≤ (Totals.ofFiles (extracted rules sources) sources []).count d) := by
  have hiff := count_extracted_pos_iff rules hpaths hd
  refine ⟨hiff, fun hundisturbed => hiff.mpr ?_⟩
  obtain ⟨file, hfile, hown, hmem⟩ := exists_reached_of_mem_extracted hd
  obtain ⟨hsource, hreaches⟩ := List.mem_filter.mp hfile
  refine ⟨file, hsource, hreaches, List.count_pos_iff.mp ?_⟩
  calc 0 < (Inventory.declarationsIn file).countP (·.name == d.name) :=
        List.countP_pos_iff.mpr ⟨d, hmem, beq_self_eq_true _⟩
    _ ≤ (identifiersIn file).count d.name :=
        countP_name_le_identifiersIn (hundisturbed file hsource hown.symm) d.name

theorem one_le_count_shapeArea :
    (∀ file ∈ shapeProject, file.path = shapeArea.file → Undisturbed file.characters) ∧
      1 ≤ (Totals.ofFiles (extracted (.empty : Ignore.RuleSet) shapeProject) shapeProject []).count
        shapeArea ∧
      ∃ file ∈ shapeProject, reaches shapeArea file = true ∧ shapeArea.name ∈ identifiersIn file := by
  have hundisturbed : ∀ file ∈ shapeProject, file.path = shapeArea.file →
      Undisturbed file.characters := fun file hfile _ =>
    (shapeProject_literalFree file hfile).undisturbed
  have hpaths : (shapeProject.map TextFile.path).Nodup := by decide
  obtain ⟨hiff, hcount⟩ :=
    one_le_count_iff (.empty : Ignore.RuleSet) hpaths shapeArea_mem_extracted
  exact ⟨hundisturbed, hcount hundisturbed, hiff.mp (hcount hundisturbed)⟩

/-- A file in which two comments hold a quote each. What stands between the quotes is taken for the text
of a literal, after the declaration there has been found. -/
def quotedComments : TextFile := ⟨"a.swift", some "/* 5\" */ func foo() \x7b\x7d /* 6\" */\n"⟩

theorem count_quotedComments :
    ([quotedComments].map TextFile.path).Nodup ∧
      ∃ d ∈ extracted (.empty : Ignore.RuleSet) [quotedComments], d.name = "foo" ∧
        (Totals.ofFiles (extracted (.empty : Ignore.RuleSet) [quotedComments])
          [quotedComments] []).count d = 0 := by
  have hpaths : ([quotedComments].map TextFile.path).Nodup := by decide
  have hd : ⟨"a.swift", 1, .function, "foo", ⟨[]⟩, " func foo() \x7b\x7d "⟩ ∈
      extracted (.empty : Ignore.RuleSet) [quotedComments] := by decide +kernel
  refine ⟨hpaths, _, hd, rfl, ?_⟩
  rw [count_extracted _ hpaths hd]
  decide +kernel

end Unreferenced.Reference
