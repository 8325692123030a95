import Unreferenced.Proofs.Extraction

/-! Line numbers without block comments. A block comment leaves its line feeds, so blanking the comments
of a text takes characters out of its lines but neither joins lines nor divides them. A declaration that
is found on a line of what is left stands on the line of the text with the same number. -/

namespace Unreferenced.Source

/-! ### Where the spans of a text lie -/

namespace Segment

def source (d : Delimiter) : Segment → List Char
  | .char c => [c]
  | .span inside => d.outer :: d.inner :: (inside ++ [d.inner, d.outer])

/-- What is left of a segment if a span leaves its line feeds. -/
def blank : Segment → List Char
  | .char c => [c]
  | .span inside => List.replicate (inside.count '\n') '\n'

end Segment

namespace Delimiter

/-- Where spans start and stop, if the first of the segments starts at a place. -/
def spansFrom (d : Delimiter) : Nat → List Segment → List (Nat × Nat)
  | _, [] => []
  | start, .char _ :: rest => d.spansFrom (start + 1) rest
  | start, .span inside :: rest =>
    let stop := start + (Segment.source d (.span inside)).length
    (start, stop) :: d.spansFrom stop rest

/-- Where the spans of a text start and stop. -/
def spans (d : Delimiter) (text : List Char) : List (Nat × Nat) := d.spansFrom 0 (d.segments text)

theorem flatMap_source_segments (d : Delimiter) (text : List Char) :
    (d.segments text).flatMap (Segment.source d) = text := by
  fun_induction Delimiter.segments d text with
  | case1 => rfl
  | case2 c => rfl
  | case3 a b rest hopen inside after hcut ih =>
      obtain ⟨rfl, rfl⟩ := hopen
      rw [List.flatMap_cons, ih, Segment.source, Text.eq_of_cutAt hcut]
      simp
  | case4 a b rest hopen hcut ih => rw [List.flatMap_cons, ih]; rfl
  | case5 a b rest hopen ih => rw [List.flatMap_cons, ih]; rfl

theorem le_of_mem_spansFrom {d : Delimiter} {start : Nat} {segments : List Segment}
    {span : Nat × Nat} (h : span ∈ d.spansFrom start segments) : start ≤ span.1 := by
  fun_induction Delimiter.spansFrom d start segments with
  | case1 => cases h
  | case2 start c rest ih => exact Nat.le_of_succ_le (ih h)
  | case3 start inside rest stop ih =>
      rcases List.mem_cons.mp h with rfl | h
      · exact Nat.le_refl start
      · exact Nat.le_trans (Nat.le_add_right start _) (ih h)

end Delimiter

def Covers (spans : List (Nat × Nat)) (place : Nat) : Prop :=
  ∃ span ∈ spans, span.1 ≤ place ∧ place < span.2

instance (spans : List (Nat × Nat)) (place : Nat) : Decidable (Covers spans place) :=
  inferInstanceAs (Decidable (∃ span ∈ spans, _))

/-! ### What is left outside spans -/

/-- The line feeds of a text that starts at a place, and its characters outside some spans. -/
def outside (spans : List (Nat × Nat)) : Nat → List Char → List Char
  | _, [] => []
  | place, c :: rest =>
    if c = '\n' ∨ ¬ Covers spans place then c :: outside spans (place + 1) rest
    else outside spans (place + 1) rest

section Outside

variable {spans : List (Nat × Nat)}

theorem outside_append (start : Nat) (front back : List Char) :
    outside spans start (front ++ back) =
      outside spans start front ++ outside spans (start + front.length) back := by
  induction front generalizing start with
  | nil => rfl
  | cons c front ih =>
      rw [List.cons_append, outside, outside, ih, List.length_cons, Nat.add_assoc, Nat.add_comm 1]
      split <;> rfl

theorem outside_sublist (start : Nat) (text : List Char) :
    (outside spans start text).Sublist text := by
  induction text generalizing start with
  | nil => exact List.Sublist.refl _
  | cons c text ih =>
      rw [outside]
      split
      · exact (ih _).cons_cons c
      · exact (ih _).cons c

theorem outside_congr {others : List (Nat × Nat)} {start : Nat} {text : List Char}
    (h : ∀ place, start ≤ place → (Covers spans place ↔ Covers others place)) :
    outside spans start text = outside others start text := by
  induction text generalizing start with
  | nil => rfl
  | cons c text ih =>
      have htail := ih fun place hle => h place (Nat.le_of_succ_le hle)
      simp only [outside, h start (Nat.le_refl _), htail]

theorem outside_of_not_covers {start : Nat} {text : List Char}
    (h : ∀ place, start ≤ place → place < start + text.length → ¬ Covers spans place) :
    outside spans start text = text := by
  induction text generalizing start with
  | nil => rfl
  | cons c text ih =>
      rw [List.length_cons] at h
      rw [outside, if_pos (.inr (h start (Nat.le_refl _) (by omega))),
        ih fun place hle hlt => h place (by omega) (by omega)]

theorem outside_of_covers {start : Nat} {text : List Char}
    (h : ∀ place, start ≤ place → place < start + text.length → Covers spans place) :
    outside spans start text = List.replicate (text.count '\n') '\n' := by
  rw [← List.filter_beq]
  induction text generalizing start with
  | nil => rfl
  | cons c text ih =>
      rw [List.length_cons] at h
      have hcovers : Covers spans start := h start (Nat.le_refl _) (by omega)
      rw [outside, List.filter_cons, ih fun place hle hlt => h place (by omega) (by omega)]
      simp [hcovers]

end Outside

theorem flatMap_blank {d : Delimiter} (houter : d.outer ≠ '\n') (hinner : d.inner ≠ '\n')
    (start : Nat) (segments : List Segment) :
    segments.flatMap Segment.blank =
      outside (d.spansFrom start segments) start (segments.flatMap (Segment.source d)) := by
  fun_induction Delimiter.spansFrom d start segments with
  | case1 => rfl
  | case2 start c rest ih =>
      have hplace : ¬ Covers (d.spansFrom (start + 1) rest) start := by
        rintro ⟨span, hspan, hle, -⟩
        have := Delimiter.le_of_mem_spansFrom hspan
        omega
      rw [List.flatMap_cons, List.flatMap_cons, Segment.source, Segment.blank, List.singleton_append,
        List.singleton_append, outside, if_pos (.inr hplace), ih]
  | case3 start inside rest stop ih =>
      have hspan : outside ((start, stop) :: d.spansFrom stop rest) start
          (Segment.source d (.span inside)) = List.replicate (inside.count '\n') '\n' := by
        rw [outside_of_covers fun place hle hlt => ⟨_, List.mem_cons_self, hle, hlt⟩]
        simp [Segment.source, houter, hinner]
      have hrest : outside ((start, stop) :: d.spansFrom stop rest) stop
          (rest.flatMap (Segment.source d)) = rest.flatMap Segment.blank := by
        rw [ih]
        apply outside_congr
        intro place hle
        have hbehind : ¬ place < stop := Nat.not_lt.mpr hle
        simp [Covers, hbehind]
      rw [List.flatMap_cons, List.flatMap_cons, outside_append, hspan, hrest, Segment.blank]

/-- Blanking takes out what lies in block comments, line feeds excepted. -/
theorem blankBlockComments_eq_outside (text : List Char) :
    blankBlockComments text = outside (blockComment.spans text) 0 text := by
  have h := flatMap_blank (d := blockComment) (by decide) (by decide) 0 (blockComment.segments text)
  rwa [Delimiter.flatMap_source_segments] at h

/-! ### Lines -/

/-- Lines with the places where they start, if the first of them starts at a place. One line feed stands
between two lines. -/
def placedFrom : Nat → List (List Char) → List (Nat × List Char)
  | _, [] => []
  | start, line :: lines => (start, line) :: placedFrom (start + line.length + 1) lines

def placedLines (text : List Char) : List (Nat × List Char) := placedFrom 0 (text.splitOn '\n')

theorem map_snd_placedFrom (start : Nat) (lines : List (List Char)) :
    (placedFrom start lines).map Prod.snd = lines := by
  induction lines generalizing start with
  | nil => rfl
  | cons line lines ih => rw [placedFrom, List.map_cons, ih]

theorem splitOn_outside (spans : List (Nat × Nat)) (start : Nat) (text : List Char) :
    (outside spans start text).splitOn '\n' =
      (placedFrom start (text.splitOn '\n')).map fun line => outside spans line.1 line.2 := by
  induction text generalizing start with
  | nil => rfl
  | cons c text ih =>
      specialize ih (start + 1)
      obtain ⟨line, lines, hlines⟩ := List.exists_cons_of_ne_nil (List.splitOn_ne_nil '\n' text)
      rw [List.splitOn_cons_eq_if_modifyHead, outside]
      rw [hlines] at ih ⊢
      by_cases hc : c = '\n'
      · rw [if_pos (.inl hc), hc, List.splitOn_cons_eq_if_modifyHead, if_pos (beq_self_eq_true _),
          if_pos (beq_self_eq_true _), ih, placedFrom, List.map_cons]
        rfl
      · have hc' : ¬ (c == '\n') = true := by simpa using hc
        have hnext : start + (c :: line).length + 1 = start + 1 + line.length + 1 := by
          rw [List.length_cons]
          omega
        rw [placedFrom, List.map_cons] at ih
        rw [if_neg hc', List.modifyHead_cons, placedFrom, List.map_cons, hnext, outside]
        split
        · rw [List.splitOn_cons_eq_if_modifyHead, if_neg hc', ih, List.modifyHead_cons]
        · exact ih

/-- The lines that are left are what the lines have outside block comments. -/
theorem splitOn_blankBlockComments (text : List Char) :
    (blankBlockComments text).splitOn '\n' =
      (placedLines text).map fun line => outside (blockComment.spans text) line.1 line.2 := by
  rw [blankBlockComments_eq_outside, splitOn_outside, placedLines]

end Unreferenced.Source

namespace Unreferenced

/-- A declaration of a text stands on a line of what block comments leave of it. -/
theorem exists_line_of_mem_declarationsOf {path : String} {text : List Char} {d : Declaration}
    (h : d ∈ Inventory.declarationsOf path text) :
    ∃ index : Nat, d.line = index + 1 ∧
      ((Source.blankBlockComments text).splitOn '\n')[index]? = some d.rawLine.toList := by
  obtain ⟨⟨line, index⟩, hmem, hd⟩ := List.mem_filterMap.mp h
  obtain ⟨_, _, hfields⟩ := Option.map_eq_some_iff.mp hd
  refine ⟨index, (Inventory.onLine?_fields hd).2, ?_⟩
  rw [← hfields, String.toList_ofList]
  exact List.mk_mem_zipIdx_iff_getElem?.mp hmem

/-- Blanking block comments keeps the number of lines. With the same number, what is left of a line is a
part of it, and the whole of it if no block comment has a character on it. So the declarations of a file
stand on lines of it with their numbers, later ones on later lines. -/
theorem lines_keep_numbers {ε : Type} [Ignore.Searchable ε] (text : List Char)
    (rules : Ignore.RuleSet ε) (file : TextFile) :
    let lines := text.splitOn '\n'
    let left := (Source.blankBlockComments text).splitOn '\n'
    left.length = lines.length ∧ (Source.placedLines text).map Prod.snd = lines ∧
      (∀ (i start : Nat) (line : List Char), (Source.placedLines text)[i]? = some (start, line) →
        ∃ kept, left[i]? = some kept ∧ kept.Sublist line ∧
          ((∀ place, start ≤ place → place < start + line.length →
            ¬ Source.Covers (Source.blockComment.spans text) place) → kept = line)) ∧
      let original := file.characters.splitOn '\n'
      let found := (Inventory.ofFile rules file).value.declarations
      (found.Pairwise fun d e => d.line < e.line) ∧
        ∀ d ∈ found, 1 ≤ d.line ∧ d.line ≤ original.length ∧
          ∃ line, original[(d.line - 1).toNat]? = some line ∧ d.rawLine.toList.Sublist line := by
  intro lines left
  have hplaced : (Source.placedLines text).map Prod.snd = lines := Source.map_snd_placedFrom 0 _
  have hleft : left = (Source.placedLines text).map fun line =>
      Source.outside (Source.blockComment.spans text) line.1 line.2 :=
    Source.splitOn_blankBlockComments text
  refine ⟨?_, hplaced, ?_, ?_⟩
  · rw [← hplaced, hleft, List.length_map, List.length_map]
  · intro i start line hline
    refine ⟨Source.outside (Source.blockComment.spans text) start line, ?_,
      Source.outside_sublist start line, Source.outside_of_not_covers⟩
    rw [hleft, List.getElem?_map, hline]
    rfl
  · intro original found
    have hfound : found = (Inventory.declarationsIn file).filter rules.keeps :=
      Inventory.declarations_ofFile rules file
    rw [hfound]
    refine ⟨(Inventory.pairwise_line_declarationsOf file.path file.characters).filter _, ?_⟩
    intro d hd
    obtain ⟨index, hnumber, hleft⟩ := exists_line_of_mem_declarationsOf (List.mem_of_mem_filter hd)
    rw [Source.splitOn_blankBlockComments, List.getElem?_map, Option.map_eq_some_iff] at hleft
    obtain ⟨⟨start, line⟩, hline, hkept⟩ := hleft
    have horiginal : original[index]? = some line := by
      rw [← Source.map_snd_placedFrom 0 original, List.getElem?_map]
      exact congrArg (Option.map Prod.snd) hline
    have hlt := List.getElem?_eq_some_iff.mp horiginal |>.1
    have hindex : (d.line - 1).toNat = index := by omega
    refine ⟨by omega, by omega, line, by rw [hindex, horiginal], ?_⟩
    rw [← hkept]
    exact Source.outside_sublist start line

/-- A text with a comment over two lines, one inside a line, and an opening mark that nothing closes. -/
def commentedText : List Char := "/* first\n*/ var x /* y */ = 1\nlet z = \"/*\"".toList

def commentedVariable : Declaration := ⟨"a.swift", 2, .varBinding, "x", ⟨[]⟩, " var x  = 1"⟩

theorem lines_keep_numbers_commentedText :
    let file : TextFile := ⟨"a.swift", some (String.ofList commentedText)⟩
    let found := (Inventory.ofFile (.empty : Ignore.RuleSet) file).value.declarations
    (Source.placedLines commentedText)[2]? = some (30, "let z = \"/*\"".toList) ∧
      (∀ place, 30 ≤ place → place < 30 + "let z = \"/*\"".toList.length →
        ¬ Source.Covers (Source.blockComment.spans commentedText) place) ∧
      ((Source.blankBlockComments commentedText).splitOn '\n')[2]? = some "let z = \"/*\"".toList ∧
      commentedVariable ∈ found ∧
      commentedVariable.rawLine.toList.Sublist "*/ var x /* y */ = 1".toList := by
  intro file found
  have hspans : Source.blockComment.spans commentedText = [(0, 11), (18, 25)] := by cbv
  have hblank : Source.blankBlockComments commentedText =
      "\n var x  = 1\nlet z = \"/*\"".toList := by cbv
  have hlines : commentedText.splitOn '\n' =
      ["/* first".toList, "*/ var x /* y */ = 1".toList, "let z = \"/*\"".toList] := by decide
  have hcharacters : file.characters = commentedText := by
    rw [TextFile.characters, Option.getD_some, String.toList_ofList]
  have hplaced : (Source.placedLines commentedText)[2]? = some (30, "let z = \"/*\"".toList) := by
    rw [Source.placedLines, hlines]
    decide
  have houtside : ∀ place, 30 ≤ place → place < 30 + "let z = \"/*\"".toList.length →
      ¬ Source.Covers (Source.blockComment.spans commentedText) place := by
    rw [hspans]
    rintro place hle - ⟨span, hspan, -, hlt⟩
    simp only [List.mem_cons, List.not_mem_nil, or_false] at hspan
    rcases hspan with rfl | rfl <;> omega
  have hfound : commentedVariable ∈ found := by
    have hdeclares : commentedVariable ∈ Inventory.declarationsOf "a.swift" commentedText := by
      rw [Inventory.declarationsOf, hblank, List.mem_filterMap]
      exact ⟨(" var x  = 1".toList, 1), by decide, by decide⟩
    change commentedVariable ∈ (Inventory.ofFile .empty file).value.declarations
    rw [Inventory.declarations_ofFile, Inventory.declarationsIn, hcharacters, List.mem_filter]
    exact ⟨hdeclares, Ignore.RuleSet.keeps_empty _⟩
  obtain ⟨-, -, hline, hdeclarations⟩ :=
    lines_keep_numbers commentedText (.empty : Ignore.RuleSet) file
  obtain ⟨kept, hkept, -, hwhole⟩ := hline 2 30 _ hplaced
  obtain ⟨-, hall⟩ := hdeclarations
  obtain ⟨-, -, line, hsecond, hsublist⟩ := hall commentedVariable hfound
  rw [hcharacters, hlines] at hsecond
  rw [hwhole houtside] at hkept
  refine ⟨hplaced, houtside, hkept, hfound, ?_⟩
  rw [← Option.some.inj hsecond] at hsublist
  exact hsublist

end Unreferenced
