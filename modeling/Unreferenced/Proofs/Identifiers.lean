import Mathlib.Data.List.Count
import Mathlib.Data.List.TakeWhile
import Unreferenced.Source.Comment
import Unreferenced.Source.Identifier

/-! Identifiers line by line. A character that is no word character keeps the runs before it apart from
those after it, so the identifiers of a text are those of its lines, one line after the other. Line
comments end with their line, so dropping them can be done line by line as well. -/

namespace Unreferenced.Text

/-- The code points of white space. -/
def spaces : List Nat :=
  List.range' 0x9 5 ++ List.range' 0x1C 5 ++ [0x85, 0xA0, 0x1680] ++ List.range' 0x2000 11 ++
    [0x2028, 0x2029, 0x202F, 0x205F, 0x3000]

theorem toNat_mem_spaces {c : Char} (h : isSpace c = true) : c.toNat ∈ spaces := by
  simp only [isSpace, Bool.or_eq_true, decide_eq_true_eq, beq_iff_eq] at h
  simp only [spaces, List.mem_append, List.mem_range'_1, List.mem_cons, List.not_mem_nil, or_false]
  omega

theorem isWord_ofNat_of_mem_spaces : ∀ n ∈ spaces, isWord (Char.ofNat n) = false := by
  decide +kernel

/-- White space is no part of a word. -/
theorem isWord_eq_false_of_isSpace {c : Char} (h : isSpace c = true) : isWord c = false := by
  rw [← Char.ofNat_toNat c]
  exact isWord_ofNat_of_mem_spaces _ (toNat_mem_spaces h)

theorem isSpace_eq_false_of_isWord {c : Char} (h : isWord c = true) : isSpace c = false := by
  rw [Bool.eq_false_iff]
  intro hspace
  rw [isWord_eq_false_of_isSpace hspace] at h
  cases h

theorem isSpace_of_isLineBreak {c : Char} (h : isLineBreak c = true) : isSpace c = true := by
  simp only [isLineBreak, isSpace, Bool.or_eq_true, decide_eq_true_eq, beq_iff_eq] at h ⊢
  omega

theorem isLineBreak_eq_false_of_isWord {c : Char} (h : isWord c = true) : isLineBreak c = false := by
  rw [Bool.eq_false_iff]
  intro hbreak
  rw [isWord_eq_false_of_isSpace (isSpace_of_isLineBreak hbreak)] at h
  cases h

/-- A run that a text starts with ends where its characters end. -/
theorem takeWhile_run_append {belongs : Char → Bool} {run rest : List Char}
    (hrun : ∀ c ∈ run, belongs c = true) (hrest : rest.head?.any belongs = false) :
    (run ++ rest).takeWhile belongs = run := by
  rw [List.takeWhile_append_of_pos hrun]
  cases rest with
  | nil => rw [List.takeWhile_nil, List.append_nil]
  | cons c rest =>
      have hc : ¬ belongs c = true := by simpa using hrest
      rw [List.takeWhile_cons_of_neg hc, List.append_nil]

theorem dropWhile_run_append {belongs : Char → Bool} {run rest : List Char}
    (hrun : ∀ c ∈ run, belongs c = true) (hrest : rest.head?.any belongs = false) :
    (run ++ rest).dropWhile belongs = rest := by
  have hsplit := List.takeWhile_append_dropWhile (p := belongs) (l := run ++ rest)
  rw [takeWhile_run_append hrun hrest] at hsplit
  exact List.append_cancel_left hsplit

/-- A character outside the class ends one run and starts another. -/
theorem runs_append_cons {belongs : Char → Bool} {c : Char} (hc : belongs c = false)
    (front back : List Char) :
    runs belongs (front ++ c :: back) = runs belongs front ++ runs belongs back := by
  rw [runs, List.splitOnP_append_cons _ _ (by rw [hc]; rfl), List.filter_append]
  rfl

@[simp]
theorem runs_nil (belongs : Char → Bool) : runs belongs [] = [] := by
  rw [runs, List.splitOnP_nil]
  rfl

/-- A character outside the class is part of no run. -/
theorem runs_cons {belongs : Char → Bool} {c : Char} (hc : belongs c = false) (rest : List Char) :
    runs belongs (c :: rest) = runs belongs rest := by
  have h := runs_append_cons hc [] rest
  rwa [List.nil_append, runs_nil, List.nil_append] at h

theorem runs_of_forall {belongs : Char → Bool} {run : List Char} (hne : run ≠ [])
    (h : ∀ c ∈ run, belongs c = true) : runs belongs run = [run] := by
  rw [runs, List.splitOnP_eq_singleton fun c hc => by rw [h c hc]; rfl]
  cases run with
  | nil => exact absurd rfl hne
  | cons c run => rfl

/-- Pieces put together with a character outside the class have the runs of the pieces. -/
theorem runs_intercalate {belongs : Char → Bool} {c : Char} (hc : belongs c = false)
    (pieces : List (List Char)) :
    runs belongs ([c].intercalate pieces) = pieces.flatMap (runs belongs) := by
  induction pieces with
  | nil => simp
  | cons piece pieces ih =>
      cases pieces with
      | nil => simp
      | cons next pieces =>
          rw [List.intercalate_cons_cons, List.append_assoc, List.singleton_append,
            runs_append_cons hc, ih]
          rfl

/-- The runs of a text are the one that it starts with, if there is one, and those behind it. -/
theorem runs_eq_append_dropWhile (belongs : Char → Bool) (text : List Char) :
    runs belongs text =
      runs belongs (text.takeWhile belongs) ++ runs belongs (text.dropWhile belongs) := by
  have hsplit : text.takeWhile belongs ++ text.dropWhile belongs = text :=
    List.takeWhile_append_dropWhile
  cases hrest : text.dropWhile belongs with
  | nil =>
      rw [hrest, List.append_nil] at hsplit
      rw [hsplit, runs_nil, List.append_nil]
  | cons c rest =>
      have hc : belongs c = false := by
        have := List.head?_dropWhile_not belongs text
        rw [hrest] at this
        simpa using this
      calc
        runs belongs text = runs belongs (text.takeWhile belongs ++ c :: rest) := by
          rw [← hrest, hsplit]
        _ = runs belongs (text.takeWhile belongs) ++ runs belongs rest := runs_append_cons hc _ _
        _ = _ := by rw [runs_cons hc]

/-- What stands in front of a text up to a character outside the class is its first run. -/
theorem takeWhile_mem_runs {belongs : Char → Bool} {text : List Char}
    (hne : text.takeWhile belongs ≠ []) : text.takeWhile belongs ∈ runs belongs text := by
  have hall : ∀ c ∈ text.takeWhile belongs, belongs c = true :=
    fun c hc => List.mem_takeWhile_imp hc
  rw [runs_eq_append_dropWhile, runs_of_forall hne hall]
  exact List.mem_cons_self

end Unreferenced.Text

namespace Unreferenced.Source

/-- The identifiers of lines put together are those of the lines. -/
theorem identifiers_intercalate (lines : List (List Char)) :
    identifiers (['\n'].intercalate lines) = lines.flatMap identifiers := by
  rw [identifiers, Text.runs_intercalate (Text.isWord_eq_false_of_isSpace (by decide)),
    List.map_flatMap]
  rfl

/-- How often an identifier occurs, by its characters. -/
theorem count_identifiers (word : String) (text : List Char) :
    (identifiers text).count word = (Text.runs Text.isWord text).count word.toList := by
  have hinjective : Function.Injective String.ofList := fun a b h => by
    rw [← String.toList_ofList (l := a), h, String.toList_ofList]
  rw [identifiers, ← List.count_map_of_injective _ _ hinjective, String.ofList_toList]

/-- A line feed ends a line comment, and what is behind it is not affected by what is in front. -/
theorem dropLineComments_append_newline (inside : Bool) (front back : List Char) :
    dropLineComments inside (front ++ '\n' :: back) =
      dropLineComments inside front ++ '\n' :: dropLineComments false back := by
  fun_induction dropLineComments inside front with
  | case1 inside => cases inside <;> simp [dropLineComments]
  | case2 front ih => rw [List.cons_append, dropLineComments, if_pos rfl, ih, List.cons_append]
  | case3 c front hc ih => rw [List.cons_append, dropLineComments, if_neg hc, ih]
  | case4 front ih => rw [List.cons_append, List.cons_append, dropLineComments, ih]
  | case5 c front hopen ih =>
      rw [List.cons_append, dropLineComments, ih, List.cons_append]
      intro rest hc hrest
      cases front with
      | nil => simp at hrest
      | cons next front =>
          rw [List.cons_append, List.cons.injEq] at hrest
          exact hopen front hc (by rw [hrest.1])

/-- Line comments can be dropped line by line. -/
theorem withoutLineComments_intercalate (lines : List (List Char)) :
    withoutLineComments (['\n'].intercalate lines) =
      ['\n'].intercalate (lines.map withoutLineComments) := by
  induction lines with
  | nil => rfl
  | cons line lines ih =>
      cases lines with
      | nil => simp
      | cons next lines =>
          rw [List.map_cons, List.map_cons, List.intercalate_cons_cons, List.intercalate_cons_cons,
            List.append_assoc, List.singleton_append, withoutLineComments,
            dropLineComments_append_newline, List.append_assoc, List.singleton_append,
            ← List.map_cons, ← ih]
          rfl

/-- No line holds the character that the text was cut at. -/
theorem not_mem_of_mem_splitOn {text line : List Char} {c : Char} (h : line ∈ text.splitOn c) :
    c ∉ line := by
  induction text generalizing line with
  | nil =>
      rw [List.splitOn_eq_splitOnP, List.splitOnP_nil, List.mem_singleton] at h
      rw [h]
      exact List.not_mem_nil
  | cons a text ih =>
      rw [List.splitOn_cons_eq_if_modifyHead] at h
      obtain ⟨first, others, hlines⟩ := List.exists_cons_of_ne_nil (List.splitOn_ne_nil c text)
      rw [hlines] at h ih
      split at h
      · rcases List.mem_cons.mp h with rfl | h
        · exact List.not_mem_nil
        · exact ih h
      · rename_i hne
        rcases List.mem_cons.mp h with rfl | h
        · rw [List.mem_cons, not_or]
          exact ⟨fun heq => hne (beq_iff_eq.mpr heq.symm), ih List.mem_cons_self⟩
        · exact ih (.tail _ h)

/-- The identifiers outside line comments, line by line. -/
theorem identifiers_withoutLineComments (text : List Char) :
    identifiers (withoutLineComments text) =
      (text.splitOn '\n').flatMap fun line => identifiers (withoutLineComments line) := by
  have hlines : ['\n'].intercalate (text.splitOn '\n') = text := List.intercalate_splitOn '\n'
  rw [← List.flatMap_map, ← identifiers_intercalate,
    ← withoutLineComments_intercalate, hlines]

/-- The part of a line before its first two slashes. -/
def beforeSlashes (line : List Char) : List Char :=
  match Text.cutAt ['/', '/'] line with
  | none => line
  | some (before, _) => before

theorem dropLineComments_inside {line : List Char} (hline : '\n' ∉ line) :
    dropLineComments true line = [] := by
  induction line with
  | nil => rfl
  | cons c line ih =>
      rw [List.mem_cons, not_or] at hline
      rw [dropLineComments, if_neg (Ne.symm hline.1), ih hline.2]

/-- On one line, a line comment is all from the first two slashes on. -/
theorem withoutLineComments_eq_beforeSlashes {line : List Char} (hline : '\n' ∉ line) :
    withoutLineComments line = beforeSlashes line := by
  induction line with
  | nil => rfl
  | cons c line ih =>
      rw [List.mem_cons, not_or] at hline
      specialize ih hline.2
      rw [beforeSlashes, Text.cutAt]
      by_cases hopen : List.isPrefixOf ['/', '/'] (c :: line) = true
      · obtain ⟨back, hback⟩ := List.isPrefixOf_iff_prefix.mp hopen
        obtain ⟨rfl, rfl⟩ := List.cons.inj hback
        rw [if_pos hopen, withoutLineComments]
        change dropLineComments false ('/' :: '/' :: back) = []
        rw [dropLineComments]
        exact dropLineComments_inside fun h => hline.2 (.tail _ h)
      · rw [if_neg hopen, withoutLineComments, dropLineComments]
        · rw [withoutLineComments, beforeSlashes] at ih
          rw [ih]
          cases Text.cutAt ['/', '/'] line <;> rfl
        · rintro back rfl rfl
          simp at hopen

end Unreferenced.Source
