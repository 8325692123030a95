import Unreferenced.Proofs.Extraction
import Unreferenced.Proofs.Identifiers

/-! The name of a declaration among the identifiers of its line. A name follows white space and ends
where no word character follows, so it is one whole identifier of the line that declares it. A line
declares one thing at most, so different declarations of one name stand for different identifiers. -/

namespace Unreferenced

/-- A head is a keyword, white space, and a name up to where its word ends. -/
theorem headAt?_eq_some {text name : List Char} {kind : Kind}
    (h : headAt? text = some (kind, name)) :
    ∃ gap rest, text = kind.keyword.toList ++ gap ++ rest ∧ gap ≠ [] ∧
      (∀ c ∈ gap, Text.isSpace c = true) ∧ rest.takeWhile Text.isWord = name ∧ name ≠ [] ∧
      Kind.ofKeyword? (String.ofList name) = none := by
  obtain ⟨found, -, hfound⟩ := List.exists_of_findSome?_eq_some h
  dsimp only at hfound
  split at hfound
  · rename_i hcond
    simp only [Bool.and_eq_true, Bool.not_eq_true', List.isEmpty_eq_false_iff,
      Option.isNone_iff_eq_none] at hcond
    obtain ⟨⟨⟨hword, hspace⟩, hne⟩, hkeyword⟩ := hcond
    obtain ⟨rfl, rfl⟩ := Prod.mk.inj (Option.some.inj hfound)
    obtain ⟨tail, rfl⟩ := List.isPrefixOf_iff_prefix.mp hword
    rw [List.drop_left] at hspace hne hkeyword ⊢
    refine ⟨tail.takeWhile Text.isSpace, tail.dropWhile Text.isSpace, ?_, ?_, ?_, rfl, hne, hkeyword⟩
    · rw [List.append_assoc, List.takeWhile_append_dropWhile]
    · cases tail with
      | nil => simp at hspace
      | cons c tail =>
          have hc : Text.isSpace c = true := by simpa using hspace
          rw [List.takeWhile_cons_of_pos hc]
          exact List.cons_ne_nil _ _
    · exact fun c hc => List.mem_takeWhile_imp hc
  · cases hfound

/-- The name of a head is an identifier of the text. -/
theorem mem_runs_of_headAt? {text name : List Char} {kind : Kind}
    (h : headAt? text = some (kind, name)) (front : List Char) :
    name ∈ Text.runs Text.isWord (front ++ text) := by
  obtain ⟨gap, rest, rfl, hgap, hspace, rfl, hne, -⟩ := headAt?_eq_some h
  have hlast : Text.isWord (gap.getLast hgap) = false :=
    Text.isWord_eq_false_of_isSpace (hspace _ (List.getLast_mem hgap))
  have hsplit : front ++ (kind.keyword.toList ++ gap ++ rest) =
      (front ++ kind.keyword.toList ++ gap.dropLast) ++ gap.getLast hgap :: rest := by
    conv =>
      lhs
      rw [← List.dropLast_append_getLast hgap]
    simp only [List.append_assoc, List.singleton_append]
  rw [hsplit, Text.runs_append_cons hlast]
  exact List.mem_append_right _ (Text.takeWhile_mem_runs hne)

/-- The first head of a text stands behind as many characters as it says. -/
theorem findHead?_eq_some {afterWord : Bool} {text : List Char} {offset : Nat}
    {head : Kind × List Char} (h : findHead? afterWord text = some (offset, head)) :
    ∃ front back, text = front ++ back ∧ front.length = offset ∧ headAt? back = some head := by
  induction text generalizing afterWord offset with
  | nil => cases h
  | cons c rest ih =>
      rw [findHead?] at h
      split at h
      · rename_i found hfound
        obtain ⟨rfl, rfl⟩ := Prod.mk.inj (Option.some.inj h)
        refine ⟨[], c :: rest, rfl, rfl, ?_⟩
        split at hfound
        · cases hfound
        · exact hfound
      · obtain ⟨⟨before, found⟩, hfound, heq⟩ := Option.map_eq_some_iff.mp h
        obtain ⟨rfl, rfl⟩ := Prod.mk.inj heq
        obtain ⟨front, back, rfl, rfl, hback⟩ := ih hfound
        exact ⟨c :: front, back, rfl, rfl, hback⟩

/-- The name of a declaration is an identifier of its line outside line comments. -/
theorem name_mem_identifiers {path text : String} {line : Int} {d : Declaration}
    (h : Declaration.onLine? path text line = some d) :
    d.name ∈ Source.identifiers (Source.withoutLineComments text.toList) := by
  obtain ⟨⟨offset, kind, name⟩, hhead, hd⟩ := Option.map_eq_some_iff.mp h
  obtain ⟨front, back, hsplit, -, hback⟩ := findHead?_eq_some hhead
  rw [← hd, hsplit]
  exact List.mem_map_of_mem (mem_runs_of_headAt? hback front)

/-- The name of a declaration is made of word characters. -/
theorem isWord_of_mem_name {path text : String} {line : Int} {d : Declaration}
    (h : Declaration.onLine? path text line = some d) : ∀ c ∈ d.name.toList, Text.isWord c = true := by
  obtain ⟨⟨offset, kind, name⟩, hhead, hd⟩ := Option.map_eq_some_iff.mp h
  obtain ⟨_, _, -, -, hback⟩ := findHead?_eq_some hhead
  obtain ⟨_, rest, -, -, -, hname, -⟩ := headAt?_eq_some hback
  intro c hc
  rw [← hd, String.toList_ofList, ← hname] at hc
  exact List.mem_takeWhile_imp hc

namespace Inventory

theorem countP_name_le_lines (path : String) (lines : List (List Char)) (start : Nat)
    (name : String) :
    (((lines.zipIdx start).filterMap fun (line, index) =>
      Declaration.onLine? path (String.ofList line) (index + 1)).countP (·.name == name)) ≤
        (lines.flatMap fun line =>
          Source.identifiers (Source.withoutLineComments line)).count name := by
  induction lines generalizing start with
  | nil => exact Nat.le_refl 0
  | cons line lines ih =>
      rw [List.zipIdx_cons, List.filterMap_cons, List.flatMap_cons, List.count_append]
      specialize ih (start + 1)
      dsimp only at ih ⊢
      cases hline : Declaration.onLine? path (String.ofList line) (start + 1) with
      | none => exact ih.trans (Nat.le_add_left _ _)
      | some d =>
          have hmem := name_mem_identifiers hline
          rw [String.toList_ofList] at hmem
          rw [List.countP_cons]
          split
          · rename_i hname
            have hpos := List.count_pos_iff.mpr (beq_iff_eq.mp hname ▸ hmem)
            omega
          · omega

/-- A text declares a name no more often than it holds it as an identifier, block comments blanked and
line comments dropped. -/
theorem countP_name_le (path : String) (text : List Char) (name : String) :
    (declarationsOf path text).countP (·.name == name) ≤
      (Source.identifiers (Source.withoutLineComments (Source.blankBlockComments text))).count
        name := by
  rw [Source.identifiers_withoutLineComments]
  exact countP_name_le_lines path _ 0 name

end Inventory

end Unreferenced
