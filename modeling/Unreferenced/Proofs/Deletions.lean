import Unreferenced.Proofs.SettledCode

/-! What the code of a text keeps of it. Every pass but one leaves a part of the text in its order. The
one that replaces literals also puts a space between two expressions, and takes more away there: the
marks of an interpolation. So but for spaces, nothing is added, nothing is doubled and nothing changes
its place, whether or not the literals of the text are well formed. -/

namespace Unreferenced.Source

/-- The characters of a text other than spaces. -/
def withoutSpaces (text : List Char) : List Char := text.filter (· ≠ ' ')

@[simp]
theorem withoutSpaces_append (front back : List Char) :
    withoutSpaces (front ++ back) = withoutSpaces front ++ withoutSpaces back := List.filter_append ..

theorem withoutSpaces_sublist {part text : List Char} (h : part.Sublist text) :
    (withoutSpaces part).Sublist (withoutSpaces text) := h.filter _

/-- In pieces put together, the spaces between them do not count. -/
theorem withoutSpaces_intercalate (pieces : List (List Char)) :
    withoutSpaces ([' '].intercalate pieces) = pieces.flatMap withoutSpaces := by
  induction pieces with
  | nil => rfl
  | cons piece pieces ih =>
      cases pieces with
      | nil => simp
      | cons next pieces =>
          have hspace : withoutSpaces [' '] = [] := rfl
          rw [List.intercalate_cons_cons, withoutSpaces_append, withoutSpaces_append, hspace,
            List.append_nil, ih]
          rfl

/-- Expressions stand in their literal one after the other, so what each of them keeps, it keeps in the
order of the literal. -/
theorem flatMap_sublist_of_interpolates {found : List (List Char)} {inside : List Char}
    (h : Interpolates found inside)
    (hfound : ∀ expression ∈ found,
      (withoutSpaces (withoutLiterals expression)).Sublist (withoutSpaces expression)) :
    ((found.map withoutLiterals).flatMap withoutSpaces).Sublist (withoutSpaces inside) := by
  induction h with
  | none => exact List.nil_sublist _
  | @some gap expression others text h ih =>
      have hopen : expression.Sublist (gap ++ '\\' :: '(' :: expression) :=
        ((List.sublist_cons_self _ _).trans (List.sublist_cons_self _ _)).trans
          (List.sublist_append_right _ _)
      rw [List.map_cons, List.flatMap_cons, withoutSpaces_append]
      refine List.Sublist.append ?_ ?_
      · exact (hfound expression List.mem_cons_self).trans (withoutSpaces_sublist hopen)
      · refine (ih fun other hother => hfound other (.tail _ hother)).trans ?_
        exact withoutSpaces_sublist (List.sublist_cons_self ')' text)

theorem withoutSpaces_rendering_sublist {found : List (List Char)} {inside : List Char}
    (h : Interpolates found inside)
    (hfound : ∀ expression ∈ found,
      (withoutSpaces (withoutLiterals expression)).Sublist (withoutSpaces expression)) :
    (withoutSpaces (rendering (found.map withoutLiterals))).Sublist
      (withoutSpaces ('"' :: (inside ++ ['"']))) := by
  rw [rendering]
  split
  · exact withoutSpaces_sublist ((List.sublist_append_right inside ['"']).cons_cons '"')
  · rw [withoutSpaces_intercalate]
    have hinside : inside.Sublist ('"' :: (inside ++ ['"'])) :=
      (List.sublist_append_left inside ['"']).cons '"'
    exact (flatMap_sublist_of_interpolates h hfound).trans (withoutSpaces_sublist hinside)

theorem withoutSpaces_withoutLiterals_sublist (text : List Char) :
    (withoutSpaces (withoutLiterals text)).Sublist (withoutSpaces text) := by
  induction text using withoutLiterals_induct with
  | nil => exact List.Sublist.refl _
  | char c rest hc ih =>
      rw [withoutLiterals_cons hc, ← List.singleton_append, ← List.singleton_append (l := rest),
        withoutSpaces_append, withoutSpaces_append]
      exact ih.append_left _
  | quote rest hread ih =>
      rw [withoutLiterals_quote_of_none hread]
      exact ih.cons_cons '"'
  | literal inside found after hread hinside hfound hafter =>
      have hsplit : '"' :: (inside ++ '"' :: after) = '"' :: (inside ++ ['"']) ++ after := by simp
      rw [withoutLiterals_quote_of_some hread, hsplit, withoutSpaces_append, withoutSpaces_append]
      exact (withoutSpaces_rendering_sublist hinside hfound).append hafter

theorem withoutEscapes_sublist (text : List Char) : (withoutEscapes text).Sublist text := by
  fun_induction withoutEscapes text with
  | case1 => exact List.Sublist.refl _
  | case2 c => exact List.Sublist.refl _
  | case3 a b rest hab ih => exact (ih.cons b).cons a
  | case4 a b rest hab ih => exact ih.cons_cons a

/-- But for spaces, the code of a text is a part of the text in its order. It is no longer than the text,
and no two slashes stand side by side in it. The first two also hold where literals are replaced and
nothing else is done. -/
theorem codeOf_only_deletes (text : List Char) :
    ((withoutSpaces (codeOf text)).Sublist (withoutSpaces text) ∧
        (codeOf text).length ≤ text.length ∧ ¬ ['/', '/'] <:+: codeOf text) ∧
      (withoutSpaces (withoutLiterals text)).Sublist (withoutSpaces text) ∧
        (withoutLiterals text).length ≤ text.length := by
  have hliterals := withoutSpaces_withoutLiterals_sublist
  have hbefore : (withoutEscapes (regexLiteral.dropSpans text)).Sublist text :=
    (withoutEscapes_sublist _).trans (Delimiter.dropSpans_sublist text)
  have hbehind : ∀ left, (withoutLineComments (withoutBlockComments left)).Sublist left :=
    fun left => (dropLineComments_sublist false _).trans (Delimiter.dropSpans_sublist left)
  refine ⟨⟨?_, (shrinks_codeOf text).length_le, not_infix_codeOf text⟩, hliterals text,
    (shrinks_withoutLiterals text).length_le⟩
  rw [codeOf]
  exact (withoutSpaces_sublist (hbehind _)).trans
    ((hliterals _).trans (withoutSpaces_sublist hbefore))

end Unreferenced.Source
