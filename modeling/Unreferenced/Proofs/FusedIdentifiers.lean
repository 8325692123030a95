import Mathlib.Data.List.Sublists
import Unreferenced.Proofs.Identifiers
import Unreferenced.Proofs.LiteralScan
import Unreferenced.Proofs.ReferenceCount
import Unreferenced.Proofs.Spans

/-! The identifiers of the code of a text against those of the text. Every mark that opens or closes a
literal or a comment starts and ends with characters of no word, so what is dropped holds whole
identifiers, and the expressions that a literal is replaced by hold whole identifiers too. No identifier
is cut and their order is kept. But nothing is put where a span was dropped, and two identifiers that
only a span kept apart are fused into one. -/

namespace Unreferenced.Text

/-- The words left of a text, against its words: in their order, each word of the text is lost, or kept,
or fused with the next one that is left. -/
inductive Fused : List (List Char) → List (List Char) → Prop where
  | nil : Fused [] []
  | lost (word : List Char) {words left : List (List Char)} (h : Fused words left) :
      Fused (word :: words) left
  | kept (word : List Char) {words left : List (List Char)} (h : Fused words left) :
      Fused (word :: words) (word :: left)
  | joined (word : List Char) {next : List Char} {words left : List (List Char)}
      (h : Fused words (next :: left)) : Fused (word :: words) ((word ++ next) :: left)

/-- A word is written as several words of a list, in their order and with nothing between them. -/
def Fusion (words : List (List Char)) (word : List Char) : Prop :=
  ∃ parts : List (List Char), parts.Sublist words ∧ 2 ≤ parts.length ∧ parts.flatten = word

instance (words : List (List Char)) (word : List Char) : Decidable (Fusion words word) :=
  decidable_of_iff (∃ parts ∈ words.sublists, 2 ≤ parts.length ∧ parts.flatten = word)
    (by simp only [List.mem_sublists, Fusion])

namespace Fused

theorem refl (words : List (List Char)) : Fused words words := by
  induction words with
  | nil => exact .nil
  | cons word words ih => exact ih.kept word

theorem all_lost (words : List (List Char)) : Fused words [] := by
  induction words with
  | nil => exact .nil
  | cons word words ih => exact ih.lost word

theorem append {words left others rest : List (List Char)} (h : Fused words left)
    (hothers : Fused others rest) : Fused (words ++ others) (left ++ rest) := by
  induction h with
  | nil => exact hothers
  | lost word _ ih => exact ih.lost word
  | kept word _ ih => exact ih.kept word
  | joined word _ ih => exact ih.joined word

theorem trans {words left fewer : List (List Char)} (h : Fused words left)
    (hfewer : Fused left fewer) : Fused words fewer := by
  induction h generalizing fewer with
  | nil => exact hfewer
  | lost word _ ih => exact (ih hfewer).lost word
  | kept word _ ih =>
      cases hfewer with
      | lost _ hrest => exact (ih hrest).lost word
      | kept _ hrest => exact (ih hrest).kept word
      | joined _ hrest => exact (ih hrest).joined word
  | @joined word next words left _ ih =>
      cases hfewer with
      | lost _ hrest => exact (ih (hrest.lost next)).lost word
      | kept _ hrest => exact (ih (hrest.kept next)).joined word
      | joined _ hrest =>
          rw [List.append_assoc]
          exact (ih (hrest.joined next)).joined word

theorem exists_parts {words left : List (List Char)} (h : Fused words left) {word : List Char}
    (hmem : word ∈ left) :
    ∃ parts : List (List Char), parts.Sublist words ∧ parts ≠ [] ∧ parts.flatten = word := by
  induction h generalizing word with
  | nil => cases hmem
  | lost first _ ih =>
      obtain ⟨parts, hsub, hne, hflat⟩ := ih hmem
      exact ⟨parts, hsub.cons first, hne, hflat⟩
  | kept first _ ih =>
      rcases List.mem_cons.mp hmem with rfl | hmem
      · exact ⟨[word], (List.nil_sublist _).cons_cons word, by simp, by simp⟩
      · obtain ⟨parts, hsub, hne, hflat⟩ := ih hmem
        exact ⟨parts, hsub.cons first, hne, hflat⟩
  | joined first _ ih =>
      rcases List.mem_cons.mp hmem with rfl | hmem
      · obtain ⟨parts, hsub, -, hflat⟩ := ih List.mem_cons_self
        exact ⟨first :: parts, hsub.cons_cons first, by simp, by simp [hflat]⟩
      · obtain ⟨parts, hsub, hne, hflat⟩ := ih (.tail _ hmem)
        exact ⟨parts, hsub.cons first, hne, hflat⟩

/-- A word that is no fusion is left no more often than it was there. -/
theorem count_le {words left : List (List Char)} (h : Fused words left) {word : List Char}
    (hword : ¬ Fusion words word) : left.count word ≤ words.count word := by
  induction h with
  | nil => exact Nat.le_refl _
  | @lost first words left _ ih =>
      have hrest : ¬ Fusion words word := fun ⟨parts, hsub, hparts⟩ =>
        hword ⟨parts, hsub.cons first, hparts⟩
      exact (ih hrest).trans ((List.sublist_cons_self first words).count_le word)
  | @kept first words left _ ih =>
      have hrest : ¬ Fusion words word := fun ⟨parts, hsub, hparts⟩ =>
        hword ⟨parts, hsub.cons first, hparts⟩
      rw [List.count_cons, List.count_cons]
      exact Nat.add_le_add_right (ih hrest) _
  | @joined first next words left h ih =>
      have hrest : ¬ Fusion words word := fun ⟨parts, hsub, hparts⟩ =>
        hword ⟨parts, hsub.cons first, hparts⟩
      have hne : first ++ next ≠ word := by
        obtain ⟨parts, hsub, hparts, hflat⟩ := h.exists_parts List.mem_cons_self
        intro heq
        refine hword ⟨first :: parts, hsub.cons_cons first, ?_, by rw [List.flatten_cons, hflat, heq]⟩
        have := List.length_pos_iff.mpr hparts
        rw [List.length_cons]
        omega
      calc ((first ++ next) :: left).count word = left.count word := List.count_cons_of_ne hne
        _ ≤ (next :: left).count word := (List.sublist_cons_self next left).count_le word
        _ ≤ words.count word := ih hrest
        _ ≤ (first :: words).count word := (List.sublist_cons_self first words).count_le word

end Fused

variable {belongs : Char → Bool}

theorem fused_word_append {word : List Char} (hword : ∀ c ∈ word, belongs c = true)
    (back : List Char) :
    Fused (runs belongs word ++ runs belongs back) (runs belongs (word ++ back)) := by
  have hall : ∀ c ∈ back.takeWhile belongs, belongs c = true := fun c hc => List.mem_takeWhile_imp hc
  have hfront : Fused (runs belongs word ++ runs belongs (back.takeWhile belongs))
      (runs belongs (word ++ back.takeWhile belongs)) := by
    by_cases hne : word = []
    · rw [hne, runs_nil]
      exact .refl _
    by_cases hnext : back.takeWhile belongs = []
    · rw [hnext, runs_nil, List.append_nil, List.append_nil]
      exact .refl _
    rw [runs_of_forall hne hword, runs_of_forall hnext hall, runs_of_forall (by simp [hne])]
    · exact (Fused.refl _).joined word
    · intro c hc
      exact (List.mem_append.mp hc).elim (hword c) (hall c)
  have hwhole := runs_eq_append_dropWhile belongs (word ++ back)
  rw [List.takeWhile_append_of_pos hword, List.dropWhile_append_of_pos hword] at hwhole
  rw [hwhole, runs_eq_append_dropWhile belongs back, ← List.append_assoc]
  exact hfront.append (.refl _)

/-- Where two texts meet, no more happens than that two words are fused. -/
theorem fused_append (front back : List Char) :
    Fused (runs belongs front ++ runs belongs back) (runs belongs (front ++ back)) := by
  -- The induction gathers the word at the end of the front part, from its last character on.
  suffices h : ∀ word : List Char, (∀ c ∈ word, belongs c = true) →
      Fused (runs belongs (front ++ word) ++ runs belongs back)
        (runs belongs (front ++ (word ++ back))) by
    have := h [] (by simp)
    rwa [List.append_nil] at this
  induction front using List.reverseRecOn with
  | nil => exact fun word hword => fused_word_append hword back
  | append_singleton front c ih =>
      intro word hword
      rw [List.append_assoc, List.append_assoc, List.singleton_append, List.singleton_append]
      cases hc : belongs c with
      | false =>
          rw [runs_append_cons hc, runs_append_cons hc, List.append_assoc]
          exact (Fused.refl _).append (fused_word_append hword back)
      | true =>
          refine ih (c :: word) fun x hx => ?_
          rcases List.mem_cons.mp hx with rfl | hx
          · exact hc
          · exact hword x hx

end Unreferenced.Text

namespace Unreferenced.Source

open Text (Fused Fusion fused_append)

/-- The words of a text, which are the characters of its identifiers. -/
abbrev words (text : List Char) : List (List Char) := Text.runs Text.isWord text

/-- Marks that belong to no word keep the words between them apart from those around them. -/
theorem words_enclosed {first last : Char} (hfirst : Text.isWord first = false)
    (hlast : Text.isWord last = false) (front inside back : List Char) :
    words (front ++ first :: (inside ++ last :: back)) = words front ++ (words inside ++ words back) := by
  rw [words, Text.runs_append_cons hfirst, Text.runs_append_cons hlast]

/-- Dropping what stands between two marks loses the words in it and may fuse those around it. -/
theorem fused_enclosed {first last : Char} (hfirst : Text.isWord first = false)
    (hlast : Text.isWord last = false) (front inside : List Char) {back left : List Char}
    (h : Fused (words back) (words left)) :
    Fused (words (front ++ first :: (inside ++ last :: back))) (words (front ++ left)) := by
  rw [words_enclosed hfirst hlast]
  have hlost : Fused (words inside ++ words back) (words left) := (Fused.all_lost _).append h
  exact ((Fused.refl _).append hlost).trans (fused_append front left)

/-! ### Pass by pass -/

theorem fused_dropSpans {d : Delimiter} (houter : Text.isWord d.outer = false)
    (front text : List Char) :
    Fused (words (front ++ text)) (words (front ++ d.dropSpans text)) := by
  induction text using d.span_induct generalizing front with
  | nil =>
      rw [Delimiter.dropSpans_nil]
      exact .refl _
  | char c rest hopens ih =>
      have := ih (front ++ [c])
      rwa [List.append_assoc, List.append_assoc, List.singleton_append, List.singleton_append,
        ← Delimiter.dropSpans_char hopens] at this
  | span inside after hcut ih =>
      have hspan := fused_enclosed houter houter front (d.inner :: (inside ++ [d.inner])) (ih [])
      rw [Delimiter.dropSpans_span hcut]
      simpa using hspan

theorem fused_withoutEscapes (front text : List Char) :
    Fused (words (front ++ text)) (words (front ++ withoutEscapes text)) := by
  fun_induction withoutEscapes text generalizing front with
  | case1 => exact .refl _
  | case2 c => exact .refl _
  | case3 a b rest hab ih =>
      obtain ⟨rfl, hb⟩ := hab
      have hlast : Text.isWord b = false := by rcases hb with rfl | rfl <;> decide
      exact fused_enclosed (by decide) hlast front [] (ih [])
  | case4 a b rest hab ih =>
      have := ih (front ++ [a])
      rwa [List.append_assoc, List.append_assoc] at this

theorem fused_rendering {inside : List Char} {found : List (List Char)}
    (h : Interpolates found inside)
    (hfound : ∀ expression ∈ found, Fused (words expression) (words (withoutLiterals expression))) :
    Fused (words inside) (words (rendering (found.map withoutLiterals))) := by
  have hwords : words (rendering (found.map withoutLiterals)) =
      (found.map withoutLiterals).flatMap words := by
    rw [rendering]
    split
    · rename_i hempty
      rw [hempty]
      decide
    · exact Text.runs_intercalate (by decide) _
  rw [hwords]
  clear hwords
  induction h with
  | none => exact .all_lost _
  | @some gap expression others text h ih =>
      have hopen : Text.isWord '\\' = false ∧ Text.isWord '(' = false ∧ Text.isWord ')' = false := by
        decide
      obtain ⟨hescape, hparen, hclose⟩ := hopen
      have hgap := words_enclosed hescape hclose gap ('(' :: expression) text
      have hexpression : words ('(' :: expression) = words expression :=
        Text.runs_cons hparen expression
      rw [hexpression] at hgap
      rw [List.append_assoc, List.cons_append, hgap, List.map_cons, List.flatMap_cons]
      refine (Fused.all_lost (words gap)).append ?_
      exact (hfound expression List.mem_cons_self).append
        (ih fun other hother => hfound other (.tail _ hother))

theorem fused_withoutLiterals (front text : List Char) :
    Fused (words (front ++ text)) (words (front ++ withoutLiterals text)) := by
  induction text using withoutLiterals_induct generalizing front with
  | nil => exact .refl _
  | char c rest hc ih =>
      have := ih (front ++ [c])
      rwa [List.append_assoc, List.append_assoc, List.singleton_append, List.singleton_append,
        ← withoutLiterals_cons hc] at this
  | quote rest hread ih =>
      have := ih (front ++ ['"'])
      rwa [List.append_assoc, List.append_assoc, List.singleton_append, List.singleton_append,
        ← withoutLiterals_quote_of_none hread] at this
  | literal inside found after hread hinside hfound hafter =>
      have hrendering : Fused (words inside) (words (rendering (found.map withoutLiterals))) :=
        fused_rendering hinside fun expression hmem => hfound expression hmem []
      rw [withoutLiterals_quote_of_some hread,
        words_enclosed (by decide) (by decide)]
      refine ((Fused.refl _).append ?_).trans (fused_append front _)
      exact (hrendering.append (hafter [])).trans (fused_append _ _)

/-- Inside a comment, what stands in front is part of it and lost with it. -/
theorem fused_dropLineComments (inside : Bool) (front text : List Char) :
    Fused (words (front ++ text))
      (words ((if inside then [] else front) ++ dropLineComments inside text)) := by
  have hnewline : Text.isWord '\n' = false ∧ Text.isWord '/' = false := by decide
  obtain ⟨hnewline, hslash⟩ := hnewline
  fun_induction dropLineComments inside text generalizing front with
  | case1 inside =>
      cases inside with
      | true => exact .all_lost _
      | false => exact .refl _
  | case2 rest ih =>
      rw [words, Text.runs_append_cons hnewline]
      change Fused _ (words ('\n' :: dropLineComments false rest))
      rw [words, Text.runs_cons hnewline]
      exact (Fused.all_lost _).append (ih [])
  | case3 c rest hc ih =>
      have := ih (front ++ [c])
      rwa [List.append_assoc] at this
  | case4 rest ih => exact fused_enclosed hslash hslash front [] (ih [])
  | case5 c rest hopen ih =>
      have := ih (front ++ [c])
      simpa using this

/-- The words of the code are those of the text, but for the ones that are lost or fused. -/
theorem fused_codeOf (text : List Char) : Fused (words text) (words (codeOf text)) := by
  have hregex : Text.isWord regexLiteral.outer = false := by decide
  have hcomment : Text.isWord blockComment.outer = false := by decide
  rw [codeOf, withoutLineComments, withoutBlockComments]
  exact (((fused_dropSpans hregex [] _).trans (fused_withoutEscapes [] _)).trans
    (fused_withoutLiterals [] _)).trans
      ((fused_dropSpans hcomment [] _).trans (fused_dropLineComments false [] _))

/-- The code of a text has the identifiers of the text, in their order, less those that are lost and with
some that are fused. So an identifier that is not several of those written together, in their order, is
counted no more often in the code than in the text. -/
theorem count_codeOf_le (text : List Char) :
    Fused (words text) (words (codeOf text)) ∧
      ∀ word : String, ¬ Fusion (words text) word.toList →
        (Tally.ofText (codeOf text)).count word ≤ (Tally.ofText text).count word := by
  refine ⟨fused_codeOf text, ?_⟩
  intro word hword
  rw [Tally.count_ofText, Tally.count_ofText, count_identifiers, count_identifiers]
  exact (fused_codeOf text).count_le hword

/-- A statement in which a comment is all that keeps two words apart. -/
def commentedReturn : List Char := "if done { return/* total */sum } // sum".toList

theorem count_codeOf_commentedReturn :
    ¬ Fusion (words commentedReturn) "sum".toList ∧
      (Tally.ofText (codeOf commentedReturn)).count "sum" ≤
        (Tally.ofText commentedReturn).count "sum" := by
  have hword : ¬ Fusion (words commentedReturn) "sum".toList := by decide +kernel
  exact ⟨hword, (count_codeOf_le commentedReturn).2 "sum" hword⟩

/-- The two words are fused into one that the text does not have. -/
theorem count_codeOf_returnsum :
    (Tally.ofText commentedReturn).count "returnsum" = 0 ∧
      (Tally.ofText (codeOf commentedReturn)).count "returnsum" = 1 := by
  rw [Tally.count_ofText, Tally.count_ofText]
  decide +kernel

end Unreferenced.Source
