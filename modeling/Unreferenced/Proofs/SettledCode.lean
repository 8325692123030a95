import Mathlib.Data.List.Infix
import Mathlib.Logic.Function.Iterate
import Unreferenced.Proofs.Identifiers
import Unreferenced.Proofs.LiteralScan
import Unreferenced.Proofs.Spans

/-! Texts that are their own code. Each pass leaves a text as it is where it finds nothing to take out,
and makes it shorter anywhere else. So the code of a text is the text itself exactly if no pass finds
anything in it, and taking the code again and again comes to rest. Once is not always enough: what a
pass takes out may leave two characters side by side that are a mark to the same pass or to one
before. -/

namespace Unreferenced.Source

/-- A pass leaves a text as it is if it is of a kind, and else makes it shorter. -/
def ShrinksAt (pass : List Char → List Char) (IsFixed : List Char → Prop) (text : List Char) : Prop :=
  IsFixed text ∧ pass text = text ∨ ¬ IsFixed text ∧ (pass text).length < text.length

/-- A pass leaves the texts of a kind as they are and makes all others shorter. -/
def Shrinks (pass : List Char → List Char) (IsFixed : List Char → Prop) : Prop :=
  ∀ text, ShrinksAt pass IsFixed text

namespace ShrinksAt

variable {pass : List Char → List Char} {IsFixed : List Char → Prop}

theorem length_le {text : List Char} (h : ShrinksAt pass IsFixed text) :
    (pass text).length ≤ text.length := by
  rcases h with ⟨-, heq⟩ | ⟨-, hlt⟩
  · rw [heq]
  · exact Nat.le_of_lt hlt

/-- A character that a pass keeps is of no account. -/
theorem cons {c : Char} {rest : List Char} (h : ShrinksAt pass IsFixed rest)
    (hpass : pass (c :: rest) = c :: pass rest) (hfixed : IsFixed (c :: rest) ↔ IsFixed rest) :
    ShrinksAt pass IsFixed (c :: rest) := by
  rw [ShrinksAt, hpass, hfixed]
  rcases h with ⟨hrest, heq⟩ | ⟨hrest, hlt⟩
  · exact .inl ⟨hrest, by rw [heq]⟩
  · exact .inr ⟨hrest, Nat.succ_lt_succ hlt⟩

end ShrinksAt

namespace Shrinks

variable {pass next : List Char → List Char} {IsFixed IsFixedNext : List Char → Prop}

theorem eq_self_iff (h : Shrinks pass IsFixed) {text : List Char} :
    pass text = text ↔ IsFixed text := by
  rcases h text with ⟨hfixed, heq⟩ | ⟨hfixed, hlt⟩
  · exact iff_of_true heq hfixed
  · refine iff_of_false (fun heq => ?_) hfixed
    rw [heq] at hlt
    exact Nat.lt_irrefl _ hlt

theorem comp (h : Shrinks pass IsFixed) (hnext : Shrinks next IsFixedNext) :
    Shrinks (next ∘ pass) fun text => IsFixed text ∧ IsFixedNext text := by
  intro text
  rw [ShrinksAt, Function.comp_apply]
  rcases h text with ⟨hfixed, heq⟩ | ⟨hfixed, hlt⟩
  · rw [heq]
    rcases hnext text with ⟨hfixedNext, heqNext⟩ | ⟨hfixedNext, hltNext⟩
    · exact .inl ⟨⟨hfixed, hfixedNext⟩, heqNext⟩
    · exact .inr ⟨fun hboth => hfixedNext hboth.2, hltNext⟩
  · exact .inr ⟨fun hboth => hfixed hboth.1, (hnext _).length_le.trans_lt hlt⟩

/-- A pass that is repeated comes to rest, in no more rounds than the text has characters. -/
theorem exists_iterate_eq (h : Shrinks pass IsFixed) (text : List Char) :
    ∃ rounds ≤ text.length, pass^[rounds + 1] text = pass^[rounds] text := by
  induction hlength : text.length using Nat.strongRecOn generalizing text with
  | ind length ih =>
      rcases h text with ⟨-, heq⟩ | ⟨-, hlt⟩
      · exact ⟨0, Nat.zero_le _, heq⟩
      · obtain ⟨rounds, hrounds, hrest⟩ := ih _ (hlength ▸ hlt) (pass text) rfl
        exact ⟨rounds + 1, by omega, hrest⟩

end Shrinks

/-! ### Spans and escapes -/

theorem shrinks_dropSpans (d : Delimiter) : Shrinks d.dropSpans fun text => ¬ d.Encloses text := by
  intro text
  induction text using d.span_induct with
  | nil => exact .inl ⟨id, Delimiter.dropSpans_nil⟩
  | char c rest hopens ih =>
      exact ih.cons (Delimiter.dropSpans_char hopens) (not_congr (or_iff_right hopens))
  | span inside after hcut ih =>
      have hopens : d.Opens d.outer (d.inner :: (inside ++ d.inner :: d.outer :: after)) :=
        ⟨_, rfl, rfl, inside, after, by simp⟩
      refine .inr ⟨fun h => h (.inl hopens), ?_⟩
      have := ih.length_le
      rw [Delimiter.dropSpans_span hcut]
      simp only [List.length_cons, List.length_append]
      omega

theorem pair_infix_cons_iff {x y a b : Char} {rest : List Char} (h : ¬ (x = a ∧ y = b)) :
    [x, y] <:+: a :: b :: rest ↔ [x, y] <:+: b :: rest := by
  rw [List.infix_cons_iff, or_iff_right]
  simpa [List.cons_prefix_cons] using h

theorem shrinks_withoutEscapes :
    Shrinks withoutEscapes fun text => ¬ ['\\', '\\'] <:+: text ∧ ¬ ['\\', '"'] <:+: text := by
  intro text
  fun_induction withoutEscapes text with
  | case1 => exact .inl ⟨by decide, rfl⟩
  | case2 c => exact .inl ⟨by simp [List.infix_cons_iff], rfl⟩
  | case3 a b rest hab ih =>
      obtain ⟨rfl, hb⟩ := hab
      refine .inr ⟨?_, ?_⟩
      · rintro ⟨hescape, hquote⟩
        rcases hb with rfl | rfl
        · exact hescape (List.prefix_append ['\\', '\\'] rest).isInfix
        · exact hquote (List.prefix_append ['\\', '"'] rest).isInfix
      · have := ih.length_le
        rw [withoutEscapes, if_pos ⟨rfl, hb⟩]
        simp only [List.length_cons]
        omega
  | case4 a b rest hab ih =>
      refine ih.cons (by rw [withoutEscapes, if_neg hab]) (and_congr (not_congr ?_) (not_congr ?_))
      · exact pair_infix_cons_iff fun h => hab ⟨h.1.symm, .inl h.2.symm⟩
      · exact pair_infix_cons_iff fun h => hab ⟨h.1.symm, .inr h.2.symm⟩

/-! ### Literals -/

/-- A text in which every literal is an empty one. -/
inductive EmptyLiterals : List Char → Prop where
  | nil : EmptyLiterals []
  | char {c : Char} {rest : List Char} (hc : c ≠ '"') (h : EmptyLiterals rest) :
      EmptyLiterals (c :: rest)
  | quote {rest : List Char} (hread : readLiteral rest = none) (h : EmptyLiterals rest) :
      EmptyLiterals ('"' :: rest)
  | literal {after : List Char} (hread : readLiteral ('"' :: after) = some ([], after))
      (h : EmptyLiterals after) : EmptyLiterals ('"' :: '"' :: after)

theorem EmptyLiterals.of_not_mem {text : List Char} (h : '"' ∉ text) : EmptyLiterals text := by
  induction text with
  | nil => exact .nil
  | cons c rest ih =>
      rw [List.mem_cons, not_or] at h
      exact .char (Ne.symm h.1) (ih h.2)

/-- Interpolated expressions with a space between two are shorter than the literal without its quotes,
by the marks of one interpolation at least. -/
theorem length_intercalate_lt {found : List (List Char)} {inside : List Char}
    (h : Interpolates found inside) (hne : found ≠ [])
    (hfound : ∀ expression ∈ found, (withoutLiterals expression).length ≤ expression.length) :
    ([' '].intercalate (found.map withoutLiterals)).length + 2 < inside.length := by
  induction h with
  | none => exact absurd rfl hne
  | @some gap expression others text h ih =>
      have hfirst := hfound expression List.mem_cons_self
      cases others with
      | nil =>
          simp only [List.map_cons, List.map_nil, List.intercalate_singleton, List.length_append,
            List.length_cons]
          omega
      | cons other others =>
          have hrest := ih (by simp) fun expression hmem => hfound expression (.tail _ hmem)
          rw [List.map_cons] at hrest
          simp only [List.map_cons, List.intercalate_cons_cons, List.length_append,
            List.length_cons, List.length_nil]
          omega

theorem length_rendering_lt {found : List (List Char)} {inside : List Char}
    (h : Interpolates found inside) (hinside : inside ≠ [])
    (hfound : ∀ expression ∈ found, (withoutLiterals expression).length ≤ expression.length) :
    (rendering (found.map withoutLiterals)).length < inside.length + 2 := by
  have hpos := List.length_pos_iff.mpr hinside
  rw [rendering]
  split
  · simp only [List.length_cons, List.length_nil]
    omega
  · rename_i hne
    have := length_intercalate_lt h (fun hnil => hne (by rw [hnil]; rfl)) hfound
    omega

theorem EmptyLiterals.eq_nil {inside after : List Char} {found : List (List Char)}
    (h : EmptyLiterals ('"' :: (inside ++ '"' :: after)))
    (hread : readLiteral (inside ++ '"' :: after) = some (found, after)) : inside = [] := by
  generalize hrest : inside ++ '"' :: after = rest at h hread
  cases h with
  | char hc => exact absurd rfl hc
  | quote hnone => exact absurd (hnone.symm.trans hread) nofun
  | @literal next hsome =>
      obtain ⟨-, rfl⟩ := Prod.mk.inj (Option.some.inj (hsome.symm.trans hread))
      have hlength := congrArg List.length hrest
      rw [List.length_append] at hlength
      apply List.eq_nil_of_length_eq_zero
      omega

theorem emptyLiterals_quotes_iff {after : List Char}
    (hread : readLiteral ('"' :: after) = some ([], after)) :
    EmptyLiterals ('"' :: '"' :: after) ↔ EmptyLiterals after := by
  refine ⟨fun h => ?_, .literal hread⟩
  cases h with
  | char hc => exact absurd rfl hc
  | quote hnone => exact absurd (hnone.symm.trans hread) nofun
  | literal _ h => exact h

theorem shrinks_withoutLiterals : Shrinks withoutLiterals EmptyLiterals := by
  intro text
  induction text using withoutLiterals_induct with
  | nil => exact .inl ⟨.nil, rfl⟩
  | char c rest hc ih =>
      refine ih.cons (withoutLiterals_cons hc rest) ⟨fun h => ?_, .char hc⟩
      cases h with
      | char _ h => exact h
      | quote => exact absurd rfl hc
      | literal => exact absurd rfl hc
  | quote rest hread ih =>
      refine ih.cons (withoutLiterals_quote_of_none hread) ⟨fun h => ?_, .quote hread⟩
      cases h with
      | char hc => exact absurd rfl hc
      | quote _ h => exact h
      | literal hsome => exact absurd (hread.symm.trans hsome) nofun
  | literal inside found after hread hinside hfound hafter =>
      rw [ShrinksAt, withoutLiterals_quote_of_some hread]
      by_cases hempty : inside = []
      · subst hempty
        obtain rfl : found = [] :=
          List.eq_nil_iff_forall_not_mem.mpr fun expression hmem =>
            absurd (hinside.length_lt hmem) (Nat.not_lt_zero _)
        rw [List.nil_append] at hread ⊢
        rw [emptyLiterals_quotes_iff hread]
        rcases hafter with ⟨hfixed, heq⟩ | ⟨hfixed, hlt⟩
        · exact .inl ⟨hfixed, by rw [heq]; rfl⟩
        · exact .inr ⟨hfixed, Nat.succ_lt_succ (Nat.succ_lt_succ hlt)⟩
      · refine .inr ⟨fun h => hempty (h.eq_nil hread), ?_⟩
        have hrendering := length_rendering_lt hinside hempty fun expression hmem =>
          (hfound expression hmem).length_le
        have := hafter.length_le
        simp only [List.length_append, List.length_cons]
        omega

/-! ### Line comments -/

theorem withoutLineComments_cons {c : Char} {rest : List Char} (h : ¬ ['/', '/'] <+: c :: rest) :
    withoutLineComments (c :: rest) = c :: withoutLineComments rest := by
  rw [withoutLineComments, dropLineComments]
  · rfl
  · rintro back rfl rfl
    exact h (List.prefix_append ['/', '/'] back)

theorem dropLineComments_sublist (inside : Bool) (text : List Char) :
    (dropLineComments inside text).Sublist text := by
  fun_induction dropLineComments inside text with
  | case1 => exact .slnil
  | case2 rest ih => exact ih.cons_cons '\n'
  | case3 c rest _ ih => exact ih.cons c
  | case4 rest ih => exact (ih.cons '/').cons '/'
  | case5 c rest _ ih => exact ih.cons_cons c

theorem shrinks_withoutLineComments :
    Shrinks withoutLineComments fun text => ¬ ['/', '/'] <:+: text := by
  intro text
  induction text with
  | nil => exact .inl ⟨by decide, rfl⟩
  | cons c rest ih =>
      by_cases hopen : ['/', '/'] <+: c :: rest
      · obtain ⟨back, hback⟩ := hopen
        obtain ⟨rfl, rfl⟩ := List.cons.inj hback
        refine .inr ⟨fun h => h (List.prefix_append ['/', '/'] back).isInfix, ?_⟩
        exact Nat.lt_succ_of_le (Nat.le_succ_of_le (dropLineComments_sublist true back).length_le)
      · refine ih.cons (withoutLineComments_cons hopen) (not_congr ?_)
        rw [List.infix_cons_iff, or_iff_right hopen]

theorem not_prefix_dropLineComments_true {x : Char} (hx : x ≠ '\n') (text : List Char) :
    ¬ [x] <+: dropLineComments true text := by
  induction text with
  | nil => simp [dropLineComments]
  | cons c rest ih =>
      rw [dropLineComments]
      split
      · rename_i hc
        rw [hc, List.cons_prefix_cons]
        exact fun h => hx h.1
      · exact ih

/-- Without line comments, a text starts as before, or with a line feed. -/
theorem prefix_of_withoutLineComments {x : Char} (hx : x ≠ '\n') {text : List Char}
    (h : [x] <+: withoutLineComments text) : [x] <+: text := by
  cases text with
  | nil => exact h
  | cons c rest =>
      by_cases hopen : ['/', '/'] <+: c :: rest
      · obtain ⟨back, hback⟩ := hopen
        obtain ⟨rfl, rfl⟩ := List.cons.inj hback
        exact absurd h (not_prefix_dropLineComments_true hx back)
      · rw [withoutLineComments_cons hopen, List.cons_prefix_cons] at h
        exact List.cons_prefix_cons.mpr ⟨h.1, List.nil_prefix⟩

theorem not_infix_dropLineComments (inside : Bool) (text : List Char) :
    ¬ ['/', '/'] <:+: dropLineComments inside text := by
  fun_induction dropLineComments inside text with
  | case1 => decide
  | case2 rest ih =>
      rw [List.infix_cons_iff, not_or]
      exact ⟨by simp, ih⟩
  | case3 c rest _ ih => exact ih
  | case4 rest ih => exact ih
  | case5 c rest hopen ih =>
      rw [List.infix_cons_iff, not_or]
      refine ⟨fun hhead => ?_, ih⟩
      obtain ⟨rfl, hnext⟩ := List.cons_prefix_cons.mp hhead
      obtain ⟨back, hback⟩ := prefix_of_withoutLineComments (by decide) hnext
      exact hopen back rfl hback.symm

/-- Where line comments are dropped, no two characters come together but in front of a line feed. -/
theorem pair_infix_of_dropLineComments {x y : Char} (hy : y ≠ '\n') {inside : Bool}
    {text : List Char} (h : [x, y] <:+: dropLineComments inside text) : [x, y] <:+: text := by
  fun_induction dropLineComments inside text with
  | case1 => exact h
  | case2 rest ih =>
      rw [List.infix_cons_iff] at h ⊢
      refine h.imp (fun hhead => ?_) ih
      rw [List.cons_prefix_cons] at hhead ⊢
      exact ⟨hhead.1, prefix_of_withoutLineComments hy hhead.2⟩
  | case3 c rest _ ih => exact (ih h).trans (List.suffix_cons c rest).isInfix
  | case4 rest ih => exact (ih h).trans (List.suffix_append ['/', '/'] rest).isInfix
  | case5 c rest _ ih =>
      rw [List.infix_cons_iff] at h ⊢
      refine h.imp (fun hhead => ?_) ih
      rw [List.cons_prefix_cons] at hhead ⊢
      exact ⟨hhead.1, prefix_of_withoutLineComments hy hhead.2⟩

/-! ### Block comments that are no part of another -/

theorem encloses_of_dropLineComments {inside : Bool} {text : List Char}
    (h : blockComment.Encloses (dropLineComments inside text)) : blockComment.Encloses text := by
  fun_induction dropLineComments inside text with
  | case1 => exact h
  | case2 rest ih =>
      rcases h with ⟨body, hnewline, -⟩ | h
      · exact absurd hnewline (by decide)
      · exact .inr (ih h)
  | case3 c rest _ ih => exact .inr (ih h)
  | case4 rest ih => exact .inr (.inr (ih h))
  | case5 c rest _ ih =>
      rcases h with ⟨body, hc, hrest, hinfix⟩ | h
      · have hstart : ['*'] <+: withoutLineComments rest := ⟨body, hrest.symm⟩
        obtain ⟨back, rfl⟩ := prefix_of_withoutLineComments (by decide) hstart
        change withoutLineComments ('*' :: back) = _ at hrest
        rw [withoutLineComments_cons (by simp)] at hrest
        obtain ⟨-, rfl⟩ := List.cons.inj hrest
        exact .inl ⟨back, hc, rfl, pair_infix_of_dropLineComments (by decide) hinfix⟩
      · exact .inr (ih h)

theorem Delimiter.Encloses.infix_close {d : Delimiter} {text : List Char} (h : d.Encloses text) :
    [d.inner, d.outer] <:+: text := by
  induction text with
  | nil => exact h.elim
  | cons c rest ih =>
      rcases h with ⟨body, rfl, rfl, hinfix⟩ | h
      · exact hinfix.trans (List.suffix_append [d.outer, d.inner] body).isInfix
      · exact (ih h).trans (List.suffix_cons c rest).isInfix

/-- Where no slash stands in front of a block comment, dropping block comments puts no other one
together. -/
theorem not_encloses_withoutBlockComments {text : List Char} (h : ¬ ['/', '/', '*'] <:+: text) :
    ¬ blockComment.Encloses (withoutBlockComments text) := by
  rw [withoutBlockComments]
  induction text using blockComment.span_induct with
  | nil =>
      rw [Delimiter.dropSpans_nil]
      exact id
  | char c rest hopens ih =>
      rw [Delimiter.dropSpans_char hopens]
      rintro (⟨body, rfl, hrest, hinfix⟩ | hrest)
      · induction rest using blockComment.span_induct with
        | nil => simp at hrest
        | char next rest hnext =>
            -- The opening mark is in the text itself, and there nothing closes it.
            rw [Delimiter.dropSpans_char hnext] at hrest
            obtain ⟨rfl, hbody⟩ := List.cons.inj hrest
            have hclose : ¬ [blockComment.inner, blockComment.outer] <:+: rest :=
              fun hinfix => hopens ⟨rest, rfl, rfl, hinfix⟩
            have hsame : blockComment.dropSpans rest = rest :=
              (shrinks_dropSpans blockComment).eq_self_iff.mpr fun h => hclose h.infix_close
            rw [← hbody, hsame] at hinfix
            exact hclose hinfix
        | span inside after =>
            exact h (List.prefix_append ['/', '/', '*'] _).isInfix
      · exact ih (fun htail => h (htail.trans (List.suffix_cons c rest).isInfix)) hrest
  | span inside after hcut ih =>
      rw [Delimiter.dropSpans_span hcut]
      have hsuffix : after <:+ blockComment.outer :: blockComment.inner ::
          (inside ++ blockComment.inner :: blockComment.outer :: after) :=
        ⟨'/' :: '*' :: (inside ++ ['*', '/']), by simp [blockComment]⟩
      exact ih fun hafter => h (hafter.trans hsuffix.isInfix)

/-! ### All passes -/

/-- A text without a closed literal or comment, but for empty string literals. -/
structure Settled (text : List Char) : Prop where
  noRegex : ¬ regexLiteral.Encloses text
  noEscape : ¬ ['\\', '\\'] <:+: text ∧ ¬ ['\\', '"'] <:+: text
  emptyLiterals : EmptyLiterals text
  noComment : ¬ blockComment.Encloses text

theorem shrinks_codeOf : Shrinks codeOf fun text => Settled text ∧ ¬ ['/', '/'] <:+: text := by
  have h := ((((shrinks_dropSpans regexLiteral).comp shrinks_withoutEscapes).comp
    shrinks_withoutLiterals).comp (shrinks_dropSpans blockComment)).comp shrinks_withoutLineComments
  intro text
  have hfixed : (Settled text ∧ ¬ ['/', '/'] <:+: text) ↔
      ((((¬ regexLiteral.Encloses text ∧ ¬ ['\\', '\\'] <:+: text ∧ ¬ ['\\', '"'] <:+: text) ∧
        EmptyLiterals text) ∧ ¬ blockComment.Encloses text) ∧ ¬ ['/', '/'] <:+: text) :=
    ⟨fun ⟨⟨hregex, hescape, hliterals, hcomment⟩, hline⟩ =>
        ⟨⟨⟨⟨hregex, hescape⟩, hliterals⟩, hcomment⟩, hline⟩,
      fun ⟨⟨⟨⟨hregex, hescape⟩, hliterals⟩, hcomment⟩, hline⟩ =>
        ⟨⟨hregex, hescape, hliterals, hcomment⟩, hline⟩⟩
  rw [ShrinksAt, hfixed]
  exact h text

theorem not_infix_codeOf (text : List Char) : ¬ ['/', '/'] <:+: codeOf text :=
  not_infix_dropLineComments false _

/-- Without quotes, backslashes and number signs, nothing but comments is taken out. -/
theorem codeOf_of_not_mem {text : List Char} (hquote : '"' ∉ text) (hbackslash : '\\' ∉ text)
    (hsign : '#' ∉ text) : codeOf text = withoutLineComments (withoutBlockComments text) := by
  have hregex : regexLiteral.dropSpans text = text :=
    (shrinks_dropSpans regexLiteral).eq_self_iff.mpr fun h =>
      hsign (h.infix_close.subset (by simp [regexLiteral]))
  have hescapes : withoutEscapes text = text :=
    shrinks_withoutEscapes.eq_self_iff.mpr
      ⟨fun h => hbackslash (h.subset (by simp)), fun h => hbackslash (h.subset (by simp))⟩
  have hliterals : withoutLiterals text = text :=
    shrinks_withoutLiterals.eq_self_iff.mpr (.of_not_mem hquote)
  rw [codeOf, hregex, hescapes, hliterals]

theorem settled_codeOf_of_not_mem {text : List Char} (hquote : '"' ∉ text) (hbackslash : '\\' ∉ text)
    (hsign : '#' ∉ text) (hslash : ¬ ['/', '/', '*'] <:+: text) : Settled (codeOf text) := by
  rw [codeOf_of_not_mem hquote hbackslash hsign]
  have hsub : withoutLineComments (withoutBlockComments text) ⊆ text :=
    ((dropLineComments_sublist false _).trans (Delimiter.dropSpans_sublist text)).subset
  exact {
    noRegex := fun h => hsign (hsub (h.infix_close.subset (by simp [regexLiteral])))
    noEscape := ⟨fun h => hbackslash (hsub (h.subset (by simp))),
      fun h => hbackslash (hsub (h.subset (by simp)))⟩
    emptyLiterals := .of_not_mem fun h => hquote (hsub h)
    noComment := fun h =>
      not_encloses_withoutBlockComments hslash (encloses_of_dropLineComments h) }

/-- The code of a text is its own code exactly if nothing is left in it that a pass takes out. That is so
for a text without literals in which no block comment stands behind a slash. And from any text, taking
the code again and again comes to rest. -/
theorem codeOf_codeOf_eq_iff (text : List Char) :
    (codeOf (codeOf text) = codeOf text ↔ Settled (codeOf text)) ∧
      ('"' ∉ text → '\\' ∉ text → '#' ∉ text → ¬ ['/', '/', '*'] <:+: text →
        codeOf (codeOf text) = codeOf text) ∧
      ∃ rounds ≤ text.length, codeOf^[rounds + 1] text = codeOf^[rounds] text := by
  have hiff : codeOf (codeOf text) = codeOf text ↔ Settled (codeOf text) :=
    shrinks_codeOf.eq_self_iff.trans (and_iff_left (not_infix_codeOf text))
  refine ⟨hiff, ?_, shrinks_codeOf.exists_iterate_eq text⟩
  intro hquote hbackslash hsign hslash
  exact hiff.mpr (settled_codeOf_of_not_mem hquote hbackslash hsign hslash)

/-- A function with comments in and around it. -/
def commentedFunction : List Char := "/* area */ func area() /* in\nmetres */ -> Int // 2 * 3\n".toList

theorem codeOf_codeOf_commentedFunction :
    ('"' ∉ commentedFunction ∧ '\\' ∉ commentedFunction ∧ '#' ∉ commentedFunction ∧
      ¬ ['/', '/', '*'] <:+: commentedFunction) ∧
      codeOf (codeOf commentedFunction) = codeOf commentedFunction := by
  have hquote : '"' ∉ commentedFunction := by decide +kernel
  have hbackslash : '\\' ∉ commentedFunction := by decide +kernel
  have hsign : '#' ∉ commentedFunction := by decide +kernel
  have hslash : ¬ ['/', '/', '*'] <:+: commentedFunction := by decide +kernel
  exact ⟨⟨hquote, hbackslash, hsign, hslash⟩,
    (codeOf_codeOf_eq_iff commentedFunction).2.1 hquote hbackslash hsign hslash⟩

/-- A comment behind a slash, and then what makes another comment with that slash. -/
def nestedComments : List Char := "//**/* x */".toList

/-- That other comment is left by the first round and taken out by the second. -/
theorem codeOf_codeOf_nestedComments :
    codeOf nestedComments = "/* x */".toList ∧ codeOf (codeOf nestedComments) = [] := by
  decide +kernel

end Unreferenced.Source
