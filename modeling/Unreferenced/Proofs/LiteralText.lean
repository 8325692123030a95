import Unreferenced.Proofs.LiteralScan
import Unreferenced.Proofs.Spans

/-! The text of a literal leaves no trace in the code. A literal without interpolations is replaced by an
empty one, so what its text was cannot be told afterwards. The passes in front of that do not look into
it either: escapes in it are dropped, and the opening mark of a regular expression in front of it is
closed behind it or nowhere, for its text has no mark that could close or open one. -/

namespace Unreferenced.Source

open Unreferenced.Text

/-! ### Literals of text only -/

/-- A literal that is replaced by an empty one wherever it starts, and in which nothing opens or closes a
regular expression. -/
structure TextOnly (literal : List Char) : Prop where
  quotes : ∃ inside, literal = '"' :: (inside ++ ['"'])
  sign : '#' ∉ literal
  replaced : ∀ after, withoutLiterals (withoutEscapes (literal ++ after)) =
    '"' :: '"' :: withoutLiterals (withoutEscapes after)

theorem Delimiter.dropSpans_append_of_not_mem {d : Delimiter} {front : List Char}
    (h : d.outer ∉ front) (back : List Char) :
    d.dropSpans (front ++ back) = front ++ d.dropSpans back := by
  induction front with
  | nil => rfl
  | cons c front ih =>
      rw [List.mem_cons, not_or] at h
      rw [List.cons_append, dropSpans_char, ih h.2]
      · rfl
      · rintro ⟨_, rfl, -⟩
        exact h.1 rfl

theorem TextOnly.cutAt_append {literal : List Char} (h : TextOnly literal) (after : List Char) :
    cutAt ['/', '#'] (literal ++ after) =
      (cutAt ['/', '#'] after).map fun (inside, left) => (literal ++ inside, left) := by
  obtain ⟨⟨inside, rfl⟩, hsign, -⟩ := h
  have hinside : ¬ ['/', '#'] <:+: '"' :: inside := fun hinfix =>
    hsign (List.mem_append_left ['"'] (List.IsInfix.subset hinfix (by simp)))
  have hclose : ¬ ['/', '#'] <+: '"' :: after := by simp [List.cons_prefix_cons]
  calc cutAt ['/', '#'] ('"' :: (inside ++ ['"']) ++ after)
      = cutAt ['/', '#'] (('"' :: inside) ++ '"' :: after) := by simp
    _ = (cutAt ['/', '#'] ('"' :: after)).map fun (front, left) =>
          (('"' :: inside) ++ front, left) := Text.cutAt_append (by simp) hinside
    _ = _ := by
        rw [cutAt_cons hclose, Option.map_map]
        congr 1
        funext cut
        simp

/-- What stands between two texts is dropped with a regular expression around it or stays as it is, the
same whatever literal of text only it is. -/
def SeenAlike (before after : List Char) : Prop :=
  (∃ result, ∀ literal, TextOnly literal →
      regexLiteral.dropSpans (before ++ (literal ++ after)) = result) ∨
    ∃ front, front.Sublist before ∧ ∀ literal, TextOnly literal →
      regexLiteral.dropSpans (before ++ (literal ++ after)) =
        front ++ (literal ++ regexLiteral.dropSpans after)

theorem SeenAlike.cons {c : Char} {before after : List Char} (h : SeenAlike before after)
    (hopens : ∀ literal, TextOnly literal →
      ¬ regexLiteral.Opens c (before ++ (literal ++ after))) : SeenAlike (c :: before) after := by
  rcases h with ⟨result, hresult⟩ | ⟨front, hfront, hresult⟩
  · refine .inl ⟨c :: result, fun literal hliteral => ?_⟩
    rw [List.cons_append, Delimiter.dropSpans_char (hopens literal hliteral),
      hresult literal hliteral]
  · refine .inr ⟨c :: front, hfront.cons_cons c, fun literal hliteral => ?_⟩
    rw [List.cons_append, Delimiter.dropSpans_char (hopens literal hliteral),
      hresult literal hliteral]
    rfl

/-- The opening mark of a regular expression in front of a literal closes behind it or nowhere. -/
theorem SeenAlike.mark {body after : List Char} (hbody : ¬ ['/', '#'] <:+: body)
    (h : SeenAlike ('/' :: body) after) : SeenAlike ('#' :: '/' :: body) after := by
  have hcut : ∀ literal, TextOnly literal → cutAt ['/', '#'] (body ++ (literal ++ after)) =
      (cutAt ['/', '#'] after).map fun (inside, left) => (body ++ (literal ++ inside), left) := by
    intro literal hliteral
    obtain ⟨inside, hquotes⟩ := hliteral.quotes
    rw [Text.cutAt_append (by simp [hquotes]) hbody, hliteral.cutAt_append, Option.map_map]
    rfl
  cases hafter : cutAt ['/', '#'] after with
  | none =>
      refine h.cons ?_
      rintro literal hliteral ⟨text, -, htext, hinfix⟩
      obtain ⟨-, rfl⟩ := List.cons.inj htext
      have hnone := hcut literal hliteral
      rw [hafter, Option.map_none] at hnone
      exact cutAt_eq_none_iff.mp hnone hinfix
  | some cut =>
      obtain ⟨inside, left⟩ := cut
      refine .inl ⟨regexLiteral.dropSpans left, fun literal hliteral => ?_⟩
      have hsome := hcut literal hliteral
      rw [hafter, Option.map_some] at hsome
      exact regexLiteral.dropSpans_span hsome

theorem seenAlike (before after : List Char) : SeenAlike before after := by
  induction before using regexLiteral.span_induct with
  | nil =>
      refine .inr ⟨[], .slnil, fun literal hliteral => ?_⟩
      exact Delimiter.dropSpans_append_of_not_mem hliteral.sign after
  | char c rest hopens ih =>
      by_cases hmark : c = '#' ∧ ['/'] <+: rest
      · obtain ⟨rfl, body, rfl⟩ := hmark
        exact .mark (fun hinfix => hopens ⟨body, rfl, rfl, hinfix⟩) ih
      · refine ih.cons ?_
        rintro literal hliteral ⟨body, hc, hbody, -⟩
        obtain ⟨inside, hquotes⟩ := hliteral.quotes
        have hstart : ['/'] <+: rest ++ (literal ++ after) := ⟨body, hbody.symm⟩
        exact hmark ⟨hc, prefix_of_prefix_append (by simp [hquotes]) hstart⟩
  | span inside left hcut ih =>
      have hspan : ∀ literal, regexLiteral.dropSpans
          ('#' :: '/' :: (inside ++ '/' :: '#' :: left) ++ (literal ++ after)) =
            regexLiteral.dropSpans (left ++ (literal ++ after)) := fun literal =>
        regexLiteral.dropSpans_span (cutAt_append_right hcut (literal ++ after))
      rcases ih with ⟨result, hresult⟩ | ⟨front, hfront, hresult⟩
      · exact .inl ⟨result, fun literal hliteral =>
          (hspan literal).trans (hresult literal hliteral)⟩
      · refine .inr ⟨front, ?_, fun literal hliteral =>
          (hspan literal).trans (hresult literal hliteral)⟩
        have hbehind : left <:+ '#' :: '/' :: (inside ++ '/' :: '#' :: left) :=
          ⟨'#' :: '/' :: (inside ++ ['/', '#']), by simp⟩
        exact hfront.trans hbehind.sublist

theorem TextOnly.codeOf_eq {literal literal' : List Char} (h : TextOnly literal)
    (h' : TextOnly literal') {before : List Char} (hquote : '"' ∉ before)
    (hbackslash : '\\' ∉ before) (after : List Char) :
    codeOf (before ++ (literal ++ after)) = codeOf (before ++ (literal' ++ after)) := by
  suffices hliterals : withoutLiterals (withoutEscapes
      (regexLiteral.dropSpans (before ++ (literal ++ after)))) =
        withoutLiterals (withoutEscapes
          (regexLiteral.dropSpans (before ++ (literal' ++ after)))) by
    rw [codeOf, codeOf, hliterals]
  rcases seenAlike before after with ⟨result, hresult⟩ | ⟨front, hfront, hresult⟩
  · rw [hresult literal h, hresult literal' h']
  · have hstay : ∀ literal, TextOnly literal → withoutLiterals (withoutEscapes
        (regexLiteral.dropSpans (before ++ (literal ++ after)))) =
          front ++ '"' :: '"' :: withoutLiterals (withoutEscapes
            (regexLiteral.dropSpans after)) := by
      intro literal hliteral
      rw [hresult literal hliteral,
        withoutEscapes_append fun hmem => hbackslash (hfront.subset hmem),
        withoutLiterals_append fun hmem => hquote (hfront.subset hmem), hliteral.replaced]
    rw [hstay literal h, hstay literal' h']

/-! ### Literals on a line -/

/-- A piece of the text of a literal: a plain character, or a character behind a backslash. -/
inductive Piece where
  | plain (c : Char) (hc : c ≠ '"' ∧ c ≠ '\\' ∧ c ≠ '#' ∧ c ≠ '\n')
  | escaped (c : Char) (hc : c ≠ '(' ∧ c ≠ '#' ∧ c ≠ '\n')

def Piece.source : Piece → List Char
  | .plain c _ => [c]
  | .escaped c _ => ['\\', c]

def Piece.isPlain : Piece → Bool
  | .plain _ _ => true
  | .escaped _ _ => false

/-- Whether a piece is left when escapes are dropped. -/
def Piece.stays : Piece → Bool
  | .plain _ _ => true
  | .escaped c _ => ¬ (c = '\\' ∨ c = '"')

def wording (pieces : List Piece) : List Char := pieces.flatMap Piece.source

theorem wording_cons_append (piece : Piece) (pieces : List Piece) (back : List Char) :
    wording (piece :: pieces) ++ back = piece.source ++ (wording pieces ++ back) := by
  rw [wording, List.flatMap_cons, List.append_assoc, ← wording]

theorem sign_not_mem_wording (pieces : List Piece) : '#' ∉ wording pieces := by
  intro hmem
  obtain ⟨piece, -, hsign⟩ := List.mem_flatMap.mp hmem
  cases piece with
  | plain c hc => exact hc.2.2.1 (List.mem_singleton.mp hsign).symm
  | escaped c hc => simp [Piece.source, hc.2.1.symm] at hsign

theorem withoutEscapes_wording (pieces : List Piece) (after : List Char) :
    withoutEscapes (wording pieces ++ '"' :: after) =
      wording (pieces.filter Piece.stays) ++ '"' :: withoutEscapes after := by
  induction pieces with
  | nil => exact withoutEscapes_cons (by simp)
  | cons piece pieces ih =>
      rw [wording_cons_append, List.filter_cons]
      cases piece with
      | plain c hc =>
          have hstays : (Piece.plain c hc).stays = true := rfl
          rw [if_pos hstays, wording_cons_append, ← ih]
          exact withoutEscapes_cons fun hescape => hc.2.1 hescape.1
      | escaped c hc =>
          by_cases hdrop : c = '\\' ∨ c = '"'
          · have hstays : ¬ (Piece.escaped c hc).stays = true :=
              fun hstays => of_decide_eq_true hstays hdrop
            rw [if_neg hstays, ← ih]
            exact if_pos ⟨rfl, hdrop⟩
          · have hstays : (Piece.escaped c hc).stays = true := decide_eq_true hdrop
            have hnext : withoutEscapes (c :: (wording pieces ++ '"' :: after)) =
                c :: withoutEscapes (wording pieces ++ '"' :: after) :=
              withoutEscapes_cons fun hescape => hdrop (.inl hescape.1)
            rw [if_pos hstays, wording_cons_append, ← ih]
            exact (if_neg fun hescape => hdrop hescape.2).trans (congrArg _ hnext)

theorem readLine_wording (pieces : List Piece) (after : List Char) :
    readLine (wording pieces ++ '"' :: after) = some ([], after) := by
  induction pieces with
  | nil => rw [wording, List.flatMap_nil, List.nil_append, readLine_cons]; rfl
  | cons piece pieces ih =>
      rw [wording_cons_append]
      cases piece with
      | plain c hc => exact (readLine_char hc.2.2.2 hc.1 hc.2.1 _).trans ih
      | escaped c hc => exact (readLine_escape hc.1 _).trans ih

/-- A literal with text in it does not open with three quotes, so it closes with one. -/
theorem readLiteral_wording {pieces : List Piece} (hpieces : pieces ≠ []) (after : List Char) :
    readLiteral (wording pieces ++ '"' :: after) = some ([], after) := by
  rw [← readLine_wording pieces after]
  refine readLiteral_eq_readLine fun body hbody => ?_
  cases pieces with
  | nil => exact absurd rfl hpieces
  | cons piece pieces =>
      cases piece with
      | plain c hc => exact absurd (List.cons.inj hbody).1 hc.1
      | escaped c hc => exact absurd (List.cons.inj hbody).1 (by decide)

theorem textOnly_wording {pieces : List Piece} (hplain : pieces.any Piece.isPlain = true) :
    TextOnly ('"' :: (wording pieces ++ ['"'])) where
  quotes := ⟨wording pieces, rfl⟩
  sign := by simpa using sign_not_mem_wording pieces
  replaced after := by
    have hkept : pieces.filter Piece.stays ≠ [] := by
      obtain ⟨piece, hpiece, hisPlain⟩ := List.any_eq_true.mp hplain
      refine List.ne_nil_of_mem (List.mem_filter.mpr ⟨hpiece, ?_⟩)
      cases piece with
      | plain c hc => rfl
      | escaped c hc => cases hisPlain
    rw [List.cons_append, List.append_assoc, List.singleton_append,
      withoutEscapes_cons (by simp), withoutEscapes_wording,
      withoutLiterals_quote_of_some (readLiteral_wording hkept _)]
    rfl

/-! ### Literals that may span lines -/

/-- A text without quote, backslash and number sign. -/
def Unmarked (text : List Char) : Prop := '"' ∉ text ∧ '\\' ∉ text ∧ '#' ∉ text

instance (text : List Char) : Decidable (Unmarked text) := inferInstanceAs (Decidable (_ ∧ _))

/-- The mark at both ends of a literal that may span lines. -/
def tripleQuote : List Char := ['"', '"', '"']

theorem readLiteral_unmarked {body : List Char} (h : Unmarked body) (after : List Char) :
    readLiteral ('"' :: '"' :: (body ++ (tripleQuote ++ after))) = some ([], after) := by
  have hfirst : ¬ ['"', '"', '"'] <:+: body ++ ['"', '"', '"'].dropLast := by
    intro hinfix
    have hcount := hinfix.sublist.count_le '"'
    rw [List.count_append, List.count_eq_zero.mpr h.1] at hcount
    exact absurd hcount (by decide)
  have hnone := readInterpolations_append h.2.1 0 (tripleQuote ++ after)
  rw [Nat.add_zero] at hnone
  exact (readLiteral_of_triple (cutAt_first hfirst)).trans
    (congrArg (fun found => some (found, after)) hnone)

theorem textOnly_unmarked {body : List Char} (h : Unmarked body) :
    TextOnly (tripleQuote ++ (body ++ tripleQuote)) where
  quotes := ⟨'"' :: '"' :: (body ++ ['"', '"']), by simp [tripleQuote]⟩
  sign := by simpa [tripleQuote] using h.2.2
  replaced after := by
    have hbackslash : '\\' ∉ tripleQuote ++ (body ++ tripleQuote) := by
      simpa [tripleQuote] using h.2.1
    rw [withoutEscapes_append hbackslash, List.append_assoc, List.append_assoc]
    exact withoutLiterals_quote_of_some (readLiteral_unmarked h _)

/-- The code around a literal without interpolations does not depend on its text, whatever follows it. On
a line the text may have any escape that opens no interpolation. Between three quotes it may span
lines. -/
theorem codeOf_literal_text {before : List Char} (hquote : '"' ∉ before)
    (hbackslash : '\\' ∉ before) (after : List Char) :
    (∀ pieces pieces' : List Piece, pieces.any Piece.isPlain = true →
        pieces'.any Piece.isPlain = true →
        codeOf (before ++ '"' :: (wording pieces ++ '"' :: after)) =
          codeOf (before ++ '"' :: (wording pieces' ++ '"' :: after))) ∧
      ∀ body body' : List Char, Unmarked body → Unmarked body' →
        codeOf (before ++ tripleQuote ++ body ++ tripleQuote ++ after) =
          codeOf (before ++ tripleQuote ++ body' ++ tripleQuote ++ after) := by
  constructor
  · intro pieces pieces' hplain hplain'
    have hcode := (textOnly_wording hplain).codeOf_eq (textOnly_wording hplain') hquote hbackslash
      after
    simpa using hcode
  · intro body body' hbody hbody'
    have hcode := (textOnly_unmarked hbody).codeOf_eq (textOnly_unmarked hbody') hquote hbackslash
      after
    simpa using hcode

/-- The text of a literal that closes a comment and holds a quote. -/
def closingText : List Piece :=
  [.plain '*' (by decide), .plain '/' (by decide), .escaped '"' (by decide),
    .escaped '\\' (by decide), .plain '(' (by decide)]

/-- The text of a literal that says something. -/
def labelText : List Piece := [.plain 'o' (by decide), .plain 'k' (by decide)]

theorem codeOf_literal_text_inComment :
    ('"' ∉ "check(/* ".toList ∧ '\\' ∉ "check(/* ".toList) ∧
      codeOf ("check(/* ".toList ++ '"' :: (wording closingText ++ '"' :: " */ total)".toList)) =
        codeOf ("check(/* ".toList ++ '"' :: (wording labelText ++ '"' :: " */ total)".toList)) ∧
      codeOf ("check(/* ".toList ++ tripleQuote ++ "/*\n(*/".toList ++ tripleQuote ++
          " */ total)".toList) =
        codeOf ("check(/* ".toList ++ tripleQuote ++ [] ++ tripleQuote ++
          " */ total)".toList) ∧
      codeOf ("check(/* ".toList ++ '"' :: (wording labelText ++ '"' :: " */ total)".toList)) =
        "check( total)".toList := by
  have hquote : '"' ∉ "check(/* ".toList := by decide +kernel
  have hbackslash : '\\' ∉ "check(/* ".toList := by decide +kernel
  obtain ⟨hline, hlines⟩ := codeOf_literal_text hquote hbackslash " */ total)".toList
  exact ⟨⟨hquote, hbackslash⟩, hline closingText labelText (by decide) (by decide),
    hlines _ _ (by decide +kernel) (by decide +kernel), by decide +kernel⟩

end Unreferenced.Source
