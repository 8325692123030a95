import Unreferenced.Proofs.Templates

/-! Comment lines in any context. Replacing literals does not look into the places of a template either: a
plain line neither closes a literal nor opens an interpolation, and the scanner goes past all of it or
stops in front of it. So a comment line goes together with the literal or the comment that it stands in,
or it comes through to the last pass as a line of its own, and is dropped there. -/

namespace Unreferenced.Source

open Unreferenced.Text

/-! ### Literals -/

theorem readLine_newline (rest : List Char) : readLine ('\n' :: rest) = none := by
  rw [readLine_cons, if_pos rfl]

theorem readExpression_newline (depth : Nat) (rest : List Char) :
    readExpression depth ('\n' :: rest) = none := by
  rw [readExpression_cons, if_pos rfl]

theorem readLine_plain {line back : List Char} (hline : Plain line) (hback : StartsLine back) :
    readLine (line ++ back) = none := by
  induction line with
  | nil =>
      rcases hback with rfl | ⟨rest, rfl⟩
      · rfl
      · exact readLine_newline rest
  | cons c line ih =>
      rw [List.cons_append, readLine_char, ih hline.of_cons]
      · exact fun hc => hline.newline (hc ▸ List.mem_cons_self)
      · exact fun hc => hline.quote (hc ▸ List.mem_cons_self)
      · exact fun hc => hline.backslash (hc ▸ List.mem_cons_self)

section Scan

variable (isOpen : Bool) (template : Template)

/-- Whatever plain line a template is filled with, an expression closes nowhere or at the same place. -/
def ExpressionCloses (depth : Nat) : Prop :=
  (∀ line, Plain line → readExpression depth (fill line isOpen template) = none) ∨
    ∃ inside after, template = inside ++ some ')' :: after ∧ ∀ line, Plain line →
      readExpression depth (fill line isOpen template) = some (fill line isOpen after)

/-- Whatever plain line a template is filled with, a literal closes nowhere or at the same place, and the
expressions in it are the same templates. -/
def LiteralCloses (read : List Char → Option (List (List Char) × List Char)) : Prop :=
  (∀ line, Plain line → read (fill line isOpen template) = none) ∨
    ∃ (inside : Template) (found : List Template) (after : Template),
      template = inside ++ some '"' :: after ∧ ∀ line, Plain line →
        read (fill line isOpen template) =
          some (found.map (fill line false), fill line isOpen after)

/-- What the scanner finds in a template does not depend on the plain line that it is filled with. -/
structure Scans : Prop where
  expression : ∀ depth, ExpressionCloses isOpen template depth
  line : LiteralCloses isOpen template readLine
  literal : LiteralCloses isOpen template readLiteral
  interpolations : ∀ front back, template = front ++ back → ∃ found : List Template,
    ∀ line, Plain line →
      readInterpolations (fill line false front).length (fill line isOpen template) =
        found.map (fill line false)

end Scan

section Step

variable {isOpen : Bool}

theorem ExpressionCloses.behind (front : Template) {back : Template} {depth depth' : Nat}
    (h : ExpressionCloses isOpen back depth')
    (heq : ∀ line, Plain line → readExpression depth (fill line isOpen (front ++ back)) =
      readExpression depth' (fill line isOpen back)) :
    ExpressionCloses isOpen (front ++ back) depth := by
  rcases h with hnone | ⟨inside, after, rfl, hsome⟩
  · exact .inl fun line hline => (heq line hline).trans (hnone line hline)
  · refine .inr ⟨front ++ inside, after, (List.append_assoc _ _ _).symm, fun line hline => ?_⟩
    exact (heq line hline).trans (hsome line hline)

theorem LiteralCloses.behind (front : Template) {back : Template}
    {read read' : List Char → Option (List (List Char) × List Char)}
    (h : LiteralCloses isOpen back read')
    (heq : ∀ line, Plain line →
      read (fill line isOpen (front ++ back)) = read' (fill line isOpen back)) :
    LiteralCloses isOpen (front ++ back) read := by
  rcases h with hnone | ⟨inside, found, after, rfl, hsome⟩
  · exact .inl fun line hline => (heq line hline).trans (hnone line hline)
  · refine .inr ⟨front ++ inside, found, after, (List.append_assoc _ _ _).symm, fun line hline => ?_⟩
    exact (heq line hline).trans (hsome line hline)

theorem expressionCloses {template : Template}
    (ih : ∀ shorter : Template, shorter.length < template.length → Scans isOpen shorter)
    (depth : Nat) : ExpressionCloses isOpen template depth := by
  match template with
  | [] =>
      refine .inl fun line _ => ?_
      cases isOpen with
      | false => rfl
      | true => exact readExpression_newline depth line
  | none :: rest => exact .inl fun line _ => readExpression_newline depth _
  | some c :: rest =>
      have hrest := ih rest (by simp)
      by_cases hnewline : c = '\n'
      · subst hnewline
        exact .inl fun line _ => readExpression_newline depth _
      by_cases hquote : c = '"'
      · subst hquote
        rcases hrest.literal with hnone | ⟨inside, found, after, rfl, hsome⟩
        · refine .inl fun line hline => ?_
          rw [fill_char, readExpression_cons, if_neg hnewline, if_pos rfl, hnone line hline]
        · have hafter := (ih after (by simp; omega)).expression depth
          have hclose : some '"' :: (inside ++ some '"' :: after) =
              (some '"' :: (inside ++ [some '"'])) ++ after := by simp
          rw [hclose]
          refine hafter.behind _ fun line hline => ?_
          rw [← hclose, fill_char, readExpression_cons, if_neg hnewline, if_pos rfl,
            hsome line hline]
      by_cases hopen : c = '('
      · refine (hrest.expression (depth + 1)).behind [some c] fun line _ => ?_
        rw [List.singleton_append, fill_char, readExpression_cons, if_neg hnewline, if_neg hquote,
          if_pos hopen]
      by_cases hclose : c = ')'
      · by_cases hdepth : depth ≤ 1
        · refine .inr ⟨[], rest, by rw [hclose]; rfl, fun line _ => ?_⟩
          rw [fill_char, readExpression_cons, if_neg hnewline, if_neg hquote, if_neg hopen,
            if_pos hclose, if_pos hdepth]
        · refine (hrest.expression (depth - 1)).behind [some c] fun line _ => ?_
          rw [List.singleton_append, fill_char, readExpression_cons, if_neg hnewline,
            if_neg hquote, if_neg hopen, if_pos hclose, if_neg hdepth]
      · refine (hrest.expression depth).behind [some c] fun line _ => ?_
        rw [List.singleton_append, fill_char, readExpression_cons, if_neg hnewline, if_neg hquote,
          if_neg hopen, if_neg hclose]

theorem lineCloses_paren {body : Template} (hbody : Scans isOpen body)
    (ih : ∀ shorter : Template, shorter.length < body.length → Scans isOpen shorter) :
    LiteralCloses isOpen (some '\\' :: some '(' :: body) readLine := by
  rcases hbody.expression 1 with hnone | ⟨inside, after, rfl, hsome⟩
  · refine hbody.line.behind [some '\\', some '('] fun line hline => ?_
    change readLine ('\\' :: '(' :: fill line isOpen body) = _
    rw [readLine_paren, hnone line hline]
  rcases (ih after (by simp; omega)).line with hnone | ⟨literal, found, final, rfl, hread⟩
  · refine .inl fun line hline => ?_
    rw [fill_char, fill_char, readLine_paren, hsome line hline]
    dsimp only
    rw [hnone line hline]
    rfl
  · refine .inr ⟨some '\\' :: some '(' :: (inside ++ some ')' :: literal), inside :: found, final,
      by simp, fun line hline => ?_⟩
    rw [fill_char, fill_char, readLine_paren, hsome line hline]
    dsimp only
    rw [hread line hline, fill_append line isOpen inside, fill_char, insideOf_append]
    rfl

theorem lineCloses {template : Template}
    (ih : ∀ shorter : Template, shorter.length < template.length → Scans isOpen shorter) :
    LiteralCloses isOpen template readLine := by
  match template with
  | [] =>
      refine .inl fun line _ => ?_
      cases isOpen with
      | false => rfl
      | true => exact readLine_newline line
  | none :: rest => exact .inl fun line _ => readLine_newline _
  | some c :: rest =>
      by_cases hnewline : c = '\n'
      · subst hnewline
        exact .inl fun line _ => readLine_newline _
      by_cases hquote : c = '"'
      · subst hquote
        refine .inr ⟨[], [], rest, rfl, fun line _ => ?_⟩
        rw [fill_char, readLine_cons, if_neg hnewline, if_pos rfl]
        rfl
      by_cases hescape : c = '\\'
      · subst hescape
        -- An escaped line feed does not end the literal, but then the next one does.
        match rest with
        | [] =>
            refine .inl fun line hline => ?_
            cases isOpen with
            | false => rfl
            | true =>
                change readLine ('\\' :: '\n' :: line) = none
                rw [readLine_escape (by decide), ← List.append_nil line]
                exact readLine_plain hline .nil
        | none :: rest =>
            refine .inl fun line hline => ?_
            rw [fill_char, fill_place, readLine_escape (by decide)]
            exact readLine_plain hline (.newline _)
        | some next :: body =>
            have hbody := ih body (by simp only [List.length_cons]; omega)
            by_cases hparen : next = '('
            · subst hparen
              exact lineCloses_paren hbody fun shorter hlt => ih shorter (by simp; omega)
            · refine hbody.line.behind [some '\\', some next] fun line _ => ?_
              exact readLine_escape hparen _
      · refine (ih rest (by simp)).line.behind [some c] fun line _ => ?_
        exact readLine_char hnewline hquote hescape _

theorem literalCloses {template : Template}
    (ih : ∀ shorter : Template, shorter.length < template.length → Scans isOpen shorter) :
    LiteralCloses isOpen template readLiteral := by
  -- Without three quotes on both sides, the literal is one on a line.
  have hsingle : (∀ line, Plain line → ∀ body, fill line isOpen template = '"' :: '"' :: body →
      cutAt ['"', '"', '"'] body = none) → LiteralCloses isOpen template readLiteral := by
    refine fun h => (lineCloses ih).behind [] fun line hline => ?_
    exact readLiteral_eq_readLine (h line hline)
  by_cases hquotes : [some '"', some '"'] <+: template
  · obtain ⟨body, rfl⟩ := hquotes
    have hmark : ∀ line, Plain line → ¬ ['"', '"', '"'] <:+: line :=
      fun line hline h => hline.quote (h.subset (by simp))
    rcases cutsAlike (by simp) (by decide) hmark isOpen body with
      hnone | ⟨inside, after, rfl, hsome⟩
    · refine hsingle fun line hline text htext => ?_
      obtain ⟨-, hbody⟩ := List.cons.inj htext
      obtain ⟨-, rfl⟩ := List.cons.inj hbody
      exact hnone line hline
    · have hbody := ih (inside ++ (['"', '"', '"'].map some ++ after)) (by
        simp only [List.length_append, List.length_cons]
        omega)
      obtain ⟨found, hfound⟩ := hbody.interpolations inside _ rfl
      refine .inr ⟨some '"' :: some '"' :: (inside ++ [some '"', some '"']), found, after,
        by simp, fun line hline => ?_⟩
      rw [← hfound line hline]
      exact readLiteral_of_triple (hsome line hline)
  · refine hsingle fun line hline text htext => absurd ?_ hquotes
    have hstart : ['"', '"'] <+: fill line isOpen template := ⟨text, htext.symm⟩
    exact (prefix_fill_iff (by decide)).mp hstart

theorem readInterpolations_fill_paren {front back : Template}
    (ih : ∀ shorter : Template, shorter.length ≤ (front ++ back).length → Scans isOpen shorter) :
    ∃ found : List Template, ∀ line, Plain line →
      readInterpolations ((fill line false front).length + 2)
          ('\\' :: '(' :: fill line isOpen (front ++ back)) =
        found.map (fill line false) := by
  have hbody := ih (front ++ back) (Nat.le_refl _)
  obtain ⟨others, hothers⟩ := hbody.interpolations front back rfl
  rcases hbody.expression 1 with hnone | ⟨inside, after, hsplit, hsome⟩
  · refine ⟨others, fun line hline => ?_⟩
    rw [readInterpolations_paren, hnone line hline]
    exact hothers line hline
  have hclosed : ∀ line, Plain line →
      readInterpolations ((fill line false front).length + 2)
          ('\\' :: '(' :: fill line isOpen (front ++ back)) =
        if (fill line false inside).length + 1 ≤ (fill line false front).length then
          fill line false inside :: readInterpolations
            ((fill line false front).length - ((fill line false inside).length + 1))
            (fill line isOpen after)
        else readInterpolations (fill line false front).length
          (fill line isOpen (front ++ back)) := by
    intro line hline
    have hread := hsome line hline
    rw [hsplit, fill_append, fill_char] at hread ⊢
    exact readInterpolations_closed _ hread
  by_cases hfront : inside ++ [some ')'] <+: front
  · obtain ⟨left, rfl⟩ := hfront
    obtain rfl : left ++ back = after := by simpa using hsplit
    obtain ⟨found, hfound⟩ := (ih (left ++ back) (by simp; omega)).interpolations left back rfl
    refine ⟨inside :: found, fun line hline => (hclosed line hline).trans ?_⟩
    have hlength : (fill line false (inside ++ [some ')'] ++ left)).length =
        (fill line false inside).length + 1 + (fill line false left).length := by
      simp only [fill_append, fill_char, List.length_append, List.length_cons]
      rfl
    rw [if_pos (by omega), hlength, Nat.add_sub_cancel_left, hfound line hline]
    rfl
  · -- The expression closes behind the front, so it is none of the front.
    have hall : inside ++ [some ')'] <+: front ++ back := ⟨after, by simp [hsplit]⟩
    have hbehind := (List.prefix_or_prefix_of_prefix hall
      (List.prefix_append front back)).resolve_left hfront
    rcases List.prefix_concat_iff.mp hbehind with rfl | ⟨tail, rfl⟩
    · exact absurd (List.prefix_refl _) hfront
    · refine ⟨others, fun line hline => (hclosed line hline).trans ?_⟩
      have hlength : (fill line false front).length ≤
          (fill line false (front ++ tail)).length := by simp
      rw [if_neg (by omega), hothers line hline]

theorem readInterpolations_fill {front back : Template}
    (ih : ∀ shorter : Template, shorter.length < (front ++ back).length → Scans isOpen shorter) :
    ∃ found : List Template, ∀ line, Plain line →
      readInterpolations (fill line false front).length (fill line isOpen (front ++ back)) =
        found.map (fill line false) := by
  match front with
  | [] => exact ⟨[], fun _ _ => rfl⟩
  | [some c] => exact ⟨[], fun _ _ => rfl⟩
  | none :: front =>
      obtain ⟨found, hfound⟩ := (ih (front ++ back) (by simp)).interpolations front back rfl
      refine ⟨found, fun line hline => ?_⟩
      have hplace : '\\' ∉ '\n' :: (line ++ ['\n']) := by simp [hline.backslash]
      refine Eq.trans ?_ ((readInterpolations_append hplace _ _).trans (hfound line hline))
      congr 1
      · simp
        omega
      · simp
  | some c :: next :: front =>
      by_cases hopen : c = '\\' ∧ next = some '('
      · obtain ⟨rfl, rfl⟩ := hopen
        exact readInterpolations_fill_paren fun shorter hle => ih shorter (by simp at hle ⊢; omega)
      · obtain ⟨found, hfound⟩ := (ih (next :: front ++ back) (by simp)).interpolations
          (next :: front) back rfl
        refine ⟨found, fun line hline => (readInterpolations_cons _ fun h => hopen ?_).trans
          (hfound line hline)⟩
        have hstart : ['\\', '('] <+: fill line isOpen (some c :: next :: front ++ back) := h
        simpa [eq_comm] using (prefix_fill_iff (by decide)).mp hstart

theorem scans (isOpen : Bool) (template : Template) : Scans isOpen template := by
  induction hlength : template.length using Nat.strongRecOn generalizing template with
  | ind length ih =>
      have ih : ∀ shorter : Template, shorter.length < template.length → Scans isOpen shorter :=
        fun shorter hlt => ih _ (hlength ▸ hlt) shorter rfl
      refine ⟨expressionCloses ih, lineCloses ih, literalCloses ih, ?_⟩
      rintro front back rfl
      exact readInterpolations_fill ih

end Step

theorem fill_intercalate (line : List Char) (c : Char) (templates : List Template) :
    fill line false ([some c].intercalate templates) =
      [c].intercalate (templates.map (fill line false)) := by
  induction templates with
  | nil => rfl
  | cons template templates ih =>
      cases templates with
      | nil => simp
      | cons next templates =>
          rw [List.map_cons, List.map_cons, List.intercalate_cons_cons, List.intercalate_cons_cons,
            ← List.map_cons, ← ih, fill_append, fill_append]
          rfl

theorem exists_fill_rendering (templates : List Template) :
    ∃ result, ∀ line, rendering (templates.map (fill line false)) = fill line false result := by
  cases templates with
  | nil => exact ⟨[some '"', some '"'], fun _ => rfl⟩
  | cons template templates =>
      refine ⟨[some ' '].intercalate (template :: templates), fun line => ?_⟩
      rw [fill_intercalate, rendering, if_neg (by simp)]

theorem exists_map_fill {pass : List Char → List Char} {templates : List Template}
    (h : ∀ template ∈ templates, BlindAt pass template) :
    ∃ results : List Template, ∀ line, Plain line →
      (templates.map (fill line false)).map pass = results.map (fill line false) := by
  induction templates with
  | nil => exact ⟨[], fun _ _ => rfl⟩
  | cons template templates ih =>
      obtain ⟨results, hresults⟩ := ih fun other hmem => h other (.tail _ hmem)
      obtain ⟨result, hresult⟩ := h template List.mem_cons_self false
      refine ⟨result :: results, fun line hline => ?_⟩
      rw [List.map_cons, List.map_cons, List.map_cons, hresult line hline, hresults line hline]

theorem blind_withoutLiterals : Blind withoutLiterals := by
  refine Blind.of_step withoutLiterals_nil (fun rest => withoutLiterals_cons (by decide) rest)
    (fun line back hline _ => withoutLiterals_append hline.quote back) ?_
  intro isOpen c rest ih
  by_cases hquote : c = '"'
  · subst hquote
    rcases (scans isOpen rest).literal with hnone | ⟨inside, found, after, rfl, hsome⟩
    · refine ⟨[some '"'], rest, Nat.le_refl _, fun line hline => ?_⟩
      exact withoutLiterals_quote_of_none (hnone line hline)
    have hfound : ∀ template ∈ found, BlindAt withoutLiterals template := by
      intro template hmem
      obtain ⟨text, htext, hinside⟩ := (closes _).literal _ _ _ (hsome [] .nil)
      rw [fill_append, fill_char] at htext
      obtain rfl := List.append_cancel_right htext
      have := hinside.length_lt (List.mem_map_of_mem hmem)
      refine ih template ?_
      rw [fill_append, List.length_append]
      omega
    obtain ⟨results, hresults⟩ := exists_map_fill hfound
    obtain ⟨result, hresult⟩ := exists_fill_rendering results
    refine ⟨result, after, by simp; omega, fun line hline => ?_⟩
    rw [fill_char, withoutLiterals_quote_of_some (hsome line hline), hresults line hline, hresult]
  · exact ⟨[some c], rest, Nat.le_refl _, fun line _ => withoutLiterals_cons hquote _⟩

/-! ### Comment lines -/

/-- A line comment that is a plain line. -/
structure CommentLine (line : List Char) : Prop extends Plain line where
  slashes : ['/', '/'] <+: line

theorem CommentLine.withoutLineComments_eq {line : List Char} (h : CommentLine line) :
    withoutLineComments line = [] := by
  obtain ⟨body, rfl⟩ := h.slashes
  exact dropLineComments_inside fun hmem => h.newline (.tail _ (.tail _ hmem))

theorem withoutLineComments_fill {line : List Char} (h : CommentLine line) (isOpen : Bool)
    (front : List Char) (template : Template) :
    withoutLineComments (front ++ fill line isOpen template) =
      withoutLineComments (front ++ fill [] isOpen template) := by
  have hfeed : ∀ front back, withoutLineComments (front ++ '\n' :: back) =
      withoutLineComments front ++ '\n' :: withoutLineComments back :=
    dropLineComments_append_newline false
  induction template generalizing front with
  | nil =>
      cases isOpen with
      | false => rfl
      | true =>
          rw [fill_nil, fill_nil, if_pos rfl, if_pos rfl, hfeed, hfeed, h.withoutLineComments_eq]
          rfl
  | cons place rest ih =>
      cases place with
      | none =>
          rw [fill_place, fill_place, hfeed, hfeed, hfeed, hfeed, h.withoutLineComments_eq]
          have hrest := ih []
          rw [List.nil_append, List.nil_append] at hrest
          rw [hrest]
          rfl
      | some c =>
          have hrest := ih (front ++ [c])
          rwa [List.append_assoc, List.append_assoc] at hrest

theorem blind_passes : Blind
    (blockComment.dropSpans ∘ withoutLiterals ∘ withoutEscapes ∘ regexLiteral.dropSpans) := by
  have hregex : Blind regexLiteral.dropSpans :=
    blind_dropSpans (by decide) (by decide) fun line hline h => hline.sign h.1
  have hcomment : Blind blockComment.dropSpans :=
    blind_dropSpans (by decide) (by decide) fun line hline h => hline.star h.2
  exact ((hregex.comp blind_withoutEscapes).comp blind_withoutLiterals).comp hcomment

theorem codeOf_fill {line : List Char} (h : CommentLine line) (isOpen : Bool) (template : Template) :
    codeOf (fill line isOpen template) = codeOf (fill [] isOpen template) := by
  obtain ⟨result, hresult⟩ := blind_passes template isOpen
  calc
    codeOf (fill line isOpen template) = withoutLineComments (fill line isOpen result) :=
      congrArg withoutLineComments (hresult line h.toPlain)
    _ = withoutLineComments (fill [] isOpen result) := withoutLineComments_fill h isOpen [] result
    _ = codeOf (fill [] isOpen template) := congrArg withoutLineComments (hresult [] .nil).symm

theorem codeOf_newline (text : List Char) : codeOf ('\n' :: text) = '\n' :: codeOf text := by
  rw [codeOf, Delimiter.dropSpans_newline (by decide), withoutEscapes_cons (by simp),
    withoutLiterals_cons (by decide), withoutBlockComments,
    Delimiter.dropSpans_newline (by decide)]
  exact dropLineComments_append_newline false [] _

theorem codeOf_append_commentLine {line : List Char} (h : CommentLine line) (front : List Char)
    {after : List Char} (hafter : StartsLine after) :
    codeOf (front ++ '\n' :: (line ++ after)) = codeOf (front ++ '\n' :: after) := by
  rcases hafter with rfl | ⟨back, rfl⟩
  · have hfill := codeOf_fill h true (front.map some ++ [])
    rw [fill_append, fill_append] at hfill
    simpa using hfill
  · have hfill := codeOf_fill h false (front.map some ++ none :: back.map some)
    simpa using hfill

/-- A line comment on a line of its own changes nothing in the code, whatever is around it: it may stand
in a literal, in an interpolation, in a block comment or in code, and what it stands in may be closed
behind it or never. -/
theorem codeOf_commentLine {before body after : List Char} (hbefore : EndsLine before)
    (hbody : Plain body) (hafter : StartsLine after) :
    codeOf (before ++ '/' :: '/' :: body ++ after) = codeOf (before ++ after) := by
  have hline : CommentLine ('/' :: '/' :: body) := {
    newline := by simpa using hbody.newline
    quote := by simpa using hbody.quote
    backslash := by simpa using hbody.backslash
    sign := by simpa using hbody.sign
    star := by simpa using hbody.star
    slashes := List.prefix_append ['/', '/'] body }
  rcases hbefore with rfl | ⟨front, rfl⟩
  · -- At the start of the text there is no line feed in front, so put one there.
    have hfeed := codeOf_append_commentLine hline [] hafter
    rw [List.nil_append, List.nil_append, codeOf_newline, codeOf_newline] at hfeed
    exact (List.cons.inj hfeed).2
  · have hcode := codeOf_append_commentLine hline front hafter
    simpa using hcode

/-- The start of a literal that spans lines, up to the end of a line. -/
def literalStart : List Char := "let label = \"\"\"\n\\(name)\n".toList

/-- The text of a comment. -/
def remark : List Char := " of (all) rows".toList

/-- The rest of the literal. -/
def literalEnd : List Char := "\n\\(unit)\n\"\"\"".toList

theorem codeOf_commentLine_literal :
    (EndsLine literalStart ∧ Plain remark ∧ StartsLine literalEnd) ∧
      codeOf (literalStart ++ '/' :: '/' :: remark ++ literalEnd) =
        codeOf (literalStart ++ literalEnd) ∧
      codeOf (literalStart ++ literalEnd) = "let label = name unit".toList := by
  have hstart : EndsLine literalStart := by decide +kernel
  have hremark : Plain remark := {
    newline := by decide +kernel
    quote := by decide +kernel
    backslash := by decide +kernel
    sign := by decide +kernel
    star := by decide +kernel }
  have hend : StartsLine literalEnd := by decide +kernel
  exact ⟨⟨hstart, hremark, hend⟩, codeOf_commentLine hstart hremark hend, by decide +kernel⟩

end Unreferenced.Source
