import Mathlib.Data.List.Infix
import Unreferenced.Proofs.LiteralScan

/-! The scanner of string literals against a grammar. A text is written as a tree of plain characters,
literals and the expressions interpolated in them, to any depth. From the text that a tree is written
as, the scanner reads each literal up to the quote that ends it in the tree, and so it replaces literals
as the tree says. Three quotes in a row open another kind of literal, which the trees do not have. -/

namespace Unreferenced.Source.Grammar

mutual

/-- What stands in a literal behind its first quote. -/
inductive Literal where
  | close
  | chunk (c : Char) (hc : c ≠ '"' ∧ c ≠ '\\' ∧ c ≠ '\n') (rest : Literal)
  | escape (c : Char) (hc : c ≠ '(') (rest : Literal)
  | interpolation (expression : Expression) (rest : Literal)

/-- Characters, expressions in parentheses, and literals. -/
inductive Expression where
  | empty
  | char (c : Char) (hc : c ≠ '"' ∧ c ≠ '(' ∧ c ≠ ')' ∧ c ≠ '\n') (rest : Expression)
  | group (inner rest : Expression)
  | literal (inner : Literal) (rest : Expression)

end

/-- Characters and literals. -/
inductive Document where
  | empty
  | char (c : Char) (hc : c ≠ '"') (rest : Document)
  | literal (inner : Literal) (rest : Document)

/-! ### The text of a tree and what becomes of it -/

mutual

/-- The text behind the first quote of a literal, up to the quote that closes it. -/
def Literal.source : Literal → List Char
  | .close => ['"']
  | .chunk c _ rest => c :: rest.source
  | .escape c _ rest => '\\' :: c :: rest.source
  | .interpolation expression rest => '\\' :: '(' :: (expression.source ++ ')' :: rest.source)

def Expression.source : Expression → List Char
  | .empty => []
  | .char c _ rest => c :: rest.source
  | .group inner rest => '(' :: (inner.source ++ ')' :: rest.source)
  | .literal inner rest => '"' :: (inner.source ++ rest.source)

end

def Document.source : Document → List Char
  | .empty => []
  | .char c _ rest => c :: rest.source
  | .literal inner rest => '"' :: (inner.source ++ rest.source)

/-- The expressions interpolated in a literal. -/
def Literal.expressions : Literal → List Expression
  | .close => []
  | .chunk _ _ rest => rest.expressions
  | .escape _ _ rest => rest.expressions
  | .interpolation expression rest => expression :: rest.expressions

mutual

/-- What the expressions interpolated in a literal are replaced by. -/
def Literal.renderings : Literal → List (List Char)
  | .close => []
  | .chunk _ _ rest => rest.renderings
  | .escape _ _ rest => rest.renderings
  | .interpolation expression rest => expression.rendered :: rest.renderings

/-- An expression with its literals replaced. -/
def Expression.rendered : Expression → List Char
  | .empty => []
  | .char c _ rest => c :: rest.rendered
  | .group inner rest => '(' :: (inner.rendered ++ ')' :: rest.rendered)
  | .literal inner rest => rendering inner.renderings ++ rest.rendered

end

def Document.rendered : Document → List Char
  | .empty => []
  | .char c _ rest => c :: rest.rendered
  | .literal inner rest => rendering inner.renderings ++ rest.rendered

/-! ### No three quotes in a row -/

/-- A text in which no three quotes stand in a row. -/
def NoTriple (text : List Char) : Prop := ¬ ['"', '"', '"'] <:+: text

theorem NoTriple.append_right {front back : List Char} (h : NoTriple (front ++ back)) :
    NoTriple back :=
  fun htriple => h (htriple.trans (List.suffix_append front back).isInfix)

theorem NoTriple.append_left {front back : List Char} (h : NoTriple (front ++ back)) :
    NoTriple front :=
  fun htriple => h (htriple.trans (List.prefix_append front back).isInfix)

theorem NoTriple.of_cons {c : Char} {text : List Char} (h : NoTriple (c :: text)) :
    NoTriple text :=
  fun htriple => h (htriple.trans (List.suffix_cons c text).isInfix)

instance (text : List Char) : Decidable (NoTriple text) := inferInstanceAs (Decidable (¬ _))

/-- Behind a quote and without three of them in a row, no literal opens with three quotes. -/
theorem NoTriple.readLiteral_eq {text : List Char} (h : NoTriple ('"' :: text)) :
    readLiteral text = readLine text := by
  apply readLiteral_eq_readLine
  rintro body rfl
  exact absurd (List.prefix_append ['"', '"', '"'] body).isInfix h

/-! ### Scanning the text of a tree -/

mutual

/-- A literal is read up to its closing quote, and its expressions are found. -/
theorem readLine_source (literal : Literal) (rest : List Char)
    (h : NoTriple (literal.source ++ rest)) :
    readLine (literal.source ++ rest) =
      some (literal.expressions.map Expression.source, rest) := by
  cases literal with
  | close =>
      change readLine ('"' :: rest) = _
      rw [readLine_cons]
      rfl
  | chunk c hc literal =>
      obtain ⟨hquote, hescape, hnewline⟩ := hc
      rw [Literal.source, List.cons_append] at h ⊢
      rw [readLine_cons, if_neg hnewline, if_neg hquote, if_neg hescape,
        readLine_source literal rest h.of_cons]
      rfl
  | escape c hc literal =>
      rw [Literal.source, List.cons_append, List.cons_append] at h ⊢
      rw [readLine_cons, if_neg (by decide), if_neg (by decide), if_pos rfl]
      split
      · contradiction
      · rename_i heq
        exact absurd (List.cons.inj heq).1 hc
      · rename_i heq
        obtain ⟨rfl, rfl⟩ := List.cons.inj heq
        exact readLine_source literal rest h.of_cons.of_cons
  | interpolation expression literal =>
      rw [Literal.source, List.cons_append, List.cons_append, List.append_assoc,
        List.cons_append] at h ⊢
      have hexpression : readExpression 1
          (expression.source ++ ')' :: (literal.source ++ rest)) =
            some (literal.source ++ rest) := by
        rw [readExpression_source expression 0 _ h.of_cons.of_cons, readExpression_cons]
        rfl
      have hliteral := readLine_source literal rest h.of_cons.of_cons.append_right.of_cons
      rw [readLine_cons, if_neg (by decide), if_neg (by decide), if_pos rfl]
      simp only [hexpression, hliteral, insideOf_append]
      rfl

/-- An expression leaves as many parentheses open as there were. -/
theorem readExpression_source (expression : Expression) (depth : Nat) (rest : List Char)
    (h : NoTriple (expression.source ++ rest)) :
    readExpression (depth + 1) (expression.source ++ rest) = readExpression (depth + 1) rest := by
  cases expression with
  | empty => rfl
  | char c hc expression =>
      obtain ⟨hquote, hopen, hclose, hnewline⟩ := hc
      rw [Expression.source, List.cons_append] at h ⊢
      rw [readExpression_cons, if_neg hnewline, if_neg hquote, if_neg hopen, if_neg hclose,
        readExpression_source expression depth rest h.of_cons]
  | group inner expression =>
      rw [Expression.source, List.cons_append, List.append_assoc, List.cons_append] at h ⊢
      rw [readExpression_cons, if_neg (by decide), if_neg (by decide), if_pos rfl,
        readExpression_source inner (depth + 1) _ h.of_cons, readExpression_cons,
        if_neg (by decide), if_neg (by decide), if_neg (by decide), if_pos rfl,
        if_neg (by omega), Nat.add_sub_cancel,
        readExpression_source expression depth rest h.of_cons.append_right.of_cons]
  | literal inner expression =>
      rw [Expression.source, List.cons_append, List.append_assoc] at h ⊢
      rw [readExpression_cons, if_neg (by decide), if_pos rfl, h.readLiteral_eq,
        readLine_source inner _ h.of_cons]
      exact readExpression_source expression depth rest h.of_cons.append_right

end

/-! ### Replacing the literals of a tree -/

/-- A literal is replaced by what its expressions are replaced by. -/
theorem withoutLiterals_literal {literal : Literal} {rest : List Char}
    (h : NoTriple ('"' :: (literal.source ++ rest)))
    (hrendered : literal.expressions.map (fun expression => withoutLiterals expression.source) =
      literal.renderings) :
    withoutLiterals ('"' :: (literal.source ++ rest)) =
      rendering literal.renderings ++ withoutLiterals rest := by
  have hread : readLiteral (literal.source ++ rest) =
      some (literal.expressions.map Expression.source, rest) := by
    rw [h.readLiteral_eq, readLine_source literal rest h.of_cons]
  rw [withoutLiterals_quote_of_some hread, List.map_map, ← hrendered]
  rfl

mutual

theorem map_withoutLiterals (literal : Literal) (h : NoTriple literal.source) :
    literal.expressions.map (fun expression => withoutLiterals expression.source) =
      literal.renderings := by
  cases literal with
  | close => rfl
  | chunk c hc literal => exact map_withoutLiterals literal h.of_cons
  | escape c hc literal => exact map_withoutLiterals literal h.of_cons.of_cons
  | interpolation expression literal =>
      have hparts := h.of_cons.of_cons
      have hexpression : withoutLiterals expression.source = expression.rendered := by
        have := withoutLiterals_expression expression [] (by
          rw [List.append_nil]
          exact hparts.append_left)
        rwa [List.append_nil, withoutLiterals_nil, List.append_nil] at this
      rw [Literal.expressions, List.map_cons, hexpression,
        map_withoutLiterals literal hparts.append_right.of_cons]
      rfl

theorem withoutLiterals_expression (expression : Expression) (rest : List Char)
    (h : NoTriple (expression.source ++ rest)) :
    withoutLiterals (expression.source ++ rest) = expression.rendered ++ withoutLiterals rest := by
  cases expression with
  | empty => rfl
  | char c hc expression =>
      rw [Expression.source, List.cons_append] at h ⊢
      rw [withoutLiterals_cons hc.1, withoutLiterals_expression expression rest h.of_cons]
      rfl
  | group inner expression =>
      rw [Expression.source, List.cons_append, List.append_assoc, List.cons_append] at h ⊢
      rw [withoutLiterals_cons (by decide), withoutLiterals_expression inner _ h.of_cons,
        withoutLiterals_cons (by decide),
        withoutLiterals_expression expression rest h.of_cons.append_right.of_cons]
      simp only [Expression.rendered, List.cons_append, List.append_assoc]
  | literal inner expression =>
      rw [Expression.source, List.cons_append, List.append_assoc] at h ⊢
      rw [withoutLiterals_literal h (map_withoutLiterals inner h.of_cons.append_left),
        withoutLiterals_expression expression rest h.of_cons.append_right, Expression.rendered,
        List.append_assoc]

end

/-- From the text of a document, the scanner makes what the document says. -/
theorem withoutLiterals_source (document : Document) (h : NoTriple document.source) :
    withoutLiterals document.source = document.rendered := by
  induction document with
  | empty => rfl
  | char c hc rest ih =>
      rw [Document.source] at h ⊢
      rw [withoutLiterals_cons hc, ih h.of_cons]
      rfl
  | literal inner rest ih =>
      rw [Document.source] at h ⊢
      rw [withoutLiterals_literal h (map_withoutLiterals inner h.of_cons.append_left),
        ih h.of_cons.append_right]
      rfl

/-- The text `f("a\(g("\"b",(x)))\n\("\(y)")") ""`. -/
def nestedLiterals : Document :=
  let call : Expression :=
    .char 'g' (by decide) (.group
      (.literal (.escape '"' (by decide) (.chunk 'b' (by decide) .close))
        (.char ',' (by decide) (.group (.char 'x' (by decide) .empty) .empty)))
      .empty)
  let inner : Expression := .literal (.interpolation (.char 'y' (by decide) .empty) .close) .empty
  .char 'f' (by decide) (.char '(' (by decide)
    (.literal
      (.chunk 'a' (by decide)
        (.interpolation call (.escape 'n' (by decide) (.interpolation inner .close))))
      (.char ')' (by decide) (.char ' ' (by decide) (.literal .close .empty)))))

theorem withoutLiterals_nestedLiterals :
    nestedLiterals.source = "f(\"a\\(g(\"\\\"b\",(x)))\\n\\(\"\\(y)\")\") \"\"".toList ∧
      NoTriple nestedLiterals.source ∧
      withoutLiterals nestedLiterals.source = "f(g(\"\",(x)) y) \"\"".toList :=
  ⟨by decide, by decide, (withoutLiterals_source nestedLiterals (by decide)).trans (by decide)⟩

end Unreferenced.Source.Grammar
