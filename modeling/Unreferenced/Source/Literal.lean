import Unreferenced.Text.Lines

/-! String literals of source text. A literal opens with a quote and closes with one on the same line,
or it opens and closes with three quotes and may span lines. Between them a backslash with a
parenthesis opens an interpolation: an expression, up to the parenthesis that closes it. Expressions
nest parentheses and further literals to any depth. A parenthesis that nothing closes on its line opens
no interpolation, and a quote that nothing closes is ordinary text.

The functions take the text that follows an opening mark and give back what follows the closing one.
Their first argument bounds the number of steps: two for every character are always enough. -/

namespace Unreferenced.Source

/-- The part of `text` before its end `after` and before the one character in front of that. -/
def insideOf (text after : List Char) : List Char := text.take (text.length - after.length - 1)

mutual

/-- Reads a literal after its first quote: the expressions interpolated in it, and what follows it. -/
def scanLiteral : Nat → List Char → Option (List (List Char) × List Char)
  | 0, _ => none
  | steps + 1, '"' :: '"' :: body =>
    match Text.cutAt ['"', '"', '"'] body with
    | some (inside, after) => some (interpolations steps inside.length body, after)
    | none => scanLine steps ('"' :: '"' :: body)
  | steps + 1, text => scanLine steps text

/-- Reads the rest of a literal that closes with one quote on the same line. -/
def scanLine : Nat → List Char → Option (List (List Char) × List Char)
  | 0, _ => none
  | _ + 1, [] => none
  | steps + 1, c :: rest =>
    if c = '\n' then none
    else if c = '"' then some ([], rest)
    else if c = '\\' then
      match rest with
      | [] => none
      | '(' :: body =>
        match scanExpression steps 1 body with
        | some after =>
          (scanLine steps after).map fun (expressions, final) =>
            (insideOf body after :: expressions, final)
        | none => scanLine steps body
      | _ :: after => scanLine steps after
    else scanLine steps rest

/-- Reads an expression up to the parenthesis that closes the outermost of `depth` open ones, and gives
what follows that. -/
def scanExpression : Nat → Nat → List Char → Option (List Char)
  | 0, _, _ => none
  | _ + 1, _, [] => none
  | steps + 1, depth, c :: rest =>
    if c = '\n' then none
    else if c = '"' then
      match scanLiteral steps rest with
      | some (_, after) => scanExpression steps depth after
      | none => none
    else if c = '(' then scanExpression steps (depth + 1) rest
    else if c = ')' then if depth ≤ 1 then some rest else scanExpression steps (depth - 1) rest
    else scanExpression steps depth rest

/-- The expressions interpolated in the first `length` characters of a text. An expression that closes
only behind them is none. -/
def interpolations : Nat → Nat → List Char → List (List Char)
  | 0, _, _ => []
  | _ + 1, 0, _ => []
  | _ + 1, 1, _ => []
  | _ + 1, _ + 2, [] => []
  | steps + 1, length + 2, '\\' :: '(' :: body =>
    match scanExpression steps 1 body with
    | some after =>
      let used := body.length - after.length
      if used ≤ length then insideOf body after :: interpolations steps (length - used) after
      else interpolations steps length body
    | none => interpolations steps length body
  | steps + 1, length + 2, _ :: rest => interpolations steps (length + 1) rest

end

/-- Replaces literals, in a bounded number of steps. -/
def replaceLiterals : Nat → List Char → List Char
  | 0, _ => []
  | _ + 1, [] => []
  | steps + 1, '"' :: rest =>
    match scanLiteral steps rest with
    | none => '"' :: replaceLiterals steps rest
    | some ([], after) => '"' :: '"' :: replaceLiterals steps after
    | some (expressions, after) =>
      List.intercalate [' '] (expressions.map (replaceLiterals steps)) ++ replaceLiterals steps after
  | steps + 1, c :: rest => c :: replaceLiterals steps rest

/-- The text with every string literal replaced by an empty one or, if it interpolates expressions, by
those, one space between two. Literals in an expression are replaced as well. -/
def withoutLiterals (text : List Char) : List Char := replaceLiterals (2 * text.length + 2) text

end Unreferenced.Source
