import Unreferenced.Source.Literal

/-! The scanner of string literals without its bound on the steps. What a scan leaves is the end of the
text that it was given, behind the mark that closed what was scanned, so every scan that another one
starts is on a shorter text. Two steps for every character are therefore enough, whatever more there
are, and the functions below, which take that many, satisfy the equations of the scanner with no bound
in them. -/

namespace Unreferenced.Source

theorem insideOf_append (inside : List Char) (c : Char) (after : List Char) :
    insideOf (inside ++ c :: after) after = inside := by
  have hlength : (inside ++ c :: after).length - after.length - 1 = inside.length := by
    rw [List.length_append, List.length_cons]
    omega
  rw [insideOf, hlength, List.take_left]

/-! ### One step -/

theorem eq_cons_cons {a b : Char} {text : List Char} (h : [a, b] <+: text) :
    ∃ body, text = a :: b :: body := by
  obtain ⟨body, rfl⟩ := h
  exact ⟨body, rfl⟩

theorem scanLiteral_quotes (steps : Nat) (body : List Char) :
    scanLiteral (steps + 1) ('"' :: '"' :: body) =
      match Text.cutAt ['"', '"', '"'] body with
      | some (inside, after) => some (interpolations steps inside.length body, after)
      | none => scanLine steps ('"' :: '"' :: body) := rfl

theorem scanLiteral_other (steps : Nat) {text : List Char} (h : ¬ ['"', '"'] <+: text) :
    scanLiteral (steps + 1) text = scanLine steps text := by
  rw [scanLiteral.eq_def]
  split
  · contradiction
  · rename_i body heq
    exact absurd ⟨body, rfl⟩ h
  · rename_i heq _
    cases heq
    rfl

theorem scanLine_cons (steps : Nat) (c : Char) (rest : List Char) :
    scanLine (steps + 1) (c :: rest) =
      if c = '\n' then none
      else if c = '"' then some ([], rest)
      else if c = '\\' then
        match rest with
        | [] => none
        | '(' :: body =>
          match scanExpression steps 1 body with
          | some after =>
            (scanLine steps after).map fun (expressions, final) =>
              (insideOf body after :: expressions, final)
          | none => scanLine steps body
        | _ :: after => scanLine steps after
      else scanLine steps rest := rfl

theorem interpolations_paren (steps length : Nat) (body : List Char) :
    interpolations (steps + 1) (length + 2) ('\\' :: '(' :: body) =
      match scanExpression steps 1 body with
      | some after =>
        if body.length - after.length ≤ length then
          insideOf body after :: interpolations steps (length - (body.length - after.length)) after
        else interpolations steps length body
      | none => interpolations steps length body := rfl

theorem interpolations_other (steps length : Nat) {c : Char} {rest : List Char}
    (h : ¬ ['\\', '('] <+: c :: rest) :
    interpolations (steps + 1) (length + 2) (c :: rest) =
      interpolations steps (length + 1) rest := by
  rw [interpolations]
  rintro body rfl rfl
  exact h ⟨body, rfl⟩

/-! ### What a scan leaves -/

/-- A text holds the given expressions in their order, each in the parentheses of an interpolation, with
any text around them. -/
inductive Interpolates : List (List Char) → List Char → Prop where
  | none (text : List Char) : Interpolates [] text
  | some (gap expression : List Char) {others : List (List Char)} {text : List Char}
      (h : Interpolates others text) :
      Interpolates (expression :: others) (gap ++ '\\' :: '(' :: expression ++ ')' :: text)

theorem Interpolates.append_left {found : List (List Char)} {text : List Char}
    (h : Interpolates found text) (front : List Char) : Interpolates found (front ++ text) := by
  cases h with
  | none => exact .none _
  | @some gap expression others rest h =>
      have hsplit : front ++ (gap ++ '\\' :: '(' :: expression ++ ')' :: rest) =
          (front ++ gap) ++ '\\' :: '(' :: expression ++ ')' :: rest := by
        simp only [List.append_assoc, List.cons_append]
      rw [hsplit]
      exact .some _ _ h

theorem Interpolates.append_right {found : List (List Char)} {text : List Char}
    (h : Interpolates found text) (back : List Char) : Interpolates found (text ++ back) := by
  induction h with
  | none => exact .none _
  | some gap expression h ih =>
      rw [List.append_assoc]
      exact .some _ _ ih

theorem Interpolates.length_lt {found : List (List Char)} {text expression : List Char}
    (h : Interpolates found text) (hmem : expression ∈ found) :
    expression.length < text.length := by
  induction h with
  | none => cases hmem
  | some gap first h ih =>
      simp only [List.length_append, List.length_cons]
      rcases List.mem_cons.mp hmem with rfl | hmem
      · omega
      · have := ih hmem
        omega

/-- With so many steps, what a scan leaves stands behind the mark that closed what was scanned, and what
it finds stands in front of that. -/
structure Closes (steps : Nat) : Prop where
  literal : ∀ text found after, scanLiteral steps text = some (found, after) →
    ∃ inside, text = inside ++ '"' :: after ∧ Interpolates found inside
  line : ∀ text found after, scanLine steps text = some (found, after) →
    ∃ inside, text = inside ++ '"' :: after ∧ Interpolates found inside
  expression : ∀ depth text after, scanExpression steps depth text = some after →
    ∃ inside, text = inside ++ ')' :: after
  interpolations : ∀ length text,
    Interpolates (interpolations steps length text) (text.take length)

section Step

variable {steps : Nat} (ih : Closes steps)

include ih

theorem closes_literal {text after : List Char} {found : List (List Char)}
    (h : scanLiteral (steps + 1) text = some (found, after)) :
    ∃ inside, text = inside ++ '"' :: after ∧ Interpolates found inside := by
  by_cases hquotes : ['"', '"'] <+: text
  · obtain ⟨body, rfl⟩ := eq_cons_cons hquotes
    rw [scanLiteral_quotes] at h
    split at h
    · rename_i inside rest hcut
      obtain ⟨rfl, rfl⟩ := Prod.mk.inj (Option.some.inj h)
      have hbody := Text.eq_of_cutAt hcut
      have htake : body.take inside.length = inside := by
        rw [hbody, List.append_assoc, List.take_left]
      have hinside := ih.interpolations inside.length body
      rw [htake] at hinside
      refine ⟨['"', '"'] ++ inside ++ ['"', '"'], by simp [hbody], ?_⟩
      exact (hinside.append_left _).append_right _
    · exact ih.line _ _ _ h
  · rw [scanLiteral_other steps hquotes] at h
    exact ih.line _ _ _ h

theorem closes_line {text after : List Char} {found : List (List Char)}
    (h : scanLine (steps + 1) text = some (found, after)) :
    ∃ inside, text = inside ++ '"' :: after ∧ Interpolates found inside := by
  cases text with
  | nil => cases h
  | cons c rest =>
      rw [scanLine_cons] at h
      split at h
      · cases h
      split at h
      · rename_i hquote
        obtain ⟨rfl, rfl⟩ := Prod.mk.inj (Option.some.inj h)
        exact ⟨[], by rw [hquote]; rfl, .none _⟩
      split at h
      · rename_i hescape
        split at h
        · cases h
        · rename_i body
          split at h
          · rename_i middle hmiddle
            obtain ⟨⟨others, final⟩, hline, heq⟩ := Option.map_eq_some_iff.mp h
            obtain ⟨rfl, rfl⟩ := Prod.mk.inj heq
            obtain ⟨expression, rfl⟩ := ih.expression _ _ _ hmiddle
            obtain ⟨inside, rfl, hinside⟩ := ih.line _ _ _ hline
            rw [insideOf_append, hescape]
            exact ⟨'\\' :: '(' :: expression ++ ')' :: inside, by simp, .some [] _ hinside⟩
          · obtain ⟨inside, rfl, hinside⟩ := ih.line _ _ _ h
            exact ⟨c :: '(' :: inside, rfl, hinside.append_left [c, '(']⟩
        · rename_i escaped rest _
          obtain ⟨inside, rfl, hinside⟩ := ih.line _ _ _ h
          exact ⟨c :: escaped :: inside, rfl, hinside.append_left [c, escaped]⟩
      · obtain ⟨inside, rfl, hinside⟩ := ih.line _ _ _ h
        exact ⟨c :: inside, rfl, hinside.append_left [c]⟩

theorem closes_expression {depth : Nat} {text after : List Char}
    (h : scanExpression (steps + 1) depth text = some after) :
    ∃ inside, text = inside ++ ')' :: after := by
  cases text with
  | nil => cases h
  | cons c rest =>
      rw [scanExpression] at h
      split at h
      · cases h
      split at h
      · split at h
        · rename_i found middle hmiddle
          obtain ⟨literal, rfl, -⟩ := ih.literal _ _ _ hmiddle
          obtain ⟨inside, rfl⟩ := ih.expression _ _ _ h
          exact ⟨c :: literal ++ '"' :: inside, by simp⟩
        · cases h
      split at h
      · obtain ⟨inside, rfl⟩ := ih.expression _ _ _ h
        exact ⟨c :: inside, rfl⟩
      split at h
      · rename_i hclose
        split at h
        · obtain rfl := Option.some.inj h
          exact ⟨[], by rw [hclose]; rfl⟩
        · obtain ⟨inside, rfl⟩ := ih.expression _ _ _ h
          exact ⟨c :: inside, rfl⟩
      · obtain ⟨inside, rfl⟩ := ih.expression _ _ _ h
        exact ⟨c :: inside, rfl⟩

theorem closes_interpolations (length : Nat) (text : List Char) :
    Interpolates (interpolations (steps + 1) length text) (text.take length) := by
  match length, text with
  | 0, _ | 1, _ | _ + 2, [] => exact .none _
  | length + 2, c :: rest =>
      by_cases hopen : ['\\', '('] <+: c :: rest
      · obtain ⟨body, hbody⟩ := eq_cons_cons hopen
        obtain ⟨rfl, rfl⟩ := List.cons.inj hbody
        rw [interpolations_paren, List.take_succ_cons, List.take_succ_cons]
        split
        · rename_i after hafter
          obtain ⟨expression, rfl⟩ := ih.expression _ _ _ hafter
          have hused : (expression ++ ')' :: after).length - after.length =
              expression.length + 1 := by
            rw [List.length_append, List.length_cons]
            omega
          rw [hused, insideOf_append]
          split
          · rename_i hle
            obtain ⟨left, rfl⟩ := Nat.exists_eq_add_of_le hle
            have htake : (expression ++ ')' :: after).take (expression.length + 1 + left) =
                expression ++ ')' :: after.take left := by
              rw [Nat.add_assoc, List.take_length_add_append, Nat.add_comm, List.take_succ_cons]
            rw [htake, Nat.add_sub_cancel_left]
            exact .some [] _ (ih.interpolations left after)
          · exact (ih.interpolations _ _).append_left ['\\', '(']
        · exact (ih.interpolations _ _).append_left ['\\', '(']
      · rw [interpolations_other steps length hopen]
        exact (ih.interpolations _ _).append_left [c]

end Step

theorem closes (steps : Nat) : Closes steps := by
  induction steps with
  | zero => exact ⟨nofun, nofun, nofun, fun _ _ => .none _⟩
  | succ steps ih =>
      exact ⟨fun _ _ _ => closes_literal ih, fun _ _ _ => closes_line ih,
        fun _ _ _ => closes_expression ih, closes_interpolations ih⟩

theorem length_lt_of_scanLiteral {steps : Nat} {text after : List Char} {found : List (List Char)}
    (h : scanLiteral steps text = some (found, after)) : after.length < text.length := by
  obtain ⟨inside, rfl, -⟩ := (closes steps).literal _ _ _ h
  simp only [List.length_append, List.length_cons]
  omega

theorem length_lt_of_scanExpression {steps depth : Nat} {text after : List Char}
    (h : scanExpression steps depth text = some after) : after.length < text.length := by
  obtain ⟨inside, rfl⟩ := (closes steps).expression _ _ _ h
  simp only [List.length_append, List.length_cons]
  omega

/-! ### Enough steps -/

/-- Two bounds that both allow two steps for every character make no difference. -/
structure StepsAgree (n m : Nat) : Prop where
  literal : ∀ text : List Char, 2 * text.length + 2 ≤ n → 2 * text.length + 2 ≤ m →
    scanLiteral n text = scanLiteral m text
  line : ∀ text : List Char, 2 * text.length + 1 ≤ n → 2 * text.length + 1 ≤ m →
    scanLine n text = scanLine m text
  expression : ∀ (depth : Nat) (text : List Char), 2 * text.length + 1 ≤ n →
    2 * text.length + 1 ≤ m → scanExpression n depth text = scanExpression m depth text
  interpolations : ∀ (length : Nat) (text : List Char), 2 * text.length + 1 ≤ n →
    2 * text.length + 1 ≤ m → interpolations n length text = interpolations m length text

section Step

variable {n m : Nat} (ih : StepsAgree n m)

include ih

theorem stepsAgree_literal (text : List Char) (hn : 2 * text.length + 2 ≤ n + 1)
    (hm : 2 * text.length + 2 ≤ m + 1) : scanLiteral (n + 1) text = scanLiteral (m + 1) text := by
  by_cases hquotes : ['"', '"'] <+: text
  · obtain ⟨body, rfl⟩ := eq_cons_cons hquotes
    simp only [List.length_cons] at hn hm
    rw [scanLiteral_quotes, scanLiteral_quotes, ih.line ('"' :: '"' :: body) (by simp; omega)
      (by simp; omega)]
    split
    · rw [ih.interpolations _ body (by omega) (by omega)]
    · rfl
  · rw [scanLiteral_other n hquotes, scanLiteral_other m hquotes,
      ih.line text (by omega) (by omega)]

theorem stepsAgree_line (text : List Char) (hn : 2 * text.length + 1 ≤ n + 1)
    (hm : 2 * text.length + 1 ≤ m + 1) : scanLine (n + 1) text = scanLine (m + 1) text := by
  cases text with
  | nil => rfl
  | cons c rest =>
      rw [List.length_cons] at hn hm
      rw [scanLine_cons, scanLine_cons, ih.line rest (by omega) (by omega)]
      split
      · rfl
      split
      · rfl
      split
      · split
        · rfl
        · rename_i body
          rw [List.length_cons] at hn hm
          rw [ih.expression 1 body (by omega) (by omega), ih.line body (by omega) (by omega)]
          split
          · rename_i after hafter
            have := length_lt_of_scanExpression hafter
            rw [ih.line after (by omega) (by omega)]
          · rfl
        · rename_i after _
          rw [List.length_cons] at hn hm
          rw [ih.line after (by omega) (by omega)]
      · rfl

theorem stepsAgree_expression (depth : Nat) (text : List Char)
    (hn : 2 * text.length + 1 ≤ n + 1) (hm : 2 * text.length + 1 ≤ m + 1) :
    scanExpression (n + 1) depth text = scanExpression (m + 1) depth text := by
  cases text with
  | nil => rfl
  | cons c rest =>
      rw [List.length_cons] at hn hm
      have hrest : ∀ depth, scanExpression n depth rest = scanExpression m depth rest :=
        fun depth => ih.expression depth rest (by omega) (by omega)
      rw [scanExpression, scanExpression, ih.literal rest (by omega) (by omega)]
      simp only [hrest]
      split
      · rfl
      split
      · split
        · rename_i found after hafter
          have := length_lt_of_scanLiteral hafter
          rw [ih.expression depth after (by omega) (by omega)]
        · rfl
      · rfl

theorem stepsAgree_interpolations (length : Nat) (text : List Char)
    (hn : 2 * text.length + 1 ≤ n + 1) (hm : 2 * text.length + 1 ≤ m + 1) :
    interpolations (n + 1) length text = interpolations (m + 1) length text := by
  match length, text with
  | 0, _ | 1, _ | _ + 2, [] => rfl
  | length + 2, c :: rest =>
      by_cases hopen : ['\\', '('] <+: c :: rest
      · obtain ⟨body, hbody⟩ := eq_cons_cons hopen
        obtain ⟨rfl, rfl⟩ := List.cons.inj hbody
        simp only [List.length_cons] at hn hm
        rw [interpolations_paren, interpolations_paren, ih.expression 1 body (by omega) (by omega),
          ih.interpolations length body (by omega) (by omega)]
        split
        · rename_i after hafter
          have := length_lt_of_scanExpression hafter
          rw [ih.interpolations _ after (by omega) (by omega)]
        · rfl
      · rw [List.length_cons] at hn hm
        rw [interpolations_other n length hopen,
          interpolations_other m length hopen,
          ih.interpolations _ rest (by omega) (by omega)]

end Step

theorem stepsAgree (n m : Nat) : StepsAgree n m := by
  induction n generalizing m with
  | zero =>
      refine ⟨?_, ?_, ?_, ?_⟩ <;> intros <;> omega
  | succ n ih =>
      cases m with
      | zero => refine ⟨?_, ?_, ?_, ?_⟩ <;> intros <;> omega
      | succ m =>
          exact ⟨stepsAgree_literal (ih m), stepsAgree_line (ih m), stepsAgree_expression (ih m),
            stepsAgree_interpolations (ih m)⟩

/-! ### No bound -/

/-- Reads a literal after its first quote. -/
def readLiteral (text : List Char) : Option (List (List Char) × List Char) :=
  scanLiteral (2 * text.length + 2) text

/-- Reads the rest of a literal that closes with one quote on the same line. -/
def readLine (text : List Char) : Option (List (List Char) × List Char) :=
  scanLine (2 * text.length + 1) text

/-- Reads an expression up to the parenthesis that closes the outermost of `depth` open ones. -/
def readExpression (depth : Nat) (text : List Char) : Option (List Char) :=
  scanExpression (2 * text.length + 1) depth text

/-- The expressions interpolated in the first `length` characters of a text. -/
def readInterpolations (length : Nat) (text : List Char) : List (List Char) :=
  interpolations (2 * text.length + 1) length text

theorem scanLiteral_eq {steps : Nat} {text : List Char} (h : 2 * text.length + 2 ≤ steps) :
    scanLiteral steps text = readLiteral text :=
  (stepsAgree _ _).literal text h (Nat.le_refl _)

theorem scanLine_eq {steps : Nat} {text : List Char} (h : 2 * text.length + 1 ≤ steps) :
    scanLine steps text = readLine text :=
  (stepsAgree _ _).line text h (Nat.le_refl _)

theorem scanExpression_eq {steps depth : Nat} {text : List Char}
    (h : 2 * text.length + 1 ≤ steps) : scanExpression steps depth text = readExpression depth text :=
  (stepsAgree _ _).expression depth text h (Nat.le_refl _)

theorem interpolations_eq {steps length : Nat} {text : List Char}
    (h : 2 * text.length + 1 ≤ steps) :
    interpolations steps length text = readInterpolations length text :=
  (stepsAgree _ _).interpolations length text h (Nat.le_refl _)

theorem readLiteral_of_triple {body inside after : List Char}
    (h : Text.cutAt ['"', '"', '"'] body = some (inside, after)) :
    readLiteral ('"' :: '"' :: body) = some (readInterpolations inside.length body, after) := by
  rw [readLiteral, scanLiteral_quotes, h]
  dsimp only
  rw [interpolations_eq (by simp only [List.length_cons]; omega)]

/-- A literal that does not open and close with three quotes closes with one. -/
theorem readLiteral_eq_readLine {text : List Char}
    (h : ∀ body, text = '"' :: '"' :: body → Text.cutAt ['"', '"', '"'] body = none) :
    readLiteral text = readLine text := by
  by_cases hquotes : ['"', '"'] <+: text
  · obtain ⟨body, rfl⟩ := eq_cons_cons hquotes
    rw [readLiteral, scanLiteral_quotes, h body rfl]
    exact scanLine_eq (Nat.le_refl _)
  · rw [readLiteral, scanLiteral_other _ hquotes]
    exact scanLine_eq (Nat.le_refl _)

theorem readLine_cons (c : Char) (rest : List Char) :
    readLine (c :: rest) =
      if c = '\n' then none
      else if c = '"' then some ([], rest)
      else if c = '\\' then
        match rest with
        | [] => none
        | '(' :: body =>
          match readExpression 1 body with
          | some after =>
            (readLine after).map fun (expressions, final) =>
              (insideOf body after :: expressions, final)
          | none => readLine body
        | _ :: after => readLine after
      else readLine rest := by
  rw [readLine, scanLine_cons, scanLine_eq (by rw [List.length_cons]; omega)]
  split
  · rfl
  split
  · rfl
  split
  · split
    · rfl
    · rename_i body
      rw [scanExpression_eq (by simp only [List.length_cons]; omega),
        scanLine_eq (by simp only [List.length_cons]; omega)]
      split
      · rename_i after hafter
        have := length_lt_of_scanExpression hafter
        rw [scanLine_eq (by simp only [List.length_cons]; omega)]
      · rfl
    · rw [scanLine_eq (by simp only [List.length_cons]; omega)]
  · rfl

theorem readLine_char {c : Char} (hnewline : c ≠ '\n') (hquote : c ≠ '"') (hescape : c ≠ '\\')
    (rest : List Char) : readLine (c :: rest) = readLine rest := by
  rw [readLine_cons, if_neg hnewline, if_neg hquote, if_neg hescape]

theorem readLine_escape {c : Char} (hc : c ≠ '(') (rest : List Char) :
    readLine ('\\' :: c :: rest) = readLine rest := by
  rw [readLine_cons, if_neg (by decide), if_neg (by decide), if_pos rfl]
  split
  · contradiction
  · rename_i heq
    exact absurd (List.cons.inj heq).1 hc
  · rename_i heq
    rw [(List.cons.inj heq).2]

theorem readLine_paren (body : List Char) :
    readLine ('\\' :: '(' :: body) =
      match readExpression 1 body with
      | some after =>
        (readLine after).map fun (expressions, final) =>
          (insideOf body after :: expressions, final)
      | none => readLine body := by
  rw [readLine_cons, if_neg (by decide), if_neg (by decide), if_pos rfl]
  rfl

theorem readExpression_cons (depth : Nat) (c : Char) (rest : List Char) :
    readExpression depth (c :: rest) =
      if c = '\n' then none
      else if c = '"' then
        match readLiteral rest with
        | some (_, after) => readExpression depth after
        | none => none
      else if c = '(' then readExpression (depth + 1) rest
      else if c = ')' then if depth ≤ 1 then some rest else readExpression (depth - 1) rest
      else readExpression depth rest := by
  have hrest : ∀ depth, scanExpression (2 * rest.length + 2) depth rest =
      readExpression depth rest := fun _ => scanExpression_eq (by omega)
  rw [readExpression, List.length_cons, scanExpression, scanLiteral_eq (by omega)]
  simp only [Nat.mul_add, hrest]
  split
  · rfl
  split
  · cases hread : readLiteral rest with
    | none => rfl
    | some read =>
        have hlength : read.2.length < rest.length := length_lt_of_scanLiteral hread
        dsimp only
        rw [scanExpression_eq (by omega)]
  · rfl

theorem readInterpolations_paren (length : Nat) (body : List Char) :
    readInterpolations (length + 2) ('\\' :: '(' :: body) =
      match readExpression 1 body with
      | some after =>
        if body.length - after.length ≤ length then
          insideOf body after :: readInterpolations (length - (body.length - after.length)) after
        else readInterpolations length body
      | none => readInterpolations length body := by
  rw [readInterpolations, List.length_cons, List.length_cons, interpolations_paren,
    scanExpression_eq (by omega), interpolations_eq (by omega)]
  cases hread : readExpression 1 body with
  | none => rfl
  | some after =>
      have := length_lt_of_scanExpression hread
      dsimp only
      rw [interpolations_eq (by omega)]

theorem readInterpolations_closed {expression after : List Char} (length : Nat)
    (h : readExpression 1 (expression ++ ')' :: after) = some after) :
    readInterpolations (length + 2) ('\\' :: '(' :: (expression ++ ')' :: after)) =
      if expression.length + 1 ≤ length then
        expression :: readInterpolations (length - (expression.length + 1)) after
      else readInterpolations length (expression ++ ')' :: after) := by
  have hused : (expression ++ ')' :: after).length - after.length = expression.length + 1 := by
    rw [List.length_append, List.length_cons]
    omega
  rw [readInterpolations_paren, h]
  dsimp only
  rw [hused, insideOf_append]

theorem readInterpolations_cons (length : Nat) {c : Char} {rest : List Char}
    (h : ¬ ['\\', '('] <+: c :: rest) :
    readInterpolations (length + 1) (c :: rest) = readInterpolations length rest := by
  cases length with
  | zero => rfl
  | succ length =>
      rw [readInterpolations, List.length_cons, interpolations_other _ length h,
        interpolations_eq (by omega)]

theorem readInterpolations_append {front : List Char} (h : '\\' ∉ front) (length : Nat)
    (back : List Char) :
    readInterpolations (front.length + length) (front ++ back) = readInterpolations length back := by
  induction front with
  | nil => rw [List.length_nil, Nat.zero_add, List.nil_append]
  | cons c front ih =>
      rw [List.mem_cons, not_or] at h
      rw [List.length_cons, Nat.add_right_comm, List.cons_append, readInterpolations_cons, ih h.2]
      simp [h.1]

/-- What a literal is replaced by, given what its expressions are replaced by: an empty literal if there
are none, and else those, one space between two. -/
def rendering (expressions : List (List Char)) : List Char :=
  if expressions = [] then ['"', '"'] else [' '].intercalate expressions

theorem replaceLiterals_agree {n m : Nat} {text : List Char} (hn : 2 * text.length + 1 ≤ n)
    (hm : 2 * text.length + 1 ≤ m) : replaceLiterals n text = replaceLiterals m text := by
  induction n generalizing m text with
  | zero => omega
  | succ n ih =>
      cases m with
      | zero => omega
      | succ m =>
          cases text with
          | nil => rfl
          | cons c rest =>
              rw [List.length_cons] at hn hm
              have hrest : replaceLiterals n rest = replaceLiterals m rest :=
                ih (by omega) (by omega)
              by_cases hquote : c = '"'
              · subst hquote
                rw [replaceLiterals, replaceLiterals, scanLiteral_eq (by omega),
                  scanLiteral_eq (by omega), hrest]
                cases hread : readLiteral rest with
                | none => rfl
                | some read =>
                    obtain ⟨found, after⟩ := read
                    obtain ⟨inside, rfl, hinside⟩ := (closes _).literal _ _ _ hread
                    rw [List.length_append, List.length_cons] at hn hm
                    have hafter : replaceLiterals n after = replaceLiterals m after :=
                      ih (by omega) (by omega)
                    have hfound : found.map (replaceLiterals n) = found.map (replaceLiterals m) := by
                      refine List.map_congr_left fun expression hmem => ?_
                      have := hinside.length_lt hmem
                      exact ih (by omega) (by omega)
                    cases found with
                    | nil => simp only [hafter]
                    | cons expression others => simp only [hafter, hfound]
              · rw [replaceLiterals, replaceLiterals, hrest] <;> exact fun h => hquote h

theorem replaceLiterals_eq {steps : Nat} {text : List Char} (h : 2 * text.length + 1 ≤ steps) :
    replaceLiterals steps text = withoutLiterals text :=
  replaceLiterals_agree h (by omega)

@[simp]
theorem withoutLiterals_nil : withoutLiterals [] = [] := rfl

theorem withoutLiterals_cons {c : Char} (hc : c ≠ '"') (rest : List Char) :
    withoutLiterals (c :: rest) = c :: withoutLiterals rest := by
  rw [withoutLiterals, replaceLiterals, replaceLiterals_eq (by rw [List.length_cons]; omega)]
  exact hc

/-- A quote that no literal starts with is kept. -/
theorem withoutLiterals_quote_of_none {rest : List Char} (h : readLiteral rest = none) :
    withoutLiterals ('"' :: rest) = '"' :: withoutLiterals rest := by
  rw [withoutLiterals, replaceLiterals, scanLiteral_eq (by rw [List.length_cons]; omega), h,
    replaceLiterals_eq (by rw [List.length_cons]; omega)]

/-- A literal is replaced by what its expressions are replaced by. -/
theorem withoutLiterals_quote_of_some {rest after : List Char} {found : List (List Char)}
    (h : readLiteral rest = some (found, after)) :
    withoutLiterals ('"' :: rest) =
      rendering (found.map withoutLiterals) ++ withoutLiterals after := by
  obtain ⟨inside, rfl, hinside⟩ := (closes _).literal _ _ _ h
  have hafter : replaceLiterals (2 * ('"' :: (inside ++ '"' :: after)).length + 1) after =
      withoutLiterals after :=
    replaceLiterals_eq (by simp only [List.length_cons, List.length_append]; omega)
  have hfound : found.map (replaceLiterals (2 * ('"' :: (inside ++ '"' :: after)).length + 1)) =
      found.map withoutLiterals := by
    refine List.map_congr_left fun expression hmem => ?_
    have := hinside.length_lt hmem
    exact replaceLiterals_eq (by simp only [List.length_cons, List.length_append]; omega)
  rw [withoutLiterals, replaceLiterals, scanLiteral_eq (by rw [List.length_cons]; omega), h]
  cases found with
  | nil =>
      simp only [hafter]
      rfl
  | cons expression others =>
      simp only [hafter, hfound]
      rfl

theorem withoutLiterals_append {front : List Char} (h : '"' ∉ front) (back : List Char) :
    withoutLiterals (front ++ back) = front ++ withoutLiterals back := by
  induction front with
  | nil => rfl
  | cons c front ih =>
      rw [List.mem_cons, not_or] at h
      rw [List.cons_append, withoutLiterals_cons (Ne.symm h.1), ih h.2]
      rfl

/-- A text without quotes has no literals. -/
theorem withoutLiterals_of_not_mem {text : List Char} (h : '"' ∉ text) :
    withoutLiterals text = text := by
  have happend := withoutLiterals_append h []
  rwa [withoutLiterals_nil, List.append_nil] at happend

/-- Induction along a text and the literals in it. What is behind a literal and the expressions in it are
texts of their own. -/
theorem withoutLiterals_induct {motive : List Char → Prop} (nil : motive [])
    (char : ∀ c rest, c ≠ '"' → motive rest → motive (c :: rest))
    (quote : ∀ rest, readLiteral rest = none → motive rest → motive ('"' :: rest))
    (literal : ∀ inside found after, readLiteral (inside ++ '"' :: after) = some (found, after) →
      Interpolates found inside → (∀ expression ∈ found, motive expression) → motive after →
      motive ('"' :: (inside ++ '"' :: after)))
    (text : List Char) : motive text := by
  induction hlength : text.length using Nat.strongRecOn generalizing text with
  | ind length ih =>
      cases text with
      | nil => exact nil
      | cons c rest =>
          have hrest : motive rest := ih _ (by simp [← hlength]) rest rfl
          by_cases hquote : c = '"'
          · subst hquote
            cases hread : readLiteral rest with
            | none => exact quote rest hread hrest
            | some read =>
                obtain ⟨found, after⟩ := read
                obtain ⟨inside, rfl, hinside⟩ := (closes _).literal _ _ _ hread
                simp only [List.length_cons, List.length_append] at hlength
                refine literal inside found after hread hinside ?_ (ih _ (by omega) after rfl)
                intro expression hmem
                have := hinside.length_lt hmem
                exact ih _ (by omega) expression rfl
          · exact char c rest hquote hrest

end Unreferenced.Source
