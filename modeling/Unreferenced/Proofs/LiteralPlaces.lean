import Unreferenced.Proofs.LiteralScan
import Unreferenced.Proofs.Spans

/-! The scanner of string literals by places in the text. What a scan leaves is the text from some place
on, so instead of the rest of a text a scan can be said to start at a place and to end at one. Read so,
the scanner follows equations of its own, in which every place on the right is further on. A literal ends
behind its quote and an expression at its parenthesis, and the expressions of a literal are parts of the
text between its quotes, one behind the other. -/

namespace Unreferenced.Source

variable {text : List Char}

/-! ### What stands at a place -/

theorem drop_of_getElem? {c : Char} {place : Nat} (h : text[place]? = some c) :
    text.drop place = c :: text.drop (place + 1) := by
  obtain ⟨hlt, rfl⟩ := List.getElem?_eq_some_iff.mp h
  exact List.drop_eq_getElem_cons hlt

theorem drop_of_getElem?_none {place : Nat} (h : text[place]? = none) : text.drop place = [] :=
  List.drop_eq_nil_iff.mpr (List.getElem?_eq_none_iff.mp h)

theorem lt_length_of_getElem? {c : Char} {place : Nat} (h : text[place]? = some c) :
    place < text.length := (List.getElem?_eq_some_iff.mp h).1

/-- What two marks at a place leave of the text is the text behind them. -/
theorem drop_of_marks {a b : Char} {place : Nat} (h : [a, b] <+: text.drop place) :
    text.drop place = a :: b :: text.drop (place + 2) := by
  obtain ⟨body, hbody⟩ := h
  rw [← List.drop_drop, ← hbody]
  rfl

/-- The place of a mark, from the part of the text in front of it. -/
theorem place_of_drop {first : Nat} {inside after : List Char} {mark : Char}
    (h : text.drop first = inside ++ mark :: after) :
    text[first + inside.length]? = some mark ∧
      after = text.drop (first + inside.length + 1) ∧
      text.length = first + inside.length + 1 + after.length := by
  have hmark : text[first + inside.length]? = some mark := by
    rw [← List.getElem?_drop, h, List.getElem?_append_right (Nat.le_refl _), Nat.sub_self]
    rfl
  have hlength := congrArg List.length h
  simp only [List.length_drop, List.length_append, List.length_cons] at hlength
  have hlt := lt_length_of_getElem? hmark
  refine ⟨hmark, ?_, by omega⟩
  rw [Nat.add_assoc, ← List.drop_drop, h, List.drop_length_add_append]
  rfl

/-- The first place, from a place on, at which a part of the text occurs. -/
def nextPlace (part text : List Char) (place : Nat) : Option Nat :=
  (Text.cutAt part (text.drop place)).map fun (before, _) => place + before.length

theorem nextPlace_bounds {part : List Char} (hne : part ≠ []) {place close : Nat}
    (h : nextPlace part text place = some close) : place ≤ close ∧ close + part.length ≤ text.length := by
  obtain ⟨⟨before, after⟩, hcut, rfl⟩ := Option.map_eq_some_iff.mp h
  have hlength := congrArg List.length (Text.eq_of_cutAt hcut)
  have hpos := List.length_pos_iff.mpr hne
  simp only [List.length_drop, List.length_append] at hlength
  dsimp only
  omega

/-! ### Scanning from a place -/

/-- Where the literal ends that opens at a place, and the expressions interpolated in it. -/
def literalAt (text : List Char) (start : Nat) : Option (Nat × List (List Char)) :=
  (readLiteral (text.drop (start + 1))).map fun (found, after) => (text.length - after.length, found)

/-- Where the rest of a literal that closes with one quote ends, and the expressions in it. -/
def lineAt (text : List Char) (index : Nat) : Option (Nat × List (List Char)) :=
  (readLine (text.drop index)).map fun (found, after) => (text.length - after.length, found)

/-- Where the parenthesis stands that closes the outermost of `depth` open ones. -/
def expressionAt (text : List Char) (depth index : Nat) : Option Nat :=
  (readExpression depth (text.drop index)).map fun after => text.length - (after.length + 1)

/-- The expressions interpolated between two places. -/
def interpolationsAt (text : List Char) (index stop : Nat) : List (List Char) :=
  readInterpolations (stop - index) (text.drop index)

theorem readLiteral_of_literalAt {start stop : Nat} {found : List (List Char)}
    (h : literalAt text start = some (stop, found)) :
    ∃ inside, text.drop (start + 1) = inside ++ '"' :: text.drop stop ∧
      stop = start + 1 + inside.length + 1 ∧ stop ≤ text.length ∧ Interpolates found inside ∧
      readLiteral (text.drop (start + 1)) = some (found, text.drop stop) := by
  obtain ⟨⟨found, after⟩, hread, heq⟩ := Option.map_eq_some_iff.mp h
  obtain ⟨rfl, rfl⟩ := Prod.mk.inj heq
  obtain ⟨inside, hinside, hfound⟩ := (closes _).literal _ _ _ hread
  obtain ⟨-, hafter, hlength⟩ := place_of_drop hinside
  have hstop : text.length - after.length = start + 1 + inside.length + 1 := by omega
  rw [hstop, ← hafter]
  exact ⟨inside, hinside, rfl, by omega, hfound, hread⟩

theorem readExpression_of_expressionAt {depth index close : Nat}
    (h : expressionAt text depth index = some close) :
    (index ≤ close ∧ close < text.length ∧ text[close]? = some ')') ∧
      readExpression depth (text.drop index) = some (text.drop (close + 1)) := by
  obtain ⟨after, hread, rfl⟩ := Option.map_eq_some_iff.mp h
  obtain ⟨inside, hinside⟩ := (closes _).expression _ _ _ hread
  obtain ⟨hmark, hafter, hlength⟩ := place_of_drop hinside
  have hclose : text.length - (after.length + 1) = index + inside.length := by omega
  rw [hclose, ← hafter]
  exact ⟨⟨by omega, by omega, hmark⟩, hread⟩

/-- Reading leaves what stands behind the place where it ends. -/
theorem readLiteral_drop (text : List Char) (start : Nat) :
    readLiteral (text.drop (start + 1)) =
      (literalAt text start).map fun (stop, found) => (found, text.drop stop) := by
  cases hat : literalAt text start with
  | none => exact Option.map_eq_none_iff.mp hat
  | some literal =>
      obtain ⟨-, -, -, -, -, hread⟩ := readLiteral_of_literalAt hat
      exact hread

theorem readExpression_drop (text : List Char) (depth index : Nat) :
    readExpression depth (text.drop index) =
      (expressionAt text depth index).map fun close => text.drop (close + 1) := by
  cases hat : expressionAt text depth index with
  | none => exact Option.map_eq_none_iff.mp hat
  | some close => exact (readExpression_of_expressionAt hat).2

theorem insideOf_drop {index close : Nat} (hle : index ≤ close) (hlt : close < text.length) :
    insideOf (text.drop index) (text.drop (close + 1)) = text.extract index close := by
  rw [insideOf, List.length_drop, List.length_drop]
  congr 1
  omega

theorem literalAt_eq {start : Nat} (h : text[start]? = some '"') :
    literalAt text start =
      if ['"', '"', '"'] <+: text.drop start then
        match nextPlace ['"', '"', '"'] text (start + 3) with
        | some close => some (close + 3, interpolationsAt text (start + 3) close)
        | none => lineAt text (start + 1)
      else lineAt text (start + 1) := by
  have hdrop := drop_of_getElem? h
  split
  · rename_i htriple
    rw [hdrop, List.cons_prefix_cons] at htriple
    have hbody := drop_of_marks htriple.2
    rw [Nat.add_assoc] at hbody
    rw [nextPlace]
    cases hcut : Text.cutAt ['"', '"', '"'] (text.drop (start + 3)) with
    | none =>
        have hline : readLiteral (text.drop (start + 1)) = readLine (text.drop (start + 1)) :=
          readLiteral_eq_readLine fun body h => by
            rw [hbody] at h
            obtain ⟨-, rfl⟩ := List.cons.inj (List.cons.inj h).2
            exact hcut
        rw [literalAt, hline]
        rfl
    | some cut =>
        obtain ⟨inside, after⟩ := cut
        have hinside : text.drop (start + 3) = inside ++ '"' :: '"' :: '"' :: after := by
          rw [Text.eq_of_cutAt hcut, List.append_assoc]
          rfl
        obtain ⟨-, -, hlength⟩ := place_of_drop hinside
        simp only [List.length_cons] at hlength
        have hstop : text.length - after.length = start + 3 + inside.length + 3 := by omega
        rw [literalAt, hbody, readLiteral_of_triple hcut]
        dsimp only [Option.map_some]
        rw [hstop, interpolationsAt, Nat.add_sub_cancel_left]
  · rename_i htriple
    have hline : readLiteral (text.drop (start + 1)) = readLine (text.drop (start + 1)) :=
      readLiteral_eq_readLine fun body h => by
        rw [hdrop, h] at htriple
        exact absurd (List.prefix_append ['"', '"', '"'] body) htriple
    rw [literalAt, hline]
    rfl

theorem lineAt_eq (text : List Char) (index : Nat) :
    lineAt text index =
      match text[index]? with
      | none => none
      | some c =>
        if c = '\n' then none
        else if c = '"' then some (index + 1, [])
        else if c = '\\' then
          if text[index + 1]? = some '(' then
            match expressionAt text 1 (index + 2) with
            | some close =>
              (lineAt text (close + 1)).map fun (stop, found) =>
                (stop, text.extract (index + 2) close :: found)
            | none => lineAt text (index + 2)
          else lineAt text (index + 2)
        else lineAt text (index + 1) := by
  cases hc : text[index]? with
  | none => rw [lineAt, drop_of_getElem?_none hc]; rfl
  | some c =>
      have hlt := lt_length_of_getElem? hc
      rw [lineAt, drop_of_getElem? hc]
      dsimp only
      by_cases hnewline : c = '\n'
      · rw [readLine_cons, if_pos hnewline, if_pos hnewline]
        rfl
      by_cases hquote : c = '"'
      · rw [readLine_cons, if_neg hnewline, if_neg hnewline, if_pos hquote, if_pos hquote,
          Option.map_some, List.length_drop, Nat.sub_sub_self hlt]
      by_cases hescape : c = '\\'
      · subst hescape
        rw [if_neg hnewline, if_neg hquote, if_pos rfl]
        split
        · rename_i hparen
          rw [drop_of_getElem? hparen, readLine_paren, readExpression_drop]
          cases hclose : expressionAt text 1 (index + 2) with
          | none => rfl
          | some close =>
              obtain ⟨⟨hle, hlt, -⟩, -⟩ := readExpression_of_expressionAt hclose
              dsimp only [Option.map_some]
              rw [insideOf_drop hle hlt, Option.map_map, lineAt, Option.map_map]
              rfl
        · rename_i hparen
          cases hnext : text[index + 1]? with
          | none =>
              rw [drop_of_getElem?_none hnext, lineAt, ← List.drop_drop (i := 1) (j := index + 1),
                drop_of_getElem?_none hnext]
              rfl
          | some next =>
              rw [hnext] at hparen
              rw [drop_of_getElem? hnext, readLine_escape fun h => hparen (by rw [h])]
              rfl
      · rw [readLine_char hnewline hquote hescape, if_neg hnewline, if_neg hquote, if_neg hescape]
        rfl

theorem expressionAt_eq (text : List Char) (depth index : Nat) :
    expressionAt text depth index =
      match text[index]? with
      | none => none
      | some c =>
        if c = '\n' then none
        else if c = '"' then
          match literalAt text index with
          | some (stop, _) => expressionAt text depth stop
          | none => none
        else if c = '(' then expressionAt text (depth + 1) (index + 1)
        else if c = ')' then
          if depth ≤ 1 then some index else expressionAt text (depth - 1) (index + 1)
        else expressionAt text depth (index + 1) := by
  cases hc : text[index]? with
  | none => rw [expressionAt, drop_of_getElem?_none hc]; rfl
  | some c =>
      have hlt := lt_length_of_getElem? hc
      rw [expressionAt, drop_of_getElem? hc, readExpression_cons, readLiteral_drop]
      dsimp only
      split
      · rfl
      split
      · cases literalAt text index <;> rfl
      split
      · rfl
      split
      · split
        · rw [Option.map_some, List.length_drop]
          congr 1
          omega
        · rfl
      · rfl

theorem interpolationsAt_eq {stop : Nat} (hstop : stop ≤ text.length) (index : Nat) :
    interpolationsAt text index stop =
      if index + 2 ≤ stop then
        if ['\\', '('] <+: text.drop index then
          match expressionAt text 1 (index + 2) with
          | some close =>
            if close < stop then
              text.extract (index + 2) close :: interpolationsAt text (close + 1) stop
            else interpolationsAt text (index + 2) stop
          | none => interpolationsAt text (index + 2) stop
        else interpolationsAt text (index + 1) stop
      else [] := by
  by_cases hroom : index + 2 ≤ stop
  · obtain ⟨length, hlength⟩ := Nat.exists_eq_add_of_le hroom
    have hleft : stop - index = length + 2 := by omega
    have hnext : stop - (index + 2) = length := by omega
    rw [if_pos hroom, interpolationsAt, hleft]
    split
    · rename_i hopen
      rw [drop_of_marks hopen, readInterpolations_paren, readExpression_drop]
      cases hclose : expressionAt text 1 (index + 2) with
      | none =>
          dsimp only [Option.map_none]
          rw [interpolationsAt, hnext]
      | some close =>
          obtain ⟨⟨hle, hlt, -⟩, -⟩ := readExpression_of_expressionAt hclose
          have hused : (text.drop (index + 2)).length - (text.drop (close + 1)).length =
              close + 1 - (index + 2) := by
            rw [List.length_drop, List.length_drop]
            omega
          have hfits : close + 1 - (index + 2) ≤ length ↔ close < stop := by omega
          have hrest : length - (close + 1 - (index + 2)) = stop - (close + 1) := by omega
          dsimp only [Option.map_some]
          rw [hused, insideOf_drop hle hlt, hrest, interpolationsAt, interpolationsAt, hnext]
          simp only [hfits]
    · rename_i hopen
      have hlt : index < text.length := by omega
      rw [List.drop_eq_getElem_cons hlt] at hopen ⊢
      rw [readInterpolations_cons _ hopen, interpolationsAt]
      congr 1
      omega
  · rw [if_neg hroom, interpolationsAt]
    rcases (by omega : stop - index = 0 ∨ stop - index = 1) with hleft | hleft <;>
      rw [hleft] <;> rfl

/-! ### Where the expressions of a literal stand -/

/-- Parts of a text, each from one place to another, are expressions interpolated between two places: in
front of each stand the marks that open an interpolation, behind it the parenthesis that closes it, and
the next one comes after that. -/
structure InterpolatedBetween (text : List Char) (first last : Nat) (spans : List (Nat × Nat)) :
    Prop where
  opened : ∀ span ∈ spans, first + 2 ≤ span.1 ∧ text.extract (span.1 - 2) span.1 = ['\\', '(']
  closed : ∀ span ∈ spans, span.1 ≤ span.2 ∧ span.2 < last ∧ text[span.2]? = some ')'
  apart : spans.Pairwise fun span next => span.2 + 2 < next.1

theorem Interpolates.exists_spans {found : List (List Char)} {inside : List Char}
    (h : Interpolates found inside) {first : Nat} {back : List Char}
    (hdrop : text.drop first = inside ++ back) :
    ∃ spans : List (Nat × Nat), found = spans.map (fun span => text.extract span.1 span.2) ∧
      InterpolatedBetween text first (first + inside.length) spans := by
  induction h generalizing first with
  | none => exact ⟨[], rfl, by simp, by simp, .nil⟩
  | @some gap expression others rest h ih =>
      have hmarks : text.drop (first + gap.length) =
          '\\' :: '(' :: (expression ++ ')' :: (rest ++ back)) := by
        rw [← List.drop_drop, hdrop]
        simp
      have hexpression : text.drop (first + gap.length + 2) = expression ++ ')' :: (rest ++ back) := by
        rw [← List.drop_drop, hmarks]
        rfl
      obtain ⟨hclose, hrest, -⟩ := place_of_drop hexpression
      obtain ⟨spans, hfound, hspans⟩ := ih hrest.symm
      have hlength : first + (gap ++ '\\' :: '(' :: expression ++ ')' :: rest).length =
          first + gap.length + 2 + expression.length + 1 + rest.length := by
        simp only [List.length_append, List.length_cons]
        omega
      rw [hlength]
      refine ⟨(first + gap.length + 2, first + gap.length + 2 + expression.length) :: spans, ?_, ?_⟩
      · rw [List.map_cons, ← hfound, List.extract_eq_take_drop, hexpression, Nat.add_sub_cancel_left,
          List.take_left]
      · constructor
        · rw [List.forall_mem_cons]
          refine ⟨⟨by dsimp only; omega, ?_⟩, fun span hspan => ?_⟩
          · rw [List.extract_eq_take_drop, Nat.add_sub_cancel, hmarks, Nat.add_sub_cancel_left]
            rfl
          · obtain ⟨hle, hmarks⟩ := hspans.opened span hspan
            exact ⟨by omega, hmarks⟩
        · rw [List.forall_mem_cons]
          exact ⟨⟨Nat.le_add_right _ _, by dsimp only; omega, hclose⟩, hspans.closed⟩
        · refine List.pairwise_cons.mpr ⟨fun span hspan => ?_, hspans.apart⟩
          have := (hspans.opened span hspan).1
          dsimp only
          omega

/-- A literal ends behind a quote, and its expressions stand between its quotes. -/
theorem literalAt_bounds {start stop : Nat} {found : List (List Char)}
    (h : literalAt text start = some (stop, found)) :
    (start + 2 ≤ stop ∧ stop ≤ text.length ∧ text[stop - 1]? = some '"') ∧
      ∃ spans : List (Nat × Nat), found = spans.map (fun span => text.extract span.1 span.2) ∧
        InterpolatedBetween text (start + 1) (stop - 1) spans := by
  obtain ⟨inside, hinside, rfl, hle, hfound, -⟩ := readLiteral_of_literalAt h
  rw [Nat.add_sub_cancel]
  exact ⟨⟨by omega, hle, (place_of_drop hinside).1⟩, hfound.exists_spans hinside⟩

end Unreferenced.Source
