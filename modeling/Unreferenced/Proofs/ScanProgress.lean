import Unreferenced.Proofs.LiteralPlaces

/-! Scanning literals, watched. The scanner is run place by place in a text, and each place that a call
or a round of a loop comes to is written down. A watched scan that runs out of steps has no outcome at
all. With two steps for every character it has one, which is that of the scanner, and every place that
it comes to is further on than the one that it started from. So no scan goes round in a circle, and
replacing literals, which goes on behind each of them and starts again on texts that are shorter, comes
to an end on every text. -/

namespace Unreferenced.Source

/-! ### Watching -/

section Watch

variable {κ α β : Type}

/-- A computation that writes down the places that it comes to, and may run out of steps. -/
abbrev Watch (κ α : Type) := StateT (List κ) Option α

def comeTo (place : κ) : Watch κ Unit := modify (· ++ [place])

/-- A computation ends with an outcome and comes only to places with a property. -/
def Ends (watched : Watch κ α) (outcome : α) (P : κ → Prop) : Prop :=
  ∃ visited, (∀ log, watched.run log = some (outcome, log ++ visited)) ∧ ∀ place ∈ visited, P place

/-- A computation comes to a place first. Then it ends with an outcome and comes only to places with a
property. -/
def EndsFrom (place : κ) (watched : Watch κ α) (outcome : α) (P : κ → Prop) : Prop :=
  ∃ visited, (∀ log, watched.run log = some (outcome, log ++ place :: visited)) ∧
    ∀ next ∈ visited, P next

variable {watched : Watch κ α} {outcome : α} {P Q : κ → Prop}

theorem Ends.pure (outcome : α) : Ends (pure outcome) outcome P :=
  ⟨[], fun log => by rw [List.append_nil]; rfl, by simp⟩

theorem Ends.bind {next : α → Watch κ β} {final : β} (h : Ends watched outcome P)
    (hnext : Ends (next outcome) final P) : Ends (watched >>= next) final P := by
  obtain ⟨visited, hrun, hvisited⟩ := h
  obtain ⟨others, hrunNext, hothers⟩ := hnext
  refine ⟨visited ++ others, fun log => ?_, ?_⟩
  · rw [StateT.run_bind, hrun, ← List.append_assoc]
    exact hrunNext _
  · intro place hplace
    exact (List.mem_append.mp hplace).elim (hvisited place) (hothers place)

theorem Ends.lift {computation : Option α} (h : computation = some outcome) :
    Ends (StateT.lift computation : Watch κ α) outcome P :=
  ⟨[], fun log => by rw [h, List.append_nil]; rfl, by simp⟩

theorem Ends.mapM {step : α → Watch κ β} {result : α → β} {items : List α}
    (h : ∀ item ∈ items, Ends (step item) (result item) P) :
    Ends (items.mapM step) (items.map result) P := by
  induction items with
  | nil => exact .pure []
  | cons item items ih =>
      obtain ⟨hitem, hitems⟩ := List.forall_mem_cons.mp h
      rw [List.mapM_cons]
      exact hitem.bind ((ih hitems).bind (.pure _))

theorem Ends.from {place : κ} (h : Ends watched outcome P) :
    EndsFrom place (comeTo place >>= fun _ => watched) outcome P := by
  obtain ⟨visited, hrun, hvisited⟩ := h
  refine ⟨visited, fun log => ?_, hvisited⟩
  rw [StateT.run_bind, comeTo, StateT.run_modify]
  exact (hrun _).trans (by rw [List.append_assoc]; rfl)

theorem EndsFrom.ends {place : κ} (h : EndsFrom place watched outcome P) (hplace : Q place)
    (hPQ : ∀ next, P next → Q next) : Ends watched outcome Q := by
  obtain ⟨visited, hrun, hvisited⟩ := h
  refine ⟨place :: visited, hrun, List.forall_mem_cons.mpr ⟨hplace, ?_⟩⟩
  exact fun next hnext => hPQ next (hvisited next hnext)

theorem EndsFrom.mono {place : κ} (h : EndsFrom place watched outcome P)
    (hPQ : ∀ next, P next → Q next) : EndsFrom place watched outcome Q := by
  obtain ⟨visited, hrun, hvisited⟩ := h
  exact ⟨visited, hrun, fun next hnext => hPQ next (hvisited next hnext)⟩

theorem EndsFrom.run'_eq {place : κ} (h : EndsFrom place watched outcome P) (log : List κ) :
    watched.run' log = some outcome := by
  obtain ⟨visited, hrun, -⟩ := h
  exact congrArg (Option.map Prod.fst) (hrun log)

end Watch

/-! ### The scanner, watched -/

/-- Where a scan is in a text: at a quote that may open a literal, in the rest of a literal that closes
with one quote, in an expression with some parentheses open, or on the way through a literal with three
quotes to the place where it closes. -/
inductive Place where
  | literal (start : Nat)
  | line (index : Nat)
  | expression (depth index : Nat)
  | interpolations (index stop : Nat)
  deriving DecidableEq, Repr

mutual

/-- Scans the literal that opens at a place. -/
def watchLiteral (text : List Char) : Nat → Nat → Watch Place (Option (Nat × List (List Char)))
  | 0, _ => failure
  | steps + 1, start => do
    comeTo (.literal start)
    if ['"', '"', '"'] <+: text.drop start then
      match nextPlace ['"', '"', '"'] text (start + 3) with
      | some close =>
        let found ← watchInterpolations text steps (start + 3) close
        return some (close + 3, found)
      | none => watchLine text steps (start + 1)
    else watchLine text steps (start + 1)

/-- Scans the rest of a literal that closes with one quote. -/
def watchLine (text : List Char) : Nat → Nat → Watch Place (Option (Nat × List (List Char)))
  | 0, _ => failure
  | steps + 1, index => do
    comeTo (.line index)
    match text[index]? with
    | none => return none
    | some c =>
      if c = '\n' then return none
      else if c = '"' then return some (index + 1, [])
      else if c = '\\' then
        if text[index + 1]? = some '(' then
          match ← watchExpression text steps 1 (index + 2) with
          | some close =>
            let rest ← watchLine text steps (close + 1)
            return rest.map fun (stop, found) => (stop, text.extract (index + 2) close :: found)
          | none => watchLine text steps (index + 2)
        else watchLine text steps (index + 2)
      else watchLine text steps (index + 1)

/-- Scans an expression up to the parenthesis that closes the outermost of `depth` open ones. -/
def watchExpression (text : List Char) : Nat → Nat → Nat → Watch Place (Option Nat)
  | 0, _, _ => failure
  | steps + 1, depth, index => do
    comeTo (.expression depth index)
    match text[index]? with
    | none => return none
    | some c =>
      if c = '\n' then return none
      else if c = '"' then
        match ← watchLiteral text steps index with
        | some (stop, _) => watchExpression text steps depth stop
        | none => return none
      else if c = '(' then watchExpression text steps (depth + 1) (index + 1)
      else if c = ')' then
        if depth ≤ 1 then return some index else watchExpression text steps (depth - 1) (index + 1)
      else watchExpression text steps depth (index + 1)

/-- Looks for the expressions interpolated between two places. -/
def watchInterpolations (text : List Char) : Nat → Nat → Nat → Watch Place (List (List Char))
  | 0, _, _ => failure
  | steps + 1, index, stop => do
    comeTo (.interpolations index stop)
    if index + 2 ≤ stop then
      if ['\\', '('] <+: text.drop index then
        match ← watchExpression text steps 1 (index + 2) with
        | some close =>
          if close < stop then
            let rest ← watchInterpolations text steps (close + 1) stop
            return text.extract (index + 2) close :: rest
          else watchInterpolations text steps (index + 2) stop
        | none => watchInterpolations text steps (index + 2) stop
      else watchInterpolations text steps (index + 1) stop
    else return []

end

namespace Place

def index : Place → Nat
  | literal start => start
  | line index => index
  | expression _ index => index
  | interpolations index _ => index

def InExpression : Place → Prop
  | expression _ _ => True
  | _ => False

/-- A place comes before another: that one is further on in the text, or the first is in an expression
and the other is the literal, no expression, that starts right there. -/
def Before (place next : Place) : Prop :=
  place.index < next.index ∨
    place.index = next.index ∧ place.InExpression ∧ ¬ next.InExpression

/-- What stands in a text where a scan comes to a place. -/
def Fits (text : List Char) : Place → Prop
  | literal start => text[start]? = some '"'
  | interpolations _ stop => stop ≤ text.length
  | _ => True

/-- As many steps as a scan from a place may take. -/
def steps (text : List Char) : Place → Nat
  | literal start => 2 * (text.length - (start + 1)) + 2
  | place => 2 * (text.length - place.index) + 1

/-- A watched scan from a place ends with what the scanner gives there, and comes only to places with a
property. -/
def Ends (text : List Char) (steps : Nat) (place : Place) (P : Place → Prop) : Prop :=
  match place with
  | literal start => EndsFrom place (watchLiteral text steps start) (literalAt text start) P
  | line index => EndsFrom place (watchLine text steps index) (lineAt text index) P
  | expression depth index =>
    EndsFrom place (watchExpression text steps depth index) (expressionAt text depth index) P
  | interpolations index stop =>
    EndsFrom place (watchInterpolations text steps index stop) (interpolationsAt text index stop) P

theorem Before.trans {place next last : Place} (h : place.Before next) (hnext : next.Before last) :
    place.Before last := by
  rcases h with hlt | ⟨heq, hexpression, hother⟩
  · rcases hnext with hltNext | ⟨heqNext, -⟩
    · exact .inl (Nat.lt_trans hlt hltNext)
    · exact .inl (heqNext ▸ hlt)
  · rcases hnext with hltNext | ⟨-, hexpressionNext, -⟩
    · exact .inl (heq ▸ hltNext)
    · exact absurd hexpressionNext hother

end Place

/-- What holds of the places that a scan from a place comes to later. -/
def Later (text : List Char) (place next : Place) : Prop := next.Fits text ∧ place.Before next

theorem EndsFrom.later {text : List Char} {α : Type} {place next : Place} {watched : Watch Place α}
    {outcome : α} (h : EndsFrom next watched outcome (Later text next)) (hnext : Later text place next) :
    Ends watched outcome (Later text place) :=
  h.ends hnext fun _ hlast => ⟨hlast.1, hnext.2.trans hlast.2⟩

/-! ### Every scan ends -/

section Step

variable {text : List Char} {steps : Nat}
  (ih : ∀ place : Place, place.Fits text → place.steps text ≤ steps →
    place.Ends text steps (Later text place))

include ih

theorem ends_line (place : Place) (index : Nat) (hlt : place.index < index)
    (hsteps : 2 * (text.length - index) + 1 ≤ steps) :
    Ends (watchLine text steps index) (lineAt text index) (Later text place) :=
  EndsFrom.later (ih (.line index) trivial hsteps) ⟨trivial, .inl hlt⟩

theorem ends_expression (place : Place) (depth index : Nat) (hlt : place.index < index)
    (hsteps : 2 * (text.length - index) + 1 ≤ steps) :
    Ends (watchExpression text steps depth index) (expressionAt text depth index)
      (Later text place) :=
  EndsFrom.later (ih (.expression depth index) trivial hsteps) ⟨trivial, .inl hlt⟩

theorem ends_interpolations (place : Place) (index : Nat) {stop : Nat} (hlt : place.index < index)
    (hstop : stop ≤ text.length) (hsteps : 2 * (text.length - index) + 1 ≤ steps) :
    Ends (watchInterpolations text steps index stop) (interpolationsAt text index stop)
      (Later text place) :=
  EndsFrom.later (ih (.interpolations index stop) hstop hsteps) ⟨hstop, .inl hlt⟩

theorem literal_ends (start : Nat) (hquote : text[start]? = some '"')
    (hsteps : 2 * (text.length - (start + 1)) + 2 ≤ steps + 1) :
    Place.Ends text (steps + 1) (.literal start) (Later text (.literal start)) := by
  have hlt := lt_length_of_getElem? hquote
  have hline : Ends (watchLine text steps (start + 1)) (lineAt text (start + 1))
      (Later text (.literal start)) := ends_line ih _ _ (Nat.lt_succ_self start) (by omega)
  rw [Place.Ends, watchLiteral, literalAt_eq hquote]
  apply Ends.from
  split
  · cases hclose : nextPlace ['"', '"', '"'] text (start + 3) with
    | none => exact hline
    | some close =>
        obtain ⟨-, hle⟩ := nextPlace_bounds (List.cons_ne_nil _ _) hclose
        have hfound := ends_interpolations ih (.literal start) (start + 3)
          (show start < start + 3 by omega) (show close ≤ text.length by omega) (by omega)
        exact hfound.bind (.pure _)
  · exact hline

theorem line_ends (index : Nat) (hsteps : 2 * (text.length - index) + 1 ≤ steps + 1) :
    Place.Ends text (steps + 1) (.line index) (Later text (.line index)) := by
  rw [Place.Ends, watchLine, lineAt_eq]
  apply Ends.from
  cases hc : text[index]? with
  | none => exact .pure none
  | some c =>
      have hlt := lt_length_of_getElem? hc
      have hline : ∀ next, index < next → Ends (watchLine text steps next) (lineAt text next)
          (Later text (.line index)) := fun next hnext => ends_line ih _ _ hnext (by omega)
      dsimp only
      split
      · exact .pure none
      split
      · exact .pure _
      split
      · split
        · have hexpression := ends_expression ih (.line index) 1 (index + 2)
            (show index < index + 2 by omega) (by omega)
          refine hexpression.bind ?_
          cases hclose : expressionAt text 1 (index + 2) with
          | none => exact hline _ (by omega)
          | some close =>
              have := (readExpression_of_expressionAt hclose).1
              exact (hline (close + 1) (by omega)).bind (.pure _)
        · exact hline _ (by omega)
      · exact hline _ (by omega)

theorem expression_ends (depth index : Nat)
    (hsteps : 2 * (text.length - index) + 1 ≤ steps + 1) :
    Place.Ends text (steps + 1) (.expression depth index) (Later text (.expression depth index)) := by
  rw [Place.Ends, watchExpression, expressionAt_eq]
  apply Ends.from
  cases hc : text[index]? with
  | none => exact .pure none
  | some c =>
      have hlt := lt_length_of_getElem? hc
      have hexpression : ∀ depth' next, index < next →
          Ends (watchExpression text steps depth' next) (expressionAt text depth' next)
            (Later text (.expression depth index)) :=
        fun depth' next hnext => ends_expression ih _ _ _ hnext (by omega)
      dsimp only
      split
      · exact .pure none
      split
      · rename_i hquote
        rw [hquote] at hc
        have hliteral : Ends (watchLiteral text steps index) (literalAt text index)
            (Later text (.expression depth index)) :=
          EndsFrom.later (ih (.literal index) hc (by rw [Place.steps]; omega))
            ⟨hc, .inr ⟨rfl, trivial, id⟩⟩
        refine hliteral.bind ?_
        cases hend : literalAt text index with
        | none => exact .pure none
        | some literal =>
            obtain ⟨stop, found⟩ := literal
            obtain ⟨⟨hle, -⟩, -⟩ := literalAt_bounds hend
            exact hexpression depth stop (by omega)
      split
      · exact hexpression _ _ (by omega)
      split
      · split
        · exact .pure _
        · exact hexpression _ _ (by omega)
      · exact hexpression _ _ (by omega)

theorem interpolations_ends (index : Nat) {stop : Nat} (hstop : stop ≤ text.length)
    (hsteps : 2 * (text.length - index) + 1 ≤ steps + 1) :
    Place.Ends text (steps + 1) (.interpolations index stop)
      (Later text (.interpolations index stop)) := by
  rw [Place.Ends, watchInterpolations, interpolationsAt_eq hstop]
  apply Ends.from
  split
  · rename_i hroom
    have hrest : ∀ next, index < next →
        Ends (watchInterpolations text steps next stop) (interpolationsAt text next stop)
          (Later text (.interpolations index stop)) :=
      fun next hnext => ends_interpolations ih _ _ hnext hstop (by omega)
    split
    · have hexpression := ends_expression ih (.interpolations index stop) 1 (index + 2)
        (show index < index + 2 by omega) (by omega)
      refine hexpression.bind ?_
      cases hclose : expressionAt text 1 (index + 2) with
      | none => exact hrest _ (by omega)
      | some close =>
          have := (readExpression_of_expressionAt hclose).1
          dsimp only
          split
          · exact (hrest (close + 1) (by omega)).bind (.pure _)
          · exact hrest _ (by omega)
    · exact hrest _ (by omega)
  · exact .pure []

end Step

/-- With two steps for every character, a scan from any place ends, and every place that it comes to is
further on. -/
theorem place_ends {text : List Char} {steps : Nat} (place : Place) (hfits : place.Fits text)
    (hsteps : place.steps text ≤ steps) : place.Ends text steps (Later text place) := by
  induction steps generalizing place with
  | zero => cases place <;> exact absurd hsteps (by simp [Place.steps])
  | succ steps ih =>
      cases place with
      | literal start => exact literal_ends ih start hfits hsteps
      | line index => exact line_ends ih index hsteps
      | expression depth index => exact expression_ends ih depth index hsteps
      | interpolations index stop => exact interpolations_ends ih index hfits hsteps

/-! ### Replacing literals, watched -/

/-- Replaces the literals of a text from a place on. What is written down are the texts and the places in
them from which it goes on or starts again. -/
def watchReplace : Nat → List Char → Nat → Watch (List Char × Nat) (List Char)
  | 0, _, _ => failure
  | steps + 1, text, place => do
    comeTo (text, place)
    match text[place]? with
    | none => return []
    | some c =>
      if c = '"' then
        match ← StateT.lift ((watchLiteral text steps place).run' []) with
        | some (stop, found) =>
          let replaced ← found.mapM fun expression => watchReplace steps expression 0
          let rest ← watchReplace steps text stop
          return rendering replaced ++ rest
        | none =>
          let rest ← watchReplace steps text (place + 1)
          return '"' :: rest
      else
        let rest ← watchReplace steps text (place + 1)
        return c :: rest

/-- From one place in a text, replacing comes to another: it is further on in the same text, or the text
there is shorter. -/
def Onward (place next : List Char × Nat) : Prop :=
  next.1.length < place.1.length ∨ next.1 = place.1 ∧ place.2 < next.2

theorem Onward.trans {place next last : List Char × Nat} (h : Onward place next)
    (hnext : Onward next last) : Onward place last := by
  rcases h with hlt | ⟨heq, hlt⟩
  · rcases hnext with hltNext | ⟨heqNext, -⟩
    · exact .inl (Nat.lt_trans hltNext hlt)
    · exact .inl (by rwa [heqNext])
  · rcases hnext with hltNext | ⟨heqNext, hltNext⟩
    · exact .inl (by rwa [← heq])
    · exact .inr ⟨heqNext.trans heq, Nat.lt_trans hlt hltNext⟩

theorem withoutLiterals_drop (text : List Char) (place : Nat) :
    withoutLiterals (text.drop place) =
      match text[place]? with
      | none => []
      | some c =>
        if c = '"' then
          match literalAt text place with
          | some (stop, found) =>
            rendering (found.map withoutLiterals) ++ withoutLiterals (text.drop stop)
          | none => '"' :: withoutLiterals (text.drop (place + 1))
        else c :: withoutLiterals (text.drop (place + 1)) := by
  cases hc : text[place]? with
  | none => rw [drop_of_getElem?_none hc]; rfl
  | some c =>
      rw [drop_of_getElem? hc]
      dsimp only
      split
      · rename_i hquote
        subst hquote
        have hread := readLiteral_drop text place
        cases hat : literalAt text place with
        | none =>
            rw [hat] at hread
            exact withoutLiterals_quote_of_none hread
        | some literal =>
            rw [hat] at hread
            exact withoutLiterals_quote_of_some hread
      · rename_i hquote
        exact withoutLiterals_cons hquote _

/-- With two steps for every character, replacing ends on every text, well formed or not. It gives what
the scanner gives, always goes on further behind in a text, and starts again on shorter texts only. -/
theorem watchReplace_ends {steps : Nat} (text : List Char) (place : Nat)
    (hsteps : 2 * (text.length - place) + 1 ≤ steps) :
    EndsFrom (text, place) (watchReplace steps text place) (withoutLiterals (text.drop place))
      (Onward (text, place)) := by
  induction steps generalizing text place with
  | zero => omega
  | succ steps ih =>
      rw [watchReplace, withoutLiterals_drop]
      apply Ends.from
      cases hc : text[place]? with
      | none => exact .pure []
      | some c =>
          have hlt := lt_length_of_getElem? hc
          have hrest : ∀ next, place < next →
              Ends (watchReplace steps text next) (withoutLiterals (text.drop next))
                (Onward (text, place)) := fun next hnext =>
            (ih text next (by omega)).ends (.inr ⟨rfl, hnext⟩) fun _ =>
              Onward.trans (.inr ⟨rfl, hnext⟩)
          dsimp only
          split
          · rename_i hquote
            rw [hquote] at hc
            have hscan : Place.Ends text steps (.literal place) _ :=
              place_ends (.literal place) hc (by rw [Place.steps]; omega)
            have hliteral : Ends (StateT.lift ((watchLiteral text steps place).run' []))
                (literalAt text place) (Onward (text, place)) :=
              .lift (EndsFrom.run'_eq hscan [])
            refine hliteral.bind ?_
            cases hat : literalAt text place with
            | none => exact (hrest _ (by omega)).bind (.pure _)
            | some literal =>
                obtain ⟨stop, found⟩ := literal
                obtain ⟨inside, hinside, rfl, hle, hfound, -⟩ := readLiteral_of_literalAt hat
                have hexpressions : Ends (found.mapM fun expression => watchReplace steps expression 0)
                    (found.map withoutLiterals) (Onward (text, place)) := by
                  refine .mapM fun expression hmem => ?_
                  have hshorter := hfound.length_lt hmem
                  have honward : Onward (text, place) (expression, 0) := .inl (by dsimp only; omega)
                  have hends := ih expression 0 (by omega)
                  rw [List.drop_zero] at hends
                  exact hends.ends honward fun _ => honward.trans
                exact hexpressions.bind ((hrest _ (by omega)).bind (.pure _))
          · exact (hrest _ (by omega)).bind (.pure _)

/-- The scanner stays in a text and gets on in it. A literal ends behind a quote, two places on at least,
and its expressions stand one behind the other between its quotes. An expression ends at a parenthesis.
With enough steps every scan ends with what the scanner gives. In a literal, all calls and all rounds of a
loop are at places behind the quote that opens it, and from any place they only get further on. Replacing
literals ends on every text as well: in one text it always goes on further behind, and the expressions
that it starts again on are shorter texts. -/
theorem scans_advance (text : List Char) :
    (∀ start stop found, literalAt text start = some (stop, found) →
      (start + 2 ≤ stop ∧ stop ≤ text.length ∧ text[stop - 1]? = some '"') ∧
        ∃ spans : List (Nat × Nat), found = spans.map (fun span => text.extract span.1 span.2) ∧
          InterpolatedBetween text (start + 1) (stop - 1) spans) ∧
      (∀ depth index close, expressionAt text depth index = some close →
        index ≤ close ∧ close < text.length ∧ text[close]? = some ')') ∧
      ∀ steps, 2 * text.length + 1 ≤ steps →
        (∀ start, text[start]? = some '"' →
          EndsFrom (.literal start) (watchLiteral text steps start) (literalAt text start)
            fun next => start < next.index) ∧
          (∀ place : Place, place.Fits text →
            place.Ends text steps fun next => next.Fits text ∧ place.Before next) ∧
          ∀ place, EndsFrom (text, place) (watchReplace steps text place)
            (withoutLiterals (text.drop place)) (Onward (text, place)) := by
  refine ⟨fun start stop found => literalAt_bounds,
    fun depth index close h => (readExpression_of_expressionAt h).1, fun steps hsteps => ?_⟩
  have hplace : ∀ place : Place, place.Fits text → place.Ends text steps (Later text place) := by
    intro place hfits
    refine place_ends place hfits ?_
    cases place with
    | literal start =>
        have := lt_length_of_getElem? hfits
        rw [Place.steps]
        omega
    | line | expression | interpolations =>
        dsimp only [Place.steps]
        omega
  refine ⟨fun start hquote => ?_, hplace, fun place => watchReplace_ends text place (by omega)⟩
  refine EndsFrom.mono (hplace (.literal start) hquote) ?_
  rintro next ⟨-, hlt | ⟨-, hexpression, -⟩⟩
  · exact hlt
  · exact hexpression.elim

/-- A literal with two expressions, of which the first has a literal in it that holds a parenthesis. -/
def nestedCall : List Char := "x = \"a\\(g(\")\")) b\\(h)\"".toList

theorem scans_advance_nestedCall :
    (literalAt nestedCall 4 = some (22, ["g(\")\")".toList, "h".toList]) ∧
      expressionAt nestedCall 1 8 = some 14 ∧ nestedCall[4]? = some '"' ∧
      (Place.expression 1 10).Fits nestedCall ∧ 2 * nestedCall.length + 1 ≤ 45) ∧
      (∃ spans : List (Nat × Nat), ["g(\")\")".toList, "h".toList] =
          spans.map (fun span => nestedCall.extract span.1 span.2) ∧
        InterpolatedBetween nestedCall 5 21 spans) ∧
      nestedCall[14]? = some ')' ∧
      EndsFrom (.literal 4) (watchLiteral nestedCall 45 4) (literalAt nestedCall 4)
        (fun next => 4 < next.index) ∧
      (Place.expression 1 10).Ends nestedCall 45
        (fun next => next.Fits nestedCall ∧ (Place.expression 1 10).Before next) ∧
      EndsFrom (nestedCall, 0) (watchReplace 45 nestedCall 0) "x = g(\"\") h".toList
        (Onward (nestedCall, 0)) := by
  have hliteral : literalAt nestedCall 4 = some (22, ["g(\")\")".toList, "h".toList]) := by cbv
  have hexpression : expressionAt nestedCall 1 8 = some 14 := by cbv
  have hquote : nestedCall[4]? = some '"' := by decide
  have hfits : (Place.expression 1 10).Fits nestedCall := trivial
  have hsteps : 2 * nestedCall.length + 1 ≤ 45 := by decide
  have hcode : withoutLiterals (nestedCall.drop 0) = "x = g(\"\") h".toList := by cbv
  obtain ⟨hliterals, hexpressions, hscans⟩ := scans_advance nestedCall
  obtain ⟨hnested, hplaces, hreplace⟩ := hscans 45 hsteps
  exact ⟨⟨hliteral, hexpression, hquote, hfits, hsteps⟩, (hliterals 4 22 _ hliteral).2,
    (hexpressions 1 8 14 hexpression).2.2, hnested 4 hquote, hplaces _ hfits, hcode ▸ hreplace 0⟩

end Unreferenced.Source
