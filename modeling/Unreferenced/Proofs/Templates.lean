import Unreferenced.Proofs.Identifiers
import Unreferenced.Proofs.LiteralScan
import Unreferenced.Proofs.Spans

/-! Texts with places for lines. A template is filled with a line, and passes over the text are compared
by what they make of it: a pass is blind if from any template it makes another template, the same one
whatever plain line the places hold. Spans and escapes are dropped blindly, for their marks are neither in
such a line nor across its ends. -/

namespace Unreferenced.Text

/-- A text that is empty or starts a line. -/
def StartsLine (text : List Char) : Prop := text = [] ∨ ['\n'] <+: text

/-- A text that is empty or ends a line. -/
def EndsLine (text : List Char) : Prop := text = [] ∨ ['\n'] <:+ text

instance (text : List Char) : Decidable (StartsLine text) := inferInstanceAs (Decidable (_ ∨ _))

instance (text : List Char) : Decidable (EndsLine text) := inferInstanceAs (Decidable (_ ∨ _))

theorem StartsLine.nil : StartsLine [] := .inl rfl

theorem StartsLine.newline (rest : List Char) : StartsLine ('\n' :: rest) :=
  .inr (List.prefix_append ['\n'] rest)

theorem StartsLine.head?_not_mem {text part : List Char} (h : StartsLine text) (hpart : '\n' ∉ part) :
    ∀ c ∈ text.head?, c ∉ part := by
  rcases h with rfl | ⟨rest, rfl⟩
  · nofun
  · rintro c ⟨⟩
    exact hpart

end Unreferenced.Text

namespace Unreferenced.Source

open Unreferenced.Text

/-! ### Templates -/

/-- A text with places for lines: a character, or two line feeds with a place between them. -/
abbrev Template := List (Option Char)

/-- The text of a template with a line in every place. An open template has one more line feed at its
end, with a place behind it. -/
def fill (line : List Char) (isOpen : Bool) : Template → List Char
  | [] => if isOpen then '\n' :: line else []
  | none :: rest => '\n' :: (line ++ '\n' :: fill line isOpen rest)
  | some c :: rest => c :: fill line isOpen rest

@[simp]
theorem fill_nil (line : List Char) (isOpen : Bool) :
    fill line isOpen [] = if isOpen then '\n' :: line else [] := rfl

@[simp]
theorem fill_place (line : List Char) (isOpen : Bool) (rest : Template) :
    fill line isOpen (none :: rest) = '\n' :: (line ++ '\n' :: fill line isOpen rest) := rfl

@[simp]
theorem fill_char (line : List Char) (isOpen : Bool) (c : Char) (rest : Template) :
    fill line isOpen (some c :: rest) = c :: fill line isOpen rest := rfl

@[simp]
theorem fill_append (line : List Char) (isOpen : Bool) (front back : Template) :
    fill line isOpen (front ++ back) = fill line false front ++ fill line isOpen back := by
  induction front with
  | nil => rfl
  | cons place front ih => cases place <;> simp [ih]

@[simp]
theorem fill_map_some (line text : List Char) : fill line false (text.map some) = text := by
  induction text with
  | nil => rfl
  | cons c text ih => rw [List.map_cons, fill_char, ih]

/-- A part without a line feed is not in a place and not across one. -/
theorem prefix_fill_iff {part line : List Char} (hpart : '\n' ∉ part) {isOpen : Bool}
    {template : Template} :
    part <+: fill line isOpen template ↔ part.map some <+: template := by
  induction part generalizing template with
  | nil => simp
  | cons x part ih =>
      rw [List.mem_cons, not_or] at hpart
      have hx : x ≠ '\n' := Ne.symm hpart.1
      cases template with
      | nil => cases isOpen <;> simp [hx]
      | cons place rest =>
          cases place with
          | none => simp [hx]
          | some c => simp [ih hpart.2]

/-- A line that holds no mark of a literal or of a block comment. -/
structure Plain (line : List Char) : Prop where
  newline : '\n' ∉ line
  quote : '"' ∉ line
  backslash : '\\' ∉ line
  sign : '#' ∉ line
  star : '*' ∉ line

theorem Plain.nil : Plain [] := ⟨nofun, nofun, nofun, nofun, nofun⟩

theorem Plain.of_cons {c : Char} {line : List Char} (h : Plain (c :: line)) : Plain line where
  newline hmem := h.newline (.tail _ hmem)
  quote hmem := h.quote (.tail _ hmem)
  backslash hmem := h.backslash (.tail _ hmem)
  sign hmem := h.sign (.tail _ hmem)
  star hmem := h.star (.tail _ hmem)

/-- Whatever plain line a template is filled with, a separator is found nowhere or at the same place. -/
def CutsAlike (separator : List Char) (isOpen : Bool) (template : Template) : Prop :=
  (∀ line, Plain line → cutAt separator (fill line isOpen template) = none) ∨
    ∃ inside after, template = inside ++ (separator.map some ++ after) ∧
      ∀ line, Plain line → cutAt separator (fill line isOpen template) =
        some (fill line false inside, fill line isOpen after)

theorem CutsAlike.cons {separator : List Char} {isOpen : Bool} {rest : Template}
    (h : CutsAlike separator isOpen rest) (place : Option Char)
    (hskip : ∀ line, Plain line → cutAt separator (fill line isOpen (place :: rest)) =
      (cutAt separator (fill line isOpen rest)).map fun (before, after) =>
        (fill line false [place] ++ before, after)) :
    CutsAlike separator isOpen (place :: rest) := by
  rcases h with hnone | ⟨inside, after, rfl, hsome⟩
  · exact .inl fun line hline => by rw [hskip line hline, hnone line hline]; rfl
  · refine .inr ⟨place :: inside, after, rfl, fun line hline => ?_⟩
    rw [hskip line hline, hsome line hline]
    exact congrArg (fun before => some (before, fill line isOpen after))
      (fill_append line false [place] inside).symm

theorem cutsAlike {separator : List Char} (hne : separator ≠ []) (hnewline : '\n' ∉ separator)
    (hplain : ∀ line, Plain line → ¬ separator <:+: line) (isOpen : Bool) (template : Template) :
    CutsAlike separator isOpen template := by
  have hfeed : ∀ rest, cutAt separator ('\n' :: rest) =
      (cutAt separator rest).map fun (before, after) => ('\n' :: before, after) := by
    refine fun rest => cutAt_cons fun hstart => hne ?_
    exact List.prefix_nil.mp (prefix_of_prefix_append
      ((StartsLine.newline rest).head?_not_mem hnewline) hstart)
  induction template with
  | nil =>
      refine .inl fun line hline => ?_
      cases isOpen with
      | false => exact cutAt_eq_none_iff.mpr fun h => hne (List.infix_nil.mp h)
      | true =>
          change cutAt separator ('\n' :: line) = none
          rw [hfeed, cutAt_eq_none_iff.mpr (hplain line hline)]
          rfl
  | cons place rest ih =>
      cases place with
      | none =>
          refine ih.cons none fun line hline => ?_
          rw [fill_place, hfeed, cutAt_append ((StartsLine.newline _).head?_not_mem hnewline)
            (hplain line hline), hfeed]
          simp [Option.map_map, Function.comp_def]
      | some c =>
          by_cases hstart : separator.map some <+: some c :: rest
          · obtain ⟨after, htemplate⟩ := hstart
            refine .inr ⟨[], after, htemplate.symm, fun line _ => ?_⟩
            rw [← htemplate, fill_append, fill_map_some, cutAt_append_self]
            rfl
          · refine ih.cons (some c) fun line _ => ?_
            exact cutAt_cons fun h => hstart ((prefix_fill_iff hnewline).mp h)

/-! ### Passes that do not look into places -/

/-- From a template, a pass makes a template, whatever plain line it is filled with. -/
def BlindAt (pass : List Char → List Char) (template : Template) : Prop :=
  ∀ isOpen, ∃ result, ∀ line, Plain line →
    pass (fill line isOpen template) = fill line isOpen result

/-- A pass that does not look into the places of any template. -/
def Blind (pass : List Char → List Char) : Prop := ∀ template, BlindAt pass template

theorem Blind.comp {pass next : List Char → List Char} (h : Blind pass) (hnext : Blind next) :
    Blind (next ∘ pass) := by
  intro template isOpen
  obtain ⟨middle, hmiddle⟩ := h template isOpen
  obtain ⟨result, hresult⟩ := hnext middle isOpen
  refine ⟨result, fun line hline => ?_⟩
  rw [Function.comp_apply, hmiddle line hline, hresult line hline]

/-- A pass is blind if it keeps line feeds and plain lines, and at any other character puts something in
place of the front of a template and goes on behind it. -/
theorem Blind.of_step {pass : List Char → List Char} (hnil : pass [] = [])
    (hfeed : ∀ rest, pass ('\n' :: rest) = '\n' :: pass rest)
    (hplain : ∀ line back, Plain line → StartsLine back → pass (line ++ back) = line ++ pass back)
    (hstep : ∀ isOpen c rest,
      (∀ template, (fill [] false template).length ≤ (fill [] false rest).length →
        BlindAt pass template) →
      ∃ result back, (fill [] false back).length ≤ (fill [] false rest).length ∧
        ∀ line, Plain line → pass (fill line isOpen (some c :: rest)) =
          fill line false result ++ pass (fill line isOpen back)) : Blind pass := by
  intro template
  induction hlength : (fill [] false template).length using Nat.strongRecOn generalizing template with
  | ind length ih =>
      intro isOpen
      match template with
      | [] =>
          refine ⟨[], fun line hline => ?_⟩
          cases isOpen with
          | false => exact hnil
          | true =>
              have hend := hplain line [] hline .nil
              rw [List.append_nil, hnil, List.append_nil] at hend
              rw [fill_nil, if_pos rfl, hfeed, hend]
      | none :: rest =>
          simp only [fill_place, List.nil_append, List.length_cons] at hlength
          obtain ⟨result, hresult⟩ := ih _ (by omega) rest rfl isOpen
          refine ⟨none :: result, fun line hline => ?_⟩
          rw [fill_place, hfeed, hplain line _ hline (.newline _), hfeed, hresult line hline]
          rfl
      | some c :: rest =>
          rw [fill_char, List.length_cons] at hlength
          obtain ⟨front, back, hback, hfront⟩ :=
            hstep isOpen c rest fun template hle => ih _ (by omega) template rfl
          obtain ⟨result, hresult⟩ := ih _ (by omega) back rfl isOpen
          refine ⟨front ++ result, fun line hline => ?_⟩
          rw [hfront line hline, hresult line hline, fill_append]

/-! ### Spans and escapes -/

theorem Delimiter.dropSpans_append {d : Delimiter} (hfeed : d.inner ≠ '\n') {front back : List Char}
    (hback : StartsLine back) (h : ¬ (d.outer ∈ front ∧ d.inner ∈ front)) :
    d.dropSpans (front ++ back) = front ++ d.dropSpans back := by
  induction front with
  | nil => rfl
  | cons c front ih =>
      rw [List.cons_append, dropSpans_char, ih]
      · rfl
      · exact fun hmem => h ⟨.tail _ hmem.1, .tail _ hmem.2⟩
      · rintro ⟨body, rfl, hbody, -⟩
        have hstart : [d.inner] <+: front ++ back := hbody ▸ List.prefix_append [d.inner] body
        have hfront := prefix_of_prefix_append
          (hback.head?_not_mem (by simpa using Ne.symm hfeed)) hstart
        exact h ⟨List.mem_cons_self, .tail _ (hfront.subset List.mem_cons_self)⟩

theorem Delimiter.dropSpans_newline {d : Delimiter} (houter : d.outer ≠ '\n') (rest : List Char) :
    d.dropSpans ('\n' :: rest) = '\n' :: d.dropSpans rest :=
  dropSpans_char fun ⟨_, hfeed, _⟩ => houter hfeed.symm

theorem blind_dropSpans {d : Delimiter} (houter : d.outer ≠ '\n') (hinner : d.inner ≠ '\n')
    (hplain : ∀ line, Plain line → ¬ (d.outer ∈ line ∧ d.inner ∈ line)) : Blind d.dropSpans := by
  refine Blind.of_step Delimiter.dropSpans_nil (Delimiter.dropSpans_newline houter)
    (fun line back hline hback => Delimiter.dropSpans_append hinner hback (hplain line hline)) ?_
  intro isOpen c rest _
  have hclose : '\n' ∉ [d.inner, d.outer] := by
    simpa using ⟨Ne.symm hinner, Ne.symm houter⟩
  have hmarks : ∀ line, Plain line → ¬ [d.inner, d.outer] <:+: line := fun line hline h =>
    hplain line hline ⟨h.subset (by simp), h.subset (by simp)⟩
  -- The character stays where no span starts, whatever the places are filled with.
  have hstay : (∀ line, Plain line → ¬ d.Opens c (fill line isOpen rest)) →
      ∃ result back, (fill [] false back).length ≤ (fill [] false rest).length ∧
        ∀ line, Plain line → d.dropSpans (fill line isOpen (some c :: rest)) =
          fill line false result ++ d.dropSpans (fill line isOpen back) :=
    fun h => ⟨[some c], rest, Nat.le_refl _, fun line hline => d.dropSpans_char (h line hline)⟩
  by_cases hopen : c = d.outer ∧ [some d.inner] <+: rest
  · obtain ⟨rfl, body, rfl⟩ := hopen
    rcases cutsAlike (by simp) hclose hmarks isOpen body with hnone | ⟨inside, after, rfl, hsome⟩
    · refine hstay fun line hline ⟨text, _, htext, hinfix⟩ => ?_
      obtain ⟨-, rfl⟩ := List.cons.inj htext
      exact cutAt_eq_none_iff.mp (hnone line hline) hinfix
    · refine ⟨[], after, by simp; omega, fun line hline => ?_⟩
      exact d.dropSpans_span (hsome line hline)
  · refine hstay fun line _ ⟨text, hc, htext, _⟩ => hopen ⟨hc, ?_⟩
    have hstart : [d.inner] <+: fill line isOpen rest := ⟨text, htext.symm⟩
    exact (prefix_fill_iff (by simpa using Ne.symm hinner)).mp hstart

theorem blind_withoutEscapes : Blind withoutEscapes := by
  refine Blind.of_step rfl (fun rest => withoutEscapes_cons (by simp))
    (fun line back hline _ => withoutEscapes_append hline.backslash back) ?_
  intro isOpen c rest _
  by_cases hescape : c = '\\' ∧ ([some '\\'] <+: rest ∨ [some '"'] <+: rest)
  · obtain ⟨rfl, ⟨back, rfl⟩ | ⟨back, rfl⟩⟩ := hescape
    · exact ⟨[], back, by simp, fun _ _ => rfl⟩
    · exact ⟨[], back, by simp, fun _ _ => rfl⟩
  · refine ⟨[some c], rest, Nat.le_refl _, fun line _ => withoutEscapes_cons fun h => hescape ?_⟩
    exact h.imp id (Or.imp (prefix_fill_iff (by decide)).mp (prefix_fill_iff (by decide)).mp)

end Unreferenced.Source
