import Unreferenced.Proofs.PatternReading

/-! Where the limits of patterns come from. The readers of repetitions and of the grammar are taken in
turn, and a whole pattern reaches a limit only if it writes a brace and a number that is too large or too
long, or both of two flags that exclude each other, or if it opens at least as many groups as the machine
has room for. -/

namespace Unreferenced.Regex
namespace Parser

variable {host : Host} {pattern : List Char}

/-! ### Repetitions -/

theorem keeps_count? {digits : List Char} (hcount : CountIn pattern digits) :
    Keeps host pattern (count? digits) fun _ => True := by
  unfold count?
  apply Keeps.ite (fun _ => .pure trivial)
  intro _
  apply Keeps.ite
  · intro hlong
    exact Keeps.bind (.limit ⟨digits, hcount, rfl, hlong⟩) fun _ h => False.elim h
  intro _
  apply Keeps.ite
  · intro hlarge
    exact Keeps.bind (.limit ⟨digits, hcount, hlarge⟩) fun _ h => False.elim h
  · exact fun _ => .pure trivial

theorem keeps_bounds? {c : Char} (hc : c ∈ pattern)
    (hkind : (c == '?' || c == '*' || c == '+' || c == '\x7b') = true) :
    Keeps host pattern (bounds? c) fun _ => True := by
  unfold bounds?
  split
  · exact .pure trivial
  · exact .pure trivial
  · exact .pure trivial
  rename_i hquestion hstar hplus
  have hbrace : '\x7b' ∈ pattern := by
    simp only [Bool.or_eq_true, beq_iff_eq] at hkind
    obtain ((rfl | rfl) | rfl) | rfl := hkind
    · exact absurd rfl hquestion
    · exact absurd rfl hstar
    · exact absurd rfl hplus
    · exact hc
  apply Keeps.get.bind
  intro reading hreading
  apply keeps_peek.bind
  intro _ _
  apply Keeps.ite (fun _ => .pure trivial)
  intro _
  apply (keeps_takeWhile Char.isDigit _).bind
  rintro low ⟨hlow, hlowDigits⟩
  apply (keeps_accept ',').bind
  intro _ _
  apply Keeps.join (fun _ => keeps_takeWhile Char.isDigit _) fun _ => .pure ⟨hlow, hlowDigits⟩
  rintro high ⟨hhigh, hhighDigits⟩
  apply (keeps_accept _).bind
  intro _ _
  apply Keeps.ite
  · intro _
    apply (keeps_count? ⟨hbrace, hlow, hlowDigits⟩).bind
    intro _ _
    apply (keeps_count? ⟨hbrace, hhigh, hhighDigits⟩).bind
    intro _ _
    apply Keeps.refuseIf .failAt
    exact fun _ => .pure trivial
  · exact fun _ => (Keeps.set hreading).bind fun _ _ => .pure trivial

theorem keeps_preferenceMark : Keeps host pattern preferenceMark fun _ => True := by
  unfold preferenceMark
  apply (keeps_accept '?').bind
  intro _ _
  apply Keeps.ite (fun _ => .pure trivial)
  intro _
  apply (keeps_accept '+').bind
  exact fun _ _ => .ite (fun _ => .pure trivial) fun _ => .pure trivial

theorem keeps_repeatLast (start least : Nat) (most : Option Nat) (pieces : List Piece) :
    Keeps host pattern (repeatLast start least most pieces) fun _ => True := by
  unfold repeatLast
  split
  · exact .failAt
  · split
    · exact Keeps.bind .failAt fun _ h => False.elim h
    · exact Keeps.bind .failAt fun _ h => False.elim h
    · rw [pure_bind]
      exact keeps_preferenceMark.bind fun _ _ => .pure trivial
    · rw [pure_bind]
      exact keeps_preferenceMark.bind fun _ _ => .pure trivial

/-! ### Comments and groups -/

theorem keeps_skipLine (steps : Nat) : Keeps host pattern (skipLine steps) fun _ => True := by
  induction steps with
  | zero => exact .pure trivial
  | succ steps ih =>
      rw [skipLine]
      apply keeps_next.bind
      intro _ _
      split
      · exact .pure trivial
      · exact .ite (fun _ => .pure trivial) fun _ => ih

theorem keeps_skipComment (start steps : Nat) :
    Keeps host pattern (skipComment start steps) fun _ => True := by
  induction steps with
  | zero => exact .pure trivial
  | succ steps ih =>
      rw [skipComment]
      apply keeps_next.bind
      intro _ _
      split
      · exact .failAt
      · exact .ite (fun _ => .pure trivial) fun _ => ih

theorem keeps_close (start : Nat) : Keeps host pattern (close start) fun _ => True := by
  unfold close
  apply (keeps_accept ')').bind
  exact fun _ _ => .ite (fun _ => .pure trivial) fun _ => .failAt

theorem keeps_isVerbose : Keeps host pattern isVerbose fun _ => True :=
  Keeps.get.bind fun _ _ => .pure trivial

theorem keeps_afterP : Keeps host pattern afterP fun _ => True := by
  unfold afterP
  apply (keeps_accept '<').bind
  intro _ _
  apply Keeps.ite
  · intro _
    apply (keeps_name _ _).bind
    intro chars _
    exact (keeps_checkName chars).bind fun _ _ => .pure trivial
  intro _
  apply (keeps_accept '=').bind
  intro _ _
  apply Keeps.ite
  · intro _
    apply (keeps_name _ _).bind
    intro chars _
    apply (keeps_checkName chars).bind
    intro _ _
    apply Keeps.get.bind
    intro reading _
    split
    · exact .fail
    · apply (keeps_isClosed _).bind
      intro _ _
      apply Keeps.refuseUnless .fail
      exact fun _ => (keeps_checkLookbehind _).bind fun _ _ => .pure trivial
  intro _
  apply keeps_next.bind
  intro _ _
  split
  · exact .fail
  · exact .fail

/-! ### The grammar

The readers of alternatives, sequences and groups call each other with one step less, so what all of
them keep with fewer steps is the hypothesis for each. -/

/-- What the readers of the grammar keep in a number of steps. -/
structure KeepsIn (host : Host) (pattern : List Char) (steps : Nat) : Prop where
  alternatives (verbose top : Bool) :
    Keeps host pattern (alternatives steps verbose top) fun _ => True
  moreAlternatives (verbose top : Bool) :
    Keeps host pattern (moreAlternatives steps verbose top) fun _ => True
  sequence (verbose first : Bool) (pieces : List Piece) :
    Keeps host pattern (sequence steps verbose first pieces) fun _ => True
  group (start : Nat) (verbose leading : Bool) :
    Keeps host pattern (group steps start verbose leading) fun _ => True
  capture (start : Nat) (verbose : Bool) (label : Option (List Char)) :
    Keeps host pattern (capture steps start verbose label) fun _ => True
  lookbehind (start : Nat) (verbose : Bool) :
    Keeps host pattern (lookbehind steps start verbose) fun _ => True
  conditional (start : Nat) (verbose : Bool) (index : Nat) :
    Keeps host pattern (conditional steps start verbose index) fun _ => True

theorem keepsIn_zero : KeepsIn host pattern 0 := by
  constructor
  · intro _ _
    rw [alternatives]
    exact .pure trivial
  · intro _ _
    rw [moreAlternatives]
    exact .pure trivial
  · intro _ _ _
    rw [sequence]
    exact .pure trivial
  · intro _ _ _
    rw [group]
    exact .failAt
  · intro _ _ _
    rw [capture]
    exact .failAt
  · intro _ _
    rw [lookbehind]
    exact .failAt
  · intro _ _ _
    rw [conditional]
    exact .failAt

section Step

variable {steps : Nat} (h : KeepsIn host pattern steps)
include h

theorem keeps_alternatives_succ (verbose top : Bool) :
    Keeps host pattern (alternatives (steps + 1) verbose top) fun _ => True := by
  rw [alternatives]
  apply (h.sequence verbose top []).bind
  intro _ _
  exact (h.moreAlternatives verbose top).bind fun _ _ => .pure trivial

theorem keeps_moreAlternatives_succ (verbose top : Bool) :
    Keeps host pattern (moreAlternatives (steps + 1) verbose top) fun _ => True := by
  rw [moreAlternatives]
  apply (keeps_accept '|').bind
  intro _ _
  apply Keeps.ite
  · intro _
    apply Keeps.join (fun _ => keeps_isVerbose) fun _ => .pure trivial
    intro verbose' _
    apply (h.sequence verbose' false []).bind
    intro _ _
    exact (h.moreAlternatives verbose' top).bind fun _ _ => .pure trivial
  · exact fun _ => .pure trivial

theorem keeps_sequence_succ (verbose first : Bool) (pieces : List Piece) :
    Keeps host pattern (sequence (steps + 1) verbose first pieces) fun _ => True := by
  rw [sequence]
  apply Keeps.get.bind
  intro reading _
  apply keeps_peek.bind
  intro token? htoken
  split
  · exact .pure trivial
  · exact .failAt
  · apply keeps_next.bind
    intro _ _
    exact (keeps_escape _).bind fun node _ => h.sequence verbose first _
  rename_i c
  have hc : c ∈ pattern := htoken.mem
  apply Keeps.ite (fun _ => .pure trivial)
  intro _
  apply keeps_next.bind
  intro _ _
  apply Keeps.ite (fun _ => h.sequence verbose first pieces)
  intro _
  apply Keeps.ite
  · intro _
    apply Keeps.get.bind
    intro _ _
    exact (keeps_skipLine _).bind fun _ _ => h.sequence verbose first pieces
  intro _
  split
  · exact (keeps_bracketSet _).bind fun _ _ => h.sequence verbose first _
  · exact h.sequence verbose first _
  · exact h.sequence verbose first _
  · exact h.sequence verbose first _
  · exact (h.group _ verbose _).bind fun found _ => h.sequence found.2 first _
  · apply Keeps.ite
    · intro hkind
      apply (keeps_bounds? hc hkind).bind
      intro bounds _
      split
      · exact h.sequence verbose first _
      · exact (keeps_repeatLast _ _ _ pieces).bind fun _ _ => h.sequence verbose first _
    · exact fun _ => h.sequence verbose first _

theorem keeps_group_succ (start : Nat) (verbose leading : Bool) :
    Keeps host pattern (group (steps + 1) start verbose leading) fun _ => True := by
  have hbody (result : List Node → Option Piece × Bool) : Keeps host pattern (do
      let body ← alternatives steps verbose false
      close start
      return result body) fun _ => True := by
    apply (h.alternatives verbose false).bind
    intro _ _
    exact (keeps_close start).bind fun _ _ => .pure trivial
  unfold group
  apply (keeps_accept '?').bind
  intro marked hmarked
  apply Keeps.ite
  · intro hyes
    have hmark : '?' ∈ pattern := hmarked hyes
    apply keeps_next.bind
    intro token? htoken
    split
    · exact .fail
    · apply keeps_afterP.bind
      intro found _
      split
      · exact .pure trivial
      · exact (h.capture start verbose _).bind fun _ _ => .pure trivial
    · exact hbody _
    · exact hbody _
    · apply Keeps.get.bind
      intro _ _
      exact (keeps_skipComment start _).bind fun _ _ => .pure trivial
    · exact hbody _
    · exact hbody _
    · exact (h.lookbehind start verbose).bind fun _ _ => .pure trivial
    · apply (keeps_name _ _).bind
      intro chars _
      apply (keeps_conditionGroup chars).bind
      intro index _
      apply (keeps_checkLookbehind index).bind
      intro _ _
      exact (h.conditional start verbose index).bind fun _ _ => .pure trivial
    · split
      · rename_i c _ _ _ _ _ _ _ _
        apply Keeps.ite
        · intro _
          apply (keeps_inlineFlags htoken.mem hmark).bind
          intro found _
          split
          · apply Keeps.refuseUnless .failAt
            exact fun _ => keeps_isVerbose.bind fun _ _ => .pure trivial
          · apply (h.alternatives _ false).bind
            intro _ _
            exact (keeps_close start).bind fun _ _ => .pure trivial
        · exact fun _ => .fail
      · exact .fail
  · exact fun _ => (h.capture start verbose none).bind fun _ _ => .pure trivial

theorem keeps_capture_succ (start : Nat) (verbose : Bool) (label : Option (List Char)) :
    Keeps host pattern (capture (steps + 1) start verbose label) fun _ => True := by
  rw [capture]
  apply (keeps_openGroup label).bind
  intro index _
  apply (h.alternatives verbose false).bind
  intro body _
  apply (keeps_close start).bind
  intro _ _
  exact (keeps_closeGroup index _).bind fun _ _ => .pure trivial

theorem keeps_lookbehind_succ (start : Nat) (verbose : Bool) :
    Keeps host pattern (lookbehind (steps + 1) start verbose) fun _ => True := by
  rw [lookbehind]
  apply keeps_next.bind
  intro _ _
  split
  · exact .fail
  apply Keeps.refuseIf .fail
  intro _
  apply Keeps.get.bind
  intro _ _
  apply keeps_groupCount.bind
  intro _ _
  refine Keeps.bind (.modify fun _ h => ⟨h.rest, h.flags⟩) fun _ _ => ?_
  apply (h.alternatives verbose false).bind
  intro _ _
  refine Keeps.bind (.modify fun _ h => ⟨h.rest, h.flags⟩) fun _ _ => ?_
  apply (keeps_close start).bind
  intro _ _
  exact Keeps.get.bind fun _ _ => .pure trivial

theorem keeps_conditional_succ (start : Nat) (verbose : Bool) (index : Nat) :
    Keeps host pattern (conditional (steps + 1) start verbose index) fun _ => True := by
  rw [conditional]
  apply (h.sequence verbose false []).bind
  intro _ _
  apply (keeps_accept '|').bind
  intro _ _
  apply Keeps.join (fun _ => h.sequence verbose false []) fun _ => .pure trivial
  intro _ _
  apply keeps_peek.bind
  intro _ _
  apply Keeps.refuseIf .fail
  exact fun _ => (keeps_close start).bind fun _ _ => .pure trivial

end Step

theorem keepsIn (steps : Nat) : KeepsIn host pattern steps := by
  induction steps with
  | zero => exact keepsIn_zero
  | succ steps ih =>
      exact
        { alternatives := keeps_alternatives_succ ih
          moreAlternatives := keeps_moreAlternatives_succ ih
          sequence := keeps_sequence_succ ih
          group := keeps_group_succ ih
          capture := keeps_capture_succ ih
          lookbehind := keeps_lookbehind_succ ih
          conditional := keeps_conditional_succ ih }

theorem keeps_pattern : Keeps host pattern Parser.pattern fun _ => True := by
  unfold Parser.pattern
  apply keeps_peek.bind
  intro _ _
  apply Keeps.refuseIf .failAt
  intro _
  apply Keeps.get.bind
  intro start _
  apply ((keepsIn _).alternatives false true).bind
  intro body _
  apply Keeps.get.bind
  intro reading hreading
  apply Keeps.ite
  · intro hboth
    refine Keeps.bind (.limit ?_) fun _ h => False.elim h
    rw [Bool.and_eq_true, List.contains_iff_mem, List.contains_iff_mem] at hboth
    obtain ⟨hmark, c, hc, hascii⟩ := hreading.flags _ hboth.1
    obtain ⟨-, d, hd, hunicode⟩ := hreading.flags _ hboth.2
    rw [Flag.eq_of_ofChar?_ascii hascii] at hc
    rw [Flag.eq_of_ofChar?_unicode hunicode] at hd
    exact ⟨hmark, hc, hd⟩
  · intro _
    apply Keeps.refuseUnless .fail
    intro _
    apply Keeps.bind (.forIn fun _ _ => ?_) fun _ _ => .pure trivial
    apply Keeps.refuseIf .failAt
    exact fun _ => .pure trivial

end Parser

theorem CountIn.mono {text whole digits : List Char} (h : CountIn text digits)
    (hpart : text <:+: whole) : CountIn whole digits :=
  ⟨hpart.mem h.brace, h.digits_infix.trans hpart, h.isDigit⟩

theorem Limit.WrittenIn.mono {host : Host} {text whole : List Char} {reached : Limit}
    (h : reached.WrittenIn host text) (hpart : text <:+: whole) : reached.WrittenIn host whole := by
  cases reached with
  | repetitionCount =>
      obtain ⟨digits, hcount, hlarge⟩ := h
      exact ⟨digits, hcount.mono hpart, hlarge⟩
  | numeral length =>
      obtain ⟨digits, hcount, hlong⟩ := h
      exact ⟨digits, hcount.mono hpart, hlong⟩
  | asciiAndUnicode => exact ⟨hpart.mem h.1, hpart.mem h.2.1, hpart.mem h.2.2⟩
  | nesting => exact Nat.le_trans h (hpart.sublist.count_le '(')

/-- A limit that the reading of a pattern reaches is written in the pattern. -/
theorem writtenIn_of_parse_eq {host : Host} {pattern : String} {reached : Limit}
    (h : parse host pattern = .error (.limit reached)) : reached.WrittenIn host pattern.toList := by
  have hstart : Reading.Of pattern.toList
      ⟨host, 0, Token.ofChars pattern.toList, [], #[], [], none, []⟩ :=
    ⟨List.suffix_refl _, nofun⟩
  have hkeeps : Parser.Keeps host pattern.toList Parser.pattern fun _ => True :=
    Parser.keeps_pattern
  have hread := hkeeps _ hstart
  rw [Parser.Leads] at hread
  unfold parse at h
  split at h
  · rename_i hexhausts
    cases h
    exact host.room_le_count pattern hexhausts
  dsimp only at h
  cases hrun : Parser.pattern.run
      ⟨host, 0, Token.ofChars pattern.toList, [], #[], [], none, []⟩ with
  | error failure =>
      rw [hrun] at h hread
      cases h
      exact hread
  | ok found =>
      obtain ⟨root, reading⟩ := found
      rw [hrun] at h
      dsimp only [bind, Except.bind] at h
      split at h
      · cases h
      · cases h

end Unreferenced.Regex
