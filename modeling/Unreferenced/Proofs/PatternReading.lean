import Mathlib.Data.List.Basic
import Unreferenced.Regex.Parser

/-! What the reading of a pattern keeps. Every reader leaves a part at the end of the pattern, and puts
flags in force only if their letters stand in it, so whatever makes a reader give up at a limit can be
pointed out in the pattern. This is followed through the readers of tokens, escapes, sets and the heads
of groups. -/

namespace Unreferenced.Regex

/-! ### What a limit takes -/

/-- A brace and digits stand in a pattern. -/
structure CountIn (pattern digits : List Char) : Prop where
  brace : '\x7b' ∈ pattern
  digits_infix : digits <:+: pattern
  isDigit : ∀ c ∈ digits, c.isDigit

def Flag.WrittenIn (pattern : List Char) (flag : Flag) : Prop :=
  ∃ c ∈ pattern, Flag.ofChar? c = some flag

/-- What has to stand in a pattern that reaches a limit on a machine. -/
def Limit.WrittenIn (host : Host) (pattern : List Char) : Limit → Prop
  | repetitionCount => ∃ digits, CountIn pattern digits ∧ countLimit ≤ valueOf 10 digits
  | numeral length =>
    ∃ digits, CountIn pattern digits ∧ digits.length = length ∧ longestNumeral < length
  | asciiAndUnicode => '?' ∈ pattern ∧ 'a' ∈ pattern ∧ 'u' ∈ pattern
  | nesting => host.room ≤ pattern.count '('

/-- A failure that says something of the pattern itself. -/
def Failure.WrittenIn (host : Host) (pattern : List Char) : Failure → Prop
  | fault _ => True
  | limit reached => reached.WrittenIn host pattern

theorem Flag.eq_of_ofChar?_ascii {c : Char} (h : Flag.ofChar? c = some .ascii) : c = 'a' := by
  unfold Flag.ofChar? at h
  split at h <;> first | rfl | cases h

theorem Flag.eq_of_ofChar?_unicode {c : Char} (h : Flag.ofChar? c = some .unicode) : c = 'u' := by
  unfold Flag.ofChar? at h
  split at h <;> first | rfl | cases h

namespace Token

theorem flatMap_chars_ofChars (text : List Char) : (ofChars text).flatMap chars = text := by
  fun_induction ofChars text with
  | case1 => rfl
  | case2 => rfl
  | case3 c rest ih => rw [List.flatMap_cons, ih]; rfl
  | case4 c rest _ _ ih => rw [List.flatMap_cons, ih]; rfl

theorem mem_of_plain_mem {c : Char} {text : List Char} (h : plain c ∈ ofChars text) : c ∈ text := by
  rw [← flatMap_chars_ofChars text, List.mem_flatMap]
  exact ⟨plain c, h, List.mem_singleton_self c⟩

theorem infix_of_plain_infix {chars : List Char} {text : List Char}
    (h : chars.map plain <:+: ofChars text) : chars <:+: text := by
  obtain ⟨front, back, heq⟩ := h
  have hchars : (chars.map plain).flatMap Token.chars = chars := by
    rw [List.flatMap_map]
    exact List.flatMap_singleton' chars
  have htext := flatMap_chars_ofChars text
  rw [← heq, List.flatMap_append, List.flatMap_append, hchars] at htext
  exact ⟨_, _, htext⟩

end Token

/-- A reading of a pattern: a part at its end is left, and the flags have their letters in it. -/
structure Reading.Of (pattern : List Char) (reading : Reading) : Prop where
  rest : reading.rest <:+ Token.ofChars pattern
  flags : ∀ flag ∈ reading.flags, '?' ∈ pattern ∧ flag.WrittenIn pattern

/-- A token that was found stands in the pattern. -/
def Found (pattern : List Char) (token? : Option Token) : Prop :=
  ∀ token, token? = some token → token ∈ Token.ofChars pattern

theorem Found.mem {pattern : List Char} {c : Char} (h : Found pattern (some (.plain c))) :
    c ∈ pattern :=
  Token.mem_of_plain_mem (h _ rfl)

theorem Reading.Of.found {pattern : List Char} {reading : Reading} (h : reading.Of pattern) :
    Found pattern reading.rest.head? :=
  fun _ htoken => h.rest.mem (List.mem_of_mem_head? htoken)

namespace Parser

variable {α β : Type} {host : Host} {pattern : List Char}

/-- From a reading, the parser gets on to a result and a further reading with a property, or it refuses
the pattern. Any limit that it reaches is written in the pattern. -/
def Leads (host : Host) (pattern : List Char) (parser : Parser α) (reading : Reading)
    (outcome : α → Reading → Prop) : Prop :=
  match parser.run reading with
  | .ok (a, after) => outcome a after
  | .error failure => failure.WrittenIn host pattern

theorem Leads.mono {parser : Parser α} {reading : Reading} {outcome weaker : α → Reading → Prop}
    (hparser : Leads host pattern parser reading outcome)
    (h : ∀ a after, outcome a after → weaker a after) : Leads host pattern parser reading weaker := by
  rw [Leads] at hparser ⊢
  cases hrun : parser.run reading with
  | error failure =>
      rw [hrun] at hparser
      exact hparser
  | ok found =>
      rw [hrun] at hparser
      exact h found.1 found.2 hparser

theorem Leads.bind {parser : Parser α} {next : α → Parser β} {reading : Reading}
    {middle : α → Reading → Prop} {outcome : β → Reading → Prop}
    (hparser : Leads host pattern parser reading middle)
    (hnext : ∀ a after, middle a after → Leads host pattern (next a) after outcome) :
    Leads host pattern (parser >>= next) reading outcome := by
  rw [Leads] at hparser ⊢
  rw [StateT.run_bind]
  cases hrun : parser.run reading with
  | error failure =>
      rw [hrun] at hparser
      exact hparser
  | ok found =>
      rw [hrun] at hparser
      exact hnext found.1 found.2 hparser

/-- From every reading of the pattern, the parser gets on to a result with a property and to another
reading of the pattern. -/
def Keeps (host : Host) (pattern : List Char) (parser : Parser α) (result : α → Prop) : Prop :=
  ∀ reading : Reading, reading.Of pattern →
    Leads host pattern parser reading fun a after => result a ∧ after.Of pattern

namespace Keeps

variable {parser : Parser α} {result : α → Prop}

theorem pure {a : α} (h : result a) : Keeps host pattern (Pure.pure a) result :=
  fun _ hreading => ⟨h, hreading⟩

theorem bind {next : α → Parser β} {outcome : β → Prop} (hparser : Keeps host pattern parser result)
    (hnext : ∀ a, result a → Keeps host pattern (next a) outcome) :
    Keeps host pattern (parser >>= next) outcome :=
  fun reading hreading => (hparser reading hreading).bind fun a after h => hnext a h.1 after h.2

theorem ite {condition : Prop} [Decidable condition] {yes no : Parser α}
    (hyes : condition → Keeps host pattern yes result)
    (hno : ¬ condition → Keeps host pattern no result) :
    Keeps host pattern (if condition then yes else no) result := by
  split
  · exact hyes ‹_›
  · exact hno ‹_›

theorem failAt {cause : Cause} {position : Nat} :
    Keeps host pattern (failAt cause position : Parser α) result := fun _ _ => trivial

theorem fail {cause : Cause} {back : Nat} :
    Keeps host pattern (fail cause back : Parser α) result := fun _ _ => trivial

theorem limit {reached : Limit} (h : reached.WrittenIn host pattern) :
    Keeps host pattern (throw (.limit reached) : Parser α) result := fun _ _ => h

theorem get : Keeps host pattern get (Reading.Of pattern) := fun _ hreading => ⟨hreading, hreading⟩

theorem set {reading : Reading} (h : reading.Of pattern) :
    Keeps host pattern (set reading) fun _ => True := fun _ _ => ⟨trivial, h⟩

theorem modify {change : Reading → Reading}
    (h : ∀ reading : Reading, reading.Of pattern → (change reading).Of pattern) :
    Keeps host pattern (modify change) fun _ => True :=
  fun reading hreading => ⟨trivial, h reading hreading⟩

/-- Two ways that join before what follows. -/
theorem join {condition : Prop} [Decidable condition] {yes no : Parser α} {next : α → Parser β}
    {outcome : β → Prop} (hyes : condition → Keeps host pattern yes result)
    (hno : ¬ condition → Keeps host pattern no result)
    (hnext : ∀ a, result a → Keeps host pattern (next a) outcome) :
    Keeps host pattern (if condition then yes >>= next else no >>= next) outcome :=
  ite (fun h => (hyes h).bind hnext) fun h => (hno h).bind hnext

/-- A refusal that ends the reading needs nothing of what would follow it. -/
theorem refuseIf {condition : Prop} [Decidable condition] {refusal : Parser PUnit}
    {next : PUnit → Parser α} (hrefusal : Keeps host pattern refusal fun _ => False)
    (hnext : ¬ condition → Keeps host pattern (next ()) result) :
    Keeps host pattern (if condition then refusal >>= next else next ()) result :=
  ite (fun _ => hrefusal.bind fun _ h => h.elim) hnext

theorem refuseUnless {condition : Prop} [Decidable condition] {refusal : Parser PUnit}
    {next : PUnit → Parser α} (hrefusal : Keeps host pattern refusal fun _ => False)
    (hnext : condition → Keeps host pattern (next ()) result) :
    Keeps host pattern (if condition then next () else refusal >>= next) result :=
  ite hnext fun _ => hrefusal.bind fun _ h => h.elim

theorem forIn {items : List α} {init : β} {body : α → β → Parser (ForInStep β)}
    (h : ∀ item b, Keeps host pattern (body item b) fun _ => True) :
    Keeps host pattern (forIn items init body) fun _ => True := by
  induction items generalizing init with
  | nil => exact .pure trivial
  | cons item items ih =>
      rw [List.forIn_cons]
      apply (h item init).bind
      intro step _
      cases step with
      | done b => exact .pure trivial
      | yield b => exact ih

end Keeps

/-! ### Taking tokens -/

theorem leads_get (reading : Reading) :
    Leads host pattern get reading fun found after => found = reading ∧ after = reading := ⟨rfl, rfl⟩

theorem leads_peek (reading : Reading) :
    Leads host pattern peek reading fun token? after =>
      token? = reading.rest.head? ∧ after = reading := ⟨rfl, rfl⟩

theorem leads_next (reading : Reading) :
    Leads host pattern next reading fun token? after =>
      token? = reading.rest.head? ∧ after.rest = reading.rest.tail ∧ after.flags = reading.flags := by
  unfold next
  apply (leads_get reading).bind
  rintro _ reading ⟨rfl, rfl⟩
  split
  · rename_i hrest
    rw [hrest]
    exact ⟨rfl, hrest, rfl⟩
  · rename_i token rest hrest
    rw [hrest]
    split
    · trivial
    · exact ⟨rfl, rfl, rfl⟩

/-- What is taken, and what is left after it, are what was left before. -/
theorem leads_takeWhile (belongs : Char → Bool) (count : Nat) (reading : Reading) :
    Leads host pattern (takeWhile belongs count) reading fun chars after =>
      reading.rest = chars.map .plain ++ after.rest ∧ (∀ c ∈ chars, belongs c) ∧
        after.flags = reading.flags := by
  induction count generalizing reading with
  | zero => exact ⟨rfl, nofun, rfl⟩
  | succ count ih =>
      rw [takeWhile]
      apply (leads_peek reading).bind
      rintro _ reading ⟨rfl, rfl⟩
      split
      · rename_i c hhead
        split
        · rename_i hc
          apply (leads_next reading).bind
          rintro _ after ⟨-, hrest, hflags⟩
          apply (ih after).bind
          rintro chars last ⟨htaken, hbelongs, hlast⟩
          refine ⟨?_, ?_, hlast.trans hflags⟩
          · rw [List.map_cons, List.cons_append, ← htaken, hrest]
            exact (List.cons_head?_tail hhead).symm
          · rintro d (_ | ⟨_, hd⟩)
            · exact hc
            · exact hbelongs d hd
        · exact ⟨rfl, nofun, rfl⟩
      · exact ⟨rfl, nofun, rfl⟩

theorem keeps_peek : Keeps host pattern peek (Found pattern) := by
  intro reading hreading
  apply (leads_peek reading).mono
  rintro _ reading ⟨rfl, rfl⟩
  exact ⟨hreading.found, hreading⟩

theorem keeps_next : Keeps host pattern next (Found pattern) := by
  intro reading hreading
  apply (leads_next reading).mono
  rintro _ after ⟨rfl, hrest, hflags⟩
  refine ⟨hreading.found, ?_, ?_⟩
  · rw [hrest]
    exact (List.tail_suffix _).trans hreading.rest
  · rw [hflags]
    exact hreading.flags

theorem keeps_accept (c : Char) : Keeps host pattern (accept c) fun found => found → c ∈ pattern := by
  rw [accept]
  apply keeps_peek.bind
  intro token? htoken
  apply Keeps.ite
  · intro hc
    rw [beq_iff_eq.mp hc] at htoken
    apply keeps_next.bind
    exact fun _ _ => .pure fun _ => htoken.mem
  · exact fun _ => .pure nofun

/-- What is taken stands in the pattern without a gap. -/
theorem keeps_takeWhile (belongs : Char → Bool) (count : Nat) :
    Keeps host pattern (takeWhile belongs count) fun chars =>
      chars <:+: pattern ∧ ∀ c ∈ chars, belongs c := by
  intro reading hreading
  apply (leads_takeWhile belongs count reading).mono
  rintro chars after ⟨hrest, hbelongs, hflags⟩
  have hall := hreading.rest
  rw [hrest] at hall
  refine ⟨⟨Token.infix_of_plain_infix ?_, hbelongs⟩, ?_, ?_⟩
  · exact (List.prefix_append _ _).isInfix.trans hall.isInfix
  · exact (List.suffix_append _ _).trans hall
  · rw [hflags]
    exact hreading.flags

/-! ### Names and groups -/

theorem keeps_nameBefore (terminator : Char) (what : String) (steps : Nat) (name : List Char) :
    Keeps host pattern (nameBefore terminator what steps name) fun _ => True := by
  induction steps generalizing name with
  | zero => exact .pure trivial
  | succ steps ih =>
      rw [nameBefore]
      apply keeps_next.bind
      intro token? _
      split
      · exact .ite (fun _ => .fail) fun _ => .fail
      · apply Keeps.ite
        · exact fun _ => .ite (fun _ => .fail) fun _ => .pure trivial
        · exact fun _ => ih _

theorem keeps_name (terminator : Char) (what : String) :
    Keeps host pattern (name terminator what) fun _ => True :=
  Keeps.get.bind fun _ _ => keeps_nameBefore terminator what _ _

theorem keeps_groupCount : Keeps host pattern groupCount fun _ => True :=
  Keeps.get.bind fun _ _ => .pure trivial

theorem keeps_isClosed (index : Nat) : Keeps host pattern (isClosed index) fun _ => True :=
  Keeps.get.bind fun _ _ => .pure trivial

theorem keeps_openGroup (name : Option (List Char)) :
    Keeps host pattern (openGroup name) fun _ => True := by
  unfold openGroup
  apply keeps_groupCount.bind
  intro index _
  apply Keeps.bind (.modify fun _ h => ?_)
  · intro _ _
    cases name with
    | none => exact .pure trivial
    | some chars =>
        apply Keeps.get.bind
        intro reading _
        split
        · exact .fail
        · exact Keeps.bind (.modify fun _ h => ⟨h.rest, h.flags⟩) fun _ _ => .pure trivial
  · exact ⟨h.rest, h.flags⟩

theorem keeps_closeGroup (index : Nat) (body : Node) :
    Keeps host pattern (closeGroup index body) fun _ => True :=
  .modify fun _ h => ⟨h.rest, h.flags⟩

theorem keeps_checkLookbehind (index : Nat) :
    Keeps host pattern (checkLookbehind index) fun _ => True := by
  rw [checkLookbehind]
  apply Keeps.get.bind
  intro reading _
  split
  · exact .pure trivial
  · apply (keeps_isClosed index).bind
    intro closed _
    apply Keeps.refuseUnless .fail
    exact fun _ => .ite (fun _ => .fail) fun _ => .pure trivial

/-! ### Escapes and sets -/

theorem keeps_hexEscape (letter : Char) (count : Nat) :
    Keeps host pattern (hexEscape letter count) fun _ => True := by
  rw [hexEscape]
  apply (keeps_takeWhile isHex count).bind
  intro digits _
  apply Keeps.refuseIf .fail
  intro _
  apply Keeps.refuseIf .fail
  exact fun _ => .pure trivial

theorem keeps_namedEscape : Keeps host pattern namedEscape fun _ => True := by
  rw [namedEscape]
  apply (keeps_accept _).bind
  intro _ _
  apply Keeps.refuseUnless .fail
  intro _
  apply (keeps_name _ _).bind
  intro chars _
  apply Keeps.get.bind
  intro reading _
  split
  · exact .pure trivial
  · exact .fail

theorem keeps_octalCode (digits : List Char) :
    Keeps host pattern (octalCode digits) fun _ => True := by
  rw [octalCode]
  apply Keeps.refuseIf .fail
  exact fun _ => .pure trivial

theorem keeps_codeEscape? (c : Char) : Keeps host pattern (codeEscape? c) fun _ => True := by
  unfold codeEscape?
  split
  · exact (keeps_hexEscape _ _).bind fun _ _ => .pure trivial
  · exact (keeps_hexEscape _ _).bind fun _ _ => .pure trivial
  · exact (keeps_hexEscape _ _).bind fun _ _ => .pure trivial
  · exact keeps_namedEscape.bind fun _ _ => .pure trivial
  · exact .pure trivial

theorem keeps_badEscape (c : Char) {result : α → Prop} :
    Keeps host pattern (badEscape c : Parser α) result := .fail

theorem keeps_memberEscape (c : Char) : Keeps host pattern (memberEscape c) fun _ => True := by
  unfold memberEscape
  split
  · exact .pure trivial
  split
  · exact .pure trivial
  apply (keeps_codeEscape? c).bind
  intro code? _
  split
  · exact .pure trivial
  apply Keeps.ite
  · intro _
    apply (keeps_takeWhile isOctal 2).bind
    intro digits _
    exact (keeps_octalCode _).bind fun _ _ => .pure trivial
  · intro _
    apply Keeps.refuseIf (keeps_badEscape c)
    exact fun _ => .pure trivial

theorem keeps_member (token : Token) : Keeps host pattern (member token) fun _ => True := by
  cases token with
  | plain c => exact .pure trivial
  | escaped c => exact keeps_memberEscape c
  | dangling => exact .fail

theorem keeps_setMembers (start steps : Nat) (members : List Member) :
    Keeps host pattern (setMembers start steps members) fun _ => True := by
  induction steps generalizing members with
  | zero => exact .pure trivial
  | succ steps ih =>
      rw [setMembers]
      apply keeps_next.bind
      intro token? _
      split
      · exact .failAt
      rename_i token _
      apply Keeps.ite (fun _ => .pure trivial)
      intro _
      apply (keeps_member token).bind
      intro low _
      apply (keeps_accept '-').bind
      intro hyphen _
      apply Keeps.ite
      · intro _
        apply keeps_next.bind
        intro other? _
        split
        · exact .failAt
        rename_i other _
        apply Keeps.ite (fun _ => .pure trivial)
        intro _
        apply (keeps_member other).bind
        intro high _
        dsimp only
        split
        · exact .ite (fun _ => .fail) fun _ => ih _
        · exact .fail
      · exact fun _ => ih _

theorem keeps_bracketSet (start : Nat) : Keeps host pattern (bracketSet start) fun _ => True := by
  unfold bracketSet
  apply (keeps_accept '^').bind
  intro negated _
  apply Keeps.get.bind
  intro reading _
  apply (keeps_setMembers start _ []).bind
  intro members _
  split
  · exact .pure trivial
  · exact .pure trivial

theorem keeps_reference (digits : List Char) : Keeps host pattern (reference digits) fun _ => True := by
  unfold reference
  apply keeps_groupCount.bind
  intro count _
  apply Keeps.ite
  · intro _
    apply (keeps_isClosed _).bind
    intro closed _
    apply Keeps.refuseUnless .fail
    exact fun _ => (keeps_checkLookbehind _).bind fun _ _ => .pure trivial
  · exact fun _ => .fail

theorem keeps_numberEscape (c : Char) : Keeps host pattern (numberEscape c) fun _ => True := by
  unfold numberEscape
  apply keeps_peek.bind
  intro token? _
  split
  · rename_i second
    apply Keeps.ite
    · intro _
      apply keeps_next.bind
      intro _ _
      apply Keeps.ite
      · intro _
        apply keeps_peek.bind
        intro token? _
        split
        · apply Keeps.ite
          · intro _
            apply keeps_next.bind
            exact fun _ _ => (keeps_octalCode _).bind fun _ _ => .pure trivial
          · exact fun _ => keeps_reference _
        · exact keeps_reference _
      · exact fun _ => keeps_reference _
    · exact fun _ => keeps_reference _
  · exact keeps_reference _

theorem keeps_escape (c : Char) : Keeps host pattern (escape c) fun _ => True := by
  unfold escape
  split
  · exact .pure trivial
  split
  · exact .pure trivial
  split
  · exact .pure trivial
  apply (keeps_codeEscape? c).bind
  intro code? _
  split
  · exact .pure trivial
  apply Keeps.ite
  · exact fun _ => (keeps_takeWhile isOctal 2).bind fun _ _ => .pure trivial
  · intro _
    apply Keeps.ite (fun _ => keeps_numberEscape c)
    exact fun _ => .ite (fun _ => keeps_badEscape c) fun _ => .pure trivial

/-! ### Heads of groups -/

theorem keeps_checkName (chars : List Char) : Keeps host pattern (checkName chars) fun _ => True := by
  unfold checkName
  exact .ite (fun _ => .pure trivial) fun _ => .fail

theorem keeps_conditionGroup (chars : List Char) :
    Keeps host pattern (conditionGroup chars) fun _ => True := by
  unfold conditionGroup
  apply Keeps.ite
  · intro _
    apply Keeps.get.bind
    intro reading _
    split
    · exact .pure trivial
    · exact .fail
  · intro _
    split
    · apply Keeps.refuseIf .fail
      intro _
      apply Keeps.refuseIf .fail
      intro _
      apply Keeps.bind (.modify fun reading h => ?_) fun _ _ => .pure trivial
      split
      · exact h
      · exact ⟨h.rest, h.flags⟩
    · exact .fail

theorem keeps_refuseFlag (token : Token) (what : String) {result : α → Prop} :
    Keeps host pattern (refuseFlag token what : Parser α) result := by
  cases token with
  | plain c => exact .fail
  | escaped c => exact .fail
  | dangling => exact .fail

/-- The flags that are turned on have their letters in the pattern. -/
theorem keeps_flagsOn (steps : Nat) {flag : Flag} {on : List Flag}
    (hflag : flag.WrittenIn pattern) (hon : ∀ other ∈ on, other.WrittenIn pattern) :
    Keeps host pattern (flagsOn steps flag on) fun found =>
      ∀ other ∈ found.1, other.WrittenIn pattern := by
  induction steps generalizing flag on with
  | zero => exact .pure hon
  | succ steps ih =>
      have hall : ∀ other ∈ flag :: on, other.WrittenIn pattern :=
        List.forall_mem_cons.mpr ⟨hflag, hon⟩
      rw [flagsOn]
      apply Keeps.refuseIf .fail
      intro _
      apply Keeps.refuseIf .fail
      intro _
      apply keeps_next.bind
      intro token? htoken
      split
      · exact .fail
      rename_i token _
      split
      · rename_i c
        apply Keeps.ite (fun _ => .pure hall)
        intro _
        split
        · rename_i other hother
          exact ih ⟨c, htoken.mem, hother⟩ hall
        · exact keeps_refuseFlag _ _
      · exact keeps_refuseFlag _ _

theorem keeps_flagsOff (steps : Nat) (flag : Flag) (off : List Flag) :
    Keeps host pattern (flagsOff steps flag off) fun _ => True := by
  induction steps generalizing flag off with
  | zero => exact .pure trivial
  | succ steps ih =>
      rw [flagsOff]
      apply Keeps.refuseIf .fail
      intro _
      apply keeps_next.bind
      intro token? _
      split
      · exact .fail
      split
      · apply Keeps.ite (fun _ => .pure trivial)
        intro _
        split
        · exact ih _ _
        · exact keeps_refuseFlag _ _
      · exact keeps_refuseFlag _ _

theorem keeps_flagsAfterHyphen : Keeps host pattern flagsAfterHyphen fun _ => True := by
  unfold flagsAfterHyphen
  apply keeps_next.bind
  intro token? _
  split
  · exact .fail
  split
  · split
    · exact Keeps.get.bind fun _ _ => keeps_flagsOff _ _ _
    · exact keeps_refuseFlag _ _
  · exact keeps_refuseFlag _ _

theorem keeps_flagsAfter {on : List Flag} (stop : Char) (hmark : '?' ∈ pattern)
    (hon : ∀ flag ∈ on, flag.WrittenIn pattern) :
    Keeps host pattern (flagsAfter on stop) fun _ => True := by
  unfold flagsAfter
  apply Keeps.ite
  · intro _
    apply Keeps.bind (.modify fun reading h => ?_) fun _ _ => .pure trivial
    refine ⟨h.rest, fun flag hflag => ?_⟩
    rcases List.mem_append.mp hflag with hflag | hflag
    · exact h.flags flag hflag
    · exact ⟨hmark, hon flag hflag⟩
  · intro _
    apply Keeps.refuseIf .fail
    intro _
    apply Keeps.join (fun _ => keeps_flagsAfterHyphen) fun _ => .pure trivial
    intro off _
    apply Keeps.refuseIf .fail
    intro _
    exact .refuseIf .fail fun _ => .pure trivial

theorem keeps_inlineFlags {c : Char} (hc : c ∈ pattern) (hmark : '?' ∈ pattern) :
    Keeps host pattern (inlineFlags c) fun _ => True := by
  unfold inlineFlags
  split
  · rename_i flag hflag
    apply Keeps.get.bind
    intro reading _
    apply (keeps_flagsOn _ ⟨c, hc, hflag⟩ (List.forall_mem_nil _)).bind
    exact fun _ hon => keeps_flagsAfter _ hmark hon
  · exact keeps_flagsAfter _ hmark (List.forall_mem_nil _)

end Parser
end Unreferenced.Regex
