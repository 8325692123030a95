import Unreferenced.Regex.Parser
import Unreferenced.Text.Case
import Unreferenced.Text.Character

/-! Whether a regular expression matches somewhere in a text. Matching tries the choices of an
expression in their order and goes back to the last one when the rest fails. A match is run with a
continuation, the rest of the expression, so that going back needs no stack of its own. -/

namespace Unreferenced.Regex

/-- How characters are read at a place of the expression. -/
structure Mode where
  ignoreCase : Bool
  multiline : Bool
  dotAll : Bool
  ascii : Bool
  deriving DecidableEq, Repr

namespace Mode

/-- The mode inside a group that turns flags on and off. A flag for a kind of characters takes the
place of the one in force. -/
def within (mode : Mode) (on off : List Flag) : Mode where
  ignoreCase := (mode.ignoreCase || on.contains .ignoreCase) && !off.contains .ignoreCase
  multiline := (mode.multiline || on.contains .multiline) && !off.contains .multiline
  dotAll := (mode.dotAll || on.contains .dotAll) && !off.contains .dotAll
  ascii := on.contains .ascii || mode.ascii && !on.contains .unicode

/-- The mode of a whole pattern. -/
def ofFlags (flags : List Flag) : Mode := within ⟨false, false, false, false⟩ flags []

end Mode

def Category.holds (ascii : Bool) (kind : Category) (code : Nat) : Bool :=
  let c := Char.ofNat code
  match kind with
  | digit => if ascii then c.isDigit else Text.isDecimal c
  | space => if ascii then decide (0x9 ≤ code ∧ code ≤ 0xD) || code == 0x20 else Text.isSpace c
  | word => if ascii then c.isAlphanum || c == '_' else Text.isWord c

def basicPlaneEnd : Nat := 0xFFFF

namespace Member

/-- Whether a member holds of a character as it is. -/
def holds (ascii : Bool) (code : Nat) : Member → Bool
  | one other => code == other
  | range first last => first ≤ code && code ≤ last
  | category kind negated => kind.holds ascii code != negated

/-- Whether a member holds of a character when case is ignored. A member beyond the basic plane is
compared as it is written with the lower-case form of the character. A range that reaches beyond the
basic plane also holds if the lower-case form, or the upper-case form of that, lies in it. -/
def holdsFolded (ascii : Bool) (code : Nat) (m : Member) : Bool :=
  let low := if ascii then Text.lowerAscii code else Text.lower code
  match m with
  | one other =>
    if ascii then low == Text.lowerAscii other
    else if Text.lower other ≤ basicPlaneEnd then Text.sameLetter other code
    else low == other
  | range first last =>
    let alike :=
      if ascii then
        if Text.isAsciiLetter low then [low, low - 0x20] else [low]
      else Text.sameLetters code
    alike.any (fun other => first ≤ other && other ≤ min last basicPlaneEnd) ||
      basicPlaneEnd < last &&
        (first ≤ low && low ≤ last || first ≤ Text.upper low && Text.upper low ≤ last)
  | category kind negated => kind.holds ascii low != negated

/-- Whether a member names a character that has case, or may name one beyond the basic plane. -/
def mayFold (ascii : Bool) : Member → Bool
  | one code => if ascii then Text.isAsciiLetter code else Text.isCased code
  | range first last =>
    basicPlaneEnd < last ||
      if ascii then first ≤ 0x5A && 0x41 ≤ last || first ≤ 0x7A && 0x61 ≤ last
      else Text.anyCased first last
  | category _ _ => false

end Member

/-- Whether the character `code` stands for `other`. -/
def Mode.same (mode : Mode) (other code : Nat) : Bool :=
  if mode.ignoreCase then
    if mode.ascii then Text.lowerAscii code == Text.lowerAscii other
    else Text.sameLetter other code
  else code == other

def Mode.inSet (mode : Mode) (negated : Bool) (members : List Member) (code : Nat) : Bool :=
  members.any (fun m =>
    if mode.ignoreCase then m.holdsFolded mode.ascii code else m.holds mode.ascii code) != negated

structure Capture where
  start : Option Nat
  stop : Option Nat

/-- How far a match has come, and its groups. -/
structure Progress where
  position : Nat
  captures : Array Capture

/-- The rest of an expression: the match that it completes, if it does. -/
abbrev Continuation := Progress → Option Progress

/-- What matches at a place and hands on to the rest. -/
abbrev Matcher := Progress → Continuation → Option Progress

/-- A text to search. -/
abbrev Subject := Array Char

namespace Subject

def code? (subject : Subject) (position : Nat) : Option Nat := (subject[position]?).map Char.toNat

def wordAt (subject : Subject) (ascii : Bool) (position : Nat) : Bool :=
  ((subject.code? position).map (Category.word.holds ascii)).getD false

/-- Whether the place lies between a word character and none. An empty text has no such place. -/
def atBoundary (subject : Subject) (ascii : Bool) (position : Nat) : Bool :=
  (0 < position && subject.wordAt ascii (position - 1)) != subject.wordAt ascii position

end Subject

def Anchor.holds (subject : Subject) (mode : Mode) (position : Nat) : Anchor → Bool
  | start => position == 0 || mode.multiline && subject[position - 1]? == some '\n'
  | finish =>
    position == subject.size ||
      subject[position]? == some '\n' && (mode.multiline || position + 1 == subject.size)
  | textStart => position == 0
  | textEnd => position == subject.size
  | boundary => subject.size != 0 && subject.atBoundary mode.ascii position
  | noBoundary => subject.size != 0 && !subject.atBoundary mode.ascii position

namespace Progress

def capture? (progress : Progress) (index : Nat) : Option Capture := progress.captures[index - 1]?

/-- Where the text of a group lies, if the group has matched. -/
def span? (progress : Progress) (index : Nat) : Option (Nat × Nat) := do
  let capture ← progress.capture? index
  let start ← capture.start
  let stop ← capture.stop
  if start ≤ stop then some (start, stop) else none

def opening (progress : Progress) (index : Nat) : Progress :=
  { progress with captures := progress.captures.modify (index - 1) fun capture =>
      ⟨some progress.position, capture.stop⟩ }

def closing (progress : Progress) (index : Nat) : Progress :=
  { progress with captures := progress.captures.modify (index - 1) fun capture =>
      ⟨capture.start, some progress.position⟩ }

/-- The place after one more character. -/
def advance (progress : Progress) (count : Nat) : Progress :=
  { progress with position := progress.position + count }

end Progress

/-- Matches one character that passes a test. -/
def single (subject : Subject) (test : Nat → Bool) : Matcher := fun progress rest =>
  match subject.code? progress.position with
  | some code => if test code then rest (progress.advance 1) else none
  | none => none

/-- Whether the text of a group stands at the place reached. Case is compared by lower-case forms
alone. -/
def repeatsGroup (subject : Subject) (mode : Mode) (position start count : Nat) : Bool :=
  position + count ≤ subject.size && (List.range count).all fun i =>
    match subject.code? (start + i), subject.code? (position + i) with
    | some a, some b =>
      if mode.ignoreCase then
        if mode.ascii then Text.lowerAscii a == Text.lowerAscii b else Text.lower a == Text.lower b
      else a == b
    | _, _ => false

/-- Repeats a matcher, as often as possible first. After `least` times a further one starts only where
the last optional one did not start. `steps` bounds the repetitions. -/
def repeatGreedy (body : Matcher) (least : Nat) (most : Option Nat) :
    Nat → Nat → Option Nat → Matcher
  | 0, _, _, progress, rest => rest progress
  | steps + 1, count, last, progress, rest =>
    if count < least then
      body progress fun after => repeatGreedy body least most steps (count + 1) last after rest
    else if most.all (count < ·) && last != some progress.position then
      (body progress fun after =>
        repeatGreedy body least most steps (count + 1) (some progress.position) after rest) <|>
      rest progress
    else rest progress

/-- Repeats a matcher, as rarely as possible first. -/
def repeatLazy (body : Matcher) (least : Nat) (most : Option Nat) :
    Nat → Nat → Option Nat → Matcher
  | 0, _, _, progress, rest => rest progress
  | steps + 1, count, last, progress, rest =>
    if count < least then
      body progress fun after => repeatLazy body least most steps (count + 1) last after rest
    else
      rest progress <|>
      if most.all (count < ·) && last != some progress.position then
        body progress fun after =>
          repeatLazy body least most steps (count + 1) (some progress.position) after rest
      else none

/-- Repeats a matcher as often as possible, each time with its first match. -/
def repeatPossessive (body : Matcher) (least : Nat) (most : Option Nat) :
    Nat → Nat → Option Nat → Continuation
  | 0, _, _, progress => some progress
  | steps + 1, count, last, progress =>
    if count < least then
      match body progress some with
      | some after => repeatPossessive body least most steps (count + 1) last after
      | none => none
    else if most.all (count < ·) && last != some progress.position then
      match body progress some with
      | some after =>
        repeatPossessive body least most steps (count + 1) (some progress.position) after
      | none => some progress
    else some progress

/-- Matches an expression at a place and hands on to the rest. Each optional repetition but the last
takes at least one character, which bounds their number. -/
def Node.run (subject : Subject) (mode : Mode) : Node → Matcher
  | empty, progress, rest => rest progress
  | one other, progress, rest => single subject (mode.same other) progress rest
  | allBut other, progress, rest => single subject (!mode.same other ·) progress rest
  | any, progress, rest => single subject (fun code => mode.dotAll || code != 0xA) progress rest
  | set negated members, progress, rest =>
    single subject (mode.inSet negated members) progress rest
  | anchor kind, progress, rest =>
    if kind.holds subject mode progress.position then rest progress else none
  | backref index, progress, rest =>
    match progress.span? index with
    | some (start, stop) =>
      if repeatsGroup subject mode progress.position start (stop - start) then
        rest (progress.advance (stop - start))
      else none
    | none => none
  | group index body, progress, rest =>
    body.run subject mode (progress.opening index) fun after => rest (after.closing index)
  | flagged on off body, progress, rest => body.run subject (mode.within on off) progress rest
  | atomic body, progress, rest =>
    match body.run subject mode progress some with
    | some after => rest after
    | none => none
  | ahead negated body, progress, rest =>
    match negated, body.run subject mode progress some with
    | false, some after => rest { after with position := progress.position }
    | false, none => none
    | true, some _ => none
    | true, none => rest progress
  | behind negated width body, progress, rest =>
    let found :=
      if width.least ≤ progress.position then
        body.run subject mode { progress with position := progress.position - width.least } some
      else none
    match negated, found with
    | false, some after => rest { after with position := progress.position }
    | false, none => none
    | true, some _ => none
    | true, none => rest progress
  | conditional index yes no, progress, rest =>
    if (progress.span? index).isSome then yes.run subject mode progress rest
    else no.run subject mode progress rest
  | repeated preference least most body, progress, rest =>
    let steps := least + subject.size + 2
    match preference with
    | .greedy => repeatGreedy (body.run subject mode) least most steps 0 none progress rest
    | .lazy => repeatLazy (body.run subject mode) least most steps 0 none progress rest
    | .possessive =>
      match repeatPossessive (body.run subject mode) least most steps 0 none progress with
      | some after => rest after
      | none => none
  | seq first second, progress, rest =>
    first.run subject mode progress fun after => second.run subject mode after rest
  | alt left right, progress, rest =>
    left.run subject mode progress rest <|> right.run subject mode progress rest

/-- The set that an expression starts with, unless a member of it folds where case is ignored. -/
def Node.leadingSet? (mode : Mode) : Node → Option (Bool × List Member)
  | set negated members =>
    if mode.ignoreCase && members.any (·.mayFold mode.ascii) then none
    else some (negated, members)
  | group _ body => body.leadingSet? mode
  | flagged on off body => body.leadingSet? (mode.within on off)
  | seq first _ => first.leadingSet? mode
  | _ => none

/-- Whether a match may start at a place. Where the expression starts with a set, the place must hold a
character of that set, read in the mode of the whole pattern. -/
def mayStart (subject : Subject) (ascii : Bool) (position : Nat) :
    Option (Bool × List Member) → Bool
  | none => true
  | some (negated, members) =>
    ((subject.code? position).map fun code => members.any (·.holds ascii code) != negated).getD false

/-- Whether a match starts anywhere in the text. -/
def Expression.matches (regex : Expression) (text : String) : Bool :=
  let subject : Subject := text.toList.toArray
  let mode := Mode.ofFlags regex.flags
  let leading := regex.root.leadingSet? mode
  let unset := Array.replicate regex.groups ⟨none, none⟩
  (List.range (subject.size + 1)).any fun position =>
    mayStart subject mode.ascii position leading &&
      (regex.root.run subject mode ⟨position, unset⟩ some).isSome

end Unreferenced.Regex
