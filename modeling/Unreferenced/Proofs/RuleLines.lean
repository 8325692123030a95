import Mathlib.Data.List.DropRight
import Unreferenced.Ignore.RuleSet
import Unreferenced.Proofs.PatternLimits

/-! Ignore files line by line. A line without text holds no rule, a line of which the patterns compile
gives its rule, and a line at fault is refused with a warning that carries its number; none of them
matters to the others. A line that reaches a limit ends the reading, and the limit is written in it. -/

namespace Unreferenced

namespace Text

theorem lines_cons {c : Char} {rest : List Char}
    (hpair : ∀ tail, ¬ (c = '\r' ∧ rest = '\n' :: tail)) :
    lines (c :: rest) =
      if isLineBreak c then [] :: lines rest
      else match lines rest with
        | [] => [[c]]
        | line :: more => (c :: line) :: more :=
  lines.eq_3 c rest fun tail hc hrest => hpair tail ⟨hc, hrest⟩

theorem lines_cons_of_not_isLineBreak {c : Char} {rest : List Char} (hc : ¬ isLineBreak c = true) :
    lines (c :: rest) = match lines rest with
      | [] => [[c]]
      | line :: more => (c :: line) :: more := by
  rw [lines_cons, if_neg hc]
  rintro tail ⟨rfl, -⟩
  exact hc (by decide)

theorem lines_eq_nil_iff {text : List Char} : lines text = [] ↔ text = [] := by
  fun_cases lines text with
  | case1 => exact iff_of_true rfl rfl
  | case2 | case3 | case4 | case5 =>
      exact iff_of_false (List.cons_ne_nil _ _) (List.cons_ne_nil _ _)

/-- A line feed between two texts divides their lines, and it may end an empty line of its own. -/
theorem lines_append_newline (front back : List Char) :
    ∃ blank, (∀ line ∈ blank, line = []) ∧
      lines (front ++ '\n' :: back) = lines front ++ (blank ++ lines back) := by
  have hnewline : lines ('\n' :: back) = [] :: lines back := by
    rw [lines_cons (by simp), if_pos (by decide)]
  fun_induction lines front with
  | case1 => exact ⟨[[]], by simp, hnewline⟩
  | case2 rest ih =>
      obtain ⟨blank, hblank, hlines⟩ := ih
      exact ⟨blank, hblank, by rw [List.cons_append, List.cons_append, lines, hlines]; rfl⟩
  | case3 c rest hpair hbreak ih =>
      cases rest with
      | nil =>
          by_cases hc : c = '\r'
          · rw [hc]
            exact ⟨[], by simp, by rw [List.singleton_append, lines]; rfl⟩
          · refine ⟨[[]], by simp, ?_⟩
            rw [List.singleton_append, lines_cons (by simp [hc]), if_pos hbreak, hnewline]
            rfl
      | cons d rest =>
          obtain ⟨blank, hblank, hlines⟩ := ih
          refine ⟨blank, hblank, ?_⟩
          rw [List.cons_append, lines_cons, if_pos hbreak, hlines]
          · rfl
          · rintro tail ⟨hc, hrest⟩
            obtain ⟨rfl, -⟩ := List.cons.inj hrest
            exact hpair rest hc rfl
  | case4 c rest hpair hbreak hnil ih =>
      obtain rfl := lines_eq_nil_iff.mp hnil
      refine ⟨[], by simp, ?_⟩
      rw [List.singleton_append, lines_cons_of_not_isLineBreak hbreak, hnewline]
      rfl
  | case5 c rest hpair hbreak line more hmore ih =>
      obtain ⟨blank, hblank, hlines⟩ := ih
      refine ⟨blank, hblank, ?_⟩
      rw [List.cons_append, lines_cons_of_not_isLineBreak hbreak, hlines, hmore]
      rfl

theorem prefix_of_lines_eq_cons {text line : List Char} {more : List (List Char)}
    (h : lines text = line :: more) : line <+: text := by
  fun_induction lines text generalizing line more with
  | case1 => cases h
  | case2 | case3 =>
      cases h
      exact List.nil_prefix
  | case4 c rest =>
      cases h
      exact List.cons_prefix_cons.mpr ⟨rfl, List.nil_prefix⟩
  | case5 c rest _ _ first others hlines ih =>
      cases h
      exact List.cons_prefix_cons.mpr ⟨rfl, ih hlines⟩

theorem infix_of_mem_lines {text line : List Char} (h : line ∈ lines text) : line <:+: text := by
  fun_induction lines text with
  | case1 => cases h
  | case2 rest ih =>
      rcases List.mem_cons.mp h with rfl | h
      · exact List.nil_infix
      · exact (ih h).trans (List.suffix_append ['\r', '\n'] rest).isInfix
  | case3 c rest _ _ ih =>
      rcases List.mem_cons.mp h with rfl | h
      · exact List.nil_infix
      · exact (ih h).trans (List.suffix_cons c rest).isInfix
  | case4 c rest _ _ hnil ih =>
      rw [List.mem_singleton.mp h]
      exact (List.cons_prefix_cons.mpr ⟨rfl, List.nil_prefix⟩ : [c] <+: c :: rest).isInfix
  | case5 c rest _ _ first others hlines ih =>
      rcases List.mem_cons.mp h with rfl | h
      · exact (List.cons_prefix_cons.mpr ⟨rfl, prefix_of_lines_eq_cons hlines⟩).isInfix
      · rw [hlines] at ih
        exact (ih (List.mem_cons_of_mem first h)).trans (List.suffix_cons c rest).isInfix

theorem lines_of_forall {line : List Char} (hne : line ≠ [])
    (h : ∀ c ∈ line, isLineBreak c = false) : lines line = [line] := by
  induction line with
  | nil => exact absurd rfl hne
  | cons c rest ih =>
      obtain ⟨hc, hrest⟩ := List.forall_mem_cons.mp h
      have hbreak : ¬ isLineBreak c = true := by rw [hc]; exact Bool.false_ne_true
      rw [lines_cons_of_not_isLineBreak hbreak]
      cases rest with
      | nil => rfl
      | cons d rest => rw [ih (List.cons_ne_nil d rest) hrest]

theorem infix_trim (text : List Char) : trim text <:+: text := by
  have hfront : text.dropWhile isSpace <:+ text := List.dropWhile_suffix _
  have hback : trim text <+: text.dropWhile isSpace := List.rdropWhile_prefix _ _
  exact hback.isInfix.trans hfront.isInfix

end Text

namespace Ignore

theorem prefix_dropComment (quoted spaced : Bool) (line : List Char) :
    dropComment quoted spaced line <+: line := by
  fun_induction dropComment quoted spaced line with
  | case1 => exact List.nil_prefix
  | case2 _ _ _ ih => exact List.cons_prefix_cons.mpr ⟨rfl, ih⟩
  | case3 => exact List.nil_prefix
  | case4 _ _ _ _ _ _ ih => exact List.cons_prefix_cons.mpr ⟨rfl, ih⟩

/-- What is left of a line without its comment and its outer white space. -/
def cleaned (line : List Char) : List Char := Text.trim (withoutComment line)

theorem infix_cleaned (line : List Char) : cleaned line <:+: line :=
  (Text.infix_trim _).trans (prefix_dropComment _ _ _).isInfix

namespace Rule

/-- The parts of a cleaned line that are read as patterns. -/
def parts (text : List Char) : List (List Char) :=
  match Text.cutAt separator text with
  | none => [text]
  | some (file, name) => [file, name]

def patterns {ε : Type} (rule : Rule ε) : List (Pattern ε) := rule.file :: rule.name.toList

theorem infix_of_mem_parts {text part : List Char} (h : part ∈ parts text) : part <:+: text := by
  rw [parts] at h
  split at h
  · obtain rfl := List.mem_singleton.mp h
    exact List.infix_refl part
  · rename_i file name hcut
    rw [Text.eq_of_cutAt hcut, List.append_assoc]
    rcases List.mem_pair.mp h with rfl | rfl
    · exact (List.prefix_append _ _).isInfix
    · exact ((List.suffix_append _ _).trans (List.suffix_append _ _)).isInfix

/-- A part of a line that is compiled, and what comes of that. Quotes around a part keep it from being
compiled. -/
structure Compiles (host : Regex.Host) (line part : List Char)
    (result : Except Regex.Failure Regex.Expression) : Prop where
  mem_parts : part ∈ parts (cleaned line)
  unquoted : Pattern.unquote? (Text.trim part) = none
  parse_eq : Regex.parse host (String.ofList (Text.trim part)) = result

/-- What the reading of a line comes to. -/
inductive Read (host : Regex.Host) (line : List Char) : Except Failure (Option Rule) → Prop where
  | blank (hblank : cleaned line = []) : Read host line (.ok none)
  | rule {rule : Rule} (htext : cleaned line ≠ []) (hraw : rule.raw = String.ofList (cleaned line))
      (hpatterns : List.Forall₂ (fun part pattern => patternOf host part = .ok pattern)
        (parts (cleaned line)) rule.patterns) : Read host line (.ok (some rule))
  | refused {part : List Char} {fault : Regex.Fault}
      (h : Compiles host line part (.error (.fault fault))) :
      Read host line (.error (.pattern ⟨String.ofList (Text.trim part), fault⟩))
  | limit {part : List Char} {reached : Regex.Limit}
      (h : Compiles host line part (.error (.limit reached))) : Read host line (.error (.limit reached))

theorem Read.of_patternOf {host : Regex.Host} {line part : List Char} {failure : Failure}
    (hpart : part ∈ parts (cleaned line)) (h : patternOf host part = .error failure) :
    Read host line (.error failure) := by
  rw [patternOf, Pattern.parse, String.toList_ofList] at h
  split at h
  · cases h
  rename_i hunquoted
  split at h
  · cases h
  · rename_i hfault
    cases h
    exact .refused ⟨hpart, hunquoted, hfault⟩
  · rename_i hlimit
    cases h
    exact .limit ⟨hpart, hunquoted, hlimit⟩

theorem Read.writtenIn {host : Regex.Host} {line : List Char} {reached : Regex.Limit}
    (h : Read host line (.error (.limit reached))) : reached.WrittenIn host line := by
  cases h with
  | limit h =>
      have hwritten := Regex.writtenIn_of_parse_eq h.parse_eq
      rw [String.toList_ofList] at hwritten
      apply hwritten.mono
      exact (Text.infix_trim _).trans ((infix_of_mem_parts h.mem_parts).trans (infix_cleaned line))

theorem read_parse (host : Regex.Host) (line : List Char) :
    Read host line (parse host (String.ofList line)) := by
  unfold parse
  dsimp only
  rw [String.toList_ofList, ← cleaned]
  split
  · rename_i hblank
    exact .blank (List.isEmpty_iff.mp hblank)
  rename_i htext
  rw [List.isEmpty_iff] at htext
  split
  · rename_i hcut
    have hparts : parts (cleaned line) = [cleaned line] := by rw [parts, hcut]
    cases hpattern : patternOf host (cleaned line) with
    | error failure => exact .of_patternOf (by rw [hparts]; exact List.mem_singleton_self _) hpattern
    | ok pattern =>
      refine .rule htext rfl ?_
      rw [hparts]
      exact .cons hpattern .nil
  · rename_i file name hcut
    have hparts : parts (cleaned line) = [file, name] := by rw [parts, hcut]
    cases hfile : patternOf host file with
    | error failure => exact .of_patternOf (by rw [hparts]; exact List.mem_cons_self) hfile
    | ok filePattern =>
      cases hname : patternOf host name with
      | error failure => exact .of_patternOf (by rw [hparts]; simp) hname
      | ok namePattern =>
        refine .rule htext rfl ?_
        rw [hparts]
        exact .cons hfile (.cons hname .nil)

end Rule

namespace RuleSet

def ruleOn? (host : Regex.Host) (line : List Char) : Option Rule :=
  match Rule.parse host (String.ofList line) with
  | .ok rule? => rule?
  | .error _ => none

/-- The limit that a line reaches, if any. -/
def limitOn? (host : Regex.Host) (line : List Char) : Option Regex.Limit :=
  match Rule.parse host (String.ofList line) with
  | .error (.limit reached) => some reached
  | _ => none

/-- What is logged of a line with a number. -/
def eventsOn (host : Regex.Host) (line : List Char) (number : Nat) : List Event :=
  match Rule.parse host (String.ofList line) with
  | .ok none => []
  | .ok (some rule) => [.ruleLoaded rule.raw]
  | .error (.pattern fault) => [.ruleRefused number (String.ofList line) fault]
  | .error (.limit _) => []

variable {host : Regex.Host}

theorem ruleOn?_eq_some_iff {line : List Char} {rule : Rule} :
    ruleOn? host line = some rule ↔ Rule.parse host (String.ofList line) = .ok (some rule) := by
  unfold ruleOn?
  split
  · rename_i rule? hline
    rw [hline, Except.ok.injEq]
  · rename_i failure hline
    rw [hline]
    exact iff_of_false nofun nofun

theorem limitOn?_eq_none_of_ruleOn? {line : List Char} {rule : Rule}
    (h : ruleOn? host line = some rule) : limitOn? host line = none := by
  rw [limitOn?, ruleOn?_eq_some_iff.mp h]

theorem ofLines_cons_of_limit {number : Nat} {line : List Char} {lines : List (List Char)}
    {reached : Regex.Limit} (h : limitOn? host line = some reached) :
    ofLines host number (line :: lines) = ⟨.error reached, []⟩ := by
  unfold limitOn? at h
  split at h
  · rename_i hline
    cases h
    rw [ofLines, hline]
  · cases h

/-- A line that reaches no limit adds its rule and its events, and the others are read as they are
without it. -/
theorem ofLines_cons {number : Nat} {line : List Char} {lines : List (List Char)}
    (h : limitOn? host line = none) :
    ofLines host number (line :: lines) =
      ⟨(ofLines host (number + 1) lines).value.map ((ruleOn? host line).toList ++ ·),
        eventsOn host line number ++ (ofLines host (number + 1) lines).events⟩ := by
  have hid : ∀ value : Except Regex.Limit (List Rule), value.map ([] ++ ·) = value := by
    intro value
    cases value <;> rfl
  rw [ofLines, ruleOn?, eventsOn]
  cases hline : Rule.parse host (String.ofList line) with
  | error failure =>
      cases failure with
      | limit reached =>
          rw [limitOn?, hline] at h
          cases h
      | pattern fault => exact congrArg (Logged.mk · _) (hid _).symm
  | ok rule? =>
      cases rule? with
      | none => exact congrArg (Logged.mk · _) (hid _).symm
      | some rule => rfl

/-- The first line that reaches a limit ends the reading. Without one, all lines give their rules. -/
theorem ofLines_eq (number : Nat) (lines : List (List Char)) :
    ofLines host number lines =
      ⟨match lines.findSome? (limitOn? host) with
        | some reached => .error reached
        | none => .ok (lines.filterMap (ruleOn? host)),
        ((lines.zipIdx number).takeWhile fun line => (limitOn? host line.1).isNone).flatMap
          fun line => eventsOn host line.1 line.2⟩ := by
  induction lines generalizing number with
  | nil => rfl
  | cons line lines ih =>
      rw [List.findSome?_cons, List.filterMap_cons, List.zipIdx_cons, List.takeWhile_cons]
      cases hlimit : limitOn? host line with
      | some reached => exact ofLines_cons_of_limit hlimit
      | none =>
          rw [ofLines_cons hlimit, ih]
          dsimp only [Option.isNone]
          rw [if_pos rfl, List.flatMap_cons]
          congr 1
          cases lines.findSome? (limitOn? host) with
          | some reached => rfl
          | none => cases ruleOn? host line <;> rfl

theorem parse_eq (text : String) :
    let lines := Text.lines text.toList
    parse host text =
      ⟨match lines.findSome? (limitOn? host) with
        | some reached => .error reached
        | none => .ok ⟨lines.filterMap (ruleOn? host)⟩,
        ((lines.zipIdx 1).takeWhile fun line => (limitOn? host line.1).isNone).flatMap
          fun line => eventsOn host line.1 line.2⟩ := by
  dsimp only
  rw [parse, ofLines_eq]
  congr 1
  cases (Text.lines text.toList).findSome? (limitOn? host) <;> rfl

/-- A line added to an ignore file adds its rule to the set, if it does not end the reading. -/
theorem value_parse_append_line {text : String} {set : RuleSet} {line : List Char}
    (hset : (parse host text).value = .ok set) (hne : line ≠ [])
    (hbreak : ∀ c ∈ line, Text.isLineBreak c = false) :
    (parse host (text ++ "\n" ++ String.ofList line)).value =
      match limitOn? host line with
      | some reached => .error reached
      | none => .ok ⟨set.rules ++ (ruleOn? host line).toList⟩ := by
  obtain ⟨blank, hblank, hlines⟩ := Text.lines_append_newline text.toList line
  rw [Text.lines_of_forall hne hbreak] at hlines
  have htext : (text ++ "\n" ++ String.ofList line).toList = text.toList ++ '\n' :: line := by
    simp
  have hlimits : blank.findSome? (limitOn? host) = none :=
    List.findSome?_eq_none_iff.mpr fun line hline => by rw [hblank line hline]; rfl
  have hrules : blank.filterMap (ruleOn? host) = [] :=
    List.filterMap_eq_nil_iff.mpr fun line hline => by rw [hblank line hline]; rfl
  have hrule : [line].filterMap (ruleOn? host) = (ruleOn? host line).toList := by
    rw [List.filterMap_cons]
    cases ruleOn? host line <;> rfl
  rw [parse_eq] at hset ⊢
  rw [htext, hlines]
  dsimp only at hset ⊢
  cases hfound : (Text.lines text.toList).findSome? (limitOn? host) with
  | some reached =>
      rw [hfound] at hset
      cases hset
  | none =>
      rw [hfound] at hset
      cases hset
      rw [List.findSome?_append, List.findSome?_append, hfound, hlimits, List.filterMap_append,
        List.filterMap_append, hrules, hrule, List.nil_append, List.findSome?_singleton]
      cases limitOn? host line <;> rfl

theorem writtenIn_of_limitOn? {line : List Char} {reached : Regex.Limit}
    (h : limitOn? host line = some reached) : reached.WrittenIn host line := by
  unfold limitOn? at h
  split at h
  · rename_i hline
    cases h
    exact (hline ▸ Rule.read_parse host line).writtenIn
  · cases h

end RuleSet

end Ignore
end Unreferenced
