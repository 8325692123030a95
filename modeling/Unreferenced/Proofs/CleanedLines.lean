import Unreferenced.Proofs.RuleLines

/-! An ignore file and its cleaned lines. Cleaning a line leaves nothing that cleaning would take away:
what stands in front of a number sign in it is what stood there before, and a number sign that comes
first now came behind white space. So the cleaned lines of the rules give the same rules again. -/

namespace Unreferenced

namespace Text

theorem trim_eq (text : List Char) : trim text = (text.dropWhile isSpace).rdropWhile isSpace := rfl

/-- A text that is trimmed does not start with white space. -/
theorem dropWhile_trim (text : List Char) : (trim text).dropWhile isSpace = trim text := by
  cases htrim : trim text with
  | nil => rfl
  | cons c rest =>
      -- The first character is the one at which the white space in front ends.
      have hfront : trim text <+: text.dropWhile isSpace := List.rdropWhile_prefix _ _
      rw [htrim] at hfront
      obtain ⟨back, hback⟩ := hfront
      have hhead := List.head?_dropWhile_not isSpace text
      rw [← hback] at hhead
      exact List.dropWhile_cons_of_neg (by simpa using hhead)

theorem trim_trim (text : List Char) : trim (trim text) = trim text := by
  rw [trim_eq (trim text), dropWhile_trim, trim_eq]
  exact List.rdropWhile_idempotent _ _

theorem isLineBreak_of_mem_lines {text line : List Char} (h : line ∈ lines text) :
    ∀ c ∈ line, isLineBreak c = false := by
  fun_induction lines text generalizing line with
  | case1 => cases h
  | case2 rest ih | case3 c rest _ _ ih =>
      rcases List.mem_cons.mp h with rfl | h
      · intro c hc
        cases hc
      · exact ih h
  | case4 c rest _ hc hnil ih =>
      rw [List.mem_singleton.mp h]
      simpa using hc
  | case5 c rest _ hc first others hlines ih =>
      rw [hlines] at ih
      rcases List.mem_cons.mp h with rfl | h
      · rw [List.forall_mem_cons]
        exact ⟨by simpa using hc, ih List.mem_cons_self⟩
      · exact ih (List.mem_cons_of_mem first h)

theorem lines_line_append {line : List Char} (h : ∀ c ∈ line, isLineBreak c = false)
    (rest : List Char) : lines (line ++ '\n' :: rest) = line :: lines rest := by
  induction line with
  | nil => rw [List.nil_append, lines_cons (by simp), if_pos (by decide)]
  | cons c line ih =>
      obtain ⟨hc, hline⟩ := List.forall_mem_cons.mp h
      rw [List.cons_append, lines_cons_of_not_isLineBreak (by simp [hc]), ih hline]

/-- Lines that are joined are read as such, unless the last is empty. -/
theorem lines_intercalate {texts : List (List Char)}
    (h : ∀ line ∈ texts, line ≠ [] ∧ ∀ c ∈ line, isLineBreak c = false) :
    lines (['\n'].intercalate texts) = texts := by
  induction texts with
  | nil => rfl
  | cons line texts ih =>
      obtain ⟨⟨hne, hbreak⟩, htexts⟩ := List.forall_mem_cons.mp h
      cases texts with
      | nil => rw [List.intercalate_singleton, lines_of_forall hne hbreak]
      | cons next texts =>
          rw [List.intercalate_cons_cons, List.append_assoc, List.singleton_append,
            lines_line_append hbreak, ih htexts]

end Text

namespace Ignore

theorem dropComment_dropComment (quoted spaced : Bool) (line : List Char) :
    dropComment quoted spaced (dropComment quoted spaced line) = dropComment quoted spaced line := by
  fun_induction dropComment quoted spaced line with
  | case1 => rfl
  | case2 quoted spaced rest ih => rw [dropComment, if_pos rfl, ih]
  | case3 => rfl
  | case4 quoted spaced c rest hquote hcomment ih =>
      rw [dropComment, if_neg hquote, if_neg hcomment, ih]

/-- Whether a comment starts depends on what stands in front of it alone. -/
theorem dropComment_of_prefix {front line : List Char} {quoted spaced : Bool} (hfront : front <+: line)
    (h : dropComment quoted spaced line = line) : dropComment quoted spaced front = front := by
  induction front generalizing quoted spaced line with
  | nil => rfl
  | cons c front ih =>
      obtain ⟨rest, rfl, hrest⟩ := List.cons_prefix_iff.mp hfront
      rw [dropComment] at h ⊢
      split at h
      · rename_i hquote
        rw [if_pos hquote, ih hrest (List.cons.inj h).2]
      · rename_i hquote
        split at h
        · cases h
        · rename_i hcomment
          rw [if_neg hquote, if_neg hcomment, ih hrest (List.cons.inj h).2]

/-- White space at the start of a line has no effect on its comment. -/
theorem withoutComment_spaces_append {gap : List Char} (hgap : ∀ c ∈ gap, Text.isSpace c = true)
    (rest : List Char) : withoutComment (gap ++ rest) = gap ++ withoutComment rest := by
  have hquote : Text.isSpace '"' = false := by decide
  have hsign : Text.isSpace '#' = false := by decide
  induction gap with
  | nil => rfl
  | cons c gap ih =>
      obtain ⟨hc, hgap⟩ := List.forall_mem_cons.mp hgap
      have hne : ∀ {d : Char}, Text.isSpace d = false → c ≠ d := by
        rintro d hd rfl
        rw [hc] at hd
        cases hd
      specialize ih hgap
      rw [withoutComment] at ih ⊢
      rw [List.cons_append, dropComment, if_neg (hne hquote), if_neg fun h => hne hsign h.1, hc, ih]
      rfl

theorem withoutComment_cleaned (line : List Char) : withoutComment (cleaned line) = cleaned line := by
  have hkept : withoutComment (withoutComment line) = withoutComment line :=
    dropComment_dropComment false true line
  rw [← List.takeWhile_append_dropWhile (p := Text.isSpace) (l := withoutComment line),
    withoutComment_spaces_append fun c hc => List.mem_takeWhile_imp hc] at hkept
  exact dropComment_of_prefix (List.rdropWhile_prefix _ _) (List.append_cancel_left hkept)

/-- A cleaned line stays as it is when it is cleaned again. -/
theorem cleaned_cleaned (line : List Char) : cleaned (cleaned line) = cleaned line := by
  rw [cleaned, withoutComment_cleaned, cleaned, Text.trim_trim]

variable {host : Regex.Host}

namespace Rule

/-- A rule is read from what is left of its line when it is cleaned. -/
theorem parse_cleaned (line : List Char) :
    parse host (String.ofList (cleaned line)) = parse host (String.ofList line) := by
  unfold parse
  dsimp only
  rw [String.toList_ofList, String.toList_ofList, ← cleaned, ← cleaned, cleaned_cleaned]

theorem raw_of_parse {line : List Char} {rule : Rule}
    (h : parse host (String.ofList line) = .ok (some rule)) :
    cleaned line ≠ [] ∧ rule.raw = String.ofList (cleaned line) := by
  have hread := read_parse host line
  rw [h] at hread
  cases hread with
  | rule htext hraw _ => exact ⟨htext, hraw⟩

end Rule

namespace RuleSet

/-- The text of a rule from an ignore file is one line, which gives that rule. -/
theorem rereads_of_mem {text : String} {set : RuleSet} (h : (parse host text).value = .ok set) :
    ∀ rule ∈ set.rules, Rule.parse host rule.raw = .ok (some rule) ∧ rule.raw.toList ≠ [] ∧
      ∀ c ∈ rule.raw.toList, Text.isLineBreak c = false := by
  have hrules : set.rules = (Text.lines text.toList).filterMap (ruleOn? host) := by
    rw [parse_eq] at h
    dsimp only at h
    split at h <;> cases h
    rfl
  intro rule hrule
  rw [hrules, List.mem_filterMap] at hrule
  obtain ⟨line, hline, hread⟩ := hrule
  have hparse := ruleOn?_eq_some_iff.mp hread
  obtain ⟨htext, hraw⟩ := Rule.raw_of_parse hparse
  rw [hraw, String.toList_ofList, Rule.parse_cleaned]
  refine ⟨hparse, htext, fun c hc => ?_⟩
  exact Text.isLineBreak_of_mem_lines hline c ((infix_cleaned line).subset hc)

theorem ofLines_raws {rules : List Rule}
    (h : ∀ rule ∈ rules, Rule.parse host rule.raw = .ok (some rule))
    (number : Nat) :
    ofLines host number (rules.map fun rule => rule.raw.toList) =
      ⟨.ok rules, rules.map fun rule => .ruleLoaded rule.raw⟩ := by
  induction rules generalizing number with
  | nil => rfl
  | cons rule rules ih =>
      obtain ⟨hrule, hrules⟩ := List.forall_mem_cons.mp h
      rw [List.map_cons, ofLines]
      dsimp only
      rw [String.ofList_toList, hrule, ih hrules]
      rfl

/-- The cleaned lines of the rules of an ignore file are an ignore file with the same rules. Reading it
logs that they are loaded, and no warning. -/
theorem parse_cleaned_lines {text : String} {set : RuleSet}
    (h : (parse host text).value = .ok set) :
    let again := parse host ("\n".intercalate (set.rules.map Rule.raw))
    again.value = .ok set ∧
      again.events = set.rules.map (fun rule => .ruleLoaded rule.raw) ∧
      (∀ event ∈ again.events, event.level ≠ .warning) ∧
      ∀ line, cleaned (cleaned line) = cleaned line := by
  intro again
  have hrules := rereads_of_mem h
  have hlines : Text.lines ("\n".intercalate (set.rules.map Rule.raw)).toList =
      set.rules.map fun rule => rule.raw.toList := by
    rw [String.toList_intercalate, List.map_map]
    apply Text.lines_intercalate
    intro line hline
    obtain ⟨rule, hrule, rfl⟩ := List.mem_map.mp hline
    exact (hrules rule hrule).2
  have hagain : again = ⟨.ok set, set.rules.map fun rule => .ruleLoaded rule.raw⟩ := by
    change parse host _ = _
    rw [parse, hlines, ofLines_raws fun rule hrule => (hrules rule hrule).1]
    rfl
  refine ⟨by rw [hagain], by rw [hagain], ?_, cleaned_cleaned⟩
  rw [hagain]
  intro event hevent hlevel
  obtain ⟨rule, -, rfl⟩ := List.mem_map.mp hevent
  cases hlevel

/-- An ignore file with comments, blanks and a number sign between quotes. -/
def commentedRules : String := "# all\n\t\"a #1\"  # one\r\n \x0c\n\"b\": \"#c\" "

theorem parse_cleaned_lines_commentedRules :
    let set : RuleSet := ⟨[⟨"\"a #1\"", .literal "a #1", none⟩,
      ⟨"\"b\": \"#c\"", .literal "b", some (.literal "#c")⟩]⟩
    (parse .standard commentedRules).value = .ok set ∧
      (parse .standard "\"a #1\"\n\"b\": \"#c\"").value = .ok set := by
  intro set
  have hset : (parse .standard commentedRules).value = .ok set := by rfl
  exact ⟨hset, (parse_cleaned_lines hset).1⟩

end RuleSet

end Ignore

end Unreferenced
