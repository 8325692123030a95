import Unreferenced.Proofs.DeclarationName
import Unreferenced.Proofs.RuleLines
import Unreferenced.Proofs.RulesAsFilter
import Unreferenced.Proofs.Spans

/-! The line that the report advises for a false positive: the path in quotes, a colon, a space, and the
name in quotes. The comment is cut off with regard to quotes, but the parts are not, so a path that has
a colon in front of a space is cut in two. -/

namespace Unreferenced

variable {host : Regex.Host}

namespace Text

theorem occursIn_self (text : List Char) : occursIn text text = true := by
  cases text with
  | nil => rfl
  | cons c rest => simp [occursIn]

theorem trim_eq_self {first last : Char} (hfirst : isSpace first = false)
    (hlast : isSpace last = false) (middle : List Char) :
    trim (first :: (middle ++ [last])) = first :: (middle ++ [last]) := by
  have hreverse : (first :: (middle ++ [last])).reverse = last :: (first :: middle).reverse := by
    simp
  rw [trim, List.dropWhile_cons_of_neg (by simp [hfirst]), hreverse,
    List.dropWhile_cons_of_neg (by simp [hlast]), ← hreverse, List.reverse_reverse]

/-- No cut is made behind a separator. -/
theorem prefix_of_cutAt {separator front back before after : List Char}
    (h : cutAt separator (front ++ (separator ++ back)) = some (before, after)) :
    before <+: front := by
  induction front generalizing before after with
  | nil =>
      rw [List.nil_append, cutAt_append_self] at h
      cases h
      exact List.nil_prefix
  | cons c front ih =>
      by_cases hstart : separator <+: c :: (front ++ (separator ++ back))
      · obtain ⟨tail, htail⟩ := hstart
        rw [List.cons_append, ← htail, cutAt_append_self] at h
        cases h
        exact List.nil_prefix
      · rw [List.cons_append, cutAt_cons hstart] at h
        obtain ⟨⟨front', back'⟩, hcut, heq⟩ := Option.map_eq_some_iff.mp h
        cases heq
        exact List.cons_prefix_cons.mpr ⟨rfl, ih hcut⟩

end Text

/-- The line that quotes the path and the name of a declaration. -/
def Declaration.hintLine (d : Declaration) : String :=
  "\"" ++ d.file ++ "\": \"" ++ d.name ++ "\""

namespace Ignore

/-- A text between double quotes is no comment. -/
theorem dropComment_quoted {text : List Char} (h : '"' ∉ text) (after : List Char) (spaced : Bool) :
    dropComment true spaced (text ++ '"' :: after) =
      text ++ '"' :: dropComment false false after := by
  induction text generalizing spaced with
  | nil => rw [List.nil_append, dropComment, if_pos rfl]; rfl
  | cons c text ih =>
      obtain ⟨hc, htext⟩ := not_or.mp (mt List.mem_cons.mpr h)
      rw [List.cons_append, dropComment, if_neg (Ne.symm hc), if_neg (by simp), ih htext]
      rfl

namespace Pattern

theorem unquote?_quoted (text : List Char) : unquote? ('"' :: (text ++ ['"'])) = some text := by
  rw [unquote?, List.getLast?_concat, List.dropLast_concat]
  rfl

theorem two_le_count_of_unquote? {part text : List Char} (h : unquote? part = some text) :
    2 ≤ part.count '"' := by
  unfold unquote? at h
  split at h
  · rename_i rest
    split at h
    · rename_i hlast
      have hmem : '"' ∈ rest := List.mem_of_getLast? (beq_iff_eq.mp hlast)
      have hrest : 0 < rest.count '"' := List.count_pos_iff.mpr hmem
      rw [List.count_cons_self]
      omega
    · cases h
  · cases h

end Pattern

namespace Rule

def hint (file name : List Char) : List Char :=
  '"' :: (file ++ '"' :: ':' :: ' ' :: '"' :: (name ++ ['"']))

variable {file name : List Char}

theorem hint_ne_nil (file name : List Char) : hint file name ≠ [] := List.cons_ne_nil _ _

theorem isLineBreak_hint (hfile : ∀ c ∈ file, Text.isLineBreak c = false)
    (hname : ∀ c ∈ name, Text.isWord c = true) :
    ∀ c ∈ hint file name, Text.isLineBreak c = false := by
  have hquote : Text.isLineBreak '"' = false := by decide
  have hcolon : Text.isLineBreak ':' = false := by decide
  have hspace : Text.isLineBreak ' ' = false := by decide
  have hname' : ∀ c ∈ name, Text.isLineBreak c = false :=
    fun c hc => Text.isLineBreak_eq_false_of_isWord (hname c hc)
  simp only [hint, List.forall_mem_cons, List.forall_mem_append]
  exact ⟨hquote, hfile, hquote, hcolon, hspace, hquote, hname', hquote, nofun⟩

theorem hint_eq (file name : List Char) :
    hint file name = ('"' :: (file ++ ['"'])) ++ (separator ++ '"' :: (name ++ ['"'])) := by
  simp [hint, separator]

theorem withoutComment_hint (hfile : '"' ∉ file) (hname : '"' ∉ name) :
    withoutComment (hint file name) = hint file name := by
  have hquoted : dropComment true false (name ++ ['"']) = name ++ ['"'] :=
    dropComment_quoted hname [] false
  have hbehind : dropComment false false (':' :: ' ' :: '"' :: (name ++ ['"'])) =
      ':' :: ' ' :: '"' :: (name ++ ['"']) := by
    simp [dropComment, hquoted]
  rw [withoutComment, hint, dropComment, if_pos rfl, Bool.not_false, dropComment_quoted hfile,
    hbehind]

theorem cleaned_hint (hfile : '"' ∉ file) (hname : '"' ∉ name) :
    cleaned (hint file name) = hint file name := by
  have hends : hint file name = '"' :: ((file ++ '"' :: ':' :: ' ' :: '"' :: name) ++ ['"']) := by
    simp [hint]
  rw [cleaned, withoutComment_hint hfile hname, hends]
  exact Text.trim_eq_self (by decide) (by decide) _

theorem trim_quoted (text : List Char) :
    Text.trim ('"' :: (text ++ ['"'])) = '"' :: (text ++ ['"']) :=
  Text.trim_eq_self (by decide) (by decide) text

theorem patternOf_quoted (text : List Char) :
    patternOf host ('"' :: (text ++ ['"'])) = .ok (.literal (String.ofList text)) := by
  rw [patternOf, trim_quoted, Pattern.parse, String.toList_ofList, Pattern.unquote?_quoted]

theorem not_compiles_quoted {line text : List Char} {result : Except Regex.Failure Regex.Expression} :
    ¬ Compiles host line ('"' :: (text ++ ['"'])) result := by
  intro h
  have hunquoted := h.unquoted
  rw [trim_quoted, Pattern.unquote?_quoted] at hunquoted
  cases hunquoted

/-- The quote behind a path keeps what follows from completing a separator. -/
theorem separator_infix_of_quoted (h : separator <:+: file ++ ['"', ':']) : separator <:+: file := by
  rw [separator] at h ⊢
  induction file with
  | nil => exact absurd h (by decide)
  | cons c file ih =>
      rw [List.cons_append, List.infix_cons_iff, List.cons_prefix_cons] at h
      rw [List.infix_cons_iff, List.cons_prefix_cons]
      refine h.imp (fun hstart => ⟨hstart.1, ?_⟩) ih
      cases file with
      | nil => exact absurd hstart.2 (by decide)
      | cons d file =>
          rw [List.cons_append, List.cons_prefix_cons] at hstart
          exact List.cons_prefix_cons.mpr ⟨hstart.2.1, List.nil_prefix⟩

theorem not_infix_quoted (h : ¬ separator <:+: file) :
    ¬ separator <:+: '"' :: (file ++ ['"']) ++ separator.dropLast := by
  intro hinfix
  apply h
  apply separator_infix_of_quoted
  have hrest : '"' :: (file ++ ['"']) ++ separator.dropLast = '"' :: (file ++ ['"', ':']) := by
    simp [separator]
  rw [hrest, List.infix_cons_iff] at hinfix
  apply hinfix.resolve_left
  exact fun hstart => absurd (List.cons_prefix_cons.mp hstart).1 (by decide)

/-- Without a separator in the path, the line is a rule for that path and that name. -/
theorem parts_hint (h : ¬ separator <:+: file) :
    parts (hint file name) = ['"' :: (file ++ ['"']), '"' :: (name ++ ['"'])] := by
  rw [parts, hint_eq, Text.cutAt_first (not_infix_quoted h)]

/-- A separator in the path cuts the line in the path, so the first part has one quote at most. -/
theorem count_quote_parts_hint (name : List Char) (hfile : '"' ∉ file) (h : separator <:+: file) :
    ∃ before after, parts (hint file name) = [before, after] ∧ before.count '"' ≤ 1 := by
  obtain ⟨front, back, rfl⟩ := h
  have hsplit : hint (front ++ separator ++ back) name =
      ('"' :: front) ++ (separator ++ (back ++ '"' :: ':' :: ' ' :: '"' :: (name ++ ['"']))) := by
    simp [hint]
  cases hcut : Text.cutAt separator (hint (front ++ separator ++ back) name) with
  | none =>
      rw [Text.cutAt_eq_none_iff, hsplit] at hcut
      exact absurd ⟨_, _, List.append_assoc _ _ _⟩ hcut
  | some cut =>
      obtain ⟨before, after⟩ := cut
      refine ⟨before, after, by rw [parts, hcut], ?_⟩
      rw [hsplit] at hcut
      apply ((Text.prefix_of_cutAt hcut).sublist.count_le '"').trans
      rw [List.count_cons_self, List.count_eq_zero.mpr]
      intro hmem
      exact hfile (List.mem_append_left _ (List.mem_append_left _ hmem))

theorem patternOf_ne_literal {part : List Char} (h : part.count '"' ≤ 1) (text : String) :
    patternOf host part ≠ .ok (.literal text) := by
  intro hpattern
  rw [patternOf, Pattern.parse, String.toList_ofList] at hpattern
  split at hpattern
  · rename_i hunquote
    have htwo := Pattern.two_le_count_of_unquote? hunquote
    have hle := (Text.infix_trim part).sublist.count_le '"'
    omega
  · split at hpattern <;> cases hpattern

/-- The line is a rule for the path and the name if the path has no separator. -/
theorem parse_hint (host : Regex.Host) (hfile : '"' ∉ file) (hname : '"' ∉ name)
    (h : ¬ separator <:+: file) :
    parse host (String.ofList (hint file name)) =
      .ok (some ⟨String.ofList (hint file name), .literal (String.ofList file),
        some (.literal (String.ofList name))⟩) := by
  have hcompiles : ∀ part result, ¬ Compiles host (hint file name) part result := by
    intro part result hpart
    have hmem := hpart.mem_parts
    rw [cleaned_hint hfile hname, parts_hint h] at hmem
    rcases List.mem_pair.mp hmem with rfl | rfl
    · exact not_compiles_quoted hpart
    · exact not_compiles_quoted hpart
  have hread := read_parse host (hint file name)
  generalize parse host (String.ofList (hint file name)) = result at hread ⊢
  cases hread with
  | blank hblank =>
      rw [cleaned_hint hfile hname] at hblank
      cases hblank
  | refused hpart => exact absurd hpart (hcompiles _ _)
  | limit hpart => exact absurd hpart (hcompiles _ _)
  | rule htext hraw hpatterns =>
      rename_i rule
      obtain ⟨raw, filePattern, namePattern⟩ := rule
      rw [cleaned_hint hfile hname] at hraw hpatterns
      rw [parts_hint h] at hpatterns
      obtain ⟨hpath, hpatterns⟩ := List.forall₂_cons.mp hpatterns
      rw [patternOf_quoted] at hpath
      cases namePattern with
      | none => cases hpatterns
      | some pattern =>
          obtain ⟨hpattern, -⟩ := List.forall₂_cons.mp hpatterns
          rw [patternOf_quoted] at hpattern
          cases hpath
          cases hpattern
          cases hraw
          rfl

/-- Otherwise the rule, if there is one, takes a piece of the path for a regular expression. -/
theorem file_ne_literal_of_parse_hint (hfile : '"' ∉ file) (hname : '"' ∉ name)
    (h : separator <:+: file) {rule : Rule}
    (hrule : parse host (String.ofList (hint file name)) = .ok (some rule)) (text : String) :
    rule.file ≠ .literal text := by
  have hread := read_parse host (hint file name)
  rw [hrule] at hread
  cases hread with
  | rule _ _ hpatterns =>
      rw [cleaned_hint hfile hname] at hpatterns
      obtain ⟨before, after, hparts, hcount⟩ := count_quote_parts_hint name hfile h
      rw [hparts] at hpatterns
      obtain ⟨hbefore, -⟩ := List.forall₂_cons.mp hpatterns
      intro hliteral
      rw [hliteral] at hbefore
      exact patternOf_ne_literal hcount text hbefore

end Rule

theorem keeps_append_singleton {ε : Type} [Searchable ε] (set : RuleSet ε) (raw : String)
    (file name : Pattern ε) (d : Declaration) (hfile : file.accepts d.file = true)
    (hname : name.accepts d.name = true) :
    RuleSet.keeps ⟨set.rules ++ [⟨raw, file, some name⟩]⟩ d = false := by
  simp [RuleSet.keeps, hfile, hname]

end Ignore

theorem isWord_of_mem_extracted {ε : Type} [Ignore.Searchable ε] {rules : Ignore.RuleSet ε}
    {sources : List TextFile} {d : Declaration} (hd : d ∈ extracted rules sources) :
    ∀ c ∈ d.name.toList, Text.isWord c = true := by
  obtain ⟨file, -, hfile⟩ := exists_file_of_mem_extracted hd
  obtain ⟨_, _, hline⟩ := List.mem_filterMap.mp hfile
  exact isWord_of_mem_name hline

namespace Declaration

theorem ofList_hint (d : Declaration) :
    String.ofList (Ignore.Rule.hint d.file.toList d.name.toList) = d.hintLine := by
  have hchars : d.hintLine.toList = Ignore.Rule.hint d.file.toList d.name.toList := by
    simp [hintLine, Ignore.Rule.hint]
  rw [← hchars, String.ofList_toList]

end Declaration

/-- The advised line, put behind an ignore file, adds the rule for the path and the name exactly if the
path has no colon in front of a space. That rule takes the declaration off the report. -/
theorem parse_append_hintLine_iff {text : String} {set : Ignore.RuleSet}
    {sources interfaces : List TextFile} {d : Declaration}
    (hset : (Ignore.RuleSet.parse host text).value = .ok set)
    (hd : d ∈ reported set sources interfaces) (hquote : '"' ∉ d.file.toList)
    (hbreak : ∀ c ∈ d.file.toList, Text.isLineBreak c = false) :
    let added : Ignore.Rule := ⟨d.hintLine, .literal d.file, some (.literal d.name)⟩
    let extended : Ignore.RuleSet := ⟨set.rules ++ [added]⟩
    ((Ignore.RuleSet.parse host (text ++ "\n" ++ d.hintLine)).value = .ok extended ↔
        ¬ Ignore.Rule.separator <:+: d.file.toList) ∧
      d ∉ extracted extended sources ∧ d ∉ reported extended sources interfaces := by
  intro added extended
  have hkeeps : extended.keeps d = false :=
    Ignore.keeps_append_singleton set _ _ _ d (Text.occursIn_self _) (Text.occursIn_self _)
  have hextracted : d ∉ extracted extended sources := by
    rw [extracted_eq_filter, List.mem_filter, hkeeps]
    exact fun hmem => Bool.false_ne_true hmem.2
  refine ⟨?_, hextracted, fun hmem => hextracted (mem_reported.mp hmem).1⟩
  have hword := isWord_of_mem_extracted (mem_reported.mp hd).1
  have hname : '"' ∉ d.name.toList := fun hmem => absurd (hword _ hmem) (by decide)
  have hline : ∀ c ∈ Ignore.Rule.hint d.file.toList d.name.toList, Text.isLineBreak c = false :=
    Ignore.Rule.isLineBreak_hint hbreak hword
  have hvalue := Ignore.RuleSet.value_parse_append_line hset (Ignore.Rule.hint_ne_nil _ _) hline
  rw [d.ofList_hint] at hvalue
  rw [hvalue]
  constructor
  · intro h hseparator
    split at h
    · cases h
    · have hrules := Ignore.RuleSet.mk.inj (Except.ok.inj h)
      have hrule := Option.toList_eq_singleton_iff.mp (List.append_cancel_left hrules)
      exact Ignore.Rule.file_ne_literal_of_parse_hint hquote hname hseparator
        (Ignore.RuleSet.ruleOn?_eq_some_iff.mp hrule) d.file rfl
  · intro hseparator
    have hparse := Ignore.Rule.parse_hint host hquote hname hseparator
    rw [← Ignore.RuleSet.ruleOn?_eq_some_iff, d.ofList_hint, String.ofList_toList,
      String.ofList_toList] at hparse
    rw [Ignore.RuleSet.limitOn?_eq_none_of_ruleOn? hparse, hparse]
    rfl

namespace Ignore.RuleSet

theorem exists_value_eq {text : String} {holds : RuleSet → Bool}
    (h : (parse host text).value.toOption.map holds = some true) :
    ∃ set, (parse host text).value = .ok set ∧ holds set = true := by
  cases hvalue : (parse host text).value with
  | error reached =>
      rw [hvalue] at h
      cases h
  | ok set =>
      rw [hvalue] at h
      exact ⟨set, rfl, Option.some.inj h⟩

end Ignore.RuleSet

/-- A function of which the path has a space and a number sign. -/
def issueFunction : Declaration :=
  ⟨"Sources/Issue #12.swift", 1, .function, "resolve", ⟨[]⟩, "func resolve()"⟩

def issueProject : List TextFile := [⟨"Sources/Issue #12.swift", some "func resolve()\n"⟩]

theorem parse_append_hintLine_issueFunction :
    ∃ set : Ignore.RuleSet,
      (Ignore.RuleSet.parse .standard "Generated.*  # all of them").value = .ok set ∧
      issueFunction ∈ reported set issueProject [] ∧
      let extended : Ignore.RuleSet :=
        ⟨set.rules ++
          [⟨issueFunction.hintLine, .literal issueFunction.file, some (.literal issueFunction.name)⟩]⟩
      (Ignore.RuleSet.parse .standard
          ("Generated.*  # all of them" ++ "\n" ++ issueFunction.hintLine)).value = .ok extended ∧
        issueFunction ∉ reported extended issueProject [] := by
  have hparse : (Ignore.RuleSet.parse .standard "Generated.*  # all of them").value.toOption.map
      (fun set => decide (issueFunction ∈ extracted set issueProject)) = some true := by
    decide +kernel
  obtain ⟨set, hset, hextracted⟩ := Ignore.RuleSet.exists_value_eq hparse
  have hpaths : (issueProject.map TextFile.path).Nodup := by decide
  have hreported : issueFunction ∈ reported set issueProject [] := by
    rw [reported_eq_filter set hpaths, List.mem_filter]
    exact ⟨of_decide_eq_true hextracted, by decide +kernel⟩
  have hquote : '"' ∉ issueFunction.file.toList := by decide
  have hbreak : ∀ c ∈ issueFunction.file.toList, Text.isLineBreak c = false :=
    fun c hc => Bool.eq_false_iff.mpr (List.any_eq_false.mp (by decide) c hc)
  have hseparator : ¬ Ignore.Rule.separator <:+: issueFunction.file.toList := by decide +kernel
  obtain ⟨hiff, -, hgone⟩ := parse_append_hintLine_iff hset hreported hquote hbreak
  exact ⟨set, hset, hreported, hiff.mpr hseparator, hgone⟩

/-- A project of which the path has a colon in front of a space. -/
def colonProject : List TextFile := [⟨"a: b.swift", some "func foo()"⟩]

def colonFunction : Declaration := ⟨"a: b.swift", 1, .function, "foo", ⟨[]⟩, "func foo()"⟩

theorem reported_colonFunction :
    (Ignore.RuleSet.parse .standard "").value = .ok .empty ∧
      colonFunction ∈ reported (.empty : Ignore.RuleSet) colonProject [] ∧
      '"' ∉ colonFunction.file.toList ∧
      (∀ c ∈ colonFunction.file.toList, Text.isLineBreak c = false) ∧
      ∃ set,
        (Ignore.RuleSet.parse .standard ("" ++ "\n" ++ colonFunction.hintLine)).value = .ok set ∧
        colonFunction ∈ reported set colonProject [] := by
  have hparse : (Ignore.RuleSet.parse .standard
      ("" ++ "\n" ++ colonFunction.hintLine)).value.toOption.map
      (fun set => decide (colonFunction ∈ extracted set colonProject)) = some true := by
    decide +kernel
  obtain ⟨set, hset, hextracted⟩ := Ignore.RuleSet.exists_value_eq hparse
  have hpaths : (colonProject.map TextFile.path).Nodup := by decide
  have hunused : Reference.isUnused colonFunction
      (Reference.references colonProject [] colonFunction) = true := by decide +kernel
  have hbreak : ∀ c ∈ colonFunction.file.toList, Text.isLineBreak c = false :=
    fun c hc => Bool.eq_false_iff.mpr (List.any_eq_false.mp (by decide) c hc)
  refine ⟨rfl, ?_, by decide, hbreak, set, hset, ?_⟩
  · rw [reported_eq_filter _ hpaths, List.mem_filter]
    exact ⟨by decide +kernel, hunused⟩
  · rw [reported_eq_filter _ hpaths, List.mem_filter]
    exact ⟨of_decide_eq_true hextracted, hunused⟩

end Unreferenced
