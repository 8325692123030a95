import Mathlib.Data.List.Forall2
import Unreferenced.Proofs.RuleLines

/-! Rules that are the same. Rules are compared by the texts of their patterns, and such a text does not
say whether it is plain or a regular expression. Nothing is lost by that, for a pattern is read back from
its text: plain text is written between double quotes, and nothing between double quotes is read as a
regular expression. A lone quote is not between quotes, and two quotes have the empty text between them.
So rules from two lines are the same exactly if their patterns are, and then they match alike. -/

namespace Unreferenced.Ignore

variable {host : Regex.Host}

namespace Pattern

/-- Two patterns are the same one: plain text with the same characters, or regular expressions with the
same source. -/
inductive Alike {ε : Type} : Pattern ε → Pattern ε → Prop where
  | literal (text : String) : Alike (.literal text) (.literal text)
  | regex (source : String) (compiled compiled' : ε) :
      Alike (.regex source compiled) (.regex source compiled')

def isLiteral {ε : Type} : Pattern ε → Bool
  | literal _ => true
  | regex _ _ => false

theorem Alike.source_eq {ε : Type} {p q : Pattern ε} (h : p.Alike q) : p.source = q.source := by
  cases h <;> rfl

theorem Alike.isLiteral_eq {ε : Type} {p q : Pattern ε} (h : p.Alike q) :
    p.isLiteral = q.isLiteral := by
  cases h <;> rfl

theorem Alike.refl {ε : Type} (p : Pattern ε) : p.Alike p := by
  cases p with
  | literal text => exact .literal text
  | regex source compiled => exact .regex source compiled compiled

/-- What is read as plain text is that text between double quotes. -/
theorem eq_of_unquote? {raw text : List Char} (h : unquote? raw = some text) :
    raw = '"' :: (text ++ ['"']) := by
  unfold unquote? at h
  split at h
  · rename_i rest
    split at h
    · rename_i hlast
      obtain ⟨front, hrest⟩ := List.getLast?_eq_some_iff.mp (beq_iff_eq.mp hlast)
      rw [hrest, List.dropLast_concat] at h
      rw [hrest, Option.some.inj h]
    · cases h
  · cases h

/-- The text of a pattern is the one that it was read from. -/
theorem source_of_parse {raw : String} {p : Pattern} (h : parse host raw = .ok p) :
    p.source = raw := by
  rw [parse] at h
  split at h
  · rename_i text hquoted
    have hraw := eq_of_unquote? hquoted
    cases h
    rw [source, ← String.toList_inj, hraw]
    simp
  · split at h <;> cases h
    rfl

/-- Patterns that are read back from their texts are the same if their texts are. -/
theorem eq_of_source_eq {p q : Pattern} (hp : parse host p.source = .ok p)
    (hq : parse host q.source = .ok q) (h : p.source = q.source) : p = q := by
  rw [h, hq] at hp
  exact (Except.ok.inj hp).symm

end Pattern

namespace Rule

/-- The patterns of a rule from a line are read back from their texts. -/
theorem parse_source_of_parse {line : String} {rule : Rule}
    (h : parse host line = .ok (some rule)) :
    ∀ p ∈ rule.patterns, Pattern.parse host p.source = .ok p := by
  have hread := read_parse host line.toList
  rw [String.ofList_toList, h] at hread
  cases hread with
  | rule _ _ hpatterns =>
      have hsources : List.Forall₂ (fun p _ => Pattern.parse host p.source = .ok p ∧ True)
          rule.patterns (parts (cleaned line.toList)) := by
        refine (hpatterns.imp fun part p hpart => ⟨?_, trivial⟩).flip
        rw [Pattern.source_of_parse hpart]
        exact hpart
      exact ((List.forall₂_and_left _ _).mp hsources).1

section SameRules

variable {line line' : String} {r s : Rule}

/-- Rules from lines are the same if all their patterns are, whatever else the lines hold. -/
theorem eq_of_same (hr : parse host line = .ok (some r))
    (hs : parse host line' = .ok (some s)) (h : r.same s = true) : r.file = s.file ∧ r.name = s.name := by
  have hreads := parse_source_of_parse hr
  have hreads' := parse_source_of_parse hs
  obtain ⟨hfile, hname⟩ := Prod.mk.inj (beq_iff_eq.mp h)
  refine ⟨?_, ?_⟩
  · exact Pattern.eq_of_source_eq (hreads _ List.mem_cons_self) (hreads' _ List.mem_cons_self) hfile
  · cases hpattern : r.name with
    | none =>
        rw [hpattern] at hname
        exact (Option.map_eq_none_iff.mp hname.symm).symm
    | some p =>
        rw [hpattern] at hname
        obtain ⟨q, hq, hsource⟩ := Option.map_eq_some_iff.mp hname.symm
        rw [hq]
        congr 1
        refine Pattern.eq_of_source_eq (hreads p ?_) (hreads' q ?_) hsource.symm
        · simp [patterns, hpattern]
        · simp [patterns, hq]

theorem same_of_alike (hfile : r.file.Alike s.file) (hname : Option.Rel Pattern.Alike r.name s.name) :
    r.same s = true := by
  have hnames : r.name.map Pattern.source = s.name.map Pattern.source := by
    generalize r.name = name, s.name = name' at hname
    cases hname with
    | none => rfl
    | some h => exact congrArg some h.source_eq
  rw [same, key, key, hfile.source_eq, hnames]
  exact beq_self_eq_true _

/-- Rules that are read from two lines are the same exactly if their patterns for files are the same
pattern, and their patterns for names are the same pattern or both missing. Then they match the same
paths and the same names, and so they ignore the same. Rules of which one has plain text where the other
has a regular expression are not the same. -/
theorem same_iff_alike (hr : parse host line = .ok (some r))
    (hs : parse host line' = .ok (some s)) :
    (r.same s = true ↔ r.file.Alike s.file ∧ Option.Rel Pattern.Alike r.name s.name) ∧
      (r.same s = true →
        (∀ path, r.matchesFile path = s.matchesFile path) ∧
        (∀ name, r.matchesName name = s.matchesName name) ∧
        (∀ path, r.ignoresFile path = s.ignoresFile path) ∧
        ∀ file name, r.ignoresName file name = s.ignoresName file name) ∧
      (r.file.isLiteral ≠ s.file.isLiteral → r.same s = false) ∧
      ∀ p ∈ r.name, ∀ q ∈ s.name, p.isLiteral ≠ q.isLiteral → r.same s = false := by
  have hiff : r.same s = true ↔
      r.file.Alike s.file ∧ Option.Rel Pattern.Alike r.name s.name := by
    refine ⟨fun h => ?_, fun h => same_of_alike h.1 h.2⟩
    obtain ⟨hfile, hname⟩ := eq_of_same hr hs h
    rw [hfile, hname]
    refine ⟨Pattern.Alike.refl _, ?_⟩
    cases s.name with
    | none => exact .none
    | some p => exact .some (Pattern.Alike.refl p)
  refine ⟨hiff, fun h => ?_, fun hne => ?_, fun p hp q hq hne => ?_⟩
  · obtain ⟨hfile, hname⟩ := eq_of_same hr hs h
    simp only [ignoresFile, ignoresName, filtersDeclarations, matchesFile, matchesName, hfile, hname,
      implies_true, and_self]
  · rw [Bool.eq_false_iff]
    intro h
    exact hne (hiff.mp h).1.isLiteral_eq
  · rw [Bool.eq_false_iff]
    intro h
    have hnames := (hiff.mp h).2
    rw [Option.mem_def.mp hp, Option.mem_def.mp hq] at hnames
    cases hnames with
    | some halike => exact hne halike.isLiteral_eq

theorem same_iff_alike_emptyName :
    let r : Rule := ⟨"\"a\" : \"\"", .literal "a", some (.literal "")⟩
    let s : Rule := ⟨"\"a\": \t\"\"", .literal "a", some (.literal "")⟩
    parse .standard "\"a\" : \"\"" = .ok (some r) ∧
      parse .standard " \"a\": \t\"\" # all" = .ok (some s) ∧
      r.same s = true ∧ ∀ file name, r.ignoresName file name = s.ignoresName file name := by
  intro r s
  have hr : parse .standard "\"a\" : \"\"" = .ok (some r) := by rfl
  have hs : parse .standard " \"a\": \t\"\" # all" = .ok (some s) := by rfl
  obtain ⟨hiff, hmatch, -⟩ := same_iff_alike hr hs
  have hsame : r.same s = true := hiff.mpr ⟨.literal "a", .some (.literal "")⟩
  exact ⟨hr, hs, hsame, (hmatch hsame).2.2.2⟩

end SameRules

end Rule

end Unreferenced.Ignore
