import Mathlib.Algebra.BigOperators.Group.List.Basic
import Mathlib.Algebra.GroupWithZero.Nat
import Unreferenced.Proofs.Extraction
import Unreferenced.Reference.Totals

/-! The number of references as a sum. The totals of a project are built in a map, file by file and
declaration by declaration. The number that the map holds in the end for one declaration is the sum,
over the entries of the list that are that declaration, of what every file refers to them. Where the
entries are told apart, that sum has one term, and nothing else in the list has a part in it. -/

namespace Unreferenced

/-- Adding up amounts in a map, key by key. -/
theorem getD_foldl_add {κ α : Type} [BEq κ] [Hashable κ] [LawfulBEq κ] [LawfulHashable κ]
    (key : α → κ) (amount : α → Nat) (items : List α) (map : Std.HashMap κ Nat) (k : κ) :
    (items.foldl (fun map a => map.insert (key a) (map.getD (key a) 0 + amount a)) map).getD k 0 =
      map.getD k 0 + ((items.filter (k == key ·)).map amount).sum := by
  induction items generalizing map with
  | nil => simp
  | cons a items ih =>
      rw [List.foldl_cons, ih, Std.HashMap.getD_insert, List.filter_cons]
      by_cases h : key a = k
      · subst h
        simp only [beq_self_eq_true, if_true, List.map_cons, List.sum_cons]
        omega
      · have hne : (k == key a) = false := beq_false_of_ne fun heq => h heq.symm
        simp only [hne, beq_false_of_ne h, Bool.false_eq_true, if_false]

/-- Where a key tells items apart, each has its own to itself. -/
theorem filter_key_of_nodup {κ α : Type} [BEq κ] [LawfulBEq κ] (key : α → κ) {items : List α} {a : α}
    (hnodup : (items.map key).Nodup) (ha : a ∈ items) : items.filter (key a == key ·) = [a] := by
  induction items with
  | nil => cases ha
  | cons b items ih =>
      rw [List.map_cons, List.nodup_cons] at hnodup
      obtain ⟨hfresh, hnodup⟩ := hnodup
      rcases List.mem_cons.mp ha with rfl | ha
      · rw [List.filter_cons, if_pos (beq_self_eq_true _), List.filter_eq_nil_iff.mpr]
        intro b hb hkey
        exact hfresh (eq_of_beq hkey ▸ List.mem_map_of_mem hb)
      · have hother : ¬ (key a == key b) = true := by
          intro hkey
          exact hfresh (eq_of_beq hkey ▸ List.mem_map_of_mem ha)
        rw [List.filter_cons, if_neg hother, ih hnodup ha]

namespace Source.Tally

/-- Counting words counts each of them. -/
theorem count_ofList (words : List String) (word : String) :
    (ofList words).count word = words.count word := by
  have h := getD_foldl_add id (fun _ => 1) words (∅ : Tally) word
  simp only [id_eq, Std.HashMap.getD_empty, Nat.zero_add, List.map_const', List.sum_replicate_nat,
    Nat.mul_one] at h
  have hflip : words.filter (word == ·) = words.filter (· == word) :=
    List.filter_congr fun _ _ => Bool.beq_comm
  rw [count, ofList, h, hflip, List.count_eq_length_filter]

theorem count_ofText (text : List Char) (word : String) :
    (ofText text).count word = (identifiers text).count word :=
  count_ofList _ word

end Source.Tally

namespace Reference

def identifiersIn (file : TextFile) : List String :=
  Source.identifiers (Source.codeOf file.characters)

theorem identifiersIn_of_none {file : TextFile} (h : file.text = none) : identifiersIn file = [] := by
  rw [identifiersIn, TextFile.characters, h]
  decide +kernel

/-- Whether a declaration can be referred to in a source file. One that is restricted can be in its own
file only. -/
def reaches (d : Declaration) (file : TextFile) : Bool :=
  !d.modifiers.isRestricted || d.file == file.path

def inSourceFile (d : Declaration) (file : TextFile) : Nat :=
  if reaches d file then (identifiersIn file).count d.name else 0

/-- The files of a project refer to a declaration by the identifiers of those in which that is
possible. -/
theorem sum_map_inSourceFile (d : Declaration) (sources : List TextFile) :
    (sources.map (inSourceFile d)).sum =
      ((sources.filter (reaches d)).map fun file => (identifiersIn file).count d.name).sum := by
  unfold inSourceFile
  rw [List.sum_map_ite]
  simp

def inInterfaceFile (d : Declaration) (file : TextFile) : Nat :=
  match file.text with
  | none => 0
  | some text => (Mentions.ofText text.toList).count d

/-- The number of references to a declaration in the files of a project. -/
def references (sources interfaces : List TextFile) (d : Declaration) : Nat :=
  (sources.map (inSourceFile d)).sum + (interfaces.map (inInterfaceFile d)).sum

namespace Totals

theorem counts_addAll (totals : Totals) (declarations : List Declaration)
    (amount : Declaration → Nat) :
    (totals.addAll declarations amount).counts =
      declarations.foldl (fun counts e =>
        counts.insert e.identity (counts.getD e.identity 0 + amount e)) totals.counts := by
  induction declarations generalizing totals with
  | nil => rfl
  | cons e declarations ih => exact ih (totals.add e (amount e))

/-- Adding to the declarations of a list adds to one as often as it is listed. -/
theorem count_addAll (totals : Totals) (declarations : List Declaration)
    (amount : Declaration → Nat) (d : Declaration) :
    (totals.addAll declarations amount).count d =
      totals.count d + ((declarations.filter d.same).map amount).sum := by
  rw [count, counts_addAll, getD_foldl_add]
  rfl

theorem count_start (declarations : List Declaration) (d : Declaration) :
    (start declarations).count d = 0 := by
  have hzero : ∀ counts : Std.HashMap Declaration.Identity Nat, counts.getD d.identity 0 = 0 →
      (declarations.foldl (fun counts e => counts.insert e.identity 0) counts).getD
        d.identity 0 = 0 := by
    induction declarations with
    | nil => exact fun _ h => h
    | cons e declarations ih =>
        intro counts h
        apply ih
        rw [Std.HashMap.getD_insert, h, ite_self]
  exact hzero ∅ Std.HashMap.getD_empty

theorem count_addSource (declarations : List Declaration) (totals : Totals) (file : TextFile)
    (d : Declaration) :
    (totals.addSource declarations file).count d =
      totals.count d + ((declarations.filter d.same).map (inSourceFile · file)).sum := by
  rw [addSource]
  cases h : file.text with
  | none => simp [inSourceFile, identifiersIn_of_none h]
  | some text =>
      have hamount : inSource file.path (Source.Tally.ofText (Source.codeOf text.toList)) =
          (inSourceFile · file) := by
        funext e
        rw [inSource, inSourceFile, reaches, identifiersIn, TextFile.characters, h,
          Option.getD_some, Source.Tally.count_ofText]
        cases e.modifiers.isRestricted <;> simp [bne]
      simp only [count_addAll, hamount]

theorem count_addInterface (declarations : List Declaration) (totals : Totals) (file : TextFile)
    (d : Declaration) :
    (totals.addInterface declarations file).count d =
      totals.count d + ((declarations.filter d.same).map (inInterfaceFile · file)).sum := by
  rw [addInterface]
  cases h : file.text with
  | none => simp [inInterfaceFile, h]
  | some text => simp only [count_addAll, inInterfaceFile, h]

/-- What one file adds for every entry of a list, all files add together. -/
theorem count_foldl {step : Totals → TextFile → Totals} {amount : Declaration → TextFile → Nat}
    {d : Declaration} {entries : List Declaration}
    (hstep : ∀ totals file, (step totals file).count d =
      totals.count d + (entries.map (amount · file)).sum)
    (files : List TextFile) (totals : Totals) :
    (files.foldl step totals).count d =
      totals.count d + (entries.map fun e => (files.map (amount e)).sum).sum := by
  induction files generalizing totals with
  | nil => simp
  | cons file files ih =>
      rw [List.foldl_cons, ih, hstep, Nat.add_assoc, ← List.sum_map_add]
      simp only [List.map_cons, List.sum_cons]

/-- The number of references to a declaration is the sum over its entries. -/
theorem count_ofFiles (declarations : List Declaration) (sources interfaces : List TextFile)
    (d : Declaration) :
    (ofFiles declarations sources interfaces).count d =
      ((declarations.filter d.same).map (references sources interfaces)).sum := by
  rw [ofFiles, count_foldl fun totals file => count_addInterface declarations totals file d,
    count_foldl fun totals file => count_addSource declarations totals file d, count_start,
    Nat.zero_add, ← List.sum_map_add]
  rfl

end Totals

theorem same_eq_true_iff {d e : Declaration} : d.same e = true ↔ d.identity = e.identity :=
  beq_iff_eq

/-- In a list that tells its declarations apart, each is the same as itself alone. -/
theorem filter_same_of_nodup {declarations : List Declaration} {d : Declaration}
    (hnodup : (declarations.map Declaration.identity).Nodup) (hd : d ∈ declarations) :
    declarations.filter d.same = [d] :=
  filter_key_of_nodup Declaration.identity hnodup hd

/-- In a list that tells its declarations apart, no other entry has a part in the number of references
to one of them. -/
theorem count_ofFiles_of_nodup {declarations : List Declaration} {d : Declaration}
    (hnodup : (declarations.map Declaration.identity).Nodup) (hd : d ∈ declarations)
    (sources interfaces : List TextFile) :
    (Totals.ofFiles declarations sources interfaces).count d = references sources interfaces d := by
  rw [Totals.count_ofFiles, filter_same_of_nodup hnodup hd, List.map_singleton, List.sum_singleton]

/-- Whether a declaration is unused then depends on it and on the files alone. -/
theorem unused_of_nodup {declarations : List Declaration}
    (hnodup : (declarations.map Declaration.identity).Nodup) (sources interfaces : List TextFile) :
    (unused declarations sources interfaces).value =
      declarations.filter fun d => isUnused d (references sources interfaces d) := by
  rw [unused, Totals.unused]
  refine List.filter_congr fun d hd => ?_
  rw [count_ofFiles_of_nodup hnodup hd]

end Reference

end Unreferenced
