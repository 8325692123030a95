import Unreferenced.Proofs.Identifiers
import Unreferenced.Proofs.ReferenceCount
import Unreferenced.Proofs.Spans

/-! Identifiers place by place. A run of characters of a class ends at any other character, so the runs
of a text and the places where one stands are both found by cutting the text there. A text that has
nothing to cut is a run itself. -/

namespace Unreferenced.Text

variable {belongs : Char → Bool}

/-- A part stands at a place of a text as a whole run of characters of a class: it is made of such
characters and occurs there, with no such character in front of it or behind it. -/
def StandsAt (belongs : Char → Bool) (text part : List Char) (place : Nat) : Prop :=
  (part ≠ [] ∧ part.all belongs = true) ∧ part <+: text.drop place ∧
    (text.take place).getLast?.any belongs = false ∧ text[place + part.length]?.any belongs = false

instance (text part : List Char) (place : Nat) : Decidable (StandsAt belongs text part place) :=
  inferInstanceAs (Decidable (_ ∧ _ ∧ _ ∧ _))

/-- At how many places of a text a part stands as a whole run. -/
def standing (belongs : Char → Bool) (text part : List Char) : Nat :=
  (List.range text.length).countP fun place => StandsAt belongs text part place

/-- In front of a character outside the class, a part stands where it did without what follows. -/
theorem standsAt_append_left {c : Char} (hc : belongs c = false) (front back part : List Char)
    {place : Nat} (hplace : place < front.length) :
    StandsAt belongs (front ++ c :: back) part place ↔ StandsAt belongs front part place := by
  rw [StandsAt, StandsAt, List.drop_append_of_le_length hplace.le,
    List.take_append_of_le_length hplace.le]
  refine and_congr_right ?_
  rintro ⟨-, hpart⟩
  have hcut : part <+: front.drop place ++ c :: back ↔ part <+: front.drop place := by
    refine ⟨prefix_of_prefix_append ?_, fun h => h.trans (List.prefix_append _ _)⟩
    rintro d hd hmem
    obtain rfl : c = d := by simpa using hd
    rw [List.all_eq_true.mp hpart c hmem] at hc
    cases hc
  rw [hcut]
  refine and_congr_right fun hoccurs => and_congr_right fun _ => ?_
  have hend : place + part.length ≤ front.length := by
    have := hoccurs.length_le
    rw [List.length_drop] at this
    omega
  rcases hend.lt_or_eq with hlt | heq
  · rw [List.getElem?_append_left hlt]
  · rw [heq, List.getElem?_append_right (Nat.le_refl _), Nat.sub_self,
      List.getElem?_eq_none (Nat.le_refl _)]
    simp [hc]

/-- Behind a character outside the class, a part stands where it did without what is in front. -/
theorem standsAt_append_right {c : Char} (hc : belongs c = false) (front back part : List Char)
    (place : Nat) :
    StandsAt belongs (front ++ c :: back) part (front.length + (place + 1)) ↔
      StandsAt belongs back part place := by
  have hfront : ((front ++ c :: back.take place).getLast?.any belongs) =
      (back.take place).getLast?.any belongs := by
    rcases List.eq_nil_or_concat (back.take place) with hnil | ⟨line, d, hline⟩
    · simp [hnil, hc]
    · rw [hline, List.concat_eq_append, ← List.cons_append, ← List.append_assoc,
        List.getLast?_concat, List.getLast?_concat]
  rw [StandsAt, StandsAt, List.drop_length_add_append, List.take_length_add_append,
    List.drop_succ_cons, List.take_succ_cons, hfront, Nat.add_assoc,
    List.getElem?_append_right (Nat.le_add_right _ _), Nat.add_sub_cancel_left, Nat.add_right_comm,
    List.getElem?_cons_succ]

/-- A character outside the class parts the places of a text. -/
theorem standing_append_cons {c : Char} (hc : belongs c = false) (front back part : List Char) :
    standing belongs (front ++ c :: back) part =
      standing belongs front part + standing belongs back part := by
  have hat : ¬ StandsAt belongs (front ++ c :: back) part front.length := by
    rintro ⟨⟨hne, hpart⟩, hoccurs, -⟩
    obtain ⟨d, part, rfl⟩ := List.exists_cons_of_ne_nil hne
    rw [List.drop_left] at hoccurs
    obtain ⟨rfl, -⟩ := List.cons_prefix_cons.mp hoccurs
    rw [List.all_eq_true.mp hpart d List.mem_cons_self] at hc
    cases hc
  have hleft : (List.range front.length).countP
      (fun place => StandsAt belongs (front ++ c :: back) part place) = standing belongs front part := by
    refine List.countP_congr fun place hplace => ?_
    rw [decide_eq_true_eq, decide_eq_true_eq]
    exact standsAt_append_left hc front back part (List.mem_range.mp hplace)
  rw [standing, List.length_append, List.length_cons, List.range_add, List.countP_append, hleft,
    List.range_succ_eq_map, List.map_cons, List.countP_cons_of_neg (by simpa using hat),
    List.map_map, List.countP_map]
  congr 1
  refine List.countP_congr fun place _ => ?_
  simp only [Function.comp_apply, decide_eq_true_eq]
  exact standsAt_append_right hc front back part place

/-- In a text of characters of the class, the whole text is what stands, and at its start. -/
theorem standsAt_of_forall {text part : List Char} (h : ∀ c ∈ text, belongs c = true) {place : Nat}
    (hplace : place < text.length) :
    StandsAt belongs text part place ↔ place = 0 ∧ part = text := by
  constructor
  · rintro ⟨-, hoccurs, hfront, hbehind⟩
    have hzero : place = 0 := by
      by_contra hne
      have htake : text.take place ≠ [] := by
        rw [← List.length_pos_iff, List.length_take]
        omega
      rw [List.getLast?_eq_some_getLast htake, Option.any_some,
        h _ (List.mem_of_mem_take (List.getLast_mem htake))] at hfront
      cases hfront
    subst hzero
    rw [List.drop_zero] at hoccurs
    refine ⟨rfl, hoccurs.eq_of_length_le ?_⟩
    by_contra hlt
    rw [Nat.zero_add, List.getElem?_eq_getElem (Nat.not_le.mp hlt), Option.any_some,
      h _ (List.getElem_mem _)] at hbehind
    cases hbehind
  · rintro ⟨rfl, rfl⟩
    have hne : part ≠ [] := List.ne_nil_of_length_pos hplace
    refine ⟨⟨hne, List.all_eq_true.mpr h⟩, List.prefix_rfl, rfl, ?_⟩
    rw [Nat.zero_add, List.getElem?_eq_none (Nat.le_refl _)]
    rfl

theorem count_runs_of_forall {text : List Char} (h : ∀ c ∈ text, belongs c = true)
    (part : List Char) : (runs belongs text).count part = standing belongs text part := by
  have hplaces : standing belongs text part =
      (List.range text.length).countP fun place => place = 0 ∧ part = text := by
    refine List.countP_congr fun place hplace => ?_
    rw [decide_eq_true_eq, decide_eq_true_eq]
    exact standsAt_of_forall h (List.mem_range.mp hplace)
  rw [hplaces]
  cases text with
  | nil => rw [runs_nil]; rfl
  | cons c text =>
      rw [runs_of_forall (List.cons_ne_nil c text) h, List.length_cons, List.range_succ_eq_map,
        List.countP_cons, List.countP_map, List.countP_eq_zero.mpr (by simp), List.count_singleton]
      by_cases hpart : part = c :: text
      · simp [hpart]
      · simp [hpart, Ne.symm hpart]

/-- A part is a run of a text as often as it stands there as a whole run. -/
theorem count_runs (text part : List Char) :
    (runs belongs text).count part = standing belongs text part := by
  induction hlength : text.length using Nat.strongRecOn generalizing text with
  | ind length ih =>
      have hsplit : text.takeWhile belongs ++ text.dropWhile belongs = text :=
        List.takeWhile_append_dropWhile
      have hfront : ∀ c ∈ text.takeWhile belongs, belongs c = true :=
        fun c hc => List.mem_takeWhile_imp hc
      cases hrest : text.dropWhile belongs with
      | nil =>
          rw [hrest, List.append_nil] at hsplit
          rw [hsplit] at hfront
          exact count_runs_of_forall hfront part
      | cons c rest =>
          have hc : belongs c = false := by
            have := List.head?_dropWhile_not belongs text
            rw [hrest] at this
            simpa using this
          rw [hrest] at hsplit
          have hlt : rest.length < length := by
            rw [← hlength, ← hsplit, List.length_append, List.length_cons]
            omega
          rw [← hsplit, runs_append_cons hc, standing_append_cons hc, List.count_append,
            count_runs_of_forall hfront, ih _ hlt rest rfl]

/-- Characters outside the class keep the runs on their two sides apart. -/
theorem runs_append_separator {separator : List Char} (hne : separator ≠ [])
    (h : ∀ c ∈ separator, belongs c = false) (front back : List Char) :
    runs belongs (front ++ separator ++ back) = runs belongs front ++ runs belongs back := by
  induction separator generalizing front with
  | nil => exact absurd rfl hne
  | cons c separator ih =>
      obtain ⟨hc, hrest⟩ := List.forall_mem_cons.mp h
      rw [List.append_assoc, List.cons_append, runs_append_cons hc]
      congr 1
      cases separator with
      | nil => rfl
      | cons d separator => exact ih (List.cons_ne_nil d separator) hrest []

end Unreferenced.Text

namespace Unreferenced.Source

/-- The identifiers of a text are counted by the places where they stand, each a whole run of word
characters, and nothing else is counted. Texts with characters between them that belong to no word are
counted one by one. -/
theorem identifiers_by_place :
    (∀ (text : List Char) (word : String),
        (Tally.ofText text).count word = Text.standing Text.isWord text word.toList) ∧
      ∀ front separator back : List Char, separator ≠ [] →
        (∀ c ∈ separator, Text.isWord c = false) → ∀ word : String,
          (Tally.ofText (front ++ separator ++ back)).count word =
            (Tally.ofText front).count word + (Tally.ofText back).count word := by
  constructor
  · intro text word
    rw [Tally.count_ofText, count_identifiers, Text.count_runs]
  · intro front separator back hne hseparator word
    rw [Tally.count_ofText, Tally.count_ofText, Tally.count_ofText, count_identifiers,
      count_identifiers, count_identifiers, Text.runs_append_separator hne hseparator,
      List.count_append]

/-- One of the two texts has a longer identifier that starts with `f`, the other one that ends with it. -/
theorem identifiers_by_place_callText :
    ((", ".toList ≠ [] ∧ ∀ c ∈ ", ".toList, Text.isWord c = false) ∧
      (Tally.ofText ("f(f_1".toList ++ ", ".toList ++ "if f".toList)).count "f" =
        (Tally.ofText "f(f_1".toList).count "f" + (Tally.ofText "if f".toList).count "f") ∧
      (Tally.ofText "f(f_1".toList).count "f" = 1 := by
  have hne : ", ".toList ≠ [] := by decide
  have hall : (", ".toList.all fun c => !Text.isWord c) = true := by decide
  have hseparator : ∀ c ∈ ", ".toList, Text.isWord c = false :=
    fun c hc => by simpa using List.all_eq_true.mp hall c hc
  have hstanding : Text.standing Text.isWord "f(f_1".toList "f".toList = 1 := by decide
  exact ⟨⟨⟨hne, hseparator⟩, identifiers_by_place.2 _ _ _ hne hseparator "f"⟩,
    (identifiers_by_place.1 _ "f").trans hstanding⟩

end Unreferenced.Source
