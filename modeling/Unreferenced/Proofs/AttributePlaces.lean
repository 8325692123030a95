import Unreferenced.Proofs.CountByEntry
import Unreferenced.Proofs.Identifiers
import Unreferenced.Proofs.RuleLines

/-! References from interface files, place by place. An attribute that refers to a name starts where no
word goes on, and nowhere inside it does another one start. So scanning for attributes finds one at every
place where one stands, and reading the file as one line adds none and takes none away. -/

namespace Unreferenced.Reference

/-! ### Attributes as they are written -/

/-- An attribute with a value between quotes. -/
def attributeText (name : String) (value : List Char) : List Char :=
  name.toList ++ '=' :: '"' :: (value ++ ['"'])

namespace Attribute

/-- What may stand between the quotes of an attribute that refers to a name. -/
def quotations (kind : Attribute) (value : List Char) : List (List Char) :=
  if kind.colon then [value, value ++ [':']] else [value]

/-- The ways to write an attribute that refers to a name. -/
def spellings (kind : Attribute) (value : List Char) : List (List Char) :=
  kind.names.flatMap fun name => (kind.quotations value).map (attributeText name)

theorem mem_quotations_iff {kind : Attribute} {value quotation : List Char} :
    quotation ∈ kind.quotations value ↔
      quotation = value ∨ kind.colon = true ∧ quotation = value ++ [':'] := by
  rw [quotations]
  split
  · rename_i hcolon
    rw [List.mem_pair, hcolon, eq_self_iff_true, true_and]
  · rename_i hcolon
    rw [List.mem_singleton, Bool.eq_false_iff.mpr hcolon, Bool.false_eq_true, false_and, or_false]

theorem mem_spellings_iff {kind : Attribute} {value spelling : List Char} :
    spelling ∈ kind.spellings value ↔
      ∃ name ∈ kind.names, ∃ quotation ∈ kind.quotations value,
        spelling = attributeText name quotation := by
  simp only [spellings, List.mem_flatMap, List.mem_map, eq_comm]

/-- The names of an attribute are words. -/
def Worded (kind : Attribute) : Prop :=
  ∀ name ∈ kind.names, name.toList ≠ [] ∧ ∀ c ∈ name.toList, Text.isWord c = true

theorem worded_of_all {kind : Attribute}
    (h : kind.names.all (fun name => !name.toList.isEmpty && name.toList.all Text.isWord) = true) :
    kind.Worded := by
  intro name hname
  simpa using List.all_eq_true.mp h name hname

theorem worded_classes : classes.Worded := worded_of_all (by decide)

theorem worded_selectors : selectors.Worded := worded_of_all (by decide)

theorem worded_properties : properties.Worded := worded_of_all (by decide)

end Attribute

/-- A word is a text of word characters that is not empty. -/
def IsWord (value : List Char) : Prop := value ≠ [] ∧ ∀ c ∈ value, Text.isWord c = true

theorem attributeText_append (name : String) (quotation after : List Char) :
    attributeText name quotation ++ after =
      name.toList ++ ['=', '"'] ++ (quotation ++ '"' :: after) := by
  simp [attributeText]

namespace Attribute

variable {kind : Attribute} {value : List Char}

theorem isWord_quote : Text.isWord '"' = false := by decide

theorem isWord_colon : Text.isWord ':' = false := by decide

theorem valueOf?_append (colon : Bool) (name : String) (hvalue : IsWord value) (rest : List Char) :
    rest.head?.any Text.isWord = false →
      valueOf? colon name (name.toList ++ ['=', '"'] ++ (value ++ rest)) =
        match rest with
        | '"' :: after => some (value, after)
        | ':' :: '"' :: after => if colon then some (value, after) else none
        | _ => none := by
  intro hrest
  have hopening : (name.toList ++ ['=', '"']).isPrefixOf
      (name.toList ++ ['=', '"'] ++ (value ++ rest)) = true :=
    List.isPrefixOf_iff_prefix.mpr (List.prefix_append _ _)
  rw [valueOf?]
  dsimp only
  rw [if_pos hopening, List.drop_left, Text.takeWhile_run_append hvalue.2 hrest,
    Text.dropWhile_run_append hvalue.2 hrest]
  exact if_neg (by simpa using hvalue.1)

theorem valueOf?_eq_some_iff {name : String} {text after : List Char} :
    valueOf? kind.colon name text = some (value, after) ↔
      IsWord value ∧ ∃ quotation ∈ kind.quotations value,
        text = attributeText name quotation ++ after := by
  constructor
  · intro h
    unfold valueOf? at h
    dsimp only at h
    split at h
    · rename_i hopening
      obtain ⟨tail, rfl⟩ := List.isPrefixOf_iff_prefix.mp hopening
      rw [List.drop_left] at h
      have hsplit : tail.takeWhile Text.isWord ++ tail.dropWhile Text.isWord = tail :=
        List.takeWhile_append_dropWhile
      have hword : ∀ c ∈ tail.takeWhile Text.isWord, Text.isWord c = true :=
        fun c hc => List.mem_takeWhile_imp hc
      split at h
      · cases h
      rename_i hne
      rw [List.isEmpty_iff] at hne
      split at h
      · rename_i hclose
        cases h
        refine ⟨⟨hne, hword⟩, tail.takeWhile Text.isWord, mem_quotations_iff.mpr (.inl rfl), ?_⟩
        rw [attributeText_append, ← hclose, hsplit]
      · rename_i hclose
        split at h
        · rename_i hcolon
          cases h
          refine ⟨⟨hne, hword⟩, tail.takeWhile Text.isWord ++ [':'],
            mem_quotations_iff.mpr (.inr ⟨hcolon, rfl⟩), ?_⟩
          rw [attributeText_append, List.append_assoc _ [':'], List.singleton_append, ← hclose, hsplit]
        · cases h
      · cases h
    · cases h
  · rintro ⟨hvalue, quotation, hquotation, rfl⟩
    rw [attributeText_append]
    obtain rfl | ⟨hcolon, rfl⟩ := mem_quotations_iff.mp hquotation
    · exact valueOf?_append _ name hvalue _ isWord_quote
    · rw [List.append_assoc value, List.singleton_append,
        valueOf?_append _ name hvalue (':' :: '"' :: after) isWord_colon]
      exact if_pos hcolon

/-- The name of an attribute is the word that the text starts with. -/
theorem takeWhile_attributeText (hkind : kind.Worded) {name : String} (hname : name ∈ kind.names)
    (quotation after : List Char) :
    (attributeText name quotation ++ after).takeWhile Text.isWord = name.toList := by
  rw [attributeText_append, List.append_assoc]
  exact Text.takeWhile_run_append (hkind name hname).2 rfl

theorem at?_eq_some_iff (hkind : kind.Worded) {text after : List Char} :
    kind.at? text = some (value, after) ↔
      IsWord value ∧ ∃ spelling ∈ kind.spellings value, text = spelling ++ after := by
  constructor
  · intro h
    obtain ⟨name, hname, hvalue⟩ := List.exists_of_findSome?_eq_some h
    obtain ⟨hword, quotation, hquotation, rfl⟩ := valueOf?_eq_some_iff.mp hvalue
    exact ⟨hword, _, mem_spellings_iff.mpr ⟨name, hname, quotation, hquotation, rfl⟩, rfl⟩
  · rintro ⟨hword, spelling, hspelling, rfl⟩
    obtain ⟨name, hname, quotation, hquotation, rfl⟩ := mem_spellings_iff.mp hspelling
    have hvalue : valueOf? kind.colon name (attributeText name quotation ++ after) =
        some (value, after) := valueOf?_eq_some_iff.mpr ⟨hword, quotation, hquotation, rfl⟩
    cases hat : kind.at? (attributeText name quotation ++ after) with
    | none =>
        rw [List.findSome?_eq_none_iff.mp hat name hname] at hvalue
        cases hvalue
    | some found =>
        -- The name that is found first is the only one.
        obtain ⟨other, hother, hfound⟩ := List.exists_of_findSome?_eq_some hat
        obtain ⟨foundValue, foundAfter⟩ := found
        obtain ⟨-, otherQuotation, -, heq⟩ := valueOf?_eq_some_iff.mp hfound
        have hsame := takeWhile_attributeText hkind hname quotation after
        rw [heq, takeWhile_attributeText hkind hother, String.toList_inj] at hsame
        rw [hsame, hvalue] at hfound
        exact hfound.symm

end Attribute

/-! ### Places where an attribute stands -/

/-- At how many places of a text, at its start or behind no word character, one of some other texts
stands. -/
def places (written : List (List Char)) (text : List Char) : Nat :=
  (List.range text.length).countP fun place =>
    !(text.take place).getLast?.any Text.isWord && written.any (·.isPrefixOf (text.drop place))

/-- The same number, counted from left to right. The first argument tells whether a word character stands
in front of the text. -/
def placesFrom (written : List (List Char)) : Bool → List Char → Nat
  | _, [] => 0
  | afterWord, c :: rest =>
    (if !afterWord && written.any (·.isPrefixOf (c :: rest)) then 1 else 0) +
      placesFrom written (Text.isWord c) rest

theorem countP_places (written : List (List Char)) (front text : List Char) :
    (List.range text.length).countP (fun place =>
      !(front ++ text.take place).getLast?.any Text.isWord &&
        written.any (·.isPrefixOf (text.drop place))) =
      placesFrom written (front.getLast?.any Text.isWord) text := by
  induction text generalizing front with
  | nil => rfl
  | cons c rest ih =>
      specialize ih (front ++ [c])
      rw [List.getLast?_concat] at ih
      rw [List.length_cons, List.range_succ_eq_map, List.countP_cons, List.countP_map, placesFrom,
        Nat.add_comm]
      congr 1
      · rw [List.take_zero, List.append_nil, List.drop_zero]
      · rw [← Option.any_some (p := Text.isWord), ← ih]
        apply List.countP_congr
        intro place _
        simp

theorem places_eq_placesFrom (written : List (List Char)) (text : List Char) :
    places written text = placesFrom written false text :=
  countP_places written [] text

namespace Attribute

variable {kind : Attribute} {value : List Char}

/-- A spelling starts with a word character. -/
theorem spelling_eq (hkind : kind.Worded) {spelling : List Char}
    (h : spelling ∈ kind.spellings value) :
    ∃ c word quotation, spelling = c :: (word ++ '=' :: '"' :: (quotation ++ ['"'])) ∧
      Text.isWord c = true ∧ (∀ c ∈ word, Text.isWord c = true) ∧
      quotation ∈ kind.quotations value := by
  obtain ⟨name, hname, quotation, hquotation, rfl⟩ := mem_spellings_iff.mp h
  obtain ⟨hne, hword⟩ := hkind name hname
  obtain ⟨c, word, hcons⟩ := List.exists_cons_of_ne_nil hne
  rw [hcons] at hword
  obtain ⟨hc, hword⟩ := List.forall_mem_cons.mp hword
  refine ⟨c, word, quotation, ?_, hc, hword, hquotation⟩
  rw [attributeText, hcons, List.cons_append]

theorem placesFrom_of_not_word (hkind : kind.Worded) {c : Char} (hc : Text.isWord c = false)
    (afterWord : Bool) (rest : List Char) :
    placesFrom (kind.spellings value) afterWord (c :: rest) =
      placesFrom (kind.spellings value) false rest := by
  have hnone : (kind.spellings value).any (·.isPrefixOf (c :: rest)) = false := by
    rw [List.any_eq_false]
    intro spelling hspelling hprefix
    obtain ⟨first, word, quotation, rfl, hfirst, -⟩ := spelling_eq hkind hspelling
    obtain ⟨rfl, -⟩ := List.cons_prefix_cons.mp (List.isPrefixOf_iff_prefix.mp hprefix)
    rw [hc] at hfirst
    cases hfirst
  rw [placesFrom, hnone, Bool.and_false, hc]
  exact Nat.zero_add _

theorem placesFrom_word_append {word : List Char} (h : ∀ c ∈ word, Text.isWord c = true)
    (written : List (List Char)) (rest : List Char) :
    placesFrom written true (word ++ rest) = placesFrom written true rest := by
  induction word with
  | nil => rfl
  | cons c word ih =>
      obtain ⟨hc, hword⟩ := List.forall_mem_cons.mp h
      rw [List.cons_append, placesFrom, hc, ih hword]
      exact Nat.zero_add _

/-- Where no equals sign follows a word, no attribute starts with it. -/
theorem placesFrom_value_append (hkind : kind.Worded) {word : List Char} (hword : IsWord word)
    {c : Char} (hc : Text.isWord c = false) (hequals : c ≠ '=') (rest : List Char) :
    placesFrom (kind.spellings value) false (word ++ c :: rest) =
      placesFrom (kind.spellings value) false rest := by
  have hnone : (kind.spellings value).any (·.isPrefixOf (word ++ c :: rest)) = false := by
    rw [List.any_eq_false]
    intro spelling hspelling hprefix
    obtain ⟨name, hname, quotation, -, rfl⟩ := mem_spellings_iff.mp hspelling
    obtain ⟨after, hafter⟩ := List.isPrefixOf_iff_prefix.mp hprefix
    have hsame := takeWhile_attributeText hkind hname quotation after
    have hend : (c :: rest).head?.any Text.isWord = false := hc
    rw [hafter, Text.takeWhile_run_append hword.2 hend] at hsame
    rw [attributeText_append, List.append_assoc, ← hsame] at hafter
    exact hequals (List.cons.inj (List.append_cancel_left hafter)).1.symm
  obtain ⟨hne, hall⟩ := hword
  obtain ⟨first, word, rfl⟩ := List.exists_cons_of_ne_nil hne
  obtain ⟨hfirst, hall⟩ := List.forall_mem_cons.mp hall
  rw [List.cons_append] at hnone ⊢
  rw [placesFrom, hnone, hfirst, placesFrom_word_append hall, placesFrom_of_not_word hkind hc]
  exact Nat.zero_add _

/-- Behind its first character no attribute starts in an attribute. -/
theorem placesFrom_inside (hkind : kind.Worded) {word found quotation : List Char}
    (hword : ∀ c ∈ word, Text.isWord c = true) (hfound : IsWord found)
    (hquotation : quotation ∈ kind.quotations found) (after : List Char) :
    placesFrom (kind.spellings value) true (word ++ '=' :: '"' :: (quotation ++ '"' :: after)) =
      placesFrom (kind.spellings value) false after := by
  have hequals : Text.isWord '=' = false := by decide
  rw [placesFrom_word_append hword, placesFrom_of_not_word hkind hequals,
    placesFrom_of_not_word hkind isWord_quote]
  have hplain : placesFrom (kind.spellings value) false (found ++ '"' :: after) =
      placesFrom (kind.spellings value) false after :=
    placesFrom_value_append hkind hfound isWord_quote (by decide) after
  obtain rfl | ⟨-, rfl⟩ := mem_quotations_iff.mp hquotation
  · exact hplain
  · rw [List.append_assoc, List.singleton_append,
      placesFrom_value_append hkind hfound isWord_colon (by decide),
      placesFrom_of_not_word hkind isWord_quote]

theorem valuesFrom_skip (afterWord : Bool) (skipped : List Char) (c : Char) (rest : List Char) :
    kind.valuesFrom afterWord (skipped.length + 1) (skipped ++ c :: rest) =
      kind.valuesFrom (Text.isWord c) 0 rest := by
  induction skipped generalizing afterWord with
  | nil => rfl
  | cons d skipped ih => exact ih (Text.isWord d)

/-- What an attribute that is found consists of behind its first character. -/
theorem at?_cons_eq_some (hkind : kind.Worded) {c : Char} {rest found after : List Char}
    (h : kind.at? (c :: rest) = some (found, after)) :
    ∃ word quotation, rest = word ++ '=' :: '"' :: (quotation ++ '"' :: after) ∧
      Text.isWord c = true ∧ (∀ c ∈ word, Text.isWord c = true) ∧ IsWord found ∧
      quotation ∈ kind.quotations found := by
  obtain ⟨hfound, spelling, hspelling, heq⟩ := (at?_eq_some_iff hkind).mp h
  obtain ⟨first, word, quotation, rfl, hc, hword, hquotation⟩ := spelling_eq hkind hspelling
  obtain ⟨rfl, hrest⟩ := List.cons.inj heq
  refine ⟨word, quotation, ?_, hc, hword, hfound, hquotation⟩
  rw [hrest]
  simp

theorem valuesFrom_of_at? (hkind : kind.Worded) {c : Char} {rest found after : List Char}
    (h : kind.at? (c :: rest) = some (found, after)) :
    kind.valuesFrom false 0 (c :: rest) = found :: kind.valuesFrom false 0 after := by
  rw [valuesFrom, if_neg Bool.false_ne_true, h]
  obtain ⟨word, quotation, rfl, -⟩ := at?_cons_eq_some hkind h
  have hsplit : word ++ '=' :: '"' :: (quotation ++ '"' :: after) =
      (word ++ '=' :: '"' :: quotation) ++ '"' :: after := by
    simp
  have hlength : (word ++ '=' :: '"' :: (quotation ++ '"' :: after)).length - after.length =
      (word ++ '=' :: '"' :: quotation).length + 1 := by
    simp only [List.length_append, List.length_cons]
    omega
  dsimp only
  rw [hlength, hsplit, valuesFrom_skip, isWord_quote]

theorem any_spellings_isPrefixOf_iff (hkind : kind.Worded) (hvalue : IsWord value)
    (text : List Char) :
    (kind.spellings value).any (·.isPrefixOf text) = true ↔
      ∃ after, kind.at? text = some (value, after) := by
  rw [List.any_eq_true]
  constructor
  · rintro ⟨spelling, hspelling, hprefix⟩
    obtain ⟨after, rfl⟩ := List.isPrefixOf_iff_prefix.mp hprefix
    exact ⟨after, (at?_eq_some_iff hkind).mpr ⟨hvalue, spelling, hspelling, rfl⟩⟩
  · rintro ⟨after, hat⟩
    obtain ⟨-, spelling, hspelling, rfl⟩ := (at?_eq_some_iff hkind).mp hat
    exact ⟨spelling, hspelling, List.isPrefixOf_iff_prefix.mpr (List.prefix_append _ _)⟩

theorem placesFrom_of_at? (hkind : kind.Worded) (hvalue : IsWord value) {c : Char}
    {rest found after : List Char} (h : kind.at? (c :: rest) = some (found, after)) :
    placesFrom (kind.spellings value) false (c :: rest) =
      (if found = value then 1 else 0) + placesFrom (kind.spellings value) false after := by
  have hstands : (kind.spellings value).any (·.isPrefixOf (c :: rest)) = true ↔ found = value := by
    rw [any_spellings_isPrefixOf_iff hkind hvalue, h]
    simp
  obtain ⟨word, quotation, rfl, hc, hword, hfound, hquotation⟩ := at?_cons_eq_some hkind h
  rw [placesFrom, hc, placesFrom_inside hkind hword hfound hquotation]
  simp only [Bool.not_false, Bool.true_and, hstands]

/-- Scanning finds a value at every place where an attribute with that value stands. -/
theorem count_valuesFrom (hkind : kind.Worded) (hvalue : IsWord value) (afterWord : Bool)
    (text : List Char) :
    (kind.valuesFrom afterWord 0 text).count value =
      placesFrom (kind.spellings value) afterWord text := by
  induction hlength : text.length using Nat.strongRecOn generalizing afterWord text with
  | ind length ih =>
      cases text with
      | nil => rfl
      | cons c rest =>
          have hrest := ih rest.length (by simp [← hlength]) (Text.isWord c) rest rfl
          cases afterWord with
          | true =>
              rw [valuesFrom, placesFrom, ← hrest]
              exact (Nat.zero_add _).symm
          | false =>
              cases hat : kind.at? (c :: rest) with
              | none =>
                  have hnone : (kind.spellings value).any (·.isPrefixOf (c :: rest)) = false := by
                    rw [Bool.eq_false_iff, ne_eq, any_spellings_isPrefixOf_iff hkind hvalue, hat]
                    simp
                  rw [valuesFrom, if_neg Bool.false_ne_true, hat, placesFrom, hnone, ← hrest]
                  exact (Nat.zero_add _).symm
              | some head =>
                  obtain ⟨found, after⟩ := head
                  have hlt : after.length < length := by
                    obtain ⟨word, quotation, rfl, -⟩ := at?_cons_eq_some hkind hat
                    rw [← hlength]
                    simp only [List.length_append, List.length_cons]
                    omega
                  rw [valuesFrom_of_at? hkind hat, placesFrom_of_at? hkind hvalue hat,
                    List.count_cons, ih after.length hlt false after rfl, Nat.add_comm]
                  simp only [beq_iff_eq]

end Attribute

/-! ### The file as one line -/

/-- A text and that text as one line: a line break becomes one space, or nothing at the very end. -/
inductive Collapsed : List Char → List Char → Prop
  | nil : Collapsed [] []
  | char {c : Char} {rest line : List Char} (hc : Text.isLineBreak c = false)
      (h : Collapsed rest line) : Collapsed (c :: rest) (c :: line)
  | lineBreak {mark rest line : List Char} (hne : mark ≠ [])
      (hmark : ∀ c ∈ mark, Text.isLineBreak c = true) (h : Collapsed rest line) :
      Collapsed (mark ++ rest) (' ' :: line)
  | lastBreak {mark : List Char} (hmark : ∀ c ∈ mark, Text.isLineBreak c = true) : Collapsed mark []

theorem Collapsed.of_lineBreak {mark rest : List Char} (hne : mark ≠ [])
    (hmark : ∀ c ∈ mark, Text.isLineBreak c = true) (h : Collapsed rest (oneLine rest)) :
    Collapsed (mark ++ rest) ([' '].intercalate ([] :: Text.lines rest)) := by
  rw [oneLine] at h
  cases hlines : Text.lines rest with
  | nil =>
      rw [Text.lines_eq_nil_iff.mp hlines, List.append_nil]
      exact .lastBreak hmark
  | cons line lines =>
      rw [List.intercalate_cons_cons, ← hlines]
      exact .lineBreak hne hmark h

theorem collapsed_oneLine (text : List Char) : Collapsed text (oneLine text) := by
  rw [oneLine]
  fun_induction Text.lines text with
  | case1 => exact .nil
  | case2 rest ih => exact .of_lineBreak (List.cons_ne_nil '\r' ['\n']) (List.all_eq_true.mp (by decide)) ih
  | case3 c rest _ hc ih => exact .of_lineBreak (List.cons_ne_nil c []) (by simpa using hc) ih
  | case4 c rest _ hc hnil ih =>
      rw [Text.lines_eq_nil_iff.mp hnil]
      exact .char (by simpa using hc) .nil
  | case5 c rest _ hc line more hmore ih =>
      have hjoin : [' '].intercalate ((c :: line) :: more) = c :: [' '].intercalate (line :: more) := by
        cases more with
        | nil => rfl
        | cons next more => rfl
      rw [hmore] at ih
      rw [hjoin]
      exact .char (by simpa using hc) ih

theorem prefix_cons_iff_of_isSpace {part rest : List Char} {c : Char}
    (hpart : ∀ c ∈ part, Text.isSpace c = false) (hc : Text.isSpace c = true) :
    part <+: c :: rest ↔ part = [] := by
  constructor
  · intro h
    cases part with
    | nil => rfl
    | cons d part =>
        obtain ⟨rfl, -⟩ := List.cons_prefix_cons.mp h
        rw [hpart d List.mem_cons_self] at hc
        cases hc
  · rintro rfl
    exact List.nil_prefix

/-- What has no white space in it starts a text as one line exactly if it starts the text. -/
theorem Collapsed.prefix_iff {text line part : List Char} (h : Collapsed text line)
    (hpart : ∀ c ∈ part, Text.isSpace c = false) : part <+: line ↔ part <+: text := by
  induction h generalizing part with
  | nil => rfl
  | char hc h ih =>
      cases part with
      | nil => exact iff_of_true List.nil_prefix List.nil_prefix
      | cons d part =>
          rw [List.cons_prefix_cons, List.cons_prefix_cons, ih (List.forall_mem_cons.mp hpart).2]
  | @lineBreak mark rest line hne hmark h ih =>
      obtain ⟨c, mark, rfl⟩ := List.exists_cons_of_ne_nil hne
      have hc : Text.isSpace c = true := Text.isSpace_of_isLineBreak (hmark c List.mem_cons_self)
      rw [List.cons_append, prefix_cons_iff_of_isSpace hpart hc,
        prefix_cons_iff_of_isSpace hpart (by decide)]
  | @lastBreak mark hmark =>
      cases mark with
      | nil => rfl
      | cons c mark =>
          have hc : Text.isSpace c = true := Text.isSpace_of_isLineBreak (hmark c List.mem_cons_self)
          rw [List.prefix_nil, prefix_cons_iff_of_isSpace hpart hc]

namespace Attribute

variable {kind : Attribute} {value : List Char}

theorem placesFrom_gap_append (hkind : kind.Worded) {gap : List Char} (hne : gap ≠ [])
    (hgap : ∀ c ∈ gap, Text.isWord c = false) (afterWord : Bool) (rest : List Char) :
    placesFrom (kind.spellings value) afterWord (gap ++ rest) =
      placesFrom (kind.spellings value) false rest := by
  induction gap generalizing afterWord with
  | nil => exact absurd rfl hne
  | cons c gap ih =>
      obtain ⟨hc, hgap⟩ := List.forall_mem_cons.mp hgap
      rw [List.cons_append, placesFrom_of_not_word hkind hc]
      cases gap with
      | nil => rfl
      | cons d gap => exact ih (List.cons_ne_nil d gap) hgap false

theorem isSpace_eq_false_of_mem_spelling (hkind : kind.Worded) (hvalue : IsWord value) {spelling : List Char}
    (h : spelling ∈ kind.spellings value) : ∀ c ∈ spelling, Text.isSpace c = false := by
  have hequals : Text.isSpace '=' = false := by decide
  have hquote : Text.isSpace '"' = false := by decide
  have hcolon : Text.isSpace ':' = false := by decide
  obtain ⟨name, hname, quotation, hquotation, rfl⟩ := mem_spellings_iff.mp h
  have hquoted : ∀ c ∈ quotation, c ∈ value ∨ c = ':' := by
    intro c hc
    obtain rfl | ⟨-, rfl⟩ := mem_quotations_iff.mp hquotation
    · exact .inl hc
    · exact (List.mem_append.mp hc).imp_right List.mem_singleton.mp
  intro c hc
  rw [attributeText, List.mem_append, List.mem_cons, List.mem_cons, List.mem_append,
    List.mem_singleton] at hc
  rcases hc with hc | rfl | rfl | hc | rfl
  · exact Text.isSpace_eq_false_of_isWord ((hkind name hname).2 c hc)
  · exact hequals
  · exact hquote
  · rcases hquoted c hc with hc | rfl
    · exact Text.isSpace_eq_false_of_isWord (hvalue.2 c hc)
    · exact hcolon
  · exact hquote

theorem placesFrom_collapsed (hkind : kind.Worded) (hvalue : IsWord value) {text line : List Char}
    (h : Collapsed text line) (afterWord : Bool) :
    placesFrom (kind.spellings value) afterWord line =
      placesFrom (kind.spellings value) afterWord text := by
  have hgap : ∀ {mark : List Char}, (∀ c ∈ mark, Text.isLineBreak c = true) →
      ∀ c ∈ mark, Text.isWord c = false := fun hmark c hc =>
    Text.isWord_eq_false_of_isSpace (Text.isSpace_of_isLineBreak (hmark c hc))
  have hstands : ∀ {text line}, Collapsed text line →
      (kind.spellings value).any (·.isPrefixOf line) =
        (kind.spellings value).any (·.isPrefixOf text) := by
    intro text line h
    rw [Bool.eq_iff_iff, List.any_eq_true, List.any_eq_true]
    refine exists_congr fun spelling => and_congr_right fun hspelling => ?_
    rw [List.isPrefixOf_iff_prefix, List.isPrefixOf_iff_prefix]
    exact h.prefix_iff (isSpace_eq_false_of_mem_spelling hkind hvalue hspelling)
  induction h generalizing afterWord with
  | nil => rfl
  | char hc h ih => rw [placesFrom, placesFrom, hstands (.char hc h), ih]
  | lineBreak hne hmark h ih =>
      rw [placesFrom_of_not_word hkind (by decide), placesFrom_gap_append hkind hne (hgap hmark), ih]
  | @lastBreak mark hmark =>
      cases mark with
      | nil => rfl
      | cons c mark =>
          rw [← List.append_nil (c :: mark),
            placesFrom_gap_append hkind (List.cons_ne_nil c mark) (hgap hmark)]
          rfl

/-- Reading a file as one line leaves an attribute with a value at as many places as it stands in the
file, and scanning finds it at all of them. -/
theorem count_values_oneLine (hkind : kind.Worded) (hvalue : IsWord value) (text : List Char) :
    (kind.values (oneLine text)).count value = places (kind.spellings value) text := by
  rw [values, count_valuesFrom hkind hvalue, placesFrom_collapsed hkind hvalue (collapsed_oneLine text),
    places_eq_placesFrom]

end Attribute

/-- In an interface file, the classes, selectors and properties found are as many as the places where
their attributes stand in its text, whatever its line breaks. What the file adds to the total of a
declaration follows from the three numbers: the classes count for every entry that is not restricted, the
selectors and properties also for one that is linked to interface files. -/
theorem interface_references_by_place (text : List Char) {name : List Char} (hname : IsWord name) :
    let classes := places [attributeText "customClass" name, attributeText "class" name] text
    let selectors :=
      places [attributeText "selector" name, attributeText "selector" (name ++ [':'])] text
    let properties := places [attributeText "property" name] text
    (Attribute.classes.values (oneLine text)).count name = classes ∧
      (Attribute.selectors.values (oneLine text)).count name = selectors ∧
      (Attribute.properties.values (oneLine text)).count name = properties ∧
      ∀ (totals : Totals) (declarations : List Declaration) (path : String) (d : Declaration),
        d.name.toList = name →
        (totals.addInterface declarations ⟨path, some (String.ofList text)⟩).count d = totals.count d +
          ((declarations.filter fun e => e.identity = d.identity).map fun e =>
            (if e.modifiers.isRestricted then 0 else classes) +
              if !e.modifiers.isRestricted || e.modifiers.isInterfaceLinked then selectors + properties
              else 0).sum := by
  intro classes selectors properties
  have hclasses : (Attribute.classes.values (oneLine text)).count name = classes :=
    Attribute.count_values_oneLine Attribute.worded_classes hname text
  have hselectors : (Attribute.selectors.values (oneLine text)).count name = selectors :=
    Attribute.count_values_oneLine Attribute.worded_selectors hname text
  have hproperties : (Attribute.properties.values (oneLine text)).count name = properties :=
    Attribute.count_values_oneLine Attribute.worded_properties hname text
  refine ⟨hclasses, hselectors, hproperties, fun totals declarations path d hd => ?_⟩
  have hentries : declarations.filter d.same =
      declarations.filter fun e => e.identity = d.identity := by
    apply List.filter_congr
    intro e _
    rw [Bool.eq_iff_iff, same_eq_true_iff, decide_eq_true_eq, eq_comm]
  rw [Totals.count_addInterface, hentries]
  congr 2
  apply List.map_congr_left
  intro e he
  have hidentity : e.identity = d.identity := of_decide_eq_true (List.mem_filter.mp he).2
  have hsame : e.name.toList = name := by
    rw [← hd]
    exact congrArg (String.toList ∘ Declaration.Identity.name) hidentity
  change (Mentions.ofText (String.ofList text).toList).count e = _
  unfold Mentions.count Mentions.ofText
  dsimp only
  rw [String.toList_ofList, hsame, List.count_append, hclasses, hselectors, hproperties]
  cases e.modifiers.isRestricted <;> cases e.modifiers.isInterfaceLinked <;> rfl

/-- A text with several kinds of line breaks. Of the classes in it, one is a part of another word and one
has a line break in it. -/
def brokenText : List Char :=
  "class=\"class\"\r\nclass=\"Cell\"\u2028selector=\"Cell:\" xclass=\"Cell\" class=\r\"Cell\"".toList

/-- A private class that is linked to an interface file. -/
def linkedCell : Declaration :=
  ⟨"a.swift", 1, .classType, "Cell", ⟨["@IBOutlet", "private"]⟩, "@IBOutlet private class Cell"⟩

set_option maxRecDepth 4096 in
theorem interface_references_brokenText :
    IsWord "Cell".toList ∧ linkedCell.name.toList = "Cell".toList ∧
      places [attributeText "customClass" "Cell".toList, attributeText "class" "Cell".toList]
        brokenText = 1 ∧
      (Attribute.classes.values (oneLine brokenText)).count "Cell".toList = 1 ∧
      ((Totals.start [linkedCell]).addInterface [linkedCell]
        ⟨"a.xib", some (String.ofList brokenText)⟩).count linkedCell = 1 := by
  have hname : IsWord "Cell".toList := ⟨by decide, List.all_eq_true.mp (by decide)⟩
  have hclasses : places [attributeText "customClass" "Cell".toList,
      attributeText "class" "Cell".toList] brokenText = 1 := by
    rw [places_eq_placesFrom]
    decide
  have hselectors : places [attributeText "selector" "Cell".toList,
      attributeText "selector" ("Cell".toList ++ [':'])] brokenText = 1 := by
    rw [places_eq_placesFrom]
    decide
  have hproperties : places [attributeText "property" "Cell".toList] brokenText = 0 := by
    rw [places_eq_placesFrom]
    decide
  obtain ⟨hcount, -, -, htotal⟩ := interface_references_by_place brokenText hname
  refine ⟨hname, rfl, hclasses, hcount.trans hclasses, ?_⟩
  rw [htotal _ _ _ linkedCell rfl, hclasses, hselectors, hproperties, Totals.count_start]
  decide

end Unreferenced.Reference
