import Unreferenced.Proofs.DeclarationName

/-! The declaration on a line, word by word. Searching a line for the head of a declaration is looking at
its words from left to right: the first keyword declares that is followed, behind white space and
nothing else, by a word that is no keyword. The search goes on behind a word that declares nothing. -/

namespace Unreferenced

namespace Text

/-! ### The words of a text -/

/-- Whether a word starts at a place: a word character stands there and none right before it. -/
def startsWord (text : List Char) (place : Nat) : Bool :=
  text[place]?.any isWord && (place == 0 || !text[place - 1]?.any isWord)

/-- The places where the words of a text start, in order. -/
def wordStarts (text : List Char) : List Nat := (List.range text.length).filter (startsWord text)

/-- The word that starts at a place. -/
def wordAt (text : List Char) (place : Nat) : List Char := (text.drop place).takeWhile isWord

/-- No word goes on over a cut that has no word character on one side. -/
theorem startsWord_append_right {front back : List Char}
    (h : front.getLast?.any isWord = false ∨ back.head?.any isWord = false) (place : Nat) :
    startsWord (front ++ back) (front.length + place) = startsWord back place := by
  have hback : ∀ place, (front ++ back)[front.length + place]? = back[place]? := fun place => by
    rw [List.getElem?_append_right (Nat.le_add_right _ _), Nat.add_sub_cancel_left]
  rw [startsWord, startsWord, hback]
  cases place with
  | succ place =>
      rw [← Nat.add_assoc, Nat.add_sub_cancel, Nat.add_sub_cancel, hback]
      simp
  | zero =>
      rw [← List.head?_eq_getElem?]
      rcases h with hfront | hback
      · cases front with
        | nil => rfl
        | cons c front =>
            rw [List.getLast?_eq_getElem?] at hfront
            have hlast : (c :: front).length + 0 - 1 < (c :: front).length := by simp
            rw [List.getElem?_append_left hlast, Nat.add_zero, hfront]
            simp
      · rw [hback, Bool.false_and, Bool.false_and]

theorem wordStarts_append {front back : List Char}
    (h : front.getLast?.any isWord = false ∨ back.head?.any isWord = false) :
    wordStarts (front ++ back) = wordStarts front ++ (wordStarts back).map (front.length + ·) := by
  rw [wordStarts, List.length_append, List.range_add, List.filter_append, List.filter_map]
  congr 1
  · apply List.filter_congr
    intro place hplace
    rw [List.mem_range] at hplace
    rw [startsWord, startsWord, List.getElem?_append_left hplace,
      List.getElem?_append_left (by omega)]
  · congr 1
    apply List.filter_congr
    exact fun place _ => startsWord_append_right h place

theorem wordStarts_of_forall_not {gap : List Char} (h : ∀ c ∈ gap, isWord c = false) :
    wordStarts gap = [] := by
  rw [wordStarts, List.filter_eq_nil_iff]
  intro place hplace
  rw [List.mem_range] at hplace
  simp [startsWord, List.getElem?_eq_getElem hplace, h _ (List.getElem_mem hplace)]

theorem wordStarts_of_forall {word : List Char} (hne : word ≠ [])
    (h : ∀ c ∈ word, isWord c = true) : wordStarts word = [0] := by
  cases word with
  | nil => exact absurd rfl hne
  | cons c word =>
      rw [wordStarts, List.length_cons, List.range_succ_eq_map, List.filter_cons,
        if_pos (by simp [startsWord, h c]), List.filter_eq_nil_iff.mpr]
      intro place hplace
      obtain ⟨before, hbefore, rfl⟩ := List.mem_map.mp hplace
      rw [List.mem_range] at hbefore
      have hlt : before < (c :: word).length := hbefore.trans (Nat.lt_succ_self _)
      simp [startsWord, List.getElem?_eq_getElem hlt, h _ (List.getElem_mem hlt)]

theorem wordAt_append_right (front back : List Char) (place : Nat) :
    wordAt (front ++ back) (front.length + place) = wordAt back place := by
  rw [wordAt, wordAt, List.drop_length_add_append]

theorem wordAt_ne_nil_of_mem {text : List Char} {place : Nat} (h : place ∈ wordStarts text) :
    wordAt text place ≠ [] := by
  obtain ⟨hlt, hstarts⟩ := List.mem_filter.mp h
  rw [List.mem_range] at hlt
  rw [startsWord, List.getElem?_eq_getElem hlt, Bool.and_eq_true] at hstarts
  rw [wordAt, List.drop_eq_getElem_cons hlt, List.takeWhile_cons_of_pos (by simpa using hstarts.1)]
  exact List.cons_ne_nil _ _

theorem head?_dropWhile_isWord (text : List Char) :
    (text.dropWhile isWord).head?.any isWord = false := by
  have h := List.head?_dropWhile_not isWord text
  cases hhead : (text.dropWhile isWord).head? with
  | none => rfl
  | some c =>
      rw [hhead] at h
      simpa using h

/-! ### The first word of a text -/

/-- A text is cut around its first word: in front of it is a gap without word characters, and the rest
does not go on with it. -/
structure FirstWord (gap word rest : List Char) : Prop where
  gap : ∀ c ∈ gap, isWord c = false
  ne_nil : word ≠ []
  word : ∀ c ∈ word, isWord c = true
  rest : rest.head?.any isWord = false

theorem word_induct {motive : List Char → Prop}
    (gap : ∀ text, (∀ c ∈ text, isWord c = false) → motive text)
    (word : ∀ gap word rest, FirstWord gap word rest → motive rest → motive (gap ++ word ++ rest))
    (text : List Char) : motive text := by
  induction hlength : text.length using Nat.strongRecOn generalizing text with
  | ind length ih =>
      have hsplit : text.takeWhile (!isWord ·) ++ text.dropWhile (!isWord ·) = text :=
        List.takeWhile_append_dropWhile
      have hgap : ∀ c ∈ text.takeWhile (!isWord ·), isWord c = false := by
        intro c hc
        simpa using List.mem_takeWhile_imp hc
      cases hback : text.dropWhile (!isWord ·) with
      | nil =>
          rw [hback, List.append_nil] at hsplit
          exact gap text (hsplit ▸ hgap)
      | cons c back =>
          have hc : isWord c = true := by
            have hhead := List.head?_dropWhile_not (!isWord ·) text
            rw [hback] at hhead
            simpa using hhead
          have hword : (c :: back).takeWhile isWord ++ (c :: back).dropWhile isWord = c :: back :=
            List.takeWhile_append_dropWhile
          rw [← hsplit, hback, ← hword, ← List.append_assoc]
          refine word _ _ _ ⟨hgap, ?_, fun c hc => List.mem_takeWhile_imp hc,
            head?_dropWhile_isWord _⟩ (ih _ ?_ _ rfl)
          · rw [List.takeWhile_cons_of_pos hc]
            exact List.cons_ne_nil _ _
          · have hle := (List.dropWhile_suffix isWord (l := back)).length_le
            rw [← hlength, ← hsplit, hback, List.length_append, List.dropWhile_cons_of_pos hc,
              List.length_cons]
            omega

theorem runs_append_of_forall_not {gap : List Char} (h : ∀ c ∈ gap, isWord c = false)
    (rest : List Char) : runs isWord (gap ++ rest) = runs isWord rest := by
  induction gap with
  | nil => rfl
  | cons c gap ih =>
      obtain ⟨hc, hgap⟩ := List.forall_mem_cons.mp h
      rw [List.cons_append, runs_cons hc, ih hgap]

namespace FirstWord

variable {gap word rest : List Char}

theorem takeWhile_eq (h : FirstWord gap word rest) : (word ++ rest).takeWhile isWord = word :=
  takeWhile_run_append h.word h.rest

theorem dropWhile_eq (h : FirstWord gap word rest) : (word ++ rest).dropWhile isWord = rest :=
  dropWhile_run_append h.word h.rest

theorem wordStarts_eq (h : FirstWord gap word rest) :
    wordStarts (gap ++ word ++ rest) =
      gap.length :: (wordStarts rest).map ((gap ++ word).length + ·) := by
  have hlast : gap.getLast?.any isWord = false := by
    cases hgap : gap.getLast? with
    | none => rfl
    | some c => exact h.gap c (List.mem_of_getLast? hgap)
  rw [wordStarts_append (.inr h.rest), wordStarts_append (.inl hlast),
    wordStarts_of_forall_not h.gap, wordStarts_of_forall h.ne_nil h.word]
  rfl

theorem wordAt_eq (h : FirstWord gap word rest) : wordAt (gap ++ word ++ rest) gap.length = word := by
  have hfirst := wordAt_append_right gap (word ++ rest) 0
  rw [Nat.add_zero, ← List.append_assoc] at hfirst
  rw [hfirst, wordAt, List.drop_zero, h.takeWhile_eq]

theorem runs_eq (h : FirstWord gap word rest) :
    runs isWord (gap ++ word ++ rest) = word :: runs isWord rest := by
  rw [List.append_assoc, runs_append_of_forall_not h.gap, runs_eq_append_dropWhile, h.takeWhile_eq,
    h.dropWhile_eq, runs_of_forall h.ne_nil h.word]
  rfl

end FirstWord

/-- The words at the places where words start are the maximal runs of word characters. -/
theorem map_wordAt_wordStarts (text : List Char) :
    (wordStarts text).map (wordAt text) = runs isWord text := by
  induction text using word_induct with
  | gap text hgap => rw [wordStarts_of_forall_not hgap, ← List.append_nil text,
        runs_append_of_forall_not hgap, runs_nil, List.map_nil]
  | word gap word rest h ih =>
      rw [h.wordStarts_eq, h.runs_eq, List.map_cons, h.wordAt_eq, List.map_map, ← ih]
      congr 1
      exact List.map_congr_left fun place _ => wordAt_append_right (gap ++ word) rest place

end Text

/-! ### Heads of declarations -/

theorem isWord_of_mem_keyword (kind : Kind) : ∀ c ∈ kind.keyword.toList, Text.isWord c = true := by
  rw [← List.all_eq_true]
  cases kind <;> decide

theorem head?_any_isWord_keyword_append (kind : Kind) (rest : List Char) :
    (kind.keyword.toList ++ rest).head?.any Text.isWord = true := by
  have hne : kind.keyword.toList ≠ [] := by cases kind <;> decide
  have hhead : kind.keyword.toList.head?.any Text.isWord = true := by cases kind <;> decide
  rw [List.head?_append_of_ne_nil _ hne, hhead]

theorem keyword_injective {kind other : Kind} (h : kind.keyword.toList = other.keyword.toList) :
    kind = other := by
  revert h
  cases kind <;> cases other <;> decide

/-- Behind white space no word goes on. -/
theorem head?_any_isWord_spaces_append {spaces : List Char} (hne : spaces ≠ [])
    (h : ∀ c ∈ spaces, Text.isSpace c = true) (rest : List Char) :
    (spaces ++ rest).head?.any Text.isWord = false := by
  cases spaces with
  | nil => exact absurd rfl hne
  | cons c spaces => exact Text.isWord_eq_false_of_isSpace (h c List.mem_cons_self)

theorem dropWhile_isSpace_append {spaces rest : List Char} (h : ∀ c ∈ spaces, Text.isSpace c = true)
    (hrest : rest.takeWhile Text.isWord ≠ []) :
    (spaces ++ rest).dropWhile Text.isSpace = rest := by
  rw [List.dropWhile_append_of_pos h]
  cases rest with
  | nil => rfl
  | cons c rest =>
      apply List.dropWhile_cons_of_neg
      intro hspace
      apply hrest
      apply List.takeWhile_cons_of_neg
      rw [Text.isWord_eq_false_of_isSpace hspace]
      exact Bool.false_ne_true

theorem headAt?_eq_some_iff {text name : List Char} {kind : Kind} :
    headAt? text = some (kind, name) ↔
      ∃ gap rest, text = kind.keyword.toList ++ gap ++ rest ∧ gap ≠ [] ∧
        (∀ c ∈ gap, Text.isSpace c = true) ∧ rest.takeWhile Text.isWord = name ∧ name ≠ [] ∧
        Kind.ofKeyword? (String.ofList name) = none := by
  refine ⟨headAt?_eq_some, ?_⟩
  rintro ⟨gap, rest, rfl, hne, hgap, rfl, hname, hkeyword⟩
  have hrest : (gap ++ rest).dropWhile Text.isSpace = rest := dropWhile_isSpace_append hgap hname
  cases hhead : headAt? (kind.keyword.toList ++ gap ++ rest) with
  | none =>
      have hkind := List.findSome?_eq_none_iff.mp hhead kind (by cases kind <;> decide)
      have hprefix : kind.keyword.toList.isPrefixOf (kind.keyword.toList ++ (gap ++ rest)) = true :=
        List.isPrefixOf_iff_prefix.mpr (List.prefix_append _ _)
      have hspace : ((gap ++ rest).head?.map Text.isSpace).getD false = true := by
        cases gap with
        | nil => exact absurd rfl hne
        | cons c gap => exact hgap c List.mem_cons_self
      dsimp only at hkind
      rw [List.append_assoc, List.drop_left, hrest, hprefix, hspace, hkeyword,
        List.isEmpty_eq_false_iff.mpr hname] at hkind
      cases hkind
  | some head =>
      -- The text starts with one keyword only, and what follows is one name.
      obtain ⟨other, found⟩ := head
      obtain ⟨gap', rest', heq, hne', hgap', hfound, hname', -⟩ := headAt?_eq_some hhead
      rw [List.append_assoc, List.append_assoc] at heq
      have hword : kind.keyword.toList = other.keyword.toList := by
        rw [← Text.takeWhile_run_append (isWord_of_mem_keyword kind)
            (head?_any_isWord_spaces_append hne hgap rest), heq,
          Text.takeWhile_run_append (isWord_of_mem_keyword other)
            (head?_any_isWord_spaces_append hne' hgap' rest')]
      obtain rfl := keyword_injective hword
      have hsame := congrArg (List.dropWhile Text.isSpace) (List.append_cancel_left heq)
      rw [hrest, dropWhile_isSpace_append hgap' (hfound ▸ hname')] at hsame
      rw [← hfound, ← hsame]

theorem headAt?_of_not_word {text : List Char} (h : text.head?.any Text.isWord = false) :
    headAt? text = none := by
  by_contra hne
  obtain ⟨⟨kind, name⟩, hhead⟩ := Option.ne_none_iff_exists'.mp hne
  obtain ⟨gap, rest, rfl, -⟩ := headAt?_eq_some hhead
  rw [List.append_assoc, head?_any_isWord_keyword_append] at h
  cases h

/-! ### The search for a head, word by word -/

/-- What was found in a text, seen from a number of characters in front of it. -/
def behind (count : Nat) (found : Option (Nat × Kind × List Char)) :
    Option (Nat × Kind × List Char) :=
  found.map fun (offset, head) => (count + offset, head)

@[simp]
theorem behind_none (count : Nat) : behind count none = none := rfl

@[simp]
theorem behind_some (count offset : Nat) (head : Kind × List Char) :
    behind count (some (offset, head)) = some (count + offset, head) := rfl

theorem behind_zero (found : Option (Nat × Kind × List Char)) : behind 0 found = found := by
  cases found with
  | none => rfl
  | some found => rw [behind_some, Nat.zero_add]

theorem behind_behind (more count : Nat) (found : Option (Nat × Kind × List Char)) :
    behind more (behind count found) = behind (more + count) found := by
  cases found with
  | none => rfl
  | some found => rw [behind_some, behind_some, behind_some, Nat.add_assoc]

/-- A character where no head starts is passed over. -/
theorem findHead?_cons {afterWord : Bool} {c : Char} {rest : List Char}
    (h : afterWord = true ∨ headAt? (c :: rest) = none) :
    findHead? afterWord (c :: rest) = behind 1 (findHead? (Text.isWord c) rest) := by
  have hnone : (if afterWord = true then none else headAt? (c :: rest)) = none := by
    rcases h with h | h
    · rw [if_pos h]
    · rw [h, ite_self]
  rw [findHead?, hnone]
  cases findHead? (Text.isWord c) rest with
  | none => rfl
  | some found => rw [behind_some, Nat.add_comm]; rfl

theorem findHead?_gap_append {gap : List Char} (h : ∀ c ∈ gap, Text.isWord c = false)
    (rest : List Char) : findHead? false (gap ++ rest) = behind gap.length (findHead? false rest) := by
  induction gap with
  | nil => rw [List.nil_append, List.length_nil, behind_zero]
  | cons c gap ih =>
      obtain ⟨hc, hgap⟩ := List.forall_mem_cons.mp h
      have hnone : headAt? (c :: (gap ++ rest)) = none := headAt?_of_not_word (by simp [hc])
      rw [List.cons_append, findHead?_cons (.inr hnone), hc, ih hgap, behind_behind,
        List.length_cons, Nat.add_comm]

theorem findHead?_word_append {word : List Char} (h : ∀ c ∈ word, Text.isWord c = true)
    (rest : List Char) : findHead? true (word ++ rest) = behind word.length (findHead? true rest) := by
  induction word with
  | nil => rw [List.nil_append, List.length_nil, behind_zero]
  | cons c word ih =>
      obtain ⟨hc, hword⟩ := List.forall_mem_cons.mp h
      rw [List.cons_append, findHead?_cons (.inl rfl), hc, ih hword, behind_behind,
        List.length_cons, Nat.add_comm]

/-- Where no word character comes next, it does not matter whether a word ends. -/
theorem findHead?_of_not_word {text : List Char} (h : text.head?.any Text.isWord = false) :
    findHead? true text = findHead? false text := by
  cases text with
  | nil => rfl
  | cons c rest => rw [findHead?_cons (.inl rfl), findHead?_cons (.inr (headAt?_of_not_word h))]

/-- A head stands at the first word of a text, or the search goes on behind that word. -/
theorem findHead?_firstWord {gap word rest : List Char} (h : Text.FirstWord gap word rest) :
    findHead? false (gap ++ word ++ rest) =
      match headAt? (word ++ rest) with
      | some head => some (gap.length, head)
      | none => behind (gap ++ word).length (findHead? false rest) := by
  rw [List.append_assoc, findHead?_gap_append h.gap]
  cases word with
  | nil => exact absurd rfl h.ne_nil
  | cons c word =>
      obtain ⟨hc, hword⟩ := List.forall_mem_cons.mp h.word
      rw [List.cons_append]
      cases hhead : headAt? (c :: (word ++ rest)) with
      | some head =>
          rw [findHead?, if_neg Bool.false_ne_true, hhead]
          rfl
      | none =>
          rw [findHead?_cons (.inr hhead), hc, findHead?_word_append hword,
            findHead?_of_not_word h.rest, behind_behind, behind_behind, List.length_append,
            List.length_cons, Nat.add_assoc, Nat.add_comm 1]

/-! ### Words that declare -/

/-- The word of a code with an index declares: it is the keyword of a kind, the next word is no keyword,
and there is only white space between the two. -/
structure Declares (code : List Char) (index start next : Nat) (kind : Kind) : Prop where
  start_eq : (Text.wordStarts code)[index]? = some start
  next_eq : (Text.wordStarts code)[index + 1]? = some next
  keyword : Text.wordAt code start = kind.keyword.toList
  name : Kind.ofKeyword? (String.ofList (Text.wordAt code next)) = none
  gap : ∀ c ∈ (code.take next).drop (start + (Text.wordAt code start).length),
    Text.isSpace c = true

section FirstWord

variable {gap word rest : List Char} {index start next : Nat} {kind : Kind}

/-- Behind its first word a code declares what the rest declares. -/
theorem declares_behind_iff (h : Text.FirstWord gap word rest) :
    Declares (gap ++ word ++ rest) (index + 1) ((gap ++ word).length + start)
      ((gap ++ word).length + next) kind ↔ Declares rest index start next kind := by
  have hplace : ∀ index place,
      (Text.wordStarts (gap ++ word ++ rest))[index + 1]? = some ((gap ++ word).length + place) ↔
        (Text.wordStarts rest)[index]? = some place := by
    intro index place
    rw [h.wordStarts_eq, List.getElem?_cons_succ, List.getElem?_map, Option.map_eq_some_iff]
    simp
  have hword := Text.wordAt_append_right (gap ++ word) rest
  have hbetween : ∀ length,
      ((gap ++ word ++ rest).take ((gap ++ word).length + next)).drop
          ((gap ++ word).length + start + length) = (rest.take next).drop (start + length) := by
    intro length
    rw [List.take_length_add_append, Nat.add_assoc, List.drop_length_add_append]
  constructor
  · rintro ⟨hstart, hnext, hkeyword, hname, hspaces⟩
    rw [hword] at hkeyword hname
    rw [hword, hbetween] at hspaces
    exact ⟨(hplace _ _).mp hstart, (hplace _ _).mp hnext, hkeyword, hname, hspaces⟩
  · rintro ⟨hstart, hnext, hkeyword, hname, hspaces⟩
    refine ⟨(hplace _ _).mpr hstart, (hplace _ _).mpr hnext, ?_, ?_, ?_⟩
    · rw [hword, hkeyword]
    · rw [hword, hname]
    · rw [hword, hbetween]
      exact hspaces

/-- The first word of a code declares if a head stands there. -/
theorem declares_of_headAt? (h : Text.FirstWord gap word rest) {name : List Char}
    (hhead : headAt? (word ++ rest) = some (kind, name)) :
    ∃ next, Declares (gap ++ word ++ rest) 0 gap.length next kind := by
  obtain ⟨spaces, back, heq, hne, hspaces, rfl, hname, hkeyword⟩ := headAt?_eq_some hhead
  rw [List.append_assoc] at heq
  have hkind : word = kind.keyword.toList := by
    rw [← h.takeWhile_eq, heq, Text.takeWhile_run_append (isWord_of_mem_keyword kind)
      (head?_any_isWord_spaces_append hne hspaces back)]
  rw [← hkind] at heq
  obtain rfl := List.append_cancel_left heq
  have hnext : (Text.wordStarts (spaces ++ back))[0]? = some spaces.length := by
    have hsecond : Text.FirstWord spaces (back.takeWhile Text.isWord) (back.dropWhile Text.isWord) :=
      ⟨fun c hc => Text.isWord_eq_false_of_isSpace (hspaces c hc), hname,
        fun c hc => List.mem_takeWhile_imp hc, Text.head?_dropWhile_isWord back⟩
    have hstarts := hsecond.wordStarts_eq
    rw [List.append_assoc, List.takeWhile_append_dropWhile] at hstarts
    rw [hstarts]
    rfl
  refine ⟨(gap ++ word).length + spaces.length, ?_, ?_, ?_, ?_, ?_⟩
  · rw [h.wordStarts_eq]
    rfl
  · rw [h.wordStarts_eq, List.getElem?_cons_succ, List.getElem?_map, hnext]
    rfl
  · rw [h.wordAt_eq, hkind]
  · rw [Text.wordAt_append_right, Text.wordAt, List.drop_left, hkeyword]
  · rw [h.wordAt_eq, ← List.length_append, List.take_length_add_append, List.drop_left,
      List.take_left]
    exact hspaces

/-- If the first word of a code declares, a head stands there. -/
theorem headAt?_of_declares (h : Text.FirstWord gap word rest)
    (hdeclares : Declares (gap ++ word ++ rest) 0 start next kind) :
    headAt? (word ++ rest) = some (kind, Text.wordAt (gap ++ word ++ rest) next) := by
  obtain ⟨hstart, hnext, hkeyword, hname, hspaces⟩ := hdeclares
  rw [h.wordStarts_eq] at hstart hnext
  obtain rfl : gap.length = start := Option.some.inj hstart
  rw [List.getElem?_cons_succ, List.getElem?_map, Option.map_eq_some_iff] at hnext
  obtain ⟨place, hplace, rfl⟩ := hnext
  rw [h.wordAt_eq] at hkeyword
  rw [h.wordAt_eq, ← List.length_append, List.take_length_add_append, List.drop_left] at hspaces
  rw [Text.wordAt_append_right] at hname ⊢
  have hmem : place ∈ Text.wordStarts rest := List.mem_of_getElem? hplace
  obtain ⟨hlt, hstarts⟩ := List.mem_filter.mp hmem
  rw [List.mem_range] at hlt
  -- No word starts right behind the first one, so there is some white space.
  have hpos : 0 < place := by
    rw [Nat.pos_iff_ne_zero]
    rintro rfl
    rw [Text.startsWord, ← List.head?_eq_getElem?, h.rest] at hstarts
    cases hstarts
  rw [headAt?_eq_some_iff]
  refine ⟨rest.take place, rest.drop place, ?_, ?_, hspaces, rfl, Text.wordAt_ne_nil_of_mem hmem,
    hname⟩
  · rw [hkeyword, List.append_assoc, List.take_append_drop]
  · apply List.ne_nil_of_length_pos
    rw [List.length_take]
    omega

end FirstWord

/-- The first word that declares is the head that is found. -/
theorem findHead?_of_declares {text : List Char} {index start next : Nat} {kind : Kind}
    (h : Declares text index start next kind)
    (hfirst : ∀ earlier < index, ∀ start next kind, ¬ Declares text earlier start next kind) :
    findHead? false text = some (start, kind, Text.wordAt text next) := by
  induction text using Text.word_induct generalizing index start next with
  | gap text hgap =>
      have hstart := h.start_eq
      rw [Text.wordStarts_of_forall_not hgap] at hstart
      cases hstart
  | word gap word rest hword ih =>
      have hstart := h.start_eq
      have hnext := h.next_eq
      rw [hword.wordStarts_eq] at hstart hnext
      rw [findHead?_firstWord hword]
      cases index with
      | zero =>
          rw [headAt?_of_declares hword h, ← Option.some.inj hstart]
      | succ index =>
          have hnone : headAt? (word ++ rest) = none := by
            by_contra hsome
            obtain ⟨⟨kind, name⟩, hhead⟩ := Option.ne_none_iff_exists'.mp hsome
            obtain ⟨next, hzero⟩ := declares_of_headAt? hword hhead
            exact hfirst 0 (Nat.succ_pos index) _ _ _ hzero
          rw [List.getElem?_cons_succ, List.getElem?_map, Option.map_eq_some_iff] at hstart hnext
          obtain ⟨start, -, rfl⟩ := hstart
          obtain ⟨next, -, rfl⟩ := hnext
          rw [hnone, ih ((declares_behind_iff hword).mp h), behind_some, Text.wordAt_append_right]
          intro earlier hearlier start next kind hdeclares
          apply hfirst (earlier + 1) (Nat.succ_lt_succ hearlier)
          exact (declares_behind_iff hword).mpr hdeclares

/-- Where no word declares, no head is found. -/
theorem findHead?_of_not_declares {text : List Char}
    (h : ∀ index start next kind, ¬ Declares text index start next kind) :
    findHead? false text = none := by
  induction text using Text.word_induct with
  | gap text hgap =>
      rw [← List.append_nil text, findHead?_gap_append hgap]
      rfl
  | word gap word rest hword ih =>
      rw [findHead?_firstWord hword]
      cases hhead : headAt? (word ++ rest) with
      | some head =>
          obtain ⟨next, hzero⟩ := declares_of_headAt? hword hhead
          exact absurd hzero (h _ _ _ _)
      | none =>
          have hrest : ∀ index start next kind, ¬ Declares rest index start next kind :=
            fun _ _ _ _ hdeclares => h _ _ _ _ ((declares_behind_iff hword).mpr hdeclares)
          rw [ih hrest, behind_none]

theorem beforeSlashes_prefix (line : List Char) : Source.beforeSlashes line <+: line := by
  rw [Source.beforeSlashes]
  split
  · exact List.prefix_refl line
  · rename_i before after hcut
    rw [Text.eq_of_cutAt hcut, List.append_assoc]
    exact List.prefix_append _ _

/-- The declaration on a line is that of the first word that declares in front of its line comment. The
white space in front of that word cuts the modifiers apart. Without such a word there is no
declaration. -/
theorem onLine?_first_declaring_word (file text : String) (line : Int)
    (hline : '\n' ∉ text.toList) :
    let code := Source.beforeSlashes text.toList
    (Text.wordStarts code).map (Text.wordAt code) = Text.runs Text.isWord code ∧
      (∀ index start next kind, Declares code index start next kind →
        (∀ earlier < index, ∀ start next kind, ¬ Declares code earlier start next kind) →
        Declaration.onLine? file text line = some
          { file := file
            line := line
            kind := kind
            name := String.ofList (Text.wordAt code next)
            modifiers := ⟨(Text.pieces (code.take start)).map String.ofList⟩
            rawLine := text }) ∧
      ((∀ index start next kind, ¬ Declares code index start next kind) →
        Declaration.onLine? file text line = none) := by
  intro code
  have hcode : Source.withoutLineComments text.toList = code :=
    Source.withoutLineComments_eq_beforeSlashes hline
  refine ⟨Text.map_wordAt_wordStarts code, ?_, ?_⟩
  · intro index start next kind hdeclares hfirst
    have hmem : start ∈ Text.wordStarts code := List.mem_of_getElem? hdeclares.start_eq
    have hlt : start < code.length := List.mem_range.mp (List.mem_filter.mp hmem).1
    have hfront : text.toList.take start = code.take start := by
      obtain ⟨comment, hcomment⟩ := beforeSlashes_prefix text.toList
      rw [← hcomment, List.take_append_of_le_length hlt.le]
    rw [Declaration.onLine?, hcode, findHead?_of_declares hdeclares hfirst]
    dsimp only [Option.map]
    rw [hfront]
  · intro h
    rw [Declaration.onLine?, hcode, findHead?_of_not_declares h]
    rfl

theorem onLine?_privateClassFunction :
    '\n' ∉ "private class func\tclassify() // var x".toList ∧
      Declaration.onLine? "a.swift" "private class func\tclassify() // var x" 3 = some
        ⟨"a.swift", 3, .function, "classify", ⟨["private", "class"]⟩,
          "private class func\tclassify() // var x"⟩ := by
  have hline : '\n' ∉ "private class func\tclassify() // var x".toList := by decide
  have hcode : Source.beforeSlashes "private class func\tclassify() // var x".toList =
      "private class func\tclassify() ".toList := by decide
  have hstarts : Text.wordStarts "private class func\tclassify() ".toList = [0, 8, 14, 19] := by
    decide
  obtain ⟨-, hfound, -⟩ := onLine?_first_declaring_word "a.swift" _ 3 hline
  rw [hcode] at hfound
  refine ⟨hline, ?_⟩
  rw [hfound 2 14 19 .function]
  · decide
  · exact ⟨by rw [hstarts]; rfl, by rw [hstarts]; rfl, by decide, by decide,
      List.all_eq_true.mp (by decide)⟩
  · intro earlier hearlier start next kind h
    obtain ⟨hstart, hnext, hkeyword, hname, -⟩ := h
    rw [hstarts] at hstart hnext
    obtain rfl | rfl : earlier = 0 ∨ earlier = 1 := by omega
    · cases hstart
      revert hkeyword
      cases kind <;> decide
    · cases hnext
      revert hname
      decide

end Unreferenced
