import Mathlib.Data.List.Basic
import Mathlib.Data.List.TakeWhile
import Mathlib.Tactic.SplitIfs
import Unreferenced.Json.Value

/-! Reading JSON texts by the grammar of the format, whoever wrote them and in whatever layout. A text is
cut into tokens first, and the tokens are put together with a stack of the arrays and objects that are
still open. Text in quotes is a sequence of UTF-16 units, so that a character beyond the basic plane may
be written as itself or as two escapes, and a surrogate without its partner is no text. -/

namespace Unreferenced.Json

/-- What a JSON text says. A number is an integer if it has neither a fraction nor an exponent, and a
mantissa with a power of ten otherwise. The members of an object are in the order of the text. -/
inductive Document where
  | null
  | boolean (value : Bool)
  | integer (value : Int)
  | decimal (mantissa exponent : Int)
  | string (text : String)
  | array (items : List Document)
  | object (members : List (String × Document))

namespace Decoding

/-! ### Strings -/

def unitsOf (c : Char) : List Nat :=
  if c.toNat < 0x10000 then [c.toNat]
  else [0xD800 + (c.toNat - 0x10000) / 0x400, 0xDC00 + (c.toNat - 0x10000) % 0x400]

/-- The characters of UTF-16 units, if every surrogate has its partner. -/
def fromUnits : List Nat → Option (List Char)
  | [] => some []
  | unit :: rest =>
    if 0xD800 ≤ unit ∧ unit < 0xDC00 then
      match rest with
      | low :: rest =>
        if 0xDC00 ≤ low ∧ low < 0xE000 then
          (fromUnits rest).map
            (Char.ofNat (0x10000 + (unit - 0xD800) * 0x400 + (low - 0xDC00)) :: ·)
        else none
      | [] => none
    else if 0xDC00 ≤ unit ∧ unit < 0xE000 then none
    else (fromUnits rest).map (Char.ofNat unit :: ·)

def hexDigit? (c : Char) : Option Nat :=
  if c.isDigit then some (c.toNat - '0'.toNat)
  else if 'a' ≤ c ∧ c ≤ 'f' then some (c.toNat - 'a'.toNat + 10)
  else if 'A' ≤ c ∧ c ≤ 'F' then some (c.toNat - 'A'.toNat + 10)
  else none

def hexUnit? (digits : List Char) : Option Nat :=
  (digits.mapM hexDigit?).map fun values => values.foldl (fun unit value => 16 * unit + value) 0

/-- What one letter after a backslash stands for. -/
def escaped? (letter : Char) : Option Char :=
  [('"', '"'), ('\\', '\\'), ('/', '/'), ('b', '\x08'), ('f', '\x0c'), ('n', '\n'), ('r', '\r'),
    ('t', '\t')].lookup letter

/-- Units in front of those that have been read. -/
def prepend (units : List Nat) : List Nat × List Char → List Nat × List Char
  | (others, rest) => (units ++ others, rest)

/-- The units of a string up to its closing quote, and the text behind it. -/
def readUnits : List Char → Option (List Nat × List Char)
  | [] => none
  | '"' :: rest => some ([], rest)
  | '\\' :: 'u' :: a :: b :: c :: d :: rest =>
    match hexUnit? [a, b, c, d] with
    | some unit => (readUnits rest).map (prepend [unit])
    | none => none
  | '\\' :: letter :: rest =>
    match escaped? letter with
    | some c => (readUnits rest).map (prepend (unitsOf c))
    | none => none
  | c :: rest => if c.toNat < 0x20 then none else (readUnits rest).map (prepend (unitsOf c))

/-- A string without its opening quote, and the text behind it. -/
def readString (text : List Char) : Option (Document × List Char) :=
  match readUnits text with
  | some (units, rest) => (fromUnits units).map fun chars => (.string (String.ofList chars), rest)
  | none => none

theorem isValidChar_toNat (c : Char) : c.toNat < 0xD800 ∨ 0xDFFF < c.toNat ∧ c.toNat < 0x110000 :=
  c.valid

theorem fromUnits_unitsOf_append (c : Char) (rest : List Nat) :
    fromUnits (unitsOf c ++ rest) = (fromUnits rest).map (c :: ·) := by
  have hvalid := isValidChar_toNat c
  rw [unitsOf]
  split
  · rw [List.singleton_append, fromUnits.eq_def]
    dsimp only
    rw [if_neg (by omega), if_neg (by omega), Char.ofNat_toNat]
  · have hvalue : 0x10000 + (0xD800 + (c.toNat - 0x10000) / 0x400 - 0xD800) * 0x400 +
        (0xDC00 + (c.toNat - 0x10000) % 0x400 - 0xDC00) = c.toNat := by omega
    rw [List.cons_append, List.singleton_append, fromUnits.eq_def]
    dsimp only
    rw [if_pos (by omega), if_pos (by omega), hvalue, Char.ofNat_toNat]

theorem fromUnits_flatMap (chars : List Char) : fromUnits (chars.flatMap unitsOf) = some chars := by
  induction chars with
  | nil => rfl
  | cons c chars ih => rw [List.flatMap_cons, fromUnits_unitsOf_append, ih, Option.map_some]

theorem hexDigit?_digitChar {n : Nat} (h : n < 16) : hexDigit? n.digitChar = some n := by
  revert n
  decide

theorem hexUnit?_hex4 {n : Nat} (h : n < 0x10000) : hexUnit? (hex4 n) = some n := by
  have hdigit : ∀ m, hexDigit? (Nat.digitChar (m % 16)) = some (m % 16) :=
    fun m => hexDigit?_digitChar (Nat.mod_lt m (by decide))
  have hvalues : (hex4 n).mapM hexDigit? =
      some [n / 0x1000 % 16, n / 0x100 % 16, n / 0x10 % 16, n % 16] := by simp [hex4, hdigit]
  rw [hexUnit?, hvalues, Option.map_some, Option.some_inj]
  change 16 * (16 * (16 * (16 * 0 + n / 0x1000 % 16) + n / 0x100 % 16) + n / 0x10 % 16) + n % 16 = n
  omega

theorem readUnits_unitEscape {n : Nat} (h : n < 0x10000) (rest : List Char) :
    readUnits (unitEscape n ++ rest) = (readUnits rest).map (prepend [n]) := by
  have hunit := hexUnit?_hex4 h
  rw [hex4] at hunit
  simp only [List.map_cons, List.map_nil] at hunit
  simp only [unitEscape, hex4, List.map_cons, List.map_nil, List.cons_append, List.nil_append,
    readUnits, hunit]

theorem readUnits_escape {letter c : Char} (h : escaped? letter = some c) (rest : List Char) :
    readUnits ('\\' :: letter :: rest) = (readUnits rest).map (prepend (unitsOf c)) := by
  have hletter : letter ≠ 'u' := by
    rintro rfl
    cases h
  rw [readUnits, h]
  rintro a b c d rest' hu
  exact absurd hu hletter

theorem readUnits_plain {c : Char} (hquote : c ≠ '"') (hslash : c ≠ '\\') (hspace : 0x20 ≤ c.toNat)
    (rest : List Char) : readUnits (c :: rest) = (readUnits rest).map (prepend (unitsOf c)) := by
  rw [readUnits, if_neg (by omega)]
  · exact hquote
  · rintro a b c' d rest' rfl
    exact absurd rfl hslash
  · rintro letter rest' rfl
    exact absurd rfl hslash

/-- What is written for a character is read as its units. -/
theorem readUnits_encodeChar (c : Char) (rest : List Char) :
    readUnits (encodeChar c ++ rest) = (readUnits rest).map (prepend (unitsOf c)) := by
  have hvalid := isValidChar_toNat c
  unfold encodeChar
  split_ifs with hquote hslash hfeed hreturn htab hform hback hplain hbasic
  · subst hquote; exact readUnits_escape rfl rest
  · subst hslash; exact readUnits_escape rfl rest
  · subst hfeed; exact readUnits_escape rfl rest
  · subst hreturn; exact readUnits_escape rfl rest
  · subst htab; exact readUnits_escape rfl rest
  · subst hform; exact readUnits_escape rfl rest
  · subst hback; exact readUnits_escape rfl rest
  · exact readUnits_plain hquote hslash hplain.1 rest
  · rw [readUnits_unitEscape hbasic, unitsOf, if_pos hbasic]
  -- Beyond the basic plane, each of the two escapes gives one unit.
  · rw [List.append_assoc, readUnits_unitEscape (by omega), readUnits_unitEscape (by omega),
      Option.map_map, unitsOf, if_neg hbasic]
    rfl

theorem readUnits_flatMap (chars rest : List Char) :
    readUnits (chars.flatMap encodeChar ++ '"' :: rest) = some (chars.flatMap unitsOf, rest) := by
  induction chars with
  | nil => rw [List.flatMap_nil, List.nil_append, readUnits]; rfl
  | cons c chars ih =>
      rw [List.flatMap_cons, List.flatMap_cons, List.append_assoc, readUnits_encodeChar, ih]
      rfl

/-! ### Numbers -/

/-- Whether a character can stand in a number. -/
def isNumeric (c : Char) : Bool := c.isDigit || ['+', '-', '.', 'e', 'E'].contains c

def natural (digits : List Char) : Int := Nat.ofDigitChars 10 digits 0

/-- The digits of a fraction, of which there are none without a point, and the text behind them. -/
def readFraction : List Char → Option (List Char × List Char)
  | '.' :: rest =>
    if (rest.takeWhile Char.isDigit).isEmpty then none
    else some (rest.takeWhile Char.isDigit, rest.dropWhile Char.isDigit)
  | rest => some ([], rest)

/-- The value of digits behind an optional sign. -/
def signed? : List Char → Option Int
  | '-' :: digits => if digits.isEmpty || !digits.all Char.isDigit then none else some (-natural digits)
  | '+' :: digits | digits =>
    if digits.isEmpty || !digits.all Char.isDigit then none else some (natural digits)

/-- The exponent at the end of a number, if it has one. -/
def exponent? : List Char → Option (Option Int)
  | [] => some none
  | letter :: rest => if letter = 'e' ∨ letter = 'E' then (signed? rest).map some else none

/-- The number that a text without a sign stands for. A zero in front of its digits stands alone. -/
def unsigned? (sign : Int) (text : List Char) : Option Document :=
  let whole := text.takeWhile Char.isDigit
  if whole.isEmpty || whole.head? == some '0' && whole.length != 1 then none
  else
    match readFraction (text.dropWhile Char.isDigit) with
    | none => none
    | some (fraction, rest) =>
      (exponent? rest).map fun exponent =>
        if fraction.isEmpty && exponent.isNone then .integer (sign * natural whole)
        else .decimal (sign * natural (whole ++ fraction)) (exponent.getD 0 - fraction.length)

def number? : List Char → Option Document
  | '-' :: text => unsigned? (-1) text
  | text => unsigned? 1 text

theorem natural_toDigits (n : Nat) : natural (Nat.toDigits 10 n) = n :=
  congrArg Int.ofNat Nat.ofDigitChars_ten_toDigits

theorem isDigit_of_mem_toDigits {n : Nat} {c : Char} (h : c ∈ Nat.toDigits 10 n) : c.isDigit = true :=
  Nat.isDigit_of_mem_toDigits (by decide) (by decide) h

/-- A number other than zero is written without a zero in front. -/
theorem head?_toDigits_ne_zero {n : Nat} (h : 0 < n) : (Nat.toDigits 10 n).head? ≠ some '0' := by
  induction n using Nat.strongRecOn with
  | ind n ih =>
    by_cases hlt : n < 10
    · have hdigit : ∀ m < 10, 0 < m → [Nat.digitChar m].head? ≠ some '0' := by decide
      rw [Nat.toDigits_of_lt_base hlt]
      exact hdigit n hlt h
    · rw [Nat.toDigits_of_base_le (by decide) (by omega),
        List.head?_append_of_ne_nil _ Nat.toDigits_ne_nil]
      exact ih (n / 10) (by omega) (by omega)

theorem unsigned?_toDigits (sign : Int) (n : Nat) :
    unsigned? sign (Nat.toDigits 10 n) = some (.integer (sign * n)) := by
  have hwhole : (Nat.toDigits 10 n).takeWhile Char.isDigit = Nat.toDigits 10 n :=
    List.takeWhile_eq_self_iff.mpr fun _ => isDigit_of_mem_toDigits
  have hbehind : (Nat.toDigits 10 n).dropWhile Char.isDigit = [] :=
    List.dropWhile_eq_nil_iff.mpr fun _ => isDigit_of_mem_toDigits
  have hzero : ((Nat.toDigits 10 n).isEmpty ||
      (Nat.toDigits 10 n).head? == some '0' && (Nat.toDigits 10 n).length != 1) = false := by
    rw [Bool.or_eq_false_iff]
    refine ⟨List.isEmpty_eq_false_iff.mpr Nat.toDigits_ne_nil, ?_⟩
    rcases Nat.eq_zero_or_pos n with rfl | hpos
    · rfl
    · rw [beq_false_of_ne (head?_toDigits_ne_zero hpos), Bool.false_and]
  rw [unsigned?, hwhole, hbehind, hzero, natural_toDigits]
  rfl

theorem toList_toString_natCast (n : Nat) : (toString (n : Int)).toList = Nat.toDigits 10 n :=
  Nat.toList_repr

theorem toList_toString_negSucc (n : Nat) :
    (toString (Int.negSucc n)).toList = '-' :: Nat.toDigits 10 (n + 1) := by
  have hwritten : toString (Int.negSucc n) = "-" ++ Nat.repr (n + 1) := rfl
  rw [hwritten, String.toList_append, Nat.toList_repr]
  rfl

theorem number?_toString (value : Int) : number? (toString value).toList = some (.integer value) := by
  cases value with
  | ofNat n =>
      change number? (toString (n : Int)).toList = some (.integer n)
      rw [toList_toString_natCast, number?]
      · rw [unsigned?_toDigits, Int.one_mul]
      · intro text htext
        have hdigit := isDigit_of_mem_toDigits (htext ▸ List.mem_cons_self : '-' ∈ Nat.toDigits 10 n)
        cases hdigit
  | negSucc n =>
      rw [toList_toString_negSucc, number?, unsigned?_toDigits, Int.neg_one_mul]
      rfl

theorem isNumeric_of_mem_toString {value : Int} {c : Char} (h : c ∈ (toString value).toList) :
    isNumeric c = true := by
  rw [isNumeric, Bool.or_eq_true]
  cases value with
  | ofNat n =>
      change c ∈ (toString (n : Int)).toList at h
      rw [toList_toString_natCast] at h
      exact .inl (isDigit_of_mem_toDigits h)
  | negSucc n =>
      rw [toList_toString_negSucc, List.mem_cons] at h
      rcases h with rfl | h
      · exact .inr (by decide)
      · exact .inl (isDigit_of_mem_toDigits h)

/-! ### Tokens -/

/-- The parts of a JSON text. -/
inductive Token where
  | openArray
  | closeArray
  | openObject
  | closeObject
  | colon
  | comma
  | scalar (value : Document)

/-- Characters that may stand between tokens. -/
def spaces : List Char := [' ', '\t', '\n', '\r']

def marks : List (Char × Token) :=
  [('[', .openArray), (']', .closeArray), ('\x7b', .openObject), ('\x7d', .closeObject),
    (':', .colon), (',', .comma)]

def words : List (List Char × Document) :=
  [("null".toList, .null), ("true".toList, .boolean true), ("false".toList, .boolean false)]

/-- The value at the start of a text, if it is no array and no object, and the text behind it. -/
def readScalar : List Char → Option (Document × List Char)
  | '"' :: rest => readString rest
  | text =>
    match words.find? fun word => word.1.isPrefixOf text with
    | some (word, value) => some (value, text.drop word.length)
    | none => (number? (text.takeWhile isNumeric)).map fun value => (value, text.dropWhile isNumeric)

/-- The tokens of a text. The first argument is the number of characters that belong to the token found
last. -/
def tokensFrom : Nat → List Char → Option (List Token)
  | _, [] => some []
  | taken + 1, _ :: rest => tokensFrom taken rest
  | 0, c :: rest =>
    if spaces.contains c then tokensFrom 0 rest
    else
      match marks.lookup c with
      | some mark => (tokensFrom 0 rest).map (mark :: ·)
      | none =>
        match readScalar (c :: rest) with
        | some (value, after) =>
          (tokensFrom (rest.length - after.length) rest).map (.scalar value :: ·)
        | none => none

/-- A string that has been written is read back, whatever stands behind it. -/
theorem readScalar_encodeString (text : String) (rest : List Char) :
    readScalar (encodeString text ++ rest) = some (.string text, rest) := by
  rw [encodeString, List.append_assoc, List.cons_append, List.singleton_append, readScalar,
    readString, readUnits_flatMap]
  dsimp only
  rw [fromUnits_flatMap, Option.map_some, String.ofList_toList]

/-- Behind a number, a text goes on with a character that no number has. -/
def EndsNumber (rest : List Char) : Prop := ∀ c ∈ rest.head?, isNumeric c = false

theorem readScalar_of_isNumeric {c : Char} (hc : isNumeric c = true) (text : List Char) :
    readScalar (c :: text) = (number? ((c :: text).takeWhile isNumeric)).map fun value =>
      (value, (c :: text).dropWhile isNumeric) := by
  have hwords : words.find? (fun word => word.1.isPrefixOf (c :: text)) = none := by
    rw [List.find?_eq_none]
    intro word hword hstart
    obtain ⟨letter, rest, hletter, hspelled⟩ :
        ∃ letter rest, isNumeric letter = false ∧ word.1 = letter :: rest := by
      rw [words, List.mem_cons, List.mem_cons, List.mem_singleton] at hword
      rcases hword with rfl | rfl | rfl <;> exact ⟨_, _, by decide, rfl⟩
    rw [hspelled, List.isPrefixOf_iff_prefix, List.cons_prefix_cons] at hstart
    rw [hstart.1, hc] at hletter
    cases hletter
  rw [readScalar, hwords]
  intro rest hquote
  obtain rfl := (List.cons.inj hquote).1
  cases hc

theorem readScalar_toString (value : Int) {rest : List Char} (hrest : EndsNumber rest) :
    readScalar ((toString value).toList ++ rest) = some (.integer value, rest) := by
  have hnumeric : ∀ c ∈ (toString value).toList, isNumeric c = true := fun _ => isNumeric_of_mem_toString
  have hvalue := number?_toString value
  generalize (toString value).toList = text at hnumeric hvalue
  cases text with
  | nil => cases hvalue
  | cons c text =>
      rw [List.cons_append, readScalar_of_isNumeric (hnumeric c List.mem_cons_self), ← List.cons_append,
        List.takeWhile_append_of_pos hnumeric, List.dropWhile_append_of_pos hnumeric]
      have htake : rest.takeWhile isNumeric = [] := by
        cases rest with
        | nil => rfl
        | cons next rest => exact List.takeWhile_cons_of_neg (by simp [hrest next rfl])
      have hdrop : rest.dropWhile isNumeric = rest := by
        cases rest with
        | nil => rfl
        | cons next rest => exact List.dropWhile_cons_of_neg (by simp [hrest next rfl])
      rw [htake, hdrop, List.append_nil, hvalue, Option.map_some]

theorem tokensFrom_length_append (text rest : List Char) :
    tokensFrom text.length (text ++ rest) = tokensFrom 0 rest := by
  induction text with
  | nil => rfl
  | cons c text ih => rw [List.length_cons, List.cons_append, tokensFrom, ih]

theorem tokensFrom_space {c : Char} (h : spaces.contains c = true) (rest : List Char) :
    tokensFrom 0 (c :: rest) = tokensFrom 0 rest := by
  rw [tokensFrom, if_pos h]

theorem tokensFrom_newLine (level : Nat) (rest : List Char) :
    tokensFrom 0 (newLine level ++ rest) = tokensFrom 0 rest := by
  rw [newLine, List.cons_append, tokensFrom_space rfl]
  induction 2 * level with
  | zero => rfl
  | succ n ih => rw [List.replicate_succ, List.cons_append, tokensFrom_space rfl, ih]

theorem tokensFrom_mark {c : Char} {mark : Token} (hspace : spaces.contains c = false)
    (hmark : marks.lookup c = some mark) (rest : List Char) :
    tokensFrom 0 (c :: rest) = (tokensFrom 0 rest).map (mark :: ·) := by
  rw [tokensFrom, hspace, hmark]
  rfl

theorem tokensFrom_scalar {text rest : List Char} {value : Document}
    (hread : readScalar (text ++ rest) = some (value, rest)) 
    (hstart : ∀ c ∈ text.head?, spaces.contains c = false ∧ marks.lookup c = none) (htext : text ≠ []) :
    tokensFrom 0 (text ++ rest) = (tokensFrom 0 rest).map (.scalar value :: ·) := by
  cases text with
  | nil => exact absurd rfl htext
  | cons c text =>
      obtain ⟨hspace, hmark⟩ := hstart c rfl
      have htaken : (text ++ rest).length - rest.length = text.length := by
        rw [List.length_append, Nat.add_sub_cancel]
      rw [List.cons_append] at hread ⊢
      rw [tokensFrom, hspace, hmark, hread]
      dsimp only
      rw [htaken, tokensFrom_length_append]
      rfl

theorem tokensFrom_encodeString (text : String) (rest : List Char) :
    tokensFrom 0 (encodeString text ++ rest) =
      (tokensFrom 0 rest).map (.scalar (.string text) :: ·) := by
  apply tokensFrom_scalar (readScalar_encodeString text rest)
  · rintro c ⟨⟩
    decide
  · nofun

theorem endsNumber_cons {c : Char} (h : isNumeric c = false) (rest : List Char) :
    EndsNumber (c :: rest) := by
  rintro _ ⟨⟩
  exact h

theorem tokensFrom_toString (value : Int) {rest : List Char} (hrest : EndsNumber rest) :
    tokensFrom 0 ((toString value).toList ++ rest) =
      (tokensFrom 0 rest).map (.scalar (.integer value) :: ·) := by
  apply tokensFrom_scalar (readScalar_toString value hrest)
  · intro c hc
    have hnumeric := isNumeric_of_mem_toString (List.mem_of_mem_head? hc)
    have hspaces : spaces.all (fun space => !isNumeric space) = true := by decide
    have hmarks : marks.all (fun mark => !isNumeric mark.1) = true := by decide
    rw [List.all_eq_true] at hspaces hmarks
    constructor
    · rw [← Bool.not_eq_true, List.contains_iff_mem]
      intro hspace
      specialize hspaces c hspace
      rw [hnumeric] at hspaces
      cases hspaces
    · rw [List.lookup_eq_none_iff]
      intro mark hmark
      rw [bne_iff_ne]
      rintro rfl
      specialize hmarks mark hmark
      rw [hnumeric] at hmarks
      cases hmarks
  · intro hnil
    have hread := number?_toString value
    rw [hnil] at hread
    cases hread

/-! ### Documents -/

/-- An array or an object that is still open: what has been read of it, the last in front. In an object,
the name of the member that is being read stands beside. -/
inductive Frame where
  | items (done : List Document)
  | members (done : List (String × Document)) (name : String)

mutual

/-- The document of tokens at the start of a value, inside of frames. -/
def readValue (frames : List Frame) : List Token → Option Document
  | .scalar value :: rest => resume value frames rest
  | .openArray :: .closeArray :: rest => resume (.array []) frames rest
  | .openArray :: rest => readValue (.items [] :: frames) rest
  | .openObject :: .closeObject :: rest => resume (.object []) frames rest
  | .openObject :: .scalar (.string name) :: .colon :: rest => readValue (.members [] name :: frames) rest
  | _ => none

/-- The document of the tokens behind a value. -/
def resume (value : Document) : List Frame → List Token → Option Document
  | [], [] => some value
  | .items done :: frames, .comma :: rest => readValue (.items (value :: done) :: frames) rest
  | .items done :: frames, .closeArray :: rest => resume (.array (value :: done).reverse) frames rest
  | .members done name :: frames, .comma :: .scalar (.string next) :: .colon :: rest =>
    readValue (.members ((name, value) :: done) next :: frames) rest
  | .members done name :: frames, .closeObject :: rest =>
    resume (.object ((name, value) :: done).reverse) frames rest
  | _, _ => none

end

end Decoding

/-- What a text says, if it is a JSON text. -/
def decode (text : String) : Option Document :=
  (Decoding.tokensFrom 0 text.toList).bind (Decoding.readValue [])

end Unreferenced.Json
