import Unreferenced.Proofs.JsonDecoding

/-! Values that are written and read back. The text of a value is cut into the tokens of the value at any
level of indent, and these are read as the value inside of any frames. Both are shown for a value with
anything behind it, which is what goes through the induction: the text behind an item is that of the items
after it, and must not go on with a number. -/

namespace Unreferenced.Json

open Decoding

/-! ### Characters -/

def IsAscii (text : List Char) : Prop := ∀ c ∈ text, c.toNat < 0x80

theorem isAscii_append {front back : List Char} :
    IsAscii (front ++ back) ↔ IsAscii front ∧ IsAscii back := List.forall_mem_append

theorem isAscii_cons {c : Char} {text : List Char} :
    IsAscii (c :: text) ↔ c.toNat < 0x80 ∧ IsAscii text := List.forall_mem_cons

theorem isAscii_nil : IsAscii [] := nofun

theorem isAscii_unitEscape (n : Nat) : IsAscii (unitEscape n) := by
  have hdigit : ∀ m, (Nat.digitChar (m % 16)).toNat < 0x80 := by
    intro m
    have hall : ∀ m < 16, (Nat.digitChar m).toNat < 0x80 := by decide
    exact hall _ (Nat.mod_lt m (by decide))
  simp [unitEscape, hex4, isAscii_cons, isAscii_nil, hdigit]

theorem isAscii_encodeChar (c : Char) : IsAscii (encodeChar c) := by
  have hescape : ∀ letter : Char, letter.toNat < 0x80 → IsAscii ['\\', letter] := by
    intro letter h
    simp [isAscii_cons, isAscii_nil, h]
  unfold encodeChar
  split_ifs with hquote hslash hfeed hreturn htab hform hback hplain hbasic
  · exact hescape '"' (by decide)
  · exact hescape '\\' (by decide)
  · exact hescape 'n' (by decide)
  · exact hescape 'r' (by decide)
  · exact hescape 't' (by decide)
  · exact hescape 'f' (by decide)
  · exact hescape 'b' (by decide)
  · exact isAscii_cons.mpr ⟨by omega, isAscii_nil⟩
  · exact isAscii_unitEscape _
  · exact isAscii_append.mpr ⟨isAscii_unitEscape _, isAscii_unitEscape _⟩

theorem isAscii_encodeString (text : String) : IsAscii (encodeString text) := by
  rw [encodeString, isAscii_append, isAscii_cons]
  refine ⟨⟨by decide, ?_⟩, by simp [isAscii_cons, isAscii_nil]⟩
  intro c hc
  obtain ⟨d, -, hd⟩ := List.mem_flatMap.mp hc
  exact isAscii_encodeChar d c hd

theorem isAscii_toString (value : Int) : IsAscii (toString value).toList := by
  intro c hc
  have hnumeric := isNumeric_of_mem_toString hc
  rw [isNumeric, Bool.or_eq_true, List.contains_iff_mem] at hnumeric
  rcases hnumeric with hdigit | hsign
  · exact (Char.isDigit_iff_toNat.mp hdigit).2.trans_lt (by decide)
  · have hall : ['+', '-', '.', 'e', 'E'].all (fun sign => decide (sign.toNat < 0x80)) = true := by
      decide
    exact of_decide_eq_true (List.all_eq_true.mp hall c hsign)

theorem isAscii_newLine (level : Nat) : IsAscii (newLine level) := by
  rw [newLine, isAscii_cons]
  refine ⟨by decide, fun c hc => ?_⟩
  rw [List.eq_of_mem_replicate hc]
  decide

mutual

/-- A value is written in ASCII characters. -/
theorem isAscii_encode (level : Nat) (value : Value) : IsAscii (value.encode level) := by
  match value with
  | .string text => rw [Value.encode]; exact isAscii_encodeString text
  | .integer value => rw [Value.encode]; exact isAscii_toString value
  | .array [] => simp [Value.encode, isAscii_cons, isAscii_nil]
  | .array (item :: items) =>
      have hitem := isAscii_encode (level + 1) item
      have hitems := isAscii_encodeItems (level + 1) items
      simp [Value.encode, isAscii_cons, isAscii_append, isAscii_nil, isAscii_newLine, hitem, hitems]
  | .object [] => simp [Value.encode, isAscii_cons, isAscii_nil]
  | .object ((name, value) :: members) =>
      have hvalue := isAscii_encode (level + 1) value
      have hmembers := isAscii_encodeMembers (level + 1) members
      simp [Value.encode, isAscii_cons, isAscii_append, isAscii_nil, isAscii_newLine,
        isAscii_encodeString, hvalue, hmembers]

theorem isAscii_encodeItems (level : Nat) (items : List Value) : IsAscii (encodeItems level items) := by
  match items with
  | [] => rw [encodeItems]; exact isAscii_nil
  | item :: items =>
      have hitem := isAscii_encode level item
      have hitems := isAscii_encodeItems level items
      simp [encodeItems, isAscii_cons, isAscii_append, isAscii_newLine, hitem, hitems]

theorem isAscii_encodeMembers (level : Nat) (members : List (String × Value)) :
    IsAscii (encodeMembers level members) := by
  match members with
  | [] => rw [encodeMembers]; exact isAscii_nil
  | (name, value) :: members =>
      have hvalue := isAscii_encode level value
      have hmembers := isAscii_encodeMembers level members
      simp [encodeMembers, isAscii_cons, isAscii_append, isAscii_newLine, isAscii_encodeString,
        hvalue, hmembers]

end

/-! ### Tokens -/

mutual

def Value.tokens : Value → List Token
  | .string text => [.scalar (.string text)]
  | .integer value => [.scalar (.integer value)]
  | .array [] => [.openArray, .closeArray]
  | .array (item :: items) => .openArray :: (item.tokens ++ itemTokens items ++ [.closeArray])
  | .object [] => [.openObject, .closeObject]
  | .object ((name, value) :: members) =>
    .openObject :: .scalar (.string name) :: .colon ::
      (value.tokens ++ memberTokens members ++ [.closeObject])

def itemTokens : List Value → List Token
  | [] => []
  | item :: items => .comma :: (item.tokens ++ itemTokens items)

def memberTokens : List (String × Value) → List Token
  | [] => []
  | (name, value) :: members =>
    .comma :: .scalar (.string name) :: .colon :: (value.tokens ++ memberTokens members)

end

theorem endsNumber_encodeItems (level : Nat) (items : List Value) {rest : List Char}
    (hrest : EndsNumber rest) : EndsNumber (encodeItems level items ++ rest) := by
  cases items with
  | nil => rwa [encodeItems, List.nil_append]
  | cons item items => rw [encodeItems]; exact endsNumber_cons rfl _

theorem endsNumber_encodeMembers (level : Nat) (members : List (String × Value)) {rest : List Char}
    (hrest : EndsNumber rest) : EndsNumber (encodeMembers level members ++ rest) := by
  cases members with
  | nil => rwa [encodeMembers, List.nil_append]
  | cons member members => rw [encodeMembers]; exact endsNumber_cons rfl _

theorem tokensFrom_closing (level : Nat) {c : Char} {mark : Token} {rest : List Char}
    {tokens : List Token} (hspace : spaces.contains c = false) (hmark : marks.lookup c = some mark)
    (h : tokensFrom 0 rest = some tokens) :
    tokensFrom 0 (newLine level ++ c :: rest) = some (mark :: tokens) := by
  rw [tokensFrom_newLine, tokensFrom_mark hspace hmark, h, Option.map_some]

theorem tokensFrom_memberName (level : Nat) (name : String) {rest : List Char} {tokens : List Token}
    (h : tokensFrom 0 rest = some tokens) :
    tokensFrom 0 (newLine level ++ (encodeString name ++ ':' :: ' ' :: rest)) =
      some (.scalar (.string name) :: .colon :: tokens) := by
  rw [tokensFrom_newLine, tokensFrom_encodeString, tokensFrom_mark rfl rfl, tokensFrom_space rfl, h]
  rfl

mutual

/-- A value that has been written is cut into its tokens, whatever stands behind it, unless that goes on
with a number. -/
theorem tokensFrom_encode (level : Nat) (value : Value) {rest : List Char} {tokens : List Token}
    (hrest : EndsNumber rest) (h : tokensFrom 0 rest = some tokens) :
    tokensFrom 0 (value.encode level ++ rest) = some (value.tokens ++ tokens) := by
  match value with
  | .string text =>
      rw [Value.encode, tokensFrom_encodeString, h, Value.tokens]
      rfl
  | .integer value =>
      rw [Value.encode, tokensFrom_toString value hrest, h, Value.tokens]
      rfl
  | .array [] =>
      rw [Value.encode, Value.tokens, List.cons_append, List.singleton_append, tokensFrom_mark rfl rfl,
        tokensFrom_mark rfl rfl, h]
      rfl
  | .array (item :: items) =>
      have hends : EndsNumber (newLine level ++ ']' :: rest) := endsNumber_cons rfl _
      have hitems := tokensFrom_encodeItems (level + 1) items hends
        (tokensFrom_closing level rfl rfl h)
      have hitem := tokensFrom_encode (level + 1) item
        (endsNumber_encodeItems (level + 1) items hends) hitems
      simp only [Value.encode, Value.tokens, List.cons_append, List.append_assoc, List.nil_append]
      rw [tokensFrom_mark rfl rfl, tokensFrom_newLine, hitem]
      rfl
  | .object [] =>
      rw [Value.encode, Value.tokens, List.cons_append, List.singleton_append, tokensFrom_mark rfl rfl,
        tokensFrom_mark rfl rfl, h]
      rfl
  | .object ((name, value) :: members) =>
      have hends : EndsNumber (newLine level ++ '\x7d' :: rest) := endsNumber_cons rfl _
      have hmembers := tokensFrom_encodeMembers (level + 1) members hends
        (tokensFrom_closing level rfl rfl h)
      have hvalue := tokensFrom_encode (level + 1) value
        (endsNumber_encodeMembers (level + 1) members hends) hmembers
      simp only [Value.encode, Value.tokens, List.cons_append, List.append_assoc, List.nil_append]
      rw [tokensFrom_mark rfl rfl, tokensFrom_memberName (level + 1) name hvalue]
      rfl

/-- The same for the items after the first. -/
theorem tokensFrom_encodeItems (level : Nat) (items : List Value) {rest : List Char}
    {tokens : List Token} (hrest : EndsNumber rest) (h : tokensFrom 0 rest = some tokens) :
    tokensFrom 0 (encodeItems level items ++ rest) = some (itemTokens items ++ tokens) := by
  match items with
  | [] => rwa [encodeItems, itemTokens]
  | item :: items =>
      have hitems := tokensFrom_encodeItems level items hrest h
      have hitem := tokensFrom_encode level item (endsNumber_encodeItems level items hrest) hitems
      simp only [encodeItems, itemTokens, List.cons_append, List.append_assoc]
      rw [tokensFrom_mark rfl rfl, tokensFrom_newLine, hitem]
      rfl

/-- The same for the members after the first. -/
theorem tokensFrom_encodeMembers (level : Nat) (members : List (String × Value)) {rest : List Char}
    {tokens : List Token} (hrest : EndsNumber rest) (h : tokensFrom 0 rest = some tokens) :
    tokensFrom 0 (encodeMembers level members ++ rest) = some (memberTokens members ++ tokens) := by
  match members with
  | [] => rwa [encodeMembers, memberTokens]
  | (name, value) :: members =>
      have hmembers := tokensFrom_encodeMembers level members hrest h
      have hvalue := tokensFrom_encode level value (endsNumber_encodeMembers level members hrest)
        hmembers
      simp only [encodeMembers, memberTokens, List.cons_append, List.append_assoc, List.nil_append]
      rw [tokensFrom_mark rfl rfl, tokensFrom_memberName level name hvalue]
      rfl

end

/-! ### Documents -/

mutual

/-- What a value says. -/
def Value.document : Value → Document
  | .string text => .string text
  | .integer value => .integer value
  | .array items => .array (documents items)
  | .object members => .object (memberDocuments members)

def documents : List Value → List Document
  | [] => []
  | item :: items => item.document :: documents items

def memberDocuments : List (String × Value) → List (String × Document)
  | [] => []
  | (name, value) :: members => (name, value.document) :: memberDocuments members

end

theorem documents_eq_map (items : List Value) : documents items = items.map Value.document := by
  induction items with
  | nil => rw [documents, List.map_nil]
  | cons item items ih => rw [documents, List.map_cons, ih]

theorem memberDocuments_eq_map (members : List (String × Value)) :
    memberDocuments members = members.map (Prod.map id Value.document) := by
  induction members with
  | nil => rw [memberDocuments, List.map_nil]
  | cons member members ih => rw [memberDocuments, List.map_cons, ih]; rfl

theorem readValue_openArray {frames : List Frame} {token : Token} {tokens : List Token}
    (h : token ≠ .closeArray) : readValue frames (.openArray :: token :: tokens) =
      readValue (.items [] :: frames) (token :: tokens) := by
  rw [readValue]
  rintro rest hrest
  exact h (List.cons.inj hrest).1

theorem Value.exists_tokens_eq (value : Value) :
    ∃ token rest, value.tokens = token :: rest ∧ token ≠ .closeArray := by
  cases value with
  | string text => rw [tokens]; exact ⟨_, _, rfl, by nofun⟩
  | integer value => rw [tokens]; exact ⟨_, _, rfl, by nofun⟩
  | array items => cases items <;> rw [tokens] <;> exact ⟨_, _, rfl, by nofun⟩
  | object members => cases members <;> rw [tokens] <;> exact ⟨_, _, rfl, by nofun⟩

mutual

/-- The tokens of a value are read as that value, and what is open goes on behind it. -/
theorem readValue_tokens (value : Value) (frames : List Frame) (rest : List Token) :
    readValue frames (value.tokens ++ rest) = resume value.document frames rest := by
  match value with
  | .string text => rw [Value.tokens, Value.document, List.singleton_append, readValue]
  | .integer value => rw [Value.tokens, Value.document, List.singleton_append, readValue]
  | .array [] =>
      rw [Value.tokens, Value.document, documents, List.cons_append, List.singleton_append, readValue]
  | .array (item :: items) =>
      have hitem := readValue_tokens item (.items [] :: frames)
        (itemTokens items ++ .closeArray :: rest)
      obtain ⟨token, tokens, htokens, hne⟩ := item.exists_tokens_eq
      rw [Value.tokens, Value.document, List.cons_append, List.append_assoc, List.append_assoc,
        List.singleton_append]
      rw [htokens, List.cons_append] at hitem ⊢
      rw [readValue_openArray hne, hitem, resume_itemTokens, documents]
      rfl
  | .object [] =>
      rw [Value.tokens, Value.document, memberDocuments, List.cons_append, List.singleton_append,
        readValue]
  | .object ((name, value) :: members) =>
      rw [Value.tokens, Value.document, List.cons_append, List.cons_append, List.cons_append,
        List.append_assoc, List.append_assoc, List.singleton_append, readValue, readValue_tokens,
        resume_memberTokens, memberDocuments]
      rfl

/-- The tokens of the items after the first. -/
theorem resume_itemTokens (value : Document) (items : List Value) (done : List Document)
    (frames : List Frame) (rest : List Token) :
    resume value (.items done :: frames) (itemTokens items ++ .closeArray :: rest) =
      resume (.array (done.reverse ++ value :: documents items)) frames rest := by
  match items with
  | [] => rw [itemTokens, documents, List.nil_append, resume, List.reverse_cons]
  | item :: items =>
      rw [itemTokens, documents, List.cons_append, List.append_assoc, resume, readValue_tokens,
        resume_itemTokens, List.reverse_cons, List.append_assoc, List.singleton_append]

/-- The tokens of the members after the first. -/
theorem resume_memberTokens (value : Document) (name : String) (members : List (String × Value))
    (done : List (String × Document)) (frames : List Frame) (rest : List Token) :
    resume value (.members done name :: frames) (memberTokens members ++ .closeObject :: rest) =
      resume (.object (done.reverse ++ (name, value) :: memberDocuments members)) frames rest := by
  match members with
  | [] => rw [memberTokens, memberDocuments, List.nil_append, resume, List.reverse_cons]
  | (next, item) :: members =>
      rw [memberTokens, memberDocuments, List.cons_append, List.cons_append, List.cons_append,
        List.append_assoc, resume, readValue_tokens, resume_memberTokens, List.reverse_cons,
        List.append_assoc, List.singleton_append]

end

/-- A value that has been written is read back, whatever spaces stand behind it. -/
theorem decode_encode (value : Value) {rest : List Char} (hrest : EndsNumber rest)
    (hspaces : tokensFrom 0 rest = some []) :
    decode (String.ofList (value.encode 0 ++ rest)) = some value.document := by
  rw [decode, String.toList_ofList, tokensFrom_encode 0 value hrest hspaces, Option.bind_some,
    readValue_tokens, resume]

-- The same reader takes other layouts, other values and other escapes than those that are written.
example : decode "[null ,-15e1 , \"\\ud83d\\ude00\\/\"]" =
    some (.array [.null, .decimal (-15) 1, .string "😀/"]) := by cbv

end Unreferenced.Json
