import Unreferenced.Declaration
import Unreferenced.Source.Comment

/-! Recognising the declaration on a line: a keyword that starts a word, white space, and a name that is
no keyword itself. The first such place counts, and what stands before it are the modifiers. -/

namespace Unreferenced

/-- The head of a declaration at the start of a text: its kind and its name. -/
def headAt? (text : List Char) : Option (Kind × List Char) :=
  Kind.all.findSome? fun kind =>
    let word := kind.keyword.toList
    let rest := text.drop word.length
    let name := (rest.dropWhile Text.isSpace).takeWhile Text.isWord
    if word.isPrefixOf text && (rest.head?.map Text.isSpace).getD false && !name.isEmpty &&
        (Kind.ofKeyword? (String.ofList name)).isNone then
      some (kind, name)
    else none

/-- The first head of a declaration in a text, with the number of characters before it. A head starts a
word, so the first argument tells whether a word character stands right before the text. -/
def findHead? : Bool → List Char → Option (Nat × Kind × List Char)
  | _, [] => none
  | afterWord, c :: rest =>
    match if afterWord then none else headAt? (c :: rest) with
    | some head => some (0, head)
    | none => (findHead? (Text.isWord c) rest).map fun (offset, head) => (offset + 1, head)

/-- The declaration on a line of a file, if there is one. Line comments declare nothing. -/
def Declaration.onLine? (file : String) (text : String) (line : Int) : Option Declaration :=
  (findHead? false (Source.withoutLineComments text.toList)).map fun (offset, kind, name) =>
    { file := file
      line := line
      kind := kind
      name := String.ofList name
      modifiers := ⟨(Text.pieces (text.toList.take offset)).map String.ofList⟩
      rawLine := text }

end Unreferenced
