import Unreferenced.Declaration
import Unreferenced.Text.Lines

/-! References from interface files. These name classes, selectors and properties in attributes of
their elements. The file is read as one line. -/

namespace Unreferenced.Reference

/-- A kind of attribute that refers to declarations: the names it goes by, and whether a colon may stand
between the name referred to and the closing quote. -/
structure Attribute where
  names : List String
  colon : Bool
  deriving DecidableEq, Repr

namespace Attribute

def classes : Attribute := ⟨["customClass", "class"], false⟩

/-- Attributes that name a selector. One that takes an argument ends in a colon. -/
def selectors : Attribute := ⟨["selector"], true⟩

/-- Attributes that name a property. -/
def properties : Attribute := ⟨["property"], false⟩

/-- The value of an attribute written under the given name at the start of a text, and what follows its
closing quote. The value is one identifier. -/
def valueOf? (colon : Bool) (name : String) (text : List Char) : Option (List Char × List Char) :=
  let opening := name.toList ++ ['=', '"']
  if opening.isPrefixOf text then
    let rest := text.drop opening.length
    let value := rest.takeWhile Text.isWord
    if value.isEmpty then none
    else match rest.dropWhile Text.isWord with
      | '"' :: after => some (value, after)
      | ':' :: '"' :: after => if colon then some (value, after) else none
      | _ => none
  else none

def at? (kind : Attribute) (text : List Char) : Option (List Char × List Char) :=
  kind.names.findSome? fun name => valueOf? kind.colon name text

/-- The values of an attribute in a text, from left to right and without overlap. An attribute starts
where no word character stands before it, which the first argument tells. The second is the number of
characters that belong to the attribute found last. -/
def valuesFrom (kind : Attribute) : Bool → Nat → List Char → List (List Char)
  | _, _, [] => []
  | _, taken + 1, c :: rest => kind.valuesFrom (Text.isWord c) taken rest
  | afterWord, 0, c :: rest =>
    match if afterWord then none else kind.at? (c :: rest) with
    | some (value, after) =>
      value :: kind.valuesFrom (Text.isWord c) (rest.length - after.length) rest
    | none => kind.valuesFrom (Text.isWord c) 0 rest

def values (kind : Attribute) (text : List Char) : List (List Char) :=
  kind.valuesFrom false 0 text

end Attribute

/-- The text of an interface file as one line. -/
def oneLine (text : List Char) : List Char := List.intercalate [' '] (Text.lines text)

/-- What an interface text refers to. -/
structure Mentions where
  classes : List (List Char)
  members : List (List Char)

namespace Mentions

def ofText (text : List Char) : Mentions :=
  let line := oneLine text
  ⟨Attribute.classes.values line,
    Attribute.selectors.values line ++ Attribute.properties.values line⟩

/-- How often a declaration is referred to. A restricted one is out of reach, unless it is linked to
interface files and referred to as a member. -/
def count (mentions : Mentions) (d : Declaration) : Nat :=
  let name := d.name.toList
  let restricted := d.modifiers.isRestricted
  (if restricted then 0 else mentions.classes.count name) +
    if restricted && !d.modifiers.isInterfaceLinked then 0 else mentions.members.count name

end Mentions

end Unreferenced.Reference
