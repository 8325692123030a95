/-! Declarations of a Swift source file: where one stands, what it declares, and what its modifiers say
about who may refer to it. -/

namespace Unreferenced

inductive Kind where
  | function
  | letBinding
  | varBinding
  | classType
  | enumeration
  | structType
  | protocolType
  deriving DecidableEq, Repr, Hashable

namespace Kind

def all : List Kind :=
  [function, letBinding, varBinding, classType, enumeration, structType, protocolType]

def keyword : Kind → String
  | function => "func"
  | letBinding => "let"
  | varBinding => "var"
  | classType => "class"
  | enumeration => "enum"
  | structType => "struct"
  | protocolType => "protocol"

def ofKeyword? (word : String) : Option Kind := all.find? (·.keyword == word)

end Kind

/-- The words in front of a declaration, in order. -/
structure Modifiers where
  words : List String
  deriving DecidableEq, Repr

namespace Modifiers

def contains (modifiers : Modifiers) (word : String) : Bool := modifiers.words.contains word

/-- An overriding declaration is called through the one that it overrides. -/
def isOverride (modifiers : Modifiers) : Bool := modifiers.contains "override"

/-- Outlets and actions are referred to by interface files. -/
def isInterfaceLinked (modifiers : Modifiers) : Bool :=
  modifiers.contains "@IBOutlet" || modifiers.contains "@IBAction"

/-- A restricted declaration is visible in its own file only. -/
def isRestricted (modifiers : Modifiers) : Bool :=
  modifiers.contains "private" || modifiers.contains "fileprivate"

end Modifiers

/-- A declaration with the line that it was found on. -/
structure Declaration where
  file : String
  line : Int
  kind : Kind
  name : String
  modifiers : Modifiers
  rawLine : String
  deriving DecidableEq, Repr

namespace Declaration

/-- What tells declarations apart: all but modifiers and text of the line. -/
structure Identity where
  file : String
  line : Int
  kind : Kind
  name : String
  deriving DecidableEq, Repr, Hashable

def identity (d : Declaration) : Identity := ⟨d.file, d.line, d.kind, d.name⟩

def same (d e : Declaration) : Bool := d.identity == e.identity

/-- Declarations are ordered by file, then by line, then by name. Text is compared by code points. -/
def before (d e : Declaration) : Bool :=
  d.file < e.file || d.file == e.file &&
    (d.line < e.line || d.line == e.line && d.name < e.name)

/-- The declarations in order. Those that the order does not tell apart stay as they are. -/
def sort (declarations : List Declaration) : List Declaration :=
  declarations.mergeSort fun d e => !e.before d

/-- The declarations without those that are the same as an earlier one. -/
def distinct (declarations : List Declaration) : List Declaration :=
  declarations.eraseDupsBy same

end Declaration

/-- A file of the project. Its text is missing if it could not be read. -/
structure TextFile where
  path : String
  text : Option String
  deriving DecidableEq, Repr

end Unreferenced
