import Unreferenced.Text.Quoted

/-! Codecs, in which a machine writes text as bytes. A codec may refuse a text. UTF-8 writes every text
too, but what a machine takes for text may come from the name of a file, and such a name is bytes: those
that are part of no character are told by characters that stand for them, which no codec writes. -/

namespace Unreferenced.Text

/-- Why a codec refuses a text: the characters from one place to another, the first of them as messages
show it, and what is wrong with them. -/
structure Refusal where
  codec : String
  first : Nat
  last : Nat
  shown : String
  reason : String
  deriving DecidableEq, Repr

def Refusal.message (refusal : Refusal) : String :=
  let place :=
    if refusal.first = refusal.last then
      "character '" ++ refusal.shown ++ "' in position " ++ toString refusal.first
    else "characters in position " ++ toString refusal.first ++ "-" ++ toString refusal.last
  "'" ++ refusal.codec ++ "' codec can't encode " ++ place ++ ": " ++ refusal.reason

/-- The bytes of a text, or why it has none. -/
abbrev Codec := String → Except Refusal (List UInt8)

/-- UTF-8 on a machine where some characters stand for stray bytes. The first of these and those right
behind it are refused together. -/
def Codec.utf8 (stray? : Char → Option UInt8) : Codec := fun text =>
  let plain := fun c => (stray? c).isNone
  match text.toList.dropWhile plain with
  | [] => .ok text.toUTF8.toList
  | c :: rest =>
    let first := (text.toList.takeWhile plain).length
    .error
      { codec := "utf-8"
        first := first
        last := first + (rest.takeWhile fun c => !plain c).length
        shown := "\\udc" ++ String.ofList (Quoted.hex 2 ((stray? c).getD 0).toNat)
        reason := "surrogates not allowed" }

end Unreferenced.Text
