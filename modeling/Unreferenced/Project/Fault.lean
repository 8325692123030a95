import Unreferenced.Text.Utf8
import Unreferenced.Text.Codec

/-! What can go wrong with a file, and the message for it. -/

namespace Unreferenced.Project

/-- Why a file cannot be read or written. The path is the one that was asked for. -/
inductive FileFault where
  | isDirectory (path : String)
  | missing (path : String)
  | notDirectory (path : String)
  | nullByte
  | notUtf8 (fault : Text.Utf8.Fault)
  | notEncodable (refusal : Text.Refusal)
  deriving DecidableEq, Repr

def reasonText : Text.Utf8.Reason → String
  | .invalidStart => "invalid start byte"
  | .invalidContinuation => "invalid continuation byte"
  | .unexpectedEnd => "unexpected end of data"

/-- The text of a decoding fault. One byte is shown, of several only where they are. -/
def decodingMessage (fault : Text.Utf8.Fault) : String :=
  let place :=
    if fault.first == fault.last then
      "byte 0x" ++ String.ofList (Text.Quoted.hex 2 fault.byte.toNat) ++ " in position " ++
        toString fault.first
    else "bytes in position " ++ toString fault.first ++ "-" ++ toString fault.last
  "'utf-8' codec can't decode " ++ place ++ ": " ++ reasonText fault.reason

def FileFault.message : FileFault → String
  | isDirectory path => "[Errno 21] Is a directory: " ++ Text.quoted path
  | missing path => "[Errno 2] No such file or directory: " ++ Text.quoted path
  | notDirectory path => "[Errno 20] Not a directory: " ++ Text.quoted path
  | nullByte => "embedded null byte"
  | notUtf8 fault => decodingMessage fault
  | notEncodable refusal => refusal.message

end Unreferenced.Project
