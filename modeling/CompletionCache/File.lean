/-!
# Text files

What a file holds, as far as it can be read: its bytes or why there are none, and the text in them.
-/

set_option autoImplicit false

namespace CompletionCache

/-- Why a file could not be read as text. -/
inductive FileFault where
  | notFound
  | notADirectory
  | isDirectory
  | permissionDenied
  | notUtf8
  deriving DecidableEq

/-- The words of a file fault. -/
def FileFault.message : FileFault → String
  | notFound => "No such file or directory (os error 2)"
  | notADirectory => "Not a directory (os error 20)"
  | isDirectory => "Is a directory (os error 21)"
  | permissionDenied => "Permission denied (os error 13)"
  | notUtf8 => "stream did not contain valid UTF-8"

/-- The bytes of a file, or why they cannot be read. -/
abbrev FileContent := Except FileFault ByteArray

/-- The text of a file. -/
def FileContent.text (content : FileContent) : Except FileFault String := do
  match String.fromUTF8? (← content) with
  | some text => return text
  | none => throw .notUtf8

end CompletionCache
