/-!
# The host of the bundled libraries

The bundled libraries need two things of the world around them: text files and random numbers.

## Main definitions

* `Host m`: the two services, in a monad `m`.
* `FileError`: why a file cannot be read.
* `decodeText`: the text in the bytes of a file.
-/

namespace KeywordContract

inductive FileError where
  | notFound
  | notDirectory
  | isDirectory
  | nameTooLong
  | nulInName
  | notText
  /-- Any other reason, by its text. -/
  | other (text : String)
deriving DecidableEq

def FileError.message : FileError → String
  | notFound => "No such file or directory (os error 2)"
  | notDirectory => "Not a directory (os error 20)"
  | isDirectory => "Is a directory (os error 21)"
  | nameTooLong => "File name too long (os error 36)"
  | nulInName => "file name contained an unexpected NUL byte"
  | notText => "stream did not contain valid UTF-8"
  | other text => text

/-- The text that bytes hold in UTF-8. -/
def decodeText (bytes : ByteArray) : Except FileError String :=
  match String.fromUTF8? bytes with
  | some s => .ok s
  | none => .error .notText

structure Host (m : Type → Type) where
  /-- The text of the file at a path. -/
  textFile : String → m (Except FileError String)
  /-- A whole number from the first bound to the second. The same seed and bounds give the same
  number. -/
  pick : Option Int → Int → Int → m Int

end KeywordContract
