/-!
Why a file cannot be used.
-/

namespace MarkdownPreview

inductive FileError
  | notFound
  | notDirectory
  | isDirectory
  | noSpace
  | tooManyLinks
  | notUtf8
  | other (description : String)
  deriving DecidableEq, Repr, Inhabited

def FileError.message : FileError → String
  | notFound => "No such file or directory (os error 2)"
  | notDirectory => "Not a directory (os error 20)"
  | isDirectory => "Is a directory (os error 21)"
  | noSpace => "No space left on device (os error 28)"
  | tooManyLinks => "Too many levels of symbolic links (os error 40)"
  | notUtf8 => "stream did not contain valid UTF-8"
  | other description => description

end MarkdownPreview
