/-! # File errors

Why a file or a directory cannot be used. Most causes are the system's own, which it also counts.
-/

namespace BicepTemplates

inductive FileError where
  | notFound
  | notDirectory
  | isDirectory
  | nameTooLong
  /-- The contents are not text in UTF-8. -/
  | notText
  | other (text : String) (code : Nat)
  deriving DecidableEq, Repr

namespace FileError

def coded (text : String) (code : Nat) : String :=
  s!"{text} (os error {code})"

def message : FileError → String
  | notFound => coded "No such file or directory" 2
  | notDirectory => coded "Not a directory" 20
  | isDirectory => coded "Is a directory" 21
  | nameTooLong => coded "File name too long" 36
  | notText => "stream did not contain valid UTF-8"
  | other text code => coded text code

/-- The cause that the system counts so, or else describes so. -/
def ofCode (code : Nat) (text : String) : FileError :=
  match code with
  | 2 => notFound
  | 20 => notDirectory
  | 21 => isDirectory
  | 36 => nameTooLong
  | code => other text code

end FileError

end BicepTemplates
