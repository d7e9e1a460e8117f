/-! # File paths

A path is a list of names between slashes. Empty names do not count, but a slash at the start
leads to the root, and one at the end asks for a directory.
-/

namespace BicepTemplates

structure FilePath where
  fromRoot : Bool
  names : List String
  endsInSlash : Bool
  deriving DecidableEq, Repr

namespace FilePath

def ofText (s : String) : FilePath where
  fromRoot := s.toList.head? == some '/'
  names := (s.splitOn "/").filter fun name => name ≠ ""
  endsInSlash := s.toList.getLast? == some '/'

def isDot (name : String) : Bool := name == "." || name == ".."

/-- The names to follow, where a slash at the end counts as one more name. -/
def steps (p : FilePath) : List String :=
  if p.endsInSlash then p.names ++ ["."] else p.names

end FilePath

end BicepTemplates
