import BicepTemplates.File.Store

/-! # Hosts

What a command needs of the system it runs on: a directory to stand in, files, and an input. A
host may be the real system; here it is a file store, so that all effects of a command can be
told from the store before and after it.
-/

namespace BicepTemplates

structure Host (m : Type → Type) where
  /-- The full path of what a path leads to. -/
  resolve : String → m (Except FileError String)
  /-- Changes to a directory. -/
  enter : String → m (Except FileError Unit)
  read : String → m (Except FileError ByteArray)
  write : String → ByteArray → m (Except FileError Unit)
  input : m ByteArray

/-- A file store with a directory to stand in and an input. -/
structure Site where
  files : FileStore := {}
  directory : Place := []
  input : ByteArray := .empty

namespace Site

def resolve (path : String) (s : Site) : Except FileError String := do
  let (place, _) ← s.files.follow s.directory (.ofText path)
  return place.text

def enter (path : String) (s : Site) : Except FileError Site := do
  match ← s.files.follow s.directory (.ofText path) with
  | (place, .directory) => return { s with directory := place }
  | (_, .file _) => throw .notDirectory

def read (path : String) (s : Site) : Except FileError ByteArray :=
  s.files.read s.directory (.ofText path)

def write (path : String) (contents : ByteArray) (s : Site) : Except FileError Site := do
  return { s with files := ← s.files.write s.directory (.ofText path) contents }

/-- A change that fails changes nothing. -/
def attempt (change : Site → Except FileError Site) : StateM Site (Except FileError Unit) := do
  match change (← get) with
  | .ok s => set s; return .ok ()
  | .error e => return .error e

def host : Host (StateM Site) where
  resolve path := return (← get).resolve path
  enter path := attempt (enter path)
  read path := return (← get).read path
  write path contents := attempt (write path contents)
  input := return (← get).input

end Site

end BicepTemplates
