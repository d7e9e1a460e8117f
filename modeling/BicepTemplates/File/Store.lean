import BicepTemplates.File.Error
import BicepTemplates.File.Path

/-! # File stores

A file store maps places to contents. A place that has to hold other places is a directory. A
path is followed name by name from where one stands, and each name on the way has to be looked up
in a directory. Writing a file changes the contents at one place and no other.
-/

namespace BicepTemplates

/-- The names on the way from the root. -/
abbrev Place := List String

def Place.text (p : Place) : String :=
  "/" ++ "/".intercalate p

/-- What can be at a place. -/
inductive FileStore.Entry where
  | file (contents : ByteArray)
  | directory

structure FileStore where
  files : List (Place × ByteArray) := []
  /-- Directories that need not hold a file. -/
  directories : List Place := []

namespace FileStore

def contents? (s : FileStore) (p : Place) : Option ByteArray :=
  s.files.lookup p

/-- A directory is the root, or listed, or on the way to a file or a listed directory. -/
def isDirectory (s : FileStore) (p : Place) : Bool :=
  p.isEmpty || (s.directories ++ s.files.map (·.1.dropLast)).any p.isPrefixOf

def entry? (s : FileStore) (p : Place) : Option Entry :=
  match s.contents? p with
  | some contents => some (.file contents)
  | none => if s.isDirectory p then some .directory else none

def requireDirectory (s : FileStore) (p : Place) : Except FileError Unit :=
  match s.entry? p with
  | some .directory => .ok ()
  | some (.file _) => .error .notDirectory
  | none => .error .notFound

/-- Names of files have a limited length in bytes. -/
def inside (p : Place) (name : String) : Except FileError Place :=
  if name.utf8ByteSize ≤ 255 then .ok (p ++ [name]) else .error .nameTooLong

/-- Follows one name. -/
def step (s : FileStore) (p : Place) (name : String) : Except FileError Place := do
  s.requireDirectory p
  if name = "." then return p
  else if name = ".." then return p.dropLast
  else inside p name

def start (standing : Place) (path : FilePath) : Place :=
  if path.fromRoot then [] else standing

/-- The place a path leads to and what is there. -/
def follow (s : FileStore) (standing : Place) (path : FilePath) :
    Except FileError (Place × Entry) := do
  let place ← path.steps.foldlM s.step (start standing path)
  match s.entry? place with
  | some entry => return (place, entry)
  | none => throw .notFound

def read (s : FileStore) (standing : Place) (path : FilePath) : Except FileError ByteArray := do
  match ← s.follow standing path with
  | (_, .file contents) => return contents
  | (_, .directory) => throw .isDirectory

/-- The place of the file that a path names, whether or not there is one yet. -/
def target (s : FileStore) (standing : Place) (path : FilePath) : Except FileError Place := do
  let parent ← path.names.dropLast.foldlM s.step (start standing path)
  s.requireDirectory parent
  match path.names.getLast? with
  | none => throw .isDirectory
  | some name =>
    if path.endsInSlash || FilePath.isDot name then throw .isDirectory
    let place ← inside parent name
    match s.entry? place with
    | some .directory => throw .isDirectory
    | _ => return place

/-- Gives a place new contents. -/
def put (p : Place) (contents : ByteArray) (s : FileStore) : FileStore :=
  { s with files := (p, contents) :: s.files.filter fun file => file.1 ≠ p }

def write (standing : Place) (path : FilePath) (contents : ByteArray) (s : FileStore) :
    Except FileError FileStore := do
  return s.put (← s.target standing path) contents

theorem contents?_put_self (p : Place) (contents : ByteArray) (s : FileStore) :
    (s.put p contents).contents? p = some contents := by
  simp [put, contents?]

theorem contents?_put_of_ne {p q : Place} (h : q ≠ p) (contents : ByteArray) (s : FileStore) :
    (s.put p contents).contents? q = s.contents? q := by
  have hq : (q == p) = false := by simpa using h
  simp only [put, contents?, List.lookup_cons, hq]
  induction s.files with
  | nil => rfl
  | cons file rest ih =>
    obtain ⟨place, held⟩ := file
    by_cases hp : place = p
    · subst hp
      simpa [List.lookup_cons, hq] using ih
    · cases hqp : q == place <;> simp_all [List.lookup_cons]

end FileStore

end BicepTemplates
