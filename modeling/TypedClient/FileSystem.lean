import TypedClient.Text.LineEnd
import TypedClient.Text.Split
import TypedClient.Text.Utf8

namespace TypedClient

/-- A path in normal form: its leading slashes, then its parts without empty ones and dots. -/
structure Path where
  root : String
  parts : List String
  deriving DecidableEq

namespace Path

/-- Exactly two leading slashes are kept, more stand for one. -/
def rootOf : List Char → String
  | '/' :: '/' :: '/' :: _ => "/"
  | '/' :: '/' :: _ => "//"
  | '/' :: _ => "/"
  | _ => ""

def ofString (s : String) : Path :=
  ⟨rootOf s.toList, (Text.split '/' s).filter fun part => part ≠ "" ∧ part ≠ "."⟩

def toString (path : Path) : String :=
  if path.root = "" ∧ path.parts = [] then "." else path.root ++ "/".intercalate path.parts

def hasSuffix (path : Path) (suffix : String) : Bool :=
  suffix.toList.isSuffixOf path.toString.toList

def parent (path : Path) : Path := { path with parts := path.parts.dropLast }

/-- Steps up cancel the part before them; above the root there is nothing. -/
def simplify (isRooted : Bool) : List String → List String → List String
  | found, [] => found.reverse
  | found, part :: rest =>
    if part ≠ ".." then simplify isRooted (part :: found) rest
    else
      match found with
      | [] => simplify isRooted (if isRooted then [] else [".."]) rest
      | last :: above =>
        if last = ".." then simplify isRooted (".." :: found) rest
        else simplify isRooted above rest

def place (path : Path) : List String :=
  (if path.root = "" then [] else ["/"]) ++ simplify (path.root ≠ "") [] path.parts

end Path

inductive FileError
  | notFound (path : String)
  | exists' (path : String)
  | notADirectory (path : String)
  | isADirectory (path : String)
  | nameTooLong (path : String)
  | unencodable (error : EncodingError)
  | nullCharacter
  deriving DecidableEq

namespace FileError

def message : FileError → String
  | notFound path => "[Errno 2] No such file or directory: " ++ Text.quoted path
  | exists' path => "[Errno 17] File exists: " ++ Text.quoted path
  | notADirectory path => "[Errno 20] Not a directory: " ++ Text.quoted path
  | isADirectory path => "[Errno 21] Is a directory: " ++ Text.quoted path
  | nameTooLong path => "[Errno 36] File name too long: " ++ Text.quoted path
  | unencodable error => error.message
  | nullCharacter => "embedded null byte"

def isAbsence : FileError → Bool
  | notFound _ => true
  | notADirectory _ => true
  | unencodable _ => true
  | nullCharacter => true
  | _ => false

def isReported : FileError → Bool
  | unencodable _ => false
  | nullCharacter => false
  | _ => true

end FileError

structure File where
  text : Except DecodingError String
  modified : Nat

/-- `clock` is later than every file. -/
structure FileSystem where
  files : List (List String × File)
  directories : List (List String)
  clock : Nat

namespace FileSystem

def empty : FileSystem := ⟨[], [], 0⟩

def file? (fs : FileSystem) (place : List String) : Option File := fs.files.lookup place

def isDirectory (fs : FileSystem) (place : List String) : Bool :=
  place.all (· == "..") || place == ["/"] || fs.directories.contains place
    || fs.files.any fun (other, _) => place.isPrefixOf other && place != other

def maxPartBytes : Nat := 255

def maxPathBytes : Nat := 4095

def above (place : List String) : List String :=
  match place.getLast? with
  | none => [".."]
  | some ".." => place ++ [".."]
  | some "/" => place
  | some _ => place.dropLast

/-- Goes on from a place part by part. A step is taken only from a directory. -/
def walkFrom (fs : FileSystem) (shown : String) (place : List String) :
    List String → Except FileError (List String)
  | [] => .ok place
  | part :: rest =>
    if !fs.isDirectory place then
      .error (if (fs.file? place).isSome then .notADirectory shown else .notFound shown)
    else if part = ".." then fs.walkFrom shown (above place) rest
    else if maxPartBytes < part.utf8ByteSize then .error (.nameTooLong shown)
    else fs.walkFrom shown (place ++ [part]) rest

def pathError? (shown : String) : Option FileError :=
  match Text.encodingErrorBut? Text.isByte shown with
  | some e => some (.unencodable e)
  | none => if shown.toList.contains '\x00' then some .nullCharacter else none

def walk (fs : FileSystem) (path : Path) : Except FileError (List String) :=
  let shown := path.toString
  match pathError? shown with
  | some e => .error e
  | none =>
    if maxPathBytes < shown.utf8ByteSize then .error (.nameTooLong shown)
    else fs.walkFrom shown (if path.root = "" then [] else ["/"]) path.parts

def setFile (place : List String) (file : File) :
    List (List String × File) → List (List String × File)
  | [] => [(place, file)]
  | (p, f) :: rest => if p = place then (p, file) :: rest else (p, f) :: setFile place file rest

def store (fs : FileSystem) (place : List String) (text : Except DecodingError String) :
    FileSystem :=
  { fs with files := setFile place ⟨text, fs.clock⟩ fs.files, clock := fs.clock + 1 }

def remove (fs : FileSystem) (place : List String) : FileSystem :=
  { fs with files := fs.files.filter (·.1 ≠ place) }

def read (fs : FileSystem) (path : Path) : Except FileError File := do
  let place ← fs.walk path
  match fs.file? place with
  | some file => return file
  | none =>
    throw (if fs.isDirectory place then .isADirectory path.toString else .notFound path.toString)

def write (fs : FileSystem) (path : Path) (text : String) : Except FileError FileSystem := do
  let place ← fs.walk path
  if fs.isDirectory place then throw (.isADirectory path.toString)
  return fs.store place (.ok text)

def exists? (fs : FileSystem) (path : Path) : Except FileError Bool :=
  match fs.walk path with
  | .ok place => .ok ((fs.file? place).isSome || fs.isDirectory place)
  | .error e => if e.isAbsence then .ok false else .error e

def hasDirectory (fs : FileSystem) (path : Path) : Bool :=
  match fs.walk path with
  | .ok place => fs.isDirectory place
  | .error _ => false

def makeDirectory (fs : FileSystem) (path : Path) : Except FileError FileSystem := do
  let place ← fs.walk path
  if (fs.file? place).isSome || fs.isDirectory place then throw (.exists' path.toString)
  return { fs with directories := place :: fs.directories }

def ensureDirectory (fs : FileSystem) (path : Path) : Except FileError FileSystem :=
  match fs.makeDirectory path with
  | .ok fs => .ok fs
  | .error e => if fs.hasDirectory path then .ok fs else .error e

def makeDirectories (fs : FileSystem) (path : Path) : Except FileError FileSystem :=
  match fs.ensureDirectory path with
  | .error (.notFound shown) =>
    if _h : path.parts = [] then .error (.notFound shown)
    else do (← fs.makeDirectories path.parent).ensureDirectory path
  | result => result
termination_by path.parts.length
decreasing_by
  have := List.length_pos_iff.2 _h
  simp only [Path.parent, List.length_dropLast]
  omega

def modified? (fs : FileSystem) (path : Path) : Option Int := do
  let place ← (fs.walk path).toOption
  (fs.file? place).map fun file => (file.modified : Int)

def ancestors (place : List String) : List (List String) :=
  (List.range (place.length + 1)).map place.take

end FileSystem

end TypedClient
