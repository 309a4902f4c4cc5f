import SceneLoop.Frame
import SceneLoop.Glyph.Face

/-!
# Files

What a command needs of the place where it runs, and a place that is kept in memory.

## Main definitions

* `Files` : reading and writing, in any monad.
* `FileTree` : files and directories in memory.
* `FilePath.parent?`, `FilePath.join` : names of files and directories.
-/

namespace SceneLoop

/-- Reading and writing.  What cannot be read is `none`, and what cannot be written `false`. -/
class Files (m : Type → Type) where
  /-- The text that is piped in. -/
  readInput : m (Option String)
  /-- The text in a file. -/
  readText : String → m (Option String)
  /-- The face in a font file. -/
  readFace : String → m (Option Face)
  /-- Make a directory, and those above it, unless they are there. -/
  makeDirectory : String → m Bool
  /-- Store an image in a file. -/
  writeImage : String → Frame → m Bool

namespace FilePath

/-- Drop empty parts and single points at the end, but not the first part. -/
def trimEnd : List String → List String
  | [] => []
  | first :: rest =>
    first :: (rest.reverse.dropWhile fun part => part = "" || part = ".").reverse

/-- The directory that a file name names a part of, unless the name has only one part. -/
def parent? (path : String) : Option String :=
  match trimEnd (path.splitOn "/") with
  | [] | [_] => none
  | parts =>
    match trimEnd parts.dropLast with
    | [""] => some "/"
    | above => some ("/".intercalate above)

/-- The name of a file in a directory. -/
def join (directory name : String) : String :=
  if directory.endsWith "/" then directory ++ name else directory ++ "/" ++ name

/-- The name of a file without its directory and without what follows the last point. -/
def stem (path : String) : String :=
  let name := (trimEnd (path.splitOn "/")).getLast?.getD ""
  if name = ".." || name = "." then ""
  else
    match (name.splitOn ".").reverse with
    | _ :: part :: parts =>
      let before := ".".intercalate (part :: parts).reverse
      if before = "" then name else before
    | _ => name

end FilePath

/-- What a name stands for. -/
inductive FileEntry where
  /-- A directory. -/
  | directory
  /-- A text. -/
  | text (s : String)
  /-- A font. -/
  | face (f : Face)
  /-- An image. -/
  | image (f : Frame)

/-- Files and directories in memory, under a directory whose name is a single letter `@`. -/
structure FileTree where
  /-- The text that is piped in. -/
  input : String
  /-- Parts of names, and what they stand for. -/
  entries : List (List String × FileEntry) := []

namespace FileTree

/-- The parts of a name below the directory `@`. -/
def parts? (path : String) : Option (List String) :=
  match path.splitOn "/" with
  | "@" :: rest => some (rest.filter fun part => part ≠ "" && part ≠ ".")
  | _ => none

/-- What some parts stand for. -/
def entry? (t : FileTree) (parts : List String) : Option FileEntry :=
  if parts.isEmpty then some .directory else t.entries.lookup parts

/-- What a name stands for. -/
def find? (t : FileTree) (path : String) : Option FileEntry :=
  (parts? path).bind t.entry?

/-- Whether some parts stand for a directory. -/
def isDirectory (t : FileTree) (parts : List String) : Bool :=
  match t.entry? parts with
  | some .directory => true
  | _ => false

/-- Let some parts stand for something. -/
def put (parts : List String) (e : FileEntry) (t : FileTree) : FileTree :=
  { t with entries := (parts, e) :: t.entries.filter fun f => f.1 ≠ parts }

/-- Make the directories from some parts on. -/
def makeFrom (above : List String) : List String → FileTree → Option FileTree
  | [], t => some t
  | part :: rest, t =>
    let here := above ++ [part]
    match t.entry? here with
    | none => makeFrom here rest (t.put here .directory)
    | some .directory => makeFrom here rest t
    | some _ => none

/-- Store a file, if there is a directory for it. -/
def store? (path : String) (e : FileEntry) (t : FileTree) : Option FileTree :=
  match parts? path with
  | none | some [] => none
  | some parts =>
    if t.isDirectory parts.dropLast && !t.isDirectory parts then some (t.put parts e) else none

/-- Go on with another tree, and say whether there is one. -/
def attempt (change : FileTree → Option FileTree) : StateM FileTree Bool := fun t =>
  match change t with
  | some t => (true, t)
  | none => (false, t)

instance : Files (StateM FileTree) where
  readInput := fun t => (some t.input, t)
  readText path := fun t =>
    (match t.find? path with
      | some (.text s) => some s
      | _ => none, t)
  readFace path := fun t =>
    (match t.find? path with
      | some (.face f) => some f
      | _ => none, t)
  makeDirectory path := attempt fun t => (parts? path).bind fun parts => makeFrom [] parts t
  writeImage path f := attempt (store? path (.image f))

end FileTree

end SceneLoop
