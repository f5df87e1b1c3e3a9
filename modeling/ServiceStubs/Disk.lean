import ServiceStubs.Sorted
import ServiceStubs.Text
/-!
Paths as they are written: components between slashes. A path is kept as the
text it was given as, and shown as that text; only joining and taking it apart
look at its components.
-/

namespace ServiceStubs

structure FilePath where
  text : String
deriving DecidableEq, Repr, Inhabited

namespace FilePath

def isAbsoluteText : List Char → Bool
  | '/' :: _ => true
  | _ => false

def isAbsolute (path : FilePath) : Bool :=
  isAbsoluteText path.text.toList

/-- `part` below `path`. An absolute part replaces the path, and an empty part
leaves a slash at the end. -/
def join (path part : FilePath) : FilePath :=
  if part.isAbsolute then part
  else
    let base := path.text.toList
    if base.isEmpty || base.getLast? == some '/' then
      ⟨String.ofList (base ++ part.text.toList)⟩
    else
      ⟨String.ofList (base ++ '/' :: part.text.toList)⟩

/-- The characters, last first, without what names no component at the end:
slashes, and a "." between slashes. -/
def trimTail : List Char → List Char
  | '/' :: rest => trimTail rest
  | '.' :: '/' :: rest => trimTail ('/' :: rest)
  | rest => rest
termination_by rest => rest.length

/-- The last component and what stands before it, both last character first.
There is none in an empty path and in the root. -/
def splitLast (path : FilePath) : Option (List Char × List Char) :=
  match trimTail path.text.toList.reverse with
  | [] => none
  | tail => some (tail.takeWhile (· != '/'), tail.dropWhile (· != '/'))

def parent (path : FilePath) : Option FilePath :=
  path.splitLast.map fun (_, before) =>
    match trimTail before with
    | [] => ⟨if path.isAbsolute then "/" else ""⟩
    | kept => ⟨String.ofList kept.reverse⟩

def fileName (path : FilePath) : Option String :=
  path.splitLast.bind fun (last, _) =>
    match last with
    | ['.'] | ['.', '.'] => none
    | name => some (String.ofList name.reverse)

def extension (path : FilePath) : Option String :=
  path.fileName.bind fun name =>
    let tail := name.toList.reverse
    match tail.dropWhile (· != '.') with
    | [] => none
    | ['.'] => none
    | _ => some (String.ofList (tail.takeWhile (· != '.')).reverse)

end FilePath

/-!
Why an operation on files fails.
-/

inductive DiskError
  | notFound
  | notADirectory
  | isADirectory
  | alreadyExists
  | nameTooLong
  | nulInPath
  | notText
deriving DecidableEq, Repr

namespace DiskError

def kind : DiskError → String
  | notFound => "NotFound"
  | notADirectory => "NotADirectory"
  | isADirectory => "IsADirectory"
  | alreadyExists => "AlreadyExists"
  | nameTooLong => "InvalidFilename"
  | nulInPath => "InvalidInput"
  | notText => "InvalidData"

def message : DiskError → String
  | notFound => "No such file or directory (os error 2)"
  | notADirectory => "Not a directory (os error 20)"
  | isADirectory => "Is a directory (os error 21)"
  | alreadyExists => "File exists (os error 17)"
  | nameTooLong => "File name too long (os error 36)"
  | nulInPath => "file name contained an unexpected NUL byte"
  | notText => "stream did not contain valid UTF-8"

end DiskError

/-!
Files and folders. What is on a disk is found by its place, the names that lead
there from the working folder. Folders above the working folder, and the root of
all, are always there and are not looked into.
-/

inductive Content
  | text (value : String)
  | bytes (values : List Nat)
deriving DecidableEq, Repr, Inhabited

inductive DiskEntry
  | file (content : Content)
  | folder
deriving DecidableEq, Repr, Inhabited

/-- The names from the working folder on. A place outside of it starts with ".."
or "/". -/
abbrev Place := List String

structure Disk where
  entries : List (Place × DiskEntry) := []
deriving Inhabited

namespace Disk

def isOutside (place : Place) : Bool :=
  place.all fun name => name == ".." || name == "/"

def entry? (disk : Disk) (place : Place) : Option DiskEntry :=
  if isOutside place then some .folder else disk.entries.lookup place

def set (disk : Disk) (place : Place) (entry : DiskEntry) : Disk :=
  ⟨(place, entry) :: disk.entries.filter (·.1 ≠ place)⟩

def erase (disk : Disk) (place : Place) : Disk :=
  ⟨disk.entries.filter (·.1 ≠ place)⟩

def above (place : Place) : Place :=
  match place.getLast? with
  | none | some ".." => place ++ [".."]
  | some "/" => place
  | some _ => place.dropLast

def nameLimit : Nat := 255

def pathLimit : Nat := 4096

/-- Goes from the folder at `place` along the components of a path. All but the
last one have to be folders; an empty last one asks for anything but a file. -/
def walk (disk : Disk) (place : Place) : List String → Except DiskError Place
  | [] => .ok place
  | [""] =>
      match disk.entry? place with
      | some (.file _) => .error .notADirectory
      | _ => .ok place
  | name :: rest =>
      match disk.entry? place with
      | none => .error .notFound
      | some (.file _) => .error .notADirectory
      | some .folder =>
          if name == "" || name == "." then walk disk place rest
          else if name == ".." then walk disk (above place) rest
          else if nameLimit < name.utf8ByteSize then .error .nameTooLong
          else walk disk (place ++ [name]) rest

def components (path : FilePath) : List String :=
  (Text.split '/' path.text.toList).map String.ofList

def locate (disk : Disk) (path : FilePath) : Except DiskError Place :=
  if path.text.toList.contains '\x00' then .error .nulInPath
  else if path.text.isEmpty then .error .notFound
  else if pathLimit ≤ path.text.utf8ByteSize then .error .nameTooLong
  else disk.walk (if path.isAbsolute then ["/"] else []) (components path)

def stat (disk : Disk) (path : FilePath) : Except DiskError (Place × DiskEntry) :=
  match disk.locate path with
  | .error problem => .error problem
  | .ok place =>
      match disk.entry? place with
      | none => .error .notFound
      | some entry => .ok (place, entry)

def contains (disk : Disk) (path : FilePath) : Bool :=
  (disk.stat path).toOption.isSome

def isFile (disk : Disk) (path : FilePath) : Bool :=
  match disk.stat path with
  | .ok (_, .file _) => true
  | _ => false

def isFolder (disk : Disk) (path : FilePath) : Bool :=
  match disk.stat path with
  | .ok (_, .folder) => true
  | _ => false

def readText (disk : Disk) (path : FilePath) : Except DiskError String :=
  match disk.stat path with
  | .error problem => .error problem
  | .ok (_, .folder) => .error .isADirectory
  | .ok (_, .file (.bytes _)) => .error .notText
  | .ok (_, .file (.text value)) => .ok value

def namesFolder (path : FilePath) : Bool :=
  match (components path).getLast? with
  | some "" => true
  | _ => false

def writeContent (disk : Disk) (path : FilePath) (content : Content) : Except DiskError Disk :=
  match disk.locate path with
  | .error problem => .error problem
  | .ok place =>
      match disk.entry? place with
      | some .folder => .error .isADirectory
      | some (.file _) => .ok (disk.set place (.file content))
      | none => if namesFolder path then .error .isADirectory else .ok (disk.set place (.file content))

def writeText (disk : Disk) (path : FilePath) (text : String) : Except DiskError Disk :=
  disk.writeContent path (.text text)

def removeFile (disk : Disk) (path : FilePath) : Except DiskError Disk :=
  match disk.stat path with
  | .error problem => .error problem
  | .ok (_, .folder) => .error .isADirectory
  | .ok (place, .file _) => .ok (disk.erase place)

def makeFolder (disk : Disk) (path : FilePath) : Except DiskError Disk :=
  match disk.locate path with
  | .error problem => .error problem
  | .ok place =>
      match disk.entry? place with
      | some _ => .error .alreadyExists
      | none => .ok (disk.set place .folder)

/-- Makes the first of the folders, each of which lies in the next one, and
those around it that are missing. What was made stays when one cannot be made. -/
def makeFoldersFrom (disk : Disk) : List FilePath → Disk × Except DiskError Unit
  | [] => (disk, .ok ())
  | path :: around =>
      match disk.makeFolder path with
      | .ok made => (made, .ok ())
      | .error .notFound =>
          -- The folder around it is missing, so that one is made first.
          match makeFoldersFrom disk around with
          | (reached, .error problem) => (reached, .error problem)
          | (reached, .ok ()) =>
              match reached.makeFolder path with
              | .ok made => (made, .ok ())
              | .error problem =>
                  -- A path such as `a/..` is there once `a` is made.
                  if problem == .alreadyExists && reached.isFolder path then (reached, .ok ())
                  else (reached, .error problem)
      | .error problem =>
          if problem == .alreadyExists && disk.isFolder path then (disk, .ok ())
          else (disk, .error problem)

/-- The path and the folders around it that have to be made for it, at most
`steps` of them. -/
def around : Nat → FilePath → List FilePath
  | 0, _ => []
  | steps + 1, path =>
      match path.parent with
      | none => []
      | some parent => path :: around steps parent

def makeFolders (disk : Disk) (path : FilePath) : Disk × Except DiskError Unit :=
  disk.makeFoldersFrom (around (path.text.length + 1) path)

def tree (disk : Disk) : List String :=
  let paths := disk.entries.filterMap fun (place, entry) =>
    match place with
    | ".." :: _ | "/" :: _ => none
    | _ =>
        let path := String.intercalate "/" place
        some (match entry with | .folder => path ++ "/" | .file _ => path)
  Sorted.ofList compare paths

end Disk

/-!
What files are kept in. The writer needs six operations of it. A disk with
folders has them, and so has a plain map from paths to contents, in which no
path stands in the way of another.
-/

class Storage (σ : Type) where
  contains : σ → FilePath → Bool
  isFile : σ → FilePath → Bool
  readText : σ → FilePath → Except DiskError String
  /-- Makes a folder and those around it. Some may be made when others cannot be. -/
  makeFolders : σ → FilePath → σ × Except DiskError Unit
  writeText : σ → FilePath → String → Except DiskError σ
  removeFile : σ → FilePath → Except DiskError σ

instance : Storage Disk where
  contains := Disk.contains
  isFile := Disk.isFile
  readText := Disk.readText
  makeFolders := Disk.makeFolders
  writeText := Disk.writeText
  removeFile := Disk.removeFile

structure FileMap where
  content? : FilePath → Option Content := fun _ => none

namespace FileMap

def set (files : FileMap) (path : FilePath) (content : Content) : FileMap :=
  ⟨fun other => if other = path then some content else files.content? other⟩

def erase (files : FileMap) (path : FilePath) : FileMap :=
  ⟨fun other => if other = path then none else files.content? other⟩

def isFile (files : FileMap) (path : FilePath) : Bool :=
  (files.content? path).isSome

def readText (files : FileMap) (path : FilePath) : Except DiskError String :=
  match files.content? path with
  | none => .error .notFound
  | some (.bytes _) => .error .notText
  | some (.text value) => .ok value

def removeFile (files : FileMap) (path : FilePath) : Except DiskError FileMap :=
  if files.isFile path then .ok (files.erase path) else .error .notFound

@[simp] theorem content?_set (files : FileMap) (path other : FilePath) (content : Content) :
    (files.set path content).content? other =
      if other = path then some content else files.content? other := rfl

@[simp] theorem content?_erase (files : FileMap) (path other : FilePath) :
    (files.erase path).content? other = if other = path then none else files.content? other := rfl

end FileMap

instance : Storage FileMap where
  contains := FileMap.isFile
  isFile := FileMap.isFile
  readText := FileMap.readText
  makeFolders files _ := (files, .ok ())
  writeText files path text := .ok (files.set path (.text text))
  removeFile := FileMap.removeFile

end ServiceStubs
