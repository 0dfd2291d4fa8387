import DriveHealth.Files.Call

/-!
A file system in memory: files and directories by the names on the way to them from the root, and
a current directory from which relative paths start. A path is walked name by name, and every
name but the last must be a directory. Paths and the names in them have a greatest length, in
bytes of UTF-8.
-/
namespace DriveHealth.Files

inductive Item where
  | directory
  | file (data : Bytes)
  deriving DecidableEq, Inhabited

/-- The names on the way from the root. -/
abbrev Place := List String

structure Tree where
  items : List (Place × Item)
  current : Place

namespace Tree

/-- The root is always there. -/
def find? (t : Tree) (place : Place) : Option Item :=
  if place.isEmpty then some .directory else t.items.lookup place

def setItem (l : List (Place × Item)) (place : Place) (item : Item) : List (Place × Item) :=
  match l with
  | [] => [(place, item)]
  | (p, i) :: r => if p = place then (place, item) :: r else (p, i) :: setItem r place item

def set (t : Tree) (place : Place) (item : Item) : Tree :=
  { t with items := setItem t.items place item }

def noSuchFile : SystemError := .number 2

def notADirectory : SystemError := .number 20

def isADirectory : SystemError := .number 21

def nameTooLong : SystemError := .number 36

def longestPath : Nat := 4095

def longestName : Nat := 255

/-- Where one name leads to from a directory. -/
def enter (place : Place) (name : String) : Place :=
  if name = "" ∨ name = "." then place
  else if name = ".." then place.dropLast
  else place ++ [name]

def walk (t : Tree) (place : Place) : List String → Except SystemError Place
  | [] => .ok place
  | name :: rest =>
    match t.find? place with
    | some .directory =>
      if longestName < name.utf8ByteSize then .error nameTooLong
      else t.walk (enter place name) rest
    | some (.file _) => .error notADirectory
    | none => .error noSuchFile

/-- Where the walk of a path starts. -/
def start (t : Tree) (path : String) : Place := if path.startsWith "/" then [] else t.current

/-- What the slashes of a path leave between them. -/
def names (path : String) : List String := (path.toList.splitOn '/').map .ofList

/-- What is wrong with a path, whatever the tree holds. -/
def pathError? (path : String) : Option SystemError :=
  if path.contains '\x00' then some .nulInPath
  else if longestPath < path.utf8ByteSize then some nameTooLong
  else none

/-- The place that a path names; nothing need be there. -/
def resolve (t : Tree) (path : String) : Except SystemError Place :=
  match pathError? path with
  | some e => .error e
  | none =>
    if path.isEmpty then .error noSuchFile else t.walk (t.start path) (names path)

def itemAt? (t : Tree) (path : String) : Option Item :=
  match t.resolve path with
  | .ok place => t.find? place
  | .error _ => none

def read (t : Tree) (path : String) : Except SystemError Bytes :=
  (t.resolve path).bind fun place =>
    match t.find? place with
    | some (.file data) => .ok data
    | some .directory => .error isADirectory
    | none => .error noSuchFile

/-- Opens what is there; a directory can be opened, but not to be written. -/
def openItem (t : Tree) (path : String) (writable : Bool) : Except SystemError Unit :=
  (t.resolve path).bind fun place =>
    match t.find? place with
    | some (.file _) => .ok ()
    | some .directory => if writable then .error isADirectory else .ok ()
    | none => .error noSuchFile

/-- Changes the bytes of a file, which may be created for it. -/
def update (t : Tree) (path : String) (f : Bytes → Bytes) : Except SystemError Unit × Tree :=
  match t.resolve path with
  | .error e => (.error e, t)
  | .ok place =>
    match t.find? place with
    | some .directory => (.error isADirectory, t)
    | some (.file data) => (.ok (), t.set place (.file (f data)))
    | none => (.ok (), t.set place (.file (f .empty)))

/-- Goes down name by name, and makes the directories that are missing. -/
def makeWay (t : Tree) (place : Place) : List String → Except SystemError Unit × Tree
  | [] => (.ok (), t)
  | name :: rest =>
    let next := enter place name
    if longestName < name.utf8ByteSize then (.error nameTooLong, t)
    else
      match t.find? next with
      | some .directory => t.makeWay next rest
      | some (.file _) => (.error notADirectory, t)
      | none => (t.set next .directory).makeWay next rest

def createDirectories (t : Tree) (path : String) : Except SystemError Unit × Tree :=
  match pathError? path with
  | some e => (.error e, t)
  | none => t.makeWay (t.start path) (names path)

/-- Puts a file at a path, and directories on the way to it. -/
def put (t : Tree) (path : String) (data : Bytes) : Tree :=
  let way := "/".intercalate (names path).dropLast
  ((t.createDirectories way).2.update path fun _ => data).2

def isDirectory (t : Tree) (path : String) : Bool := t.itemAt? path == some .directory

def answer (c : Call) (t : Tree) : c.Reply × Tree :=
  match c with
  | .read path => (t.read path, t)
  | .isDirectory path => (t.isDirectory path, t)
  | .present path => ((t.itemAt? path).isSome, t)
  | .createDirectories path => t.createDirectories path
  | .create path => t.update path fun _ => .empty
  | .append path data => t.update path fun (old : Bytes) => (old ++ data : Bytes)

end Tree
end DriveHealth.Files
