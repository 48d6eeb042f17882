import WidgetBuilders.Source
import WidgetBuilders.Text.Utf8

/-!
# Files by path

A tree of files is a finite map from locations to what is there; a location is the names on the way
from the root. Whatever lies above a location that is in use is a directory. A path is a text that
leads to a location, from the root or from the working directory, name by name: every step has to
start in a directory, `.` stays there and `..` goes back.

Reading touches nothing and writing touches one location. Writing is done in two steps. First the
file is opened, which makes it, or empties it if it is there; a path that cannot be opened leaves
the tree as it was, and one that ends with a slash is refused before its last name is looked at.
Then the file takes bytes for as long as there is room: a write that runs out of room has changed
the file already.
-/

namespace WidgetBuilders

/-- Why a file cannot be read or written. -/
inductive FileFault
  | notFound
  | notDirectory
  | isDirectory
  | noSpace
  | nameTooLong
  /-- The path holds the character that ends paths. -/
  | nulInName
  /-- The file is to be read as text, but is none. -/
  | notText
  /-- The operating system refuses for another reason. -/
  | refused (reason : String) (code : Nat)
  deriving DecidableEq

/-- The fault in the words of the operating system. -/
def FileFault.message : FileFault → String
  | .notFound => "No such file or directory (os error 2)"
  | .notDirectory => "Not a directory (os error 20)"
  | .isDirectory => "Is a directory (os error 21)"
  | .noSpace => "No space left on device (os error 28)"
  | .nameTooLong => "File name too long (os error 36)"
  | .nulInName => "file name contained an unexpected NUL byte"
  | .notText => "stream did not contain valid UTF-8"
  | .refused reason code => reason ++ " (os error " ++ toString code ++ ")"

/-- What is at a location. -/
inductive FileNode
  | file (bytes : List UInt8)
  | directory
  /-- A regular file that cannot be opened. -/
  | lockedFile (fault : FileFault)
  /-- A device that can be opened, has nothing to read, and no room for anything. -/
  | fullDevice
  /-- Something else that cannot be opened, such as a socket. -/
  | closed (fault : FileFault)
  deriving DecidableEq

/-- The names on the way from the root. -/
abbrev Location := List String

/-- A working directory and what there is to find from it. -/
structure FileTree where
  /-- Where paths that do not begin with a slash begin. -/
  working : Location
  /-- What is at each location; of two entries for one location, the first one counts. -/
  nodes : List (Location × FileNode)
  /-- How many bytes there is room for in a file; none if there is room for any number. -/
  room? : Option Nat
  deriving DecidableEq

/-- Why a file could not be written. -/
inductive WriteFault
  | opening (fault : FileFault)
  /-- The file was opened, and then did not take the bytes. -/
  | writing (fault : FileFault)
  deriving DecidableEq

namespace FileTree

/-- A tree with nothing in it but the working directory. -/
def empty (working : Location) : FileTree := ⟨working, [], none⟩

/-- Puts something at a location. -/
def put (tree : FileTree) (location : Location) (node : FileNode) : FileTree :=
  { tree with nodes := (location, node) :: tree.nodes }

/-- The location lies on the way to something: to an entry, or to the working directory. -/
def isOnTheWay (tree : FileTree) (location : Location) : Bool :=
  location.isPrefixOf tree.working || tree.nodes.any fun entry => location.isPrefixOf entry.1

/-- Putting something at a location leaves the entries of all other locations. -/
theorem lookup_put_of_ne {tree : FileTree} {location elsewhere : Location}
    (different : elsewhere ≠ location) (node : FileNode) :
    (tree.put location node).nodes.lookup elsewhere = tree.nodes.lookup elsewhere := by
  have apart : (elsewhere == location) = false := beq_false_of_ne different
  simp [put, List.lookup_cons, apart]

/-- Putting something into a tree takes no location off the way. -/
theorem isOnTheWay_put {tree : FileTree} {location : Location}
    (onTheWay : tree.isOnTheWay location = true) (target : Location) (node : FileNode) :
    (tree.put target node).isOnTheWay location = true := by
  simp only [isOnTheWay, put, List.any_cons, Bool.or_eq_true] at onTheWay ⊢
  exact onTheWay.imp_right Or.inr

/-- What is at a location. -/
def node? (tree : FileTree) (location : Location) : Option FileNode :=
  match tree.nodes.lookup location with
  | some node => some node
  | none => if tree.isOnTheWay location then some .directory else none

/-- Goes on from a location by names. The place where the last name leads need not exist. -/
def walk (tree : FileTree) : Location → List String → Except FileFault Location
  | location, [] => .ok location
  | location, name :: rest =>
    match tree.node? location with
    | none => .error .notFound
    | some .directory =>
      if name = "." then tree.walk location rest
      else if name = ".." then tree.walk location.dropLast rest
      else if 255 < name.utf8ByteSize then .error .nameTooLong
      else tree.walk (location ++ [name]) rest
    | some _ => .error .notDirectory

/-- A path taken apart. -/
structure Path where
  fromRoot : Bool
  names : List String
  /-- The path ends with a slash, so only a directory will do. -/
  wantsDirectory : Bool
  deriving DecidableEq

/-- Takes a path apart at its slashes; several in a row count as one. -/
def Path.ofText (text : String) : Path :=
  let parts := Text.partsAt '/' text.toList
  { fromRoot := text.toList.head? = some '/'
    names := (parts.filter fun part => !part.isEmpty).map String.ofList
    wantsDirectory := text.toList.getLast? = some '/' }

/-- Takes a path apart, if the text can be one. The longest path has 4095 bytes. -/
def Path.parse (text : String) : Except FileFault Path :=
  if text.toList.contains '\x00' then .error .nulInName
  else if text.isEmpty then .error .notFound
  else if 4096 ≤ text.utf8ByteSize then .error .nameTooLong
  else .ok (Path.ofText text)

/-- Where a path begins. -/
def start (tree : FileTree) (path : Path) : Location :=
  if path.fromRoot then [] else tree.working

/-- The location that a path leads to. -/
def locate (tree : FileTree) (path : String) : Except FileFault Location := do
  let path ← Path.parse path
  tree.walk (tree.start path) path.names

/-- The location where a path lets a file be made. A path that ends with a slash asks for a
directory, so there is none; this is known as soon as the directory of its last name is found, and
the last name itself is never looked at. -/
def locateFile (tree : FileTree) (path : String) : Except FileFault Location := do
  let path ← Path.parse path
  if path.wantsDirectory then
    let _ ← tree.walk (tree.start path) (path.names.dropLast ++ ["."])
    .error .isDirectory
  else
    tree.walk (tree.start path) path.names

/-- What an existing path leads to. -/
def open? (tree : FileTree) (path : String) : Except FileFault FileNode := do
  let location ← tree.locate path
  match tree.node? location with
  | none => .error .notFound
  | some .directory => .ok .directory
  | some node => if (Path.ofText path).wantsDirectory then .error .notDirectory else .ok node

/-- The path leads to a regular file, whether or not it can be opened. -/
def isFile (tree : FileTree) (path : String) : Bool :=
  match tree.open? path with
  | .ok (.file _) | .ok (.lockedFile _) => true
  | _ => false

/-- The bytes of a file. -/
def read (tree : FileTree) (path : String) : Except FileFault (List UInt8) := do
  match ← tree.open? path with
  | .file bytes => .ok bytes
  | .directory => .error .isDirectory
  | .fullDevice => .ok []
  | .lockedFile fault | .closed fault => .error fault

/-- The text of a file. -/
def readText (tree : FileTree) (path : String) : Except FileFault String := do
  match Text.Utf8.decode (← tree.read path) with
  | .ok text => .ok text
  | .error _ => .error .notText

/-- Opens a file to be written: makes an empty one, or empties the one that is there. A device stays
as it is. With the tree comes the location of what was opened. -/
def create (tree : FileTree) (path : String) : Except FileFault (Location × FileTree) := do
  let location ← tree.locateFile path
  match tree.node? location with
  | some .directory => .error .isDirectory
  | some (.lockedFile fault) | some (.closed fault) => .error fault
  | some .fullDevice => .ok (location, tree)
  | _ => .ok (location, tree.put location (.file []))

/-- The bytes that there is room for. -/
def fitting (tree : FileTree) (bytes : List UInt8) : List UInt8 :=
  match tree.room? with
  | none => bytes
  | some room => bytes.take room

/-- Puts bytes into an open file, up to the first for which there is no room. -/
def fill (tree : FileTree) (location : Location) (bytes : List UInt8) :
    FileTree × Option FileFault :=
  match tree.node? location with
  | some .fullDevice => (tree, if bytes.isEmpty then none else some .noSpace)
  | _ =>
    let taken := tree.fitting bytes
    (tree.put location (.file taken), if taken = bytes then none else some .noSpace)

/-- Makes a file or replaces its content. With the tree after that comes the fault, if there was
one. -/
def write (tree : FileTree) (path : String) (bytes : List UInt8) : FileTree × Option WriteFault :=
  match tree.create path with
  | .error fault => (tree, some (.opening fault))
  | .ok (location, opened) =>
    let (left, fault?) := opened.fill location bytes
    (left, fault?.map .writing)

/-- The path of a name in a directory. -/
def join (directory name : String) : String :=
  if directory.isEmpty then name
  else if directory.toList.getLast? = some '/' then directory ++ name
  else directory ++ "/" ++ name

/-- What was put at a location is there. -/
theorem node?_put_self (tree : FileTree) (location : Location) (node : FileNode) :
    (tree.put location node).node? location = some node := by
  simp [put, node?]

end FileTree

end WidgetBuilders
