import ScriptBridge.Files.Path
import ScriptBridge.Text.Utf8

/-!
# Files

The files that scripts read and write, as a tree of directories, files and symbolic links. A place
in it is the list of names on the way there from the root. A path names a place by way of links, `.`
and `..`; a path that goes over too many links names none.

- `Files.resolve`: the place that a path names.
- `Files.read`, `Files.write`: the text of a file.
- `Files.canonical?`: the path of that place without links.
-/

namespace ScriptBridge

inductive FileError where
  | notFound
  /-- A name follows something that is no directory. -/
  | notADirectory
  | isADirectory
  | nameTooLong
  | tooManyLinks
  /-- No path has a character of code zero. -/
  | zeroInPath
  /-- The octets of the file are no text. -/
  | notText
  deriving DecidableEq

def FileError.message : FileError → String
  | notFound => "No such file or directory (os error 2)"
  | notADirectory => "Not a directory (os error 20)"
  | isADirectory => "Is a directory (os error 21)"
  | nameTooLong => "File name too long (os error 36)"
  | tooManyLinks => "Too many levels of symbolic links (os error 40)"
  | zeroInPath => "file name contained an unexpected NUL byte"
  | notText => "stream did not contain valid UTF-8"

/-- The names on the way from the root. -/
abbrev Place : Type := List String

/-- A place, or why there is none. -/
abbrev Located : Type := Except FileError Place

/-- What stands at a place. -/
inductive FileNode where
  | directory (writable : Bool)
  | file (octets : List UInt8)
  | link (target : String)
  deriving DecidableEq, Inhabited

/-- A file system, and the directory from which relative paths start. -/
structure Files where
  /-- What stands where, in increasing order of the places; the root is not listed. -/
  nodes : List (Place × FileNode) := []
  start : Place := []
  deriving Inhabited

namespace Files

/-! ## Nodes -/

def node? (fs : Files) (place : Place) : Option FileNode :=
  if place = [] then some (.directory true) else fs.nodes.lookup place

def insertNode (place : Place) (n : FileNode) : List (Place × FileNode) → List (Place × FileNode)
  | [] => [(place, n)]
  | (p, old) :: rest =>
    if place = p then (place, n) :: rest
    else if place < p then (place, n) :: (p, old) :: rest
    else (p, old) :: insertNode place n rest

def put (fs : Files) (place : Place) (n : FileNode) : Files :=
  { fs with nodes := insertNode place n fs.nodes }

/-! ## Paths -/

def maxLinks : Nat := 40

/-- The number of octets that a name may have. -/
def maxName : Nat := 255

/-- The number of octets that a path may have. -/
def maxPath : Nat := 4095

/-- Where a path starts that is met at a place. -/
def origin (place : Place) (path : String) : Place := if Path.isAbsolute path then [] else place

/-- Where one name leads from a place. -/
inductive Step where
  | toPlace (place : Place)
  /-- Over a link: the names of its target are to be followed from a place. -/
  | overLink (place : Place) (names : List String)

/-- Where a name leads from a place that must be a directory; something stands there. -/
def step (fs : Files) (place : Place) (name : String) : Except FileError Step :=
  match fs.node? place with
  | some (.directory _) =>
    if name = "" ∨ name = "." then .ok (.toPlace place)
    else if name = ".." then .ok (.toPlace place.dropLast)
    else if maxName < name.utf8ByteSize then .error .nameTooLong
    else
      match fs.node? (place ++ [name]) with
      | none => .error .notFound
      | some (.link target) => .ok (.overLink (origin place target) (Path.names target))
      | some _ => .ok (.toPlace (place ++ [name]))
  | _ => .error .notADirectory

/-- The place reached by names from a place; `jump` goes on after a link. -/
def walkWith (fs : Files) (jump : Place → List String → Located) : Place → List String → Located
  | place, [] => .ok place
  | place, name :: rest =>
    match fs.step place name with
    | .ok (.toPlace next) => fs.walkWith jump next rest
    | .ok (.overLink next names) => jump next (names ++ rest)
    | .error e => .error e

/-- The place reached by names from a place, over at most so many links. -/
def walkOver (fs : Files) : Nat → Place → List String → Located
  | 0 => fs.walkWith fun _ _ => .error .tooManyLinks
  | links + 1 => fs.walkWith (fs.walkOver links)

def walk (fs : Files) (place : Place) (names : List String) : Located :=
  fs.walkOver maxLinks place names

def checkText (path : String) : Except FileError Unit :=
  if path.toList.contains (Char.ofNat 0) then .error .zeroInPath
  else if path = "" then .error .notFound
  else .ok ()

def checkPath (path : String) : Except FileError Unit := do
  checkText path
  if maxPath < path.utf8ByteSize then .error .nameTooLong else .ok ()

/-- The place that a path names; something stands there. -/
def resolve (fs : Files) (path : String) : Located := do
  checkPath path
  fs.walk (origin fs.start path) (Path.names path)

/-- The path without links, `.` and `..` of what a path names. The names are looked up one by one,
so the path may be of any length. -/
def canonical? (fs : Files) (path : String) : Option String :=
  match checkText path, fs.walk (origin fs.start path) (Path.names path) with
  | .ok _, .ok place => some (Path.ofNames place)
  | _, _ => none

/-- What a path names. -/
def look? (fs : Files) (path : String) : Option FileNode := (fs.resolve path).toOption.bind fs.node?

def contains (fs : Files) (path : String) : Bool := (fs.resolve path).isOk

def isDirectory (fs : Files) (path : String) : Bool :=
  match fs.look? path with
  | some (.directory _) => true
  | _ => false

def isWritableDirectory (fs : Files) (path : String) : Bool :=
  match fs.look? path with
  | some (.directory writable) => writable
  | _ => false

/-! ## Contents -/

def read (fs : Files) (path : String) : Except FileError String := do
  match fs.node? (← fs.resolve path) with
  | some (.file octets) =>
    match Utf8.read? octets with
    | some text => return text
    | none => .error .notText
  | _ => .error .isADirectory

/-- The place of the file that is written to under a name in a directory. The file need not be there
yet; `jump` goes on after a link. -/
def slotAt (fs : Files) (jump : Place → List String → Located) (place : Place) (name : String) :
    Located := do
  if name = "" ∨ name = "." ∨ name = ".." then
    let _ ← fs.step place "."
    .error .isADirectory
  else
    match fs.step place name with
    | .ok (.overLink next names) => jump next names
    | .ok (.toPlace next) =>
      match fs.node? next with
      | some (.directory _) => .error .isADirectory
      | _ => return next
    | .error .notFound => return place ++ [name]
    | .error e => .error e

/-- The place of the file that names from a place are written to; `jump` goes on after a link. A
name with a slash after it is that of a directory. -/
def slotWith (fs : Files) (jump : Place → List String → Located) : Place → List String → Located
  | place, [] => fs.slotAt jump place ""
  | place, [name] => fs.slotAt jump place name
  | place, [_, ""] => fs.slotAt jump place ""
  | place, name :: rest =>
    match fs.step place name with
    | .ok (.toPlace next) => fs.slotWith jump next rest
    | .ok (.overLink next names) => jump next (names ++ rest)
    | .error e => .error e

/-- The place of the file that names from a place are written to, over at most so many links. -/
def slotOver (fs : Files) : Nat → Place → List String → Located
  | 0 => fs.slotWith fun _ _ => .error .tooManyLinks
  | links + 1 => fs.slotWith (fs.slotOver links)

/-- The place of the file that a path is written to. -/
def slot (fs : Files) (path : String) : Located := do
  checkPath path
  fs.slotOver maxLinks (origin fs.start path) (Path.names path)

def octetsAt (fs : Files) (place : Place) : List UInt8 :=
  match fs.node? place with
  | some (.file octets) => octets
  | _ => []

/-- The file system after a text was written to a file, in place of its contents or after them. -/
def write (fs : Files) (path : String) (append : Bool) (text : String) :
    Except FileError Files := do
  let place ← fs.slot path
  let before := if append then fs.octetsAt place else []
  return fs.put place (.file (before ++ Utf8.encode text))

/-! ## Setting up -/

/-- The file system with a directory at a place, and the directories on the way there. -/
def makeDirectory (fs : Files) (place : Place) (writable : Bool) : Files :=
  let above := (List.range place.length).map fun n => place.take n
  let fs := above.foldl
    (fun fs p => if (fs.node? p).isSome then fs else fs.put p (.directory true)) fs
  match fs.node? place with
  | some (.directory _) => if writable then fs else fs.put place (.directory false)
  | _ => fs.put place (.directory writable)

/-! ## Listing -/

/-- The names in a directory, in increasing order. -/
def namesIn (fs : Files) (place : Place) : List String :=
  fs.nodes.filterMap fun e => if e.1.dropLast = place then e.1.getLast? else none

/-- The files that names from a place lead to, going so many directories deep, each with its path
from there. A link counts as what it leads to. -/
def listingTo (fs : Files) (place : Place) : Nat → List String → List (String × List UInt8)
  | 0, _ => []
  | depth + 1, names =>
    match fs.walk place names with
    | .error _ => []
    | .ok there =>
      match fs.node? there with
      | some (.file octets) => [("/".intercalate names, octets)]
      | some (.directory _) =>
        (fs.namesIn there).flatMap fun name => fs.listingTo place depth (names ++ [name])
      | _ => []

/-- The files below a place in the order of their paths, each with its path from there. Between two
of the links on a path it goes down through distinct directories, which bounds its length. -/
def listing (fs : Files) (place : Place) : List (String × List UInt8) :=
  fs.listingTo place ((maxLinks + 1) * (fs.nodes.length + 1)) []

end Files

end ScriptBridge
