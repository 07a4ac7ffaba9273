import Workcell.Errno
import Workcell.Path

namespace Workcell

/-- What stands at a place of the file system. A `denied` entry is a file that can be neither opened nor
run. -/
inductive Entry
  | directory
  | file (content : List UInt8) (executable : Bool)
  | denied (content : List UInt8)
  | link (target : String)
  deriving DecidableEq, Repr

abbrev Place := List String

/-- Entries by place; the root is always a directory and not listed. -/
structure Filesystem where
  entries : List (Place × Entry)
  deriving Repr

def longestName : Nat := 255

def linkBudget : Nat := 40

namespace Filesystem

def empty : Filesystem := ⟨[]⟩

def entry? (fs : Filesystem) : Place → Option Entry
  | [] => some .directory
  | place => fs.entries.lookup place

def set (fs : Filesystem) (place : Place) (e : Entry) : Filesystem :=
  ⟨(place, e) :: fs.entries⟩

def makeParents (fs : Filesystem) (place : Place) : Filesystem :=
  (List.range place.length).foldl (fun fs n =>
    if (fs.entry? (place.take n)).isNone then fs.set (place.take n) .directory else fs) fs

def put (fs : Filesystem) (place : Place) (e : Entry) : Filesystem :=
  (fs.makeParents place).set place e

/-- The place that a path leads to when its components are followed from the directory `base`. The last
component need not exist; every other one must be a directory or a link to one. -/
def walk (fs : Filesystem) : (budget : Nat) → (base : Place) → List String → Except Errno Place
  | _, base, [] => .ok base
  | budget, base, c :: rest =>
    if c = ".." then walk fs budget base.dropLast rest
    else if longestName < c.utf8ByteSize then .error .nameTooLong
    else match fs.entry? (base ++ [c]) with
      | none => if rest = [] then .ok (base ++ [c]) else .error .noEntry
      | some (.link target) => match budget with
        | 0 => .error .tooManyLinks
        | budget + 1 =>
          let base := if (Path.ofString target).isAbsolute then [] else base
          walk fs budget base (componentsOf target ++ rest)
      | some .directory => walk fs budget (base ++ [c]) rest
      | some _ => if rest = [] then .ok (base ++ [c]) else .error .notDirectory
  termination_by budget _ todo => (budget, todo.length)

def locate (fs : Filesystem) (base : Place) (p : Path) : Except Errno Place :=
  fs.walk linkBudget (if p.isAbsolute then [] else base) p.parts

def lookup (fs : Filesystem) (base : Place) (p : Path) : Except Errno (Place × Entry) :=
  match fs.locate base p with
  | .error e => .error e
  | .ok place => match fs.entry? place with
    | none => .error .noEntry
    | some e => .ok (place, e)

def read (fs : Filesystem) (base : Place) (p : Path) : Except Errno (List UInt8) :=
  match fs.lookup base p with
  | .error e => .error e
  | .ok (_, .file content _) => .ok content
  | .ok (_, .directory) => .error .isDirectory
  | .ok (_, .denied _) => .error .permissionDenied
  | .ok (_, .link _) => .error .tooManyLinks

/-- Opens the file that a path leads to for appending, and makes an empty one if there is none. -/
def openAppend (fs : Filesystem) (base : Place) (p : Path) : Except Errno (Filesystem × Place) :=
  match fs.locate base p with
  | .error e => .error e
  | .ok place => match fs.entry? place with
    | none => .ok (fs.set place (.file [] false), place)
    | some (.file ..) => .ok (fs, place)
    | some .directory => .error .isDirectory
    | some (.denied _) => .error .permissionDenied
    | some (.link _) => .error .tooManyLinks

def append (fs : Filesystem) (place : Place) (bytes : List UInt8) : Filesystem :=
  match fs.entry? place with
  | some (.file content executable) => fs.set place (.file (content ++ bytes) executable)
  | _ => fs

def contentAt (fs : Filesystem) (base : Place) (p : Path) : Option (List UInt8) :=
  match fs.lookup base p with
  | .ok (_, .file content _) => some content
  | .ok (_, .denied content) => some content
  | _ => none

end Filesystem

end Workcell
