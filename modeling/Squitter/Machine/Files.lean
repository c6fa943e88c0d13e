import Squitter.Endpoint
import Squitter.Error
import Squitter.Table

/-!
# A file system in memory

`Files` holds numbered **nodes**: regular files, directories, symbolic links, and the null device,
which is empty and takes everything. Paths are walked from the root; a link on the way is followed,
and a link at the end only if asked for.
-/

namespace Squitter

/-- What a number in the file system stands for. -/
inductive Node
  | file (data : Bytes)
  | directory (entries : List (String × Nat))
  | link (target : String)
  | null

/-- The nodes; the root is node 0. -/
structure Files where
  nodes : Table Node
  next : Nat

/-- Where a path leads: the directory and name of its last part, and the node if there is one. -/
structure Place where
  parent : Nat
  name : String
  node : Option Nat

namespace Files

/-- A file system with an empty root. -/
def empty : Files := ⟨Table.empty.insert 0 (.directory []), 1⟩

/-- The parts of a path; one that ends in a slash means the directory itself. -/
def parts (path : String) : List String :=
  let names := path.splitOn "/"
  let last := if names.getLast? = some "" then ["."] else []
  names.filter (· ≠ "") ++ last

/-- The entries of a directory. -/
def entries? (fs : Files) (dir : Nat) : Option (List (String × Nat)) :=
  match fs.nodes.get? dir with
  | some (.directory entries) => some entries
  | _ => none

/-- Walk the parts of a path from a directory, given with the directories above it. The fuel bounds
the number of parts, those of links included. -/
def walk (fs : Files) (follow : Bool) : Nat → List Nat → List String → Except IoError Place
  | 0, _, _ => .error .tooManyLinks
  | _ + 1, above, [] => .ok ⟨above.headD 0, ".", some (above.headD 0)⟩
  | fuel + 1, above, name :: rest =>
    let here := above.headD 0
    match fs.entries? here with
    | none => .error .notDirectory
    | some entries =>
      if name = "." then fs.walk follow fuel above rest
      else if name = ".." then
        fs.walk follow fuel (if above.length ≤ 1 then above else above.tail) rest
      else
        match entries.lookup name with
        | none => if rest.isEmpty then .ok ⟨here, name, none⟩ else .error .noSuchEntry
        | some node =>
          match fs.nodes.get? node with
          | some (.link target) =>
            if rest.isEmpty ∧ ¬ follow then .ok ⟨here, name, some node⟩
            else
              fs.walk follow fuel (if target.startsWith "/" then [0] else above)
                (parts target ++ rest)
          | some (.directory _) => fs.walk follow fuel (node :: above) rest
          | _ => if rest.isEmpty then .ok ⟨here, name, some node⟩ else .error .notDirectory

/-- Where a path leads, from the root. -/
def locate (fs : Files) (follow : Bool) (path : String) : Except IoError Place :=
  if path = "" then .error .noSuchEntry else fs.walk follow 400 [0] (parts path)

/-- The node at a path, links followed. -/
def nodeAt? (fs : Files) (path : String) : Option (Nat × Node) :=
  match fs.locate true path with
  | .ok ⟨_, _, some n⟩ => (fs.nodes.get? n).map (n, ·)
  | _ => none

/-- The content of the file at a path. -/
def contentAt? (fs : Files) (path : String) : Option Bytes :=
  match fs.nodeAt? path with
  | some (_, .file data) => some data
  | _ => none

/-- The target of the link at a path. -/
def linkAt? (fs : Files) (path : String) : Option String :=
  match fs.locate false path with
  | .ok ⟨_, _, some n⟩ =>
    match fs.nodes.get? n with
    | some (.link target) => some target
    | _ => none
  | _ => none

/-- Replace a node. -/
def setNode (fs : Files) (n : Nat) (node : Node) : Files :=
  { fs with nodes := fs.nodes.insert n node }

/-- Add a node under a new name. -/
def create (fs : Files) (parent : Nat) (name : String) (node : Node) : Nat × Files :=
  let fs := { fs with nodes := fs.nodes.insert fs.next node, next := fs.next + 1 }
  let entries := (fs.entries? parent).getD []
  (fs.next - 1, fs.setNode parent (.directory (entries ++ [(name, fs.next - 1)])))

/-- Remove a name that is there. The node stays for those who have it open. -/
def unlink (fs : Files) (p : Place) : Files :=
  fs.setNode p.parent (.directory (((fs.entries? p.parent).getD []).filter (·.1 ≠ p.name)))

/-- How a file is to be opened. -/
structure OpenMode where
  reads : Bool
  writes : Bool
  create : Bool
  truncate : Bool
  append : Bool
  follow : Bool

/-- How the bus opens files: links are not followed. -/
def OpenMode.ofFileMode (mode : FileMode) (alsoRead : Bool) : OpenMode :=
  match mode with
  | .read => ⟨true, false, false, false, false, false⟩
  | .write => ⟨alsoRead, true, true, true, false, false⟩
  | .append => ⟨alsoRead, true, true, false, true, false⟩

/-- Open a file: the node, after it was created or emptied as needed. -/
def openNode (fs : Files) (path : String) (m : OpenMode) : Except IoError (Nat × Files) := do
  let p ← fs.locate m.follow path
  match p.node with
  | none => if m.create then return fs.create p.parent p.name (.file []) else throw .noSuchEntry
  | some n =>
    match fs.nodes.get? n with
    | some (.link _) => throw .tooManyLinks
    | some (.directory _) => if m.writes then throw .isDirectory else return (n, fs)
    | some (.file _) => return (n, if m.truncate then fs.setNode n (.file []) else fs)
    | _ => return (n, fs)

/-- Put bytes into a file at an offset, in place of what is there; a gap is filled with zeros. -/
def splice (data : Bytes) (offset : Nat) (bytes : Bytes) : Bytes :=
  data.take offset ++ List.replicate (offset - data.length) 0 ++ bytes ++
    data.drop (offset + bytes.length)

end Files

end Squitter
