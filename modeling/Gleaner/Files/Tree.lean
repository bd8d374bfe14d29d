import Gleaner.Files.Path
import Gleaner.Files.Store
import Gleaner.Text.Utf8

set_option autoImplicit false

/-! Files in memory: a tree of directories, with one of them to start relative paths from. -/
namespace Gleaner

inductive FileNode where
  | file (content : List UInt8)
  | directory (entries : List (String × FileNode))

namespace FileNode

instance : Inhabited FileNode := ⟨.directory []⟩

def entries : FileNode → List (String × FileNode)
  | .file _ => []
  | .directory entries => entries

/-- The node of an entry. -/
def child? (name : String) (node : FileNode) : Option FileNode :=
  node.entries.lookup name

/-- Puts an entry into a list, in place of one of that name. -/
def replace (name : String) (node : FileNode) (entries : List (String × FileNode)) :
    List (String × FileNode) :=
  entries.filter (fun e => e.1 != name) ++ [(name, node)]

/-- Changes the node at the end of a way of names; directories on the way are made. -/
def update (change : FileNode → FileNode) : List String → FileNode → FileNode
  | [], node => change node
  | name :: names, node =>
      .directory (replace name (update change names ((node.child? name).getD default)) node.entries)

end FileNode

/-- A root directory, and the way from it to the working directory. -/
structure FileTree where
  root : FileNode
  working : List String

namespace FileTree

/-- The longest name, in bytes. -/
def longestName : Nat := 255

/-- The longest path, in bytes. -/
def longestPath : Nat := 4095

/-- One step from the directory that heads the list, behind which are those above it. -/
def step (name : String) : List FileNode → Except FileFault (List FileNode)
  | .directory entries :: above =>
      if name = "" ∨ name = "." then .ok (.directory entries :: above)
      else if name = ".." then
        match above with
        | [] => .ok [.directory entries]
        | _ => .ok above
      else if longestName < Text.byteLength name.toList then .error .failed
      else
        match entries.lookup name with
        | some node => .ok (node :: .directory entries :: above)
        | none => .error .missing
  | _ => .error .failed

/-- Several steps. -/
def steps : List String → List FileNode → Except FileFault (List FileNode)
  | [], place => .ok place
  | name :: names, place => do steps names (← step name place)

/-- The node that a path leads to. -/
def find (tree : FileTree) (path : String) : Except FileFault FileNode := do
  if path.toList.contains '\x00' then throw .failed
  if path.isEmpty then throw .missing
  if longestPath < Text.byteLength path.toList then throw .failed
  let start ← if Path.isAbsolute path then pure [tree.root] else steps tree.working [tree.root]
  match ← steps (Path.stretches path) start with
  | node :: _ => pure node
  | [] => throw .missing

def read (tree : FileTree) (path : String) : Except FileFault (List UInt8) := do
  match ← tree.find path with
  | .file content => pure content
  | .directory _ => throw .failed

def isFile (tree : FileTree) (path : String) : Bool :=
  match tree.find path with
  | .ok (.file _) => true
  | _ => false

def isDirectory (tree : FileTree) (path : String) : Bool :=
  match tree.find path with
  | .ok (.directory _) => true
  | _ => false

def names? (tree : FileTree) (path : String) : Option (List String) :=
  match tree.find path with
  | .ok (.directory entries) => some (entries.map (·.1))
  | _ => none

/-- The names on the way from the root to where a path leads, dots aside. -/
def way (tree : FileTree) (path : String) : List String :=
  let names := (Path.stretches path).filter fun name => name != "" && name != "."
  if Path.isAbsolute path then names else tree.working ++ names

/-- Makes a directory, and those above it. -/
def makeDirectory (path : String) (tree : FileTree) : FileTree :=
  { tree with root := tree.root.update (fun node => .directory node.entries) (tree.way path) }

/-- Writes a file; directories above it are made. -/
def write (path : String) (content : List UInt8) (tree : FileTree) : FileTree :=
  { tree with root := tree.root.update (fun _ => .file content) (tree.way path) }

/-- A tree with an empty working directory. -/
def empty (working : String) : FileTree :=
  let start : FileTree := ⟨.directory [], []⟩
  { start.makeDirectory working with working := start.way working }

/-- The operations on a tree that stays as it is. -/
def store {m : Type → Type} [Monad m] (tree : FileTree) : FileStore m where
  read path := pure (tree.read path)
  isFile path := pure (tree.isFile path)
  isDirectory path := pure (tree.isDirectory path)
  names? path := pure (tree.names? path)

end FileTree

end Gleaner
