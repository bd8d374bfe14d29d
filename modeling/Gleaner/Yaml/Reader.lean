import Gleaner.Yaml.Node
import Gleaner.Yaml.Scalar

set_option autoImplicit false

/-! Reading YAML. -/
namespace Gleaner.Yaml

/-- How deep lists and tables nest at most. -/
def nestingLimit : Nat := 128

/-- A reading that counts the aliases it follows. -/
abbrev Follow := StateT Nat Option

/-- The nodes that aliases stand for, and how often aliases may be followed. -/
structure Targets where
  nodes : List (Nat × Node)
  limit : Nat

/-- Of the nodes with one number the last one counts. -/
def Targets.ofNode (root : Node) : Targets :=
  ⟨root.anchored.reverse, 100 * root.eventCount⟩

/-- The node itself, or the one that it is an alias of. -/
def follow (targets : Targets) (node : Node) : Follow Node :=
  match node with
  | .alias anchor => do
      let count ← get
      if targets.limit ≤ count then failure
      set (count + 1)
      match targets.nodes.lookup anchor with
      | some target => pure target
      | none => failure
  | other => pure other

/-- The text of a scalar that is a key. -/
def keyOf (targets : Targets) (node : Node) : Follow String := do
  match ← follow targets node with
  | .scalar _ _ text => pure text
  | _ => failure

/-- Tags that only a document gives meaning to are not known. -/
def refuseLocal (marks : NodeMarks) : Follow Unit :=
  if (marks.tag.map isLocalTag).getD false then failure else pure ()

/-- What a node stands for, in which lists and tables may nest to the given depth. -/
def toTree (targets : Targets) : Nat → Node → Follow Tree
  | depth, node => do
      match ← follow targets node with
      | .scalar marks isPlain text =>
          match scalarTree? marks.tag isPlain text with
          | some tree => pure tree
          | none => failure
      | .list marks items => do
          refuseLocal marks
          match depth with
          | 0 => failure
          | depth + 1 => Tree.list <$> items.mapM (toTree targets depth)
      | .table marks entries => do
          refuseLocal marks
          match depth with
          | 0 => failure
          | depth + 1 => Tree.tableOf <$> entries.mapM fun entry => do
              let key ← keyOf targets entry.1
              pure (key, ← toTree targets depth entry.2)
      | .alias _ => failure

/-- The table that a document holds; its own tag does not matter, and an empty document is an empty
table. -/
def rootTree? : Option Node → Option Tree
  | none => some (.table [])
  | some (.scalar _ true "") => some (.table [])
  | some (.table marks entries) =>
      let root : Node := .table { marks with tag := none } entries
      (toTree (Targets.ofNode root) nestingLimit root 0).map (·.1)
  | some _ => none

/-- Reads a whole document. -/
def read? (text : String) : Option Tree := do
  rootTree? (← Node.ofText? text)

end Gleaner.Yaml
