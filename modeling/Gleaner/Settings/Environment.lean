import Gleaner.Files.Path
import Gleaner.Settings.Variable
import Gleaner.Tree.Merge

set_option autoImplicit false

/-! Settings in environment variables, and the directories that these tell. -/
namespace Gleaner

/-- Variables and their values, in the order in which they count. -/
structure Environment where
  entries : List (String × String)

namespace Environment

def get? (e : Environment) (name : String) : Option String :=
  e.entries.lookup name

/-- What the names of the variables with settings start with, in any case. -/
def settingsMark : List Char := "SIFT_".toList

/-- Writes a dot for every two underscores. -/
def withDots : List Char → List Char
  | '_' :: '_' :: cs => '.' :: withDots cs
  | c :: cs => c :: withDots cs
  | [] => []

/-- The path of keys that a variable sets. Two underscores stand between keys, none of which may be
empty. -/
def settingPath? (name : String) : Option (List String) :=
  let cs := Text.trimChars name.toList
  let start := (cs.take settingsMark.length).map Char.toUpper
  if start = settingsMark then
    let rest := Text.trimChars (withDots (cs.drop settingsMark.length))
    let keys := Text.split (· == '.') (Text.lowerAscii (String.ofList rest))
    if keys.any String.isEmpty then none else some keys
  else none

/-- A value at the end of a path of keys. -/
def nest (value : Tree) : List String → Tree
  | [] => value
  | key :: keys => .table [(key, nest value keys)]

/-- What a variable sets, if it sets anything. -/
def setting? (entry : String × String) : Option Tree :=
  (settingPath? entry.1).map (nest (Variable.read entry.2))

/-- All that the variables set. -/
def settings (e : Environment) : Tree :=
  Tree.mergeAll (e.entries.filterMap setting?)

/-- The directory of the settings of all programs of a user. -/
def userSettings? (e : Environment) : Option String :=
  match (e.get? "XDG_CONFIG_HOME").filter Path.isAbsolute with
  | some directory => some directory
  | none => ((e.get? "HOME").filter fun home => !home.isEmpty).map fun home => Path.join home ".config"

/-- The directory of the settings of this program. -/
def settingsDirectory? (e : Environment) : Option String :=
  e.userSettings?.map fun directory => Path.join directory "sift"

end Environment

end Gleaner
