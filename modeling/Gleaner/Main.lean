import Gleaner.Command

set_option autoImplicit false

/-! The program: the library's operations on the files, variables and streams of the system. -/
namespace Gleaner.Main

def faultOf : IO.Error → FileFault
  | .noFileOrDirectory .. => .missing
  | .permissionDenied .. => .denied
  | _ => .failed

/-- The answer of an action, unless it fails. -/
def attempt {α : Type} (action : IO α) : IO (Option α) := do
  match ← action.toBaseIO with
  | .ok a => pure (some a)
  | .error _ => pure none

def files : FileStore IO where
  read path := do
    match ← (IO.FS.readBinFile path).toBaseIO with
    | .ok bytes => pure (.ok bytes.toList)
    | .error e => pure (.error (faultOf e))
  isFile path := do
    let kind ← attempt do
      let real ← IO.FS.realPath path
      pure ((← real.metadata).type == .file)
    pure (kind.getD false)
  isDirectory path := do
    let kind ← attempt do
      let real ← IO.FS.realPath path
      real.isDir
    pure (kind.getD false)
  names? path := attempt do
    let real ← IO.FS.realPath path
    let entries ← real.readDir
    pure (entries.toList.map fun entry => entry.fileName)

/-- One byte after the other, up to the end of the line or of the input. -/
partial def readLine (input : IO.FS.Stream) (line : List UInt8) : IO (List UInt8) := do
  match (← input.read 1).toList with
  | [] => pure line.reverse
  | byte :: _ => if byte = 10 then pure (byte :: line).reverse else readLine input (byte :: line)

def console : Console IO where
  print text := do (← IO.getStdout).putStr text
  note text := do
    let stream ← IO.getStderr
    stream.putStr text
    stream.flush
  readLine := do readLine (← IO.getStdin) []

/-- The name and the value of a variable. -/
def variableOf (text : String) : String × String :=
  let (name, value) := text.toList.span (· != '=')
  (String.ofList name, String.ofList (value.drop 1))

/-- All variables, in the order of their names. -/
def environment : IO Environment := do
  let bytes ← attempt (IO.FS.readBinFile "/proc/self/environ")
  let text := Text.decodeLossy ((bytes.getD ByteArray.empty).toList)
  let entries := ((Text.split (· == '\x00') text).filter fun s => !s.isEmpty).map variableOf
  pure ⟨entries.mergeSort fun a b => decide (a.1 ≤ b.1)⟩

def surroundings : IO (Surroundings IO) := do
  pure { store := files, environment := ← environment, console, web := Reader.unreachable }

end Gleaner.Main

def main (arguments : List String) : IO UInt32 := do
  let code ← (Gleaner.CommandLine.read arguments).perform (← Gleaner.Main.surroundings)
  pure (UInt32.ofNat code.number)
