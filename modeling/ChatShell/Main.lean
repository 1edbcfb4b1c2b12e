-- The program at a terminal: it reads the files its options name, and then either
-- prints one answer or takes lines until they end.
import ChatShell.Console.Paths
import ChatShell.Console.Program

namespace ChatShell.Console

/-- Prints and flushes. -/
def put (out err : String) : IO Unit := do
  (← IO.getStdout).putStr out
  (← IO.getStdout).flush
  (← IO.getStderr).putStr err

/-- The content of a file, or why there is none. -/
def readFile (path : String) : IO (Except ReadFault Text.Bytes) := do
  try
    return .ok (← IO.FS.readBinFile path).toList
  catch
    | .noFileOrDirectory .. => return .error .missing
    | .inappropriateType .. => return .error .directory
    | _ => return .error .missing

/-- The disk with the files at the given paths. -/
def diskWith (paths : List String) : IO Disk := do
  let read ← paths.mapM fun p => do return (p, ← readFile p)
  return fun path => (read.lookup path).getD (.error .missing)

/-- Takes lines from standard input until they end or the session does. -/
partial def takeLines (disk : Disk) (s : Session) : IO Unit := do
  let text ← (← IO.getStdin).getLine
  if text.isEmpty then put farewell ""
  else
    let (s, result) := s.line disk (typed (withoutLineEnd text))
    let (out, err) := printedFor result
    put out err
    unless s.quit do takeLines disk s

end ChatShell.Console

open ChatShell.Console in
/-- Runs the program. -/
def main (args : List String) : IO UInt32 := do
  match options args with
  | .error e =>
    put e.out e.err
    return UInt32.ofNat e.code
  | .ok o =>
    let env : Environment :=
      { home := (← IO.getEnv "HOME").getD "/tmp"
        configHome := ← IO.getEnv "XDG_CONFIG_HOME"
        dataHome := ← IO.getEnv "XDG_DATA_HOME" }
    let named := o.config.getD env.configFile
    let disk ← diskWith (named :: o.attachments.map (·.2))
    match o.task disk env.configFile (← (← IO.getStdout).isTty) with
    | .finish e =>
      put e.out e.err
      return UInt32.ofNat e.code
    | .converse s =>
      put banner ""
      takeLines disk s
      return 0
