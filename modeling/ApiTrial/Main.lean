import ApiTrial.Command.Program

/-!
The program. What it may need is read first: the files that a command names, the usual
configuration, and all files whose paths stand on the standard input, one in a line. Directories are
not listed here, so the files of a directory are those that the standard input names. No network is
attached: every server is out of reach.
-/
namespace ApiTrial

partial def linesOf (stream : IO.FS.Stream) : IO (List String) := do
  let line ← stream.getLine
  if line.isEmpty then return []
  let rest ← linesOf stream
  return (if line.endsWith "\n" then (line.dropEnd 1).toString else line) :: rest

/-- The paths on the standard input, which a terminal does not have. -/
def listedPaths : IO (List String) := do
  let input ← IO.getStdin
  if ← input.isTty then return [] else linesOf input

/-- The files with what is found at a path. -/
def readInto (files : Files) (path : String) : IO Files := do
  try
    return files.put path (.file (← IO.FS.readBinFile path).toList)
  catch
    | .inappropriateType .. => return files.putDirectory path
    | _ => return files

def variableValues : IO (List (String × String)) :=
  Program.variableNames.filterMapM fun name => do
    return (← IO.getEnv name).map (name, ·)

/-- All files at some paths and at the listed ones, seen from the directory of the process. -/
def filesAt (paths : List String) : IO Files := do
  let here ← IO.currentDir
  let start : Files := { top := .empty, here := Path.pieces s!"{here}" }
  if paths.isEmpty then return start
  (paths ++ (← listedPaths)).foldlM readInto start

end ApiTrial

open ApiTrial in
def main (arguments : List String) : IO UInt32 := do
  let values ← variableValues
  let process name := values.lookup name
  let usualConfig? := Program.usualConfig process
  let files ← filesAt (Program.paths usualConfig? arguments)
  let colours := Text.coloursWanted process (← (← IO.getStdout).isTty)
  let ending := Program.run { files, process, usualConfig? } colours arguments
  IO.print ending.output
  IO.eprint ending.complaint
  return ending.code.toUInt32
