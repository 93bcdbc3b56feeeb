import Requote.Cli.Outcome

/-!
# The command line program

Takes the files below the working directory as they are, runs what the arguments ask for, writes the
files that the run changed, and prints its two output texts.
-/

namespace Requote.Cli

/-- How many directories deep files are looked for. -/
def maxDirectories : Nat := 64

/-- A file or directory and what is below it. Contents that are not wanted are left empty. -/
partial def snapshot (wanted : Key → Bool) (parents : Key) (entry : IO.FS.DirEntry) :
    IO (List (Key × Entry)) := do
  let key := parents ++ [entry.fileName.toList]
  if ← entry.path.isDir then
    let children ← if key.length < maxDirectories then entry.path.readDir else pure #[]
    let below ← children.toList.mapM (snapshot wanted key)
    return (key, .directory) :: below.flatten
  else
    let bytes ← if wanted key then IO.FS.readBinFile entry.path else pure .empty
    return [(key, .file bytes)]

/-- The files below the working directory, with the contents that a run can need. -/
def currentFiles (arguments : Arguments) : IO Files := do
  let isNamed (key : Key) :=
    match arguments.action with
    | .list _    => true
    | .convert c =>
      [some configFile, arguments.config?, c.file?].any fun path =>
        path.any fun p => p.getLast? != some '/' && (Path.split p).getLast? == key.getLast?
  let entries ← (← IO.currentDir).readDir
  return ⟨(← entries.toList.mapM (snapshot isNamed [])).flatten⟩

/-- All bytes of standard input. -/
partial def readAll (done : ByteArray) : IO ByteArray := do
  let more ← (← IO.getStdin).read 65536
  if more.isEmpty then return done else readAll (done ++ more)

/-- Writes the files whose contents differ from those before. -/
def writeChanges (before after : Files) : IO Unit := do
  for (key, entry) in after.entries do
    match entry, before.get? key with
    | .file new, some (.file old) =>
      if new != old then IO.FS.writeBinFile (String.ofList (Path.join key)) new
    | _, _ => pure ()

end Requote.Cli

open Requote Requote.Cli in
/-- Runs the program. -/
def main (args : List String) : IO UInt32 := do
  let stdout ← IO.getStdout
  let stderr ← IO.getStderr
  match Invocation.ofArguments (args.map String.toList) with
  | .misuse =>
    stderr.putStr (String.ofList helpText)
    return 2
  | .help =>
    stdout.putStr (String.ofList helpText)
    return 0
  | .version =>
    stdout.putStr (String.ofList versionText)
    return 0
  | .run arguments =>
    let files ← currentFiles arguments
    let stdin ← if arguments.readsInput then readAll .empty else pure .empty
    let outcome := Cli.run arguments stdin files
    writeChanges files outcome.files
    stdout.putStr (String.ofList outcome.stdout)
    stderr.putStr (String.ofList outcome.stderr)
    return outcome.exit.toUInt32
