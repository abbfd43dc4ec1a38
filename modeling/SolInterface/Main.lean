import SolInterface.CommandLine
import SolInterface.Markup.Render

/-!
The program. It takes a picture of the working directory, carries out the call in it, and then makes
the directories and writes the files that the call added or changed.
-/
namespace SolInterface.Main

/-- A time as a place in the order of the floating-point numbers of seconds. Times are compared as
such numbers: two that round to the same one are equal. -/
def timeOf (t : IO.FS.SystemTime) : Time :=
  let seconds := Float.ofInt t.sec + 1e-9 * Float.ofNat t.nsec.toNat
  -- Numbers of one sign are in the order of their bits.
  let place := seconds.abs.toBits.toNat
  if seconds < 0 then -place else place

/-- What stands at the location and below it. -/
partial def picture (loc : Location) : IO (List (Location × FileTree.Node)) := do
  let p := Path.text ⟨.root, loc⟩
  let here ← IO.FS.realPath (String.ofList p)
  let data ← here.metadata
  let mtime := timeOf data.modified
  match data.type with
  | .dir =>
    let below ← (← here.readDir).mapM fun e => picture (loc ++ [e.fileName.toList])
    return (loc, .directory mtime) :: below.toList.flatten
  | .file => return [(loc, .file (← IO.FS.readBinFile here).toList mtime)]
  | _ => return []

/-- The directories above a location. -/
def above (loc : Location) : List (Location × FileTree.Node) :=
  (List.range loc.length).map fun n => (loc.take n, .directory 0)

/-- Puts on the disk what an entry says. -/
def store (e : Location × FileTree.Node) : IO Unit := do
  let p := String.ofList (Path.text ⟨.root, e.1⟩)
  match e.2 with
  | .directory _ => IO.FS.createDirAll p
  | .file content _ => IO.FS.writeBinFile p ⟨content.toArray⟩

/-- The lines that tell how a call ended, beside those it printed. -/
def errorLines : CommandLine.Outcome → List Text
  | .refused lines => lines
  | .badConfig e => if e.message?.isSome then [] else ["Error: configuration cannot be read"]
  | .aborted failure => ["Error: " ++ failure.message]
  | .done _ => []

def exitCode : CommandLine.Outcome → UInt32
  | .done code => code.toUInt32
  | .refused _ => 2
  | _ => 1

/-- Warnings and errors are always shown, the rest of the log on demand. -/
def isShown (verbose : Bool) (e : Event) : Bool :=
  verbose || e.level == .warning || e.level == .error

end SolInterface.Main

open SolInterface in
def main (args : List String) : IO UInt32 := do
  let arguments := args.map String.toList
  let cwd := Path.parse (← IO.currentDir).toString.toList
  let entries := Main.above cwd.names ++ (← Main.picture cwd.names)
  let latest := entries.foldl (fun t e => max t e.2.mtime) 0
  let before : Workspace := { files := ⟨entries⟩, cwd, now := latest + 1 }
  let (outcome, after) := CommandLine.run Markup.console arguments before
  for e in after.files.entries do
    if before.files.get? e.1 != some e.2 then Main.store e
  for line in after.printed do
    IO.println (String.ofList line)
  let verbose := match CommandLine.parse arguments with
    | .ok o => o.verbose
    | .error _ => false
  for e in after.log.filter (Main.isShown verbose) do
    IO.eprintln (String.ofList e.message)
  for line in Main.errorLines outcome do
    IO.eprintln (String.ofList line)
  return Main.exitCode outcome
