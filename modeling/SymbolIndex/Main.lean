import SymbolIndex.Command.Run
import SymbolIndex.Files.Snapshot

/-!
# The program

The arguments say what to do, and standard input holds a snapshot of the files that they name.
-/

namespace SymbolIndex

/-- The lines of a stream up to its end, behind those read so far, newest first. -/
partial def readLines (stream : IO.FS.Stream) (lines : List String) : IO (List String) := do
  let line ← stream.getLine
  if line.isEmpty then return lines.reverse
  let text := if line.endsWith "\n" then String.ofList line.toList.dropLast else line
  readLines stream (text :: lines)

/-- Runs the program on the snapshot that standard input holds, and gives its exit code. -/
def runOnSnapshot (arguments : List String) : IO UInt32 := do
  let stdin ← IO.getStdin
  let lines ← readLines stdin []
  match Files.Snapshot.read? lines with
  | none =>
    IO.eprintln "Error: standard input holds no snapshot"
    return 1
  | some files =>
    let output := Command.run { files } arguments
    IO.print output.stdout
    IO.eprint output.stderr
    return output.code.toUInt32

end SymbolIndex

/-- The program. -/
def main (arguments : List String) : IO UInt32 :=
  SymbolIndex.runOnSnapshot arguments
