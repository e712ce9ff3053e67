import SymbolIndex.Files.Basic

/-!
# Snapshots of files

A snapshot lists files line by line, with tabs between the fields and bytes in hexadecimal. A path
that starts with a slash counts from the root, every other one from the working directory:

* `dir PATH`: a directory;
* `file PATH BYTES` and `exec PATH BYTES`: a plain file, and one that can be run;
* `zip PATH BYTES`: an archive with what stands in front of it, then one line `entry NAME BYTES`
  for each of its entries;
* `source PATH BYTES`: a Java source, then one line `node DEPTH KIND ROLE FLAGS START STOP` for each
  node of its syntax tree in document order. The flags are the sum of 1 for a word of the grammar,
  2 for an error and 4 for a missing node; the role is empty when there is none.

Reading goes from the last line to the first, so that the entries and nodes are at hand when the
line that they belong to is met.
-/

namespace SymbolIndex.Files.Snapshot

open SymbolIndex.Tree (Label Node)

/-- The value of a hexadecimal digit. -/
def digit? (c : Char) : Option UInt8 :=
  if '0' ≤ c ∧ c ≤ '9' then some (c.toNat - '0'.toNat).toUInt8
  else if 'a' ≤ c ∧ c ≤ 'f' then some (c.toNat - 'a'.toNat + 10).toUInt8
  else none

/-- Reads digits two by two, behind the bytes read so far, newest first. -/
def readBytes (read : List UInt8) : List Char → Option (List UInt8)
  | [] => some read.reverse
  | [_] => none
  | high :: low :: rest =>
    match digit? high, digit? low with
    | some high, some low => readBytes ((high * 16 + low) :: read) rest
    | _, _ => none

/-- The bytes of hexadecimal digits, two digits each. -/
def bytes? (digits : String) : Option (List UInt8) :=
  readBytes [] digits.toList

/-- The text of hexadecimal digits. -/
def text? (digits : String) : Option String := do
  let bytes ← bytes? digits
  String.fromUTF8? ⟨bytes.toArray⟩

/-- What has been read from the lines below: the files, and the entries and nodes that wait for
the line of their file. -/
structure Below where
  files : List (String × FileEntry) := []
  entries : List (String × List UInt8) := []
  nodes : List (Nat × Label) := []

/-- Adds a file; no entries or nodes may be left over. -/
def Below.close (below : Below) (path : String) (entry : FileEntry) : Option Below :=
  if below.entries.isEmpty && below.nodes.isEmpty then
    some { files := (path, entry) :: below.files }
  else none

/-- Adds an archive with the entries that wait for it. -/
def Below.closeArchive (below : Below) (path : String) (leading : List UInt8) : Option Below :=
  { below with entries := [] }.close path (.file (.archive leading below.entries) false)

/-- Adds a source with the nodes that wait for it. -/
def Below.closeSource (below : Below) (path text : String) : Option Below := do
  let tree ← Node.ofPreorder? below.nodes
  { below with nodes := [] }.close path (.file (.source text tree) false)

/-- A node with the given flags. -/
def label (kind role : String) (flags start stop : Nat) : Label where
  kind
  role := if role.isEmpty then none else some role
  named := flags % 2 == 1
  error := flags / 2 % 2 == 1
  missing := flags / 4 % 2 == 1
  start
  stop

/-- Reads the fields of a line. -/
def readFields (fields : List String) (below : Below) : Option Below :=
  match fields with
  | ["dir", path] => below.close path .directory
  | ["file", path, bytes] => do
    below.close path (.file (.bytes (← bytes? bytes)) false)
  | ["exec", path, bytes] => do
    below.close path (.file (.bytes (← bytes? bytes)) true)
  | ["zip", path, bytes] => do below.closeArchive path (← bytes? bytes)
  | ["entry", name, bytes] => do
    return { below with entries := (name, ← bytes? bytes) :: below.entries }
  | ["source", path, bytes] => do below.closeSource path (← text? bytes)
  | ["node", depth, kind, role, flags, start, stop] => do
    let label := label kind role (← flags.toNat?) (← start.toNat?) (← stop.toNat?)
    return { below with nodes := (← depth.toNat?, label) :: below.nodes }
  | _ => none

/-- Reads the lines of a snapshot. -/
def read? (lines : List String) : Option Files := do
  let below ← lines.foldrM (fun line below => readFields (Text.pieces '\t' line) below) {}
  if below.entries.isEmpty && below.nodes.isEmpty then
    return below.files.foldl (fun files (path, entry) => files.add path entry) .empty
  else none

end SymbolIndex.Files.Snapshot
