/-!
# Zip archives as bytes

An archive file holds its entries one after another, each behind a record with its name and
checksum, then a directory that lists them again with the places where they start, and a record
that closes the file. Entries are stored as they are. `Zip.encode` writes the whole file; an
archive without entries is the closing record alone.
-/

namespace SymbolIndex.Zip

/-- An entry: its name and what it holds. -/
abbrev Entry := String × List UInt8

/-! ## Fields -/

/-- A number as two bytes, the low one first. -/
def short (n : Nat) : List UInt8 :=
  [n.toUInt8, (n / 256).toUInt8]

/-- A number as four bytes, the lowest first. -/
def long (n : Nat) : List UInt8 :=
  short n ++ short (n / 65536)

/-- One bit of the checksum: a division by the polynomial of CRC-32. -/
def divideBit (sum : UInt32) : UInt32 :=
  if sum &&& 1 = 1 then (sum >>> 1) ^^^ 0xEDB88320 else sum >>> 1

/-- The checksum with one more byte. -/
def addByte (sum : UInt32) (byte : UInt8) : UInt32 :=
  Nat.repeat divideBit 8 (sum ^^^ byte.toUInt32)

/-- The CRC-32 checksum of bytes. -/
def checksum (data : List UInt8) : UInt32 :=
  data.foldl addByte 0xFFFFFFFF ^^^ 0xFFFFFFFF

/-! ## Records -/

/-- The mark that an entry starts with. -/
def entryMark : List UInt8 := [0x50, 0x4B, 0x03, 0x04]

/-- The mark of a line of the directory. -/
def listingMark : List UInt8 := [0x50, 0x4B, 0x01, 0x02]

/-- The mark of the record at the end. -/
def endMark : List UInt8 := [0x50, 0x4B, 0x05, 0x06]

/-- The bytes of an entry's name. -/
def nameBytes (entry : Entry) : List UInt8 :=
  entry.1.toUTF8.toList

/-- The flag of a name that is not ASCII. -/
def nameFlag (entry : Entry) : Nat :=
  if entry.1.toList.all fun c => c.toNat < 128 then 0 else 0x800

/-- What an entry and its line in the directory have in common: the version, the name's flag, the
plain method, the first day of 1980, the checksum, the sizes, and the length of the name. -/
def summary (entry : Entry) : List UInt8 :=
  short 20 ++ short (nameFlag entry) ++ short 0 ++ short 0 ++ short 33
    ++ long (checksum entry.2).toNat ++ long entry.2.length ++ long entry.2.length
    ++ short (nameBytes entry).length ++ short 0

/-- An entry with its record. -/
def record (entry : Entry) : List UInt8 :=
  entryMark ++ summary entry ++ nameBytes entry ++ entry.2

/-- An entry's line in the directory: a plain file that its owner can write. -/
def listing (start : Nat) (entry : Entry) : List UInt8 :=
  listingMark ++ short 0x32E ++ summary entry ++ short 0 ++ short 0 ++ short 0
    ++ long 0x81A40000 ++ long start ++ nameBytes entry

/-- The lines of the directory for entries of which the first one starts at `start`. -/
def directory (start : Nat) : List Entry → List UInt8
  | [] => []
  | entry :: rest => listing start entry ++ directory (start + (record entry).length) rest

/-- The record at the end: how many entries there are, and where the directory lies. -/
def endRecord (count size start : Nat) : List UInt8 :=
  endMark ++ short 0 ++ short 0 ++ short count ++ short count ++ long size ++ long start ++ short 0

/-- The bytes of an archive. -/
def encode (entries : List Entry) : List UInt8 :=
  let records := entries.flatMap record
  let listings := directory 0 entries
  records ++ listings ++ endRecord entries.length listings.length records.length

end SymbolIndex.Zip
