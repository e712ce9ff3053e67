import SymbolIndex.ClassFile.Pool
import SymbolIndex.Declaration

/-!
# Class files

`parse` reads what a class file declares: its path, its supertypes, its fields and its methods.
Constructors and static initialisers are no members that source code can name, so they are left
out. Bytes behind the last attribute are not looked at.
-/

namespace SymbolIndex.ClassFile

/-- The number every class file starts with. -/
def magic : Nat := 0xCAFEBABE

/-- The methods that source code cannot name. -/
def isInitializer (name : String) : Bool :=
  name == "<init>" || name == "<clinit>"

/-- Passes over one attribute. -/
def readAttribute : Reader (Option Unit) := do
  let _nameIndex ← Reader.u2
  let length ← Reader.u4
  Reader.skip length
  return none

/-- Passes over a counted list of attributes. -/
def skipAttributes : Reader Unit := do
  let count ← Reader.u2
  let _ ← Reader.collect readAttribute count

/-- The name and the descriptor of a member. Its attributes are passed over before the two are
looked up. -/
def readNamed (pool : Pool) : Reader (String × String) := do
  let _accessFlags ← Reader.u2
  let nameIndex ← Reader.u2
  let descriptorIndex ← Reader.u2
  skipAttributes
  let name ← pool.textAt nameIndex
  let descriptor ← pool.textAt descriptorIndex
  return (name, descriptor)

/-- The type of a field descriptor. -/
def fieldType (descriptor : String) : Except Error JavaType :=
  (Descriptor.fieldType descriptor).mapError Error.descriptor

/-- The return type of a method descriptor. -/
def returnType (descriptor : String) : Except Error JavaType :=
  match Descriptor.methodType descriptor with
  | .ok (_, result) => .ok result
  | .error error => .error (.descriptor error)

/-- A field with its type. -/
def readField (pool : Pool) : Reader (Option Member) := do
  let (name, descriptor) ← readNamed pool
  let type ← fieldType descriptor
  return some { name, type }

/-- A method with its return type; nothing for an initialiser. -/
def readMethod (pool : Pool) : Reader (Option Member) := do
  let (name, descriptor) ← readNamed pool
  if isInitializer name then return none
  let type ← returnType descriptor
  return some { name, type }

/-- The path of an interface. -/
def readInterface (pool : Pool) : Reader (Option String) := do
  let index ← Reader.u2
  let path ← pool.classAt index
  return some path

/-- The super class at a place of the pool; place 0 stands for none. -/
def superClassAt (pool : Pool) (index : Nat) : Except Error (Option String) :=
  if index = 0 then .ok none else (pool.classAt index).map some

/-- The declaration of a class file. -/
def readClass : Reader TypeDecl := do
  let head ← Reader.u4
  if head ≠ magic then throw .badMagic
  Reader.skip 4
  let pool ← readPool
  let _accessFlags ← Reader.u2
  let thisIndex ← Reader.u2
  let superIndex ← Reader.u2
  let path ← pool.classAt thisIndex
  let superClass ← superClassAt pool superIndex
  let interfaces ← Reader.collect (readInterface pool) (← Reader.u2)
  let fields ← Reader.collect (readField pool) (← Reader.u2)
  let methods ← Reader.collect (readMethod pool) (← Reader.u2)
  skipAttributes
  return { path, superClass, interfaces, fields, methods, complete := true }

/-- The declaration that the bytes of a class file hold. -/
def parse (bytes : List UInt8) : Except Error TypeDecl :=
  match readClass bytes with
  | .ok (declaration, _) => .ok declaration
  | .error error => .error error

end SymbolIndex.ClassFile
