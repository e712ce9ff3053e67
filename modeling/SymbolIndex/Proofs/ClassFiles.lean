import Mathlib.Data.List.Forall2
import SymbolIndex.ClassFile.Parser
import SymbolIndex.Proofs.Decoding
import SymbolIndex.Proofs.Descriptors

/-!
# Class files are read back

`Layout` is a class file as the format lays it out: the version, the constant pool with an entry for each
of its kinds, the class and its supertypes by their places in the pool, the fields and methods with their
attributes, and the attributes of the class. Counts and lengths fit the numbers that carry them, so every
layout has its bytes (`Layout.bytes`).

`Layout.Declares` says what a layout declares, by the entries that its places point at. An entry is found
by counting places (`entryAt?`): a long or double constant takes two of them, and the second holds nothing.

`parse_bytes` is the main law: the bytes of a layout are read as what it declares, whatever stands behind
them. It is put together from what each reader takes off the front of the bytes (`Reads`): a sequence of
readers reads the bytes in sequence (`Reads.bind`), and a counted list of items reads them one by one
(`Reads.collect`). Nothing is said about bytes that are no layout, nor about names that are not UTF-8.
-/

namespace SymbolIndex.ClassFile

/-! ## The format -/

/-- A number in two bytes, the higher one first. -/
def two (number : Nat) : List UInt8 :=
  [UInt8.ofNat (number / 0x100), UInt8.ofNat number]

/-- A number in four bytes, the highest one first. -/
def four (number : Nat) : List UInt8 :=
  two (number / 0x10000) ++ two number

/-- A list whose length fits two bytes. -/
abbrev Counted (α : Type) := { items : List α // items.length < 0x10000 }

/-- The bytes of the items behind their number. -/
def Counted.bytes {α : Type} (item : α → List UInt8) (items : Counted α) : List UInt8 :=
  two items.val.length ++ items.val.flatMap item

/-- One constant of the pool. -/
inductive Entry where
  | utf8 (bytes : Counted UInt8)
  | integer (value : UInt32)
  | float (bits : UInt32)
  | long (value : UInt64)
  | double (bits : UInt64)
  | classRef (name : UInt16)
  | string (text : UInt16)
  | fieldRef (owner signature : UInt16)
  | methodRef (owner signature : UInt16)
  | interfaceMethodRef (owner signature : UInt16)
  | nameAndType (name descriptor : UInt16)
  | methodHandle (kind : UInt8) (reference : UInt16)
  | methodType (descriptor : UInt16)
  | dynamic (bootstrap signature : UInt16)
  | invokeDynamic (bootstrap signature : UInt16)
  | module (name : UInt16)
  | package (name : UInt16)

namespace Entry

/-- The bytes of a constant, its tag first. -/
def bytes : Entry → List UInt8
  | utf8 bytes => 1 :: bytes.bytes ([·])
  | integer value => 3 :: four value.toNat
  | float bits => 4 :: four bits.toNat
  | long value => 5 :: (four (value.toNat / 0x100000000) ++ four value.toNat)
  | double bits => 6 :: (four (bits.toNat / 0x100000000) ++ four bits.toNat)
  | classRef name => 7 :: two name.toNat
  | string text => 8 :: two text.toNat
  | fieldRef owner signature => 9 :: (two owner.toNat ++ two signature.toNat)
  | methodRef owner signature => 10 :: (two owner.toNat ++ two signature.toNat)
  | interfaceMethodRef owner signature => 11 :: (two owner.toNat ++ two signature.toNat)
  | nameAndType name descriptor => 12 :: (two name.toNat ++ two descriptor.toNat)
  | methodHandle kind reference => 15 :: kind :: two reference.toNat
  | methodType descriptor => 16 :: two descriptor.toNat
  | dynamic bootstrap signature => 17 :: (two bootstrap.toNat ++ two signature.toNat)
  | invokeDynamic bootstrap signature => 18 :: (two bootstrap.toNat ++ two signature.toNat)
  | module name => 19 :: two name.toNat
  | package name => 20 :: two name.toNat

/-- The places that a constant takes. -/
def places : Entry → Nat
  | long _ | double _ => 2
  | _ => 1

end Entry

/-- The places that all constants take. -/
def places : List Entry → Nat
  | [] => 0
  | entry :: entries => entry.places + places entries

/-- The constant at a place, counted from 1. The second place of a wide constant holds none. -/
def entryAt? : List Entry → Nat → Option Entry
  | [], _ => none
  | entry :: entries, index =>
    if index = 1 then some entry else entryAt? entries (index - entry.places)

/-- An attribute, which is not looked into. -/
structure Attribute where
  name : UInt16
  info : List UInt8
  fits : info.length < 0x100000000

def Attribute.bytes (blob : Attribute) : List UInt8 :=
  two blob.name.toNat ++ four blob.info.length ++ blob.info

/-- A field or a method, with the places of its name and its descriptor. -/
structure MemberInfo where
  flags : UInt16
  name : UInt16
  descriptor : UInt16
  attributes : Counted Attribute

def MemberInfo.bytes (info : MemberInfo) : List UInt8 :=
  two info.flags.toNat ++ two info.name.toNat ++ two info.descriptor.toNat ++
    info.attributes.bytes Attribute.bytes

/-- A class file by its parts. -/
structure Layout where
  minor : UInt16
  major : UInt16
  pool : List Entry
  fits : places pool < 0xFFFF
  flags : UInt16
  thisClass : UInt16
  superClass : UInt16
  interfaces : Counted UInt16
  fields : Counted MemberInfo
  methods : Counted MemberInfo
  attributes : Counted Attribute

/-- The bytes of a class file. The number of constants counts place 0, which is never used. -/
def Layout.bytes (file : Layout) : List UInt8 :=
  [0xCA, 0xFE, 0xBA, 0xBE] ++ two file.minor.toNat ++ two file.major.toNat ++
    two (places file.pool + 1) ++ file.pool.flatMap Entry.bytes ++
    two file.flags.toNat ++ two file.thisClass.toNat ++ two file.superClass.toNat ++
    file.interfaces.bytes (two ·.toNat) ++ file.fields.bytes MemberInfo.bytes ++
    file.methods.bytes MemberInfo.bytes ++ file.attributes.bytes Attribute.bytes

/-! ## What a class file declares -/

/-- The constant at a place is a text, in UTF-8. -/
def HasText (pool : List Entry) (index : UInt16) (text : String) : Prop :=
  ∃ bytes, entryAt? pool index.toNat = some (.utf8 bytes) ∧ bytes.val = text.toUTF8.data.toList

/-- The constant at a place is a class with the given path. -/
def HasClass (pool : List Entry) (index : UInt16) (path : String) : Prop :=
  ∃ name, entryAt? pool index.toNat = some (.classRef name) ∧ HasText pool name path

/-- A field of the given name, whose descriptor spells its type. -/
def HasField (pool : List Entry) (info : MemberInfo) (field : Member) : Prop :=
  HasText pool info.name field.name ∧
    HasText pool info.descriptor (Descriptor.ofType field.type) ∧ Descriptor.IsFieldType field.type

/-- A method of the given name, whose descriptor spells its parameters and what it returns. -/
def HasMethod (pool : List Entry) (info : MemberInfo) (method : Member) : Prop :=
  HasText pool info.name method.name ∧
    ∃ parameters, HasText pool info.descriptor (Descriptor.ofMethod parameters method.type) ∧
      (∀ type ∈ parameters, Descriptor.IsFieldType type) ∧ Descriptor.IsReturnType method.type

/-- What a class file declares. Place 0 stands for no super class, and methods that source code cannot name
are left out. -/
structure Layout.Declares (file : Layout) (declaration : TypeDecl) : Prop where
  path : HasClass file.pool file.thisClass declaration.path
  noSuperClass : file.superClass = 0 → declaration.superClass = none
  superClass : file.superClass ≠ 0 →
    ∃ path, declaration.superClass = some path ∧ HasClass file.pool file.superClass path
  interfaces : List.Forall₂ (HasClass file.pool) file.interfaces.val declaration.interfaces
  fields : List.Forall₂ (HasField file.pool) file.fields.val declaration.fields
  methods : ∃ methods, List.Forall₂ (HasMethod file.pool) file.methods.val methods ∧
    declaration.methods = methods.filter fun method => method.name ∉ ["<init>", "<clinit>"]
  complete : declaration.complete = true

/-! ## What readers take -/

/-- The reader takes just these bytes off the front, for the value. -/
def Reads {α : Type} (reader : Reader α) (bytes : List UInt8) (value : α) : Prop :=
  ∀ rest, reader (bytes ++ rest) = .ok (value, rest)

namespace Reads

variable {α β : Type}

/-- A value that is at hand takes no bytes. -/
theorem pure (value : α) : Reads (Pure.pure value) [] value :=
  fun _ => rfl

/-- A result that is computed from what was read before takes no bytes either. -/
theorem lift {result : Except Error α} {value : α} (ok : result = .ok value) :
    Reads (liftM result) [] value := by
  subst ok
  exact fun _ => rfl

/-- One reader behind another reads the bytes of both. -/
theorem bind {first : Reader α} {next : α → Reader β} {bytes more : List UInt8} {value : α} {result : β}
    (reads : Reads first bytes value) (readsNext : Reads (next value) more result) :
    Reads (first >>= next) (bytes ++ more) result := by
  intro rest
  rw [List.append_assoc]
  change (first (bytes ++ (more ++ rest)) >>= fun read => next read.1 read.2) = _
  rw [reads, ← readsNext rest]
  rfl

/-- What is read behind the last bytes. -/
theorem last {first : Reader α} {next : α → Reader β} {bytes : List UInt8} {value : α} {result : β}
    (reads : Reads first bytes value) (readsNext : Reads (next value) [] result) :
    Reads (first >>= next) bytes result := by
  simpa only [List.append_nil] using reads.bind readsNext

/-- One byte is a number below 256. -/
theorem u1 (byte : UInt8) : Reads Reader.u1 [byte] byte.toNat :=
  fun _ => rfl

/-- Two bytes are a number below 65536, the high one first. -/
theorem u2 {number : Nat} (fits : number < 0x10000) : Reads Reader.u2 (two number) number := by
  intro rest
  simp only [two, List.cons_append, List.nil_append, Reader.u2, UInt8.toNat_ofNat']
  congr 2
  omega

/-- Four bytes are a number below 2^32, the highest first. -/
theorem u4 {number : Nat} (fits : number < 0x100000000) : Reads Reader.u4 (four number) number := by
  intro rest
  simp only [four, two, List.cons_append, List.nil_append, Reader.u4, UInt8.toNat_ofNat']
  congr 2
  omega

/-- An index into the pool takes two bytes. -/
theorem index (index : UInt16) : Reads Reader.u2 (two index.toNat) index.toNat :=
  u2 index.toNat_lt

/-- Bytes that are passed over are taken all the same. -/
theorem skip (bytes : List UInt8) : Reads (Reader.skip bytes.length) bytes () := by
  intro rest
  induction bytes with
  | nil => rfl
  | cons byte bytes ih => exact ih

/-- Bytes that are kept are the next ones. -/
theorem slice (bytes : List UInt8) : Reads (Reader.slice bytes.length) bytes bytes := by
  have takes (taken rest : List UInt8) :
      Reader.takeOnto taken bytes.length (bytes ++ rest) = .ok (bytes.reverse ++ taken, rest) := by
    induction bytes generalizing taken with
    | nil => simp [Reader.takeOnto]
    | cons byte bytes ih => simp [Reader.takeOnto, ih]
  intro rest
  simp [Reader.slice, takes]

/-- Items are read one by one, and those that turn out to be none are left out. -/
theorem collect {γ : Type} {item : Reader (Option β)} {encode : α → List UInt8} {items : List α}
    {values : List γ} (keep : γ → Option β)
    (each : List.Forall₂ (fun source value => Reads item (encode source) (keep value)) items values) :
    Reads (Reader.collect item items.length) (items.flatMap encode) (values.filterMap keep) := by
  have collects (found : List β) (rest : List UInt8) :
      Reader.collectOnto item found items.length (items.flatMap encode ++ rest) =
        .ok ((values.filterMap keep).reverse ++ found, rest) := by
    induction each generalizing found with
    | nil => rfl
    | @cons source value items values reads _ ih =>
      simp only [List.flatMap_cons, List.append_assoc, List.length_cons, Reader.collectOnto, reads _]
      cases kept : keep value with
      | none => simp [ih, kept]
      | some result => simp [ih, kept]
  intro rest
  simp [Reader.collect, collects]

/-- A counted list of items, and what is read behind it. -/
theorem counted {γ δ : Type} {item : Reader (Option β)} {encode : α → List UInt8} {items : Counted α}
    {values : List γ} {next : List β → Reader δ} {more : List UInt8} {result : δ} (keep : γ → Option β)
    (each : List.Forall₂ (fun source value => Reads item (encode source) (keep value)) items.val values)
    (readsNext : Reads (next (values.filterMap keep)) more result) :
    Reads (Reader.u2 >>= fun count => Reader.collect item count >>= next)
      (items.bytes encode ++ more) result := by
  rw [Counted.bytes, List.append_assoc]
  exact bind (u2 items.property) (bind (collect keep each) readsNext)

end Reads

/-! ## The pool -/

namespace Entry

/-- What is kept of a constant, place by place. -/
def constants : Entry → List Constant
  | utf8 bytes => [.text (Text.ofBytesLossy bytes.val)]
  | classRef name => [.classRef name.toNat]
  | long _ | double _ => [.other, .unusable]
  | _ => [.other]

/-- An entry gives as many constants as it takes places. -/
theorem length_constants (entry : Entry) : entry.constants.length = entry.places := by
  cases entry <;> rfl

/-- Every entry takes a place. -/
theorem places_pos (entry : Entry) : 0 < entry.places := by
  cases entry <;> exact Nat.succ_pos _

end Entry

/-- What is kept of all constants; place 0 is never usable. -/
def kept (entries : List Entry) : Pool :=
  #[Constant.unusable] ++ entries.flatMap Entry.constants

/-- **A constant is read off its bytes.** One case for each kind of constant. -/
theorem readConstant_reads (entry : Entry) : Reads readConstant entry.bytes entry.constants := by
  have passed (payload : List UInt8) (constants : List Constant) :
      Reads (Reader.skip payload.length >>= fun _ => pure constants) payload constants :=
    (Reads.skip payload).last (Reads.pure constants)
  cases entry with
  | utf8 bytes =>
    rw [Entry.bytes, Counted.bytes, List.flatMap_singleton']
    exact (Reads.u1 1).bind ((Reads.u2 bytes.property).bind ((Reads.slice bytes.val).last (Reads.pure _)))
  | classRef name => exact (Reads.u1 7).bind ((Reads.index name).last (Reads.pure _))
  | integer value => exact (Reads.u1 3).bind (passed (four _) _)
  | float bits => exact (Reads.u1 4).bind (passed (four _) _)
  | long value => exact (Reads.u1 5).bind (passed (four _ ++ four _) _)
  | double bits => exact (Reads.u1 6).bind (passed (four _ ++ four _) _)
  | string text => exact (Reads.u1 8).bind (passed (two _) _)
  | fieldRef owner signature => exact (Reads.u1 9).bind (passed (two _ ++ two _) _)
  | methodRef owner signature => exact (Reads.u1 10).bind (passed (two _ ++ two _) _)
  | interfaceMethodRef owner signature => exact (Reads.u1 11).bind (passed (two _ ++ two _) _)
  | nameAndType name descriptor => exact (Reads.u1 12).bind (passed (two _ ++ two _) _)
  | methodHandle kind reference => exact (Reads.u1 15).bind (passed (kind :: two _) _)
  | methodType descriptor => exact (Reads.u1 16).bind (passed (two _) _)
  | dynamic bootstrap signature => exact (Reads.u1 17).bind (passed (two _ ++ two _) _)
  | invokeDynamic bootstrap signature => exact (Reads.u1 18).bind (passed (two _ ++ two _) _)
  | module name => exact (Reads.u1 19).bind (passed (two _) _)
  | package name => exact (Reads.u1 20).bind (passed (two _) _)

/-- The constants are read one by one, each at its places. -/
theorem readPlaces_reads (entries : List Entry) (pool : Pool) :
    Reads (readPlaces pool (places entries)) (entries.flatMap Entry.bytes)
      (pool ++ entries.flatMap Entry.constants) := by
  intro rest
  induction entries generalizing pool with
  | nil => simp [places, readPlaces]
  | cons entry entries ih =>
    have taken := entry.places_pos
    have total : places (entry :: entries) = entry.places + places entries := rfl
    obtain ⟨more, counted⟩ : ∃ more, places (entry :: entries) = more + 1 :=
      Nat.exists_eq_add_one.mpr (by omega)
    have left : more + 1 - max entry.constants.length 1 = places entries := by
      rw [entry.length_constants, ← counted]
      omega
    rw [counted, readPlaces]
    simp only [List.flatMap_cons, List.append_assoc, readConstant_reads entry _, left, ih]
    exact congrArg (fun pool => Except.ok (pool, rest)) (Array.ext' (by simp))

/-- **The pool is read off its bytes.** -/
theorem readPool_reads {entries : List Entry} (fits : places entries < 0xFFFF) :
    Reads readPool (two (places entries + 1) ++ entries.flatMap Entry.bytes) (kept entries) :=
  (Reads.u2 (by omega)).bind (readPlaces_reads entries #[.unusable])

/-! ## Looking up constants -/

/-- What is kept at the place of a constant is the first that is kept of it. -/
theorem getElem?_kept {entries : List Entry} {index : Nat} {entry : Entry}
    (found : entryAt? entries index = some entry) :
    (kept entries)[index]? = entry.constants.head? := by
  have located : ∃ before, index = before + 1 ∧
      (entries.flatMap Entry.constants)[before]? = entry.constants.head? := by
    induction entries generalizing index with
    | nil => cases found
    | cons first entries ih =>
      rw [entryAt?] at found
      split at found
      · cases found
        have some : 0 < entry.constants.length := entry.length_constants ▸ entry.places_pos
        refine ⟨0, by assumption, ?_⟩
        rw [List.flatMap_cons, List.getElem?_append_left some, List.head?_eq_getElem?]
      · obtain ⟨before, later, kept⟩ := ih found
        have length := first.length_constants
        refine ⟨index - 1, by omega, ?_⟩
        rw [List.flatMap_cons, List.getElem?_append_right (by omega), ← kept]
        congr 1
        omega
  obtain ⟨before, rfl, located⟩ := located
  rw [← located, kept, ← Array.getElem?_toList]
  simp

/-- **A text in the pool is found** under its index, whatever the other entries are. -/
theorem textAt_kept {entries : List Entry} {index : UInt16} {text : String}
    (has : HasText entries index text) : (kept entries).textAt index.toNat = .ok text := by
  obtain ⟨bytes, found, spelled⟩ := has
  rw [Pool.textAt, getElem?_kept found, Entry.constants, spelled, Text.ofBytesLossy_toUTF8]
  rfl

/-- A class is found under its index, and its name under that one. -/
theorem classAt_kept {entries : List Entry} {index : UInt16} {path : String}
    (has : HasClass entries index path) : (kept entries).classAt index.toNat = .ok path := by
  obtain ⟨name, found, text⟩ := has
  rw [Pool.classAt, getElem?_kept found]
  exact textAt_kept text

/-- The super class is found under its index, and index zero stands for none. -/
theorem superClassAt_kept {file : Layout} {declaration : TypeDecl} (declares : file.Declares declaration) :
    superClassAt (kept file.pool) file.superClass.toNat = .ok declaration.superClass := by
  by_cases absent : file.superClass = 0
  · rw [declares.noSuperClass absent, absent]
    rfl
  · obtain ⟨path, named, has⟩ := declares.superClass absent
    have used : file.superClass.toNat ≠ 0 := fun zero => absent (UInt16.toNat_inj.mp zero)
    rw [superClassAt, if_neg used, classAt_kept has, named]
    rfl

/-! ## The parts of a class file -/

/-- An attribute is passed over, with its name and its length. -/
theorem readAttribute_reads (blob : Attribute) : Reads readAttribute blob.bytes none := by
  rw [Attribute.bytes, List.append_assoc]
  exact (Reads.index blob.name).bind ((Reads.u4 blob.fits).bind
    ((Reads.skip blob.info).last (Reads.pure none)))

/-- A list of attributes is passed over. -/
theorem skipAttributes_reads (attributes : Counted Attribute) :
    Reads skipAttributes (attributes.bytes Attribute.bytes) () := by
  rw [← List.append_nil (attributes.bytes _)]
  exact Reads.counted (fun _ => none) (List.forall₂_same.mpr fun blob _ => readAttribute_reads blob)
    (Reads.pure ())

/-- A field or a method gives its name and descriptor, and its attributes are passed over. -/
theorem readNamed_reads {entries : List Entry} {info : MemberInfo} {name descriptor : String}
    (named : HasText entries info.name name) (described : HasText entries info.descriptor descriptor) :
    Reads (readNamed (kept entries)) info.bytes (name, descriptor) := by
  rw [MemberInfo.bytes, List.append_assoc, List.append_assoc]
  refine (Reads.index info.flags).bind ((Reads.index info.name).bind
    ((Reads.index info.descriptor).bind ((skipAttributes_reads info.attributes).last ?_)))
  exact (Reads.lift (textAt_kept named)).bind ((Reads.lift (textAt_kept described)).bind (Reads.pure _))

/-- An interface is a class under an index. -/
theorem readInterface_reads {entries : List Entry} {index : UInt16} {path : String}
    (has : HasClass entries index path) :
    Reads (readInterface (kept entries)) (two index.toNat) (some path) :=
  (Reads.index index).last ((Reads.lift (classAt_kept has)).bind (Reads.pure _))

/-- A field is kept, with the type of its descriptor. -/
theorem readField_reads {entries : List Entry} {info : MemberInfo} {field : Member}
    (has : HasField entries info field) : Reads (readField (kept entries)) info.bytes (some field) := by
  obtain ⟨named, described, spelled⟩ := has
  have typed : fieldType (Descriptor.ofType field.type) = .ok field.type := by
    rw [fieldType, Descriptor.fieldType_ofType spelled]
    rfl
  exact (readNamed_reads named described).last ((Reads.lift typed).bind (Reads.pure _))

/-- A method is kept with the type that it returns, unless it is an initializer. -/
theorem readMethod_reads {entries : List Entry} {info : MemberInfo} {method : Member}
    (has : HasMethod entries info method) :
    Reads (readMethod (kept entries)) info.bytes
      (if isInitializer method.name then none else some method) := by
  obtain ⟨named, parameters, described, fields, returns⟩ := has
  refine (readNamed_reads named described).last ?_
  by_cases initializer : isInitializer method.name
  · simp only [initializer, if_true]
    exact Reads.pure none
  · have typed : returnType (Descriptor.ofMethod parameters method.type) = .ok method.type := by
      rw [returnType, Descriptor.methodType_ofMethod fields returns]
    simp only [initializer]
    exact (Reads.lift typed).bind (Reads.pure _)

/-- What is kept of a method: nothing where source code cannot name it. -/
def nameable? (method : Member) : Option Member :=
  if isInitializer method.name then none else some method

/-- The methods that can be named are those that are no initializers. -/
theorem filterMap_nameable? (methods : List Member) :
    methods.filterMap nameable? = methods.filter fun method => method.name ∉ ["<init>", "<clinit>"] := by
  rw [← List.filterMap_eq_filter]
  congr 1
  funext method
  by_cases initializer : method.name = "<init>" ∨ method.name = "<clinit>" <;>
    simp [nameable?, isInitializer, Option.guard, initializer]

/-- **A class file is read off its bytes.** -/
theorem readClass_reads {file : Layout} {declaration : TypeDecl} (declares : file.Declares declaration) :
    Reads readClass file.bytes declaration := by
  obtain ⟨methods, hasMethods, named⟩ := declares.methods
  have parts : file.bytes = four magic ++ ((two file.minor.toNat ++ two file.major.toNat) ++
      ((two (places file.pool + 1) ++ file.pool.flatMap Entry.bytes) ++ (two file.flags.toNat ++
      (two file.thisClass.toNat ++ (two file.superClass.toNat ++ (file.interfaces.bytes (two ·.toNat) ++
      (file.fields.bytes MemberInfo.bytes ++ (file.methods.bytes MemberInfo.bytes ++
      file.attributes.bytes Attribute.bytes)))))))) := by
    simp only [Layout.bytes, List.append_assoc]
    rfl
  rw [parts]
  refine (Reads.u4 (by decide)).bind ?_
  rw [if_neg (by simp)]
  refine (Reads.skip (two _ ++ two _)).bind ?_
  refine (readPool_reads file.fits).bind ?_
  refine (Reads.index _).bind ((Reads.index _).bind ((Reads.index _).bind ?_))
  refine (Reads.lift (classAt_kept declares.path)).bind ?_
  refine (Reads.lift (superClassAt_kept declares)).bind ?_
  refine Reads.counted some (declares.interfaces.imp fun _ _ => readInterface_reads) ?_
  refine Reads.counted some (declares.fields.imp fun _ _ => readField_reads) ?_
  refine Reads.counted nameable? (hasMethods.imp fun _ _ => readMethod_reads) ?_
  refine (skipAttributes_reads _).last ?_
  rw [List.filterMap_some, List.filterMap_some, filterMap_nameable?, ← named, ← declares.complete]
  exact Reads.pure declaration

/-- **The bytes of a class file are read as what it declares**, whatever stands behind them. -/
theorem parse_bytes {file : Layout} {declaration : TypeDecl} (declares : file.Declares declaration)
    (trailing : List UInt8) : parse (file.bytes ++ trailing) = .ok declaration := by
  rw [parse, readClass_reads declares]

/-- A class file whose first constant is wide and whose constants point ahead. -/
def counterFile : Layout where
  minor := 0
  major := 61
  pool := [.long 7, .classRef 4, .utf8 ⟨"p/Zähler".toUTF8.data.toList, by decide⟩,
    .utf8 ⟨"counts".toUTF8.data.toList, by decide⟩, .utf8 ⟨"[J".toUTF8.data.toList, by decide⟩,
    .utf8 ⟨"<init>".toUTF8.data.toList, by decide⟩, .utf8 ⟨"()V".toUTF8.data.toList, by decide⟩,
    .utf8 ⟨"next".toUTF8.data.toList, by decide⟩, .utf8 ⟨"(I)Lp/Item;".toUTF8.data.toList, by decide⟩,
    .classRef 12, .utf8 ⟨"p/Source".toUTF8.data.toList, by decide⟩]
  fits := by decide
  flags := 33
  thisClass := 3
  superClass := 0
  interfaces := ⟨[11], by decide⟩
  fields := ⟨[⟨2, 5, 6, ⟨[⟨5, [1, 2, 3], by decide⟩], by decide⟩⟩], by decide⟩
  methods := ⟨[⟨1, 7, 8, ⟨[], by decide⟩⟩, ⟨1, 9, 10, ⟨[], by decide⟩⟩], by decide⟩
  attributes := ⟨[], by decide⟩

/-- What it declares. -/
def counterDecl : TypeDecl where
  path := "p/Zähler"
  superClass := none
  interfaces := ["p/Source"]
  fields := [⟨"counts", .array (.primitive .long)⟩]
  methods := [⟨"next", .reference "p/Item"⟩]
  complete := true

theorem counterFile_declares : counterFile.Declares counterDecl where
  path := ⟨4, rfl, _, rfl, rfl⟩
  noSuperClass := fun _ => rfl
  superClass := fun present => absurd rfl present
  interfaces := .cons ⟨12, rfl, _, rfl, rfl⟩ .nil
  fields := .cons ⟨⟨_, rfl, rfl⟩, ⟨_, rfl, by decide⟩, by decide⟩ .nil
  methods := by
    refine ⟨[⟨"<init>", .primitive .void⟩, ⟨"next", .reference "p/Item"⟩], ?_, by decide⟩
    refine .cons ⟨⟨_, rfl, rfl⟩, [], ⟨_, rfl, by decide⟩, by decide, by decide⟩ ?_
    exact .cons ⟨⟨_, rfl, rfl⟩, [.primitive .int], ⟨_, rfl, by decide⟩, by decide, by decide⟩ .nil
  complete := rfl

theorem parse_bytes_wideConstant :
    counterFile.Declares counterDecl ∧ parse (counterFile.bytes ++ [0]) = .ok counterDecl :=
  ⟨counterFile_declares, parse_bytes counterFile_declares [0]⟩

end SymbolIndex.ClassFile
