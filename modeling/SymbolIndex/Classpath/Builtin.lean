import SymbolIndex.Classpath.Basic
import SymbolIndex.Descriptor

/-!
# The built-in library

The public surface of the standard library as far as source code commonly uses it, for when no
installed one is at hand. Members are given with their descriptors. Only the root class is listed
in full; every other type may have members that are not listed here.
-/

namespace SymbolIndex.Builtin

/-- A library type, with the descriptors of its members. -/
structure Entry where
  path : String
  superClass : Option String := some "java/lang/Object"
  interfaces : List String := []
  fields : List (String × String) := []
  methods : List (String × String) := []

/-- The methods of every object. -/
def objectMethods : List (String × String) :=
  [("equals", "(Ljava/lang/Object;)Z"), ("hashCode", "()I"),
   ("toString", "()Ljava/lang/String;"), ("getClass", "()Ljava/lang/Class;"), ("notify", "()V"),
   ("notifyAll", "()V"), ("wait", "()V"), ("clone", "()Ljava/lang/Object;"), ("finalize", "()V")]

/-- The conversions of a boxed number. -/
def boxedNumberMethods : List (String × String) :=
  [("intValue", "()I"), ("longValue", "()J"), ("doubleValue", "()D"), ("floatValue", "()F"),
   ("shortValue", "()S"), ("byteValue", "()B")]

/-- The methods of a collection. -/
def collectionMethods : List (String × String) :=
  [("size", "()I"), ("isEmpty", "()Z"), ("contains", "(Ljava/lang/Object;)Z"),
   ("add", "(Ljava/lang/Object;)Z"), ("remove", "(Ljava/lang/Object;)Z"), ("clear", "()V"),
   ("iterator", "()Ljava/util/Iterator;"), ("stream", "()Ljava/util/stream/Stream;"),
   ("toArray", "()[Ljava/lang/Object;"), ("addAll", "(Ljava/util/Collection;)Z")]

/-- The methods a list adds to a collection. -/
def listMethods : List (String × String) :=
  [("get", "(I)Ljava/lang/Object;"), ("set", "(ILjava/lang/Object;)Ljava/lang/Object;"),
   ("indexOf", "(Ljava/lang/Object;)I"), ("subList", "(II)Ljava/util/List;"),
   ("of", "()Ljava/util/List;")]

/-- The methods of a map. -/
def mapMethods : List (String × String) :=
  [("get", "(Ljava/lang/Object;)Ljava/lang/Object;"),
   ("put", "(Ljava/lang/Object;Ljava/lang/Object;)Ljava/lang/Object;"),
   ("remove", "(Ljava/lang/Object;)Ljava/lang/Object;"),
   ("containsKey", "(Ljava/lang/Object;)Z"), ("containsValue", "(Ljava/lang/Object;)Z"),
   ("size", "()I"), ("isEmpty", "()Z"), ("keySet", "()Ljava/util/Set;"),
   ("values", "()Ljava/util/Collection;"), ("entrySet", "()Ljava/util/Set;"),
   ("getOrDefault", "(Ljava/lang/Object;Ljava/lang/Object;)Ljava/lang/Object;"),
   ("clear", "()V")]

/-- The types of `java.lang`. -/
def langTypes : List Entry :=
  [
    { path := "java/lang/Object"
      superClass := none
      methods := objectMethods },
    { path := "java/lang/String"
      interfaces :=
        ["java/lang/CharSequence", "java/lang/Comparable", "java/io/Serializable"]
      fields :=
        [("CASE_INSENSITIVE_ORDER", "Ljava/util/Comparator;")]
      methods :=
        [("length", "()I"), ("charAt", "(I)C"), ("isEmpty", "()Z"),
         ("substring", "(II)Ljava/lang/String;"), ("indexOf", "(Ljava/lang/String;)I"),
         ("lastIndexOf", "(Ljava/lang/String;)I"), ("startsWith", "(Ljava/lang/String;)Z"),
         ("endsWith", "(Ljava/lang/String;)Z"), ("contains", "(Ljava/lang/CharSequence;)Z"),
         ("replace", "(Ljava/lang/CharSequence;Ljava/lang/CharSequence;)Ljava/lang/String;"),
         ("split", "(Ljava/lang/String;)[Ljava/lang/String;"), ("trim", "()Ljava/lang/String;"),
         ("toLowerCase", "()Ljava/lang/String;"), ("toUpperCase", "()Ljava/lang/String;"),
         ("toCharArray", "()[C"), ("getBytes", "()[B"),
         ("format", "(Ljava/lang/String;[Ljava/lang/Object;)Ljava/lang/String;"),
         ("valueOf", "(Ljava/lang/Object;)Ljava/lang/String;"),
         ("equalsIgnoreCase", "(Ljava/lang/String;)Z"), ("intern", "()Ljava/lang/String;")] },
    { path := "java/lang/CharSequence"
      methods :=
        [("length", "()I"), ("charAt", "(I)C"), ("toString", "()Ljava/lang/String;")] },
    { path := "java/lang/Comparable"
      methods :=
        [("compareTo", "(Ljava/lang/Object;)I")] },
    { path := "java/lang/Runnable"
      methods :=
        [("run", "()V")] },
    { path := "java/lang/AutoCloseable"
      methods :=
        [("close", "()V")] },
    { path := "java/lang/Iterable"
      methods :=
        [("iterator", "()Ljava/util/Iterator;"), ("forEach", "(Ljava/util/function/Consumer;)V")] },
    { path := "java/lang/System"
      fields :=
        [("out", "Ljava/io/PrintStream;"), ("err", "Ljava/io/PrintStream;"),
         ("in", "Ljava/io/InputStream;")]
      methods :=
        [("currentTimeMillis", "()J"), ("nanoTime", "()J"),
         ("arraycopy", "(Ljava/lang/Object;ILjava/lang/Object;II)V"), ("exit", "(I)V"),
         ("getProperty", "(Ljava/lang/String;)Ljava/lang/String;"),
         ("getenv", "(Ljava/lang/String;)Ljava/lang/String;"),
         ("identityHashCode", "(Ljava/lang/Object;)I"),
         ("lineSeparator", "()Ljava/lang/String;"), ("gc", "()V")] },
    { path := "java/lang/Math"
      fields :=
        [("PI", "D"), ("E", "D")]
      methods :=
        [("abs", "(I)I"), ("max", "(II)I"), ("min", "(II)I"), ("sqrt", "(D)D"), ("pow", "(DD)D"),
         ("floor", "(D)D"), ("ceil", "(D)D"), ("round", "(D)J"), ("random", "()D"),
         ("sin", "(D)D"), ("cos", "(D)D")] },
    { path := "java/lang/Number"
      interfaces :=
        ["java/io/Serializable"]
      methods := boxedNumberMethods },
    { path := "java/lang/Integer"
      superClass := some "java/lang/Number"
      interfaces :=
        ["java/lang/Comparable"]
      fields :=
        [("MAX_VALUE", "I"), ("MIN_VALUE", "I"), ("SIZE", "I"), ("TYPE", "Ljava/lang/Class;")]
      methods :=
        [("parseInt", "(Ljava/lang/String;)I"), ("valueOf", "(I)Ljava/lang/Integer;"),
         ("toString", "(I)Ljava/lang/String;"), ("toHexString", "(I)Ljava/lang/String;"),
         ("compare", "(II)I"), ("bitCount", "(I)I")] },
    { path := "java/lang/Long"
      superClass := some "java/lang/Number"
      interfaces :=
        ["java/lang/Comparable"]
      fields :=
        [("MAX_VALUE", "J"), ("MIN_VALUE", "J"), ("SIZE", "I"), ("TYPE", "Ljava/lang/Class;")]
      methods :=
        [("parseLong", "(Ljava/lang/String;)J"), ("valueOf", "(J)Ljava/lang/Long;"),
         ("toString", "(J)Ljava/lang/String;"), ("compare", "(JJ)I")] },
    { path := "java/lang/Short"
      superClass := some "java/lang/Number"
      interfaces :=
        ["java/lang/Comparable"]
      fields :=
        [("MAX_VALUE", "S"), ("MIN_VALUE", "S")]
      methods :=
        [("valueOf", "(S)Ljava/lang/Short;")] },
    { path := "java/lang/Byte"
      superClass := some "java/lang/Number"
      interfaces :=
        ["java/lang/Comparable"]
      fields :=
        [("MAX_VALUE", "B"), ("MIN_VALUE", "B")]
      methods :=
        [("valueOf", "(B)Ljava/lang/Byte;")] },
    { path := "java/lang/Double"
      superClass := some "java/lang/Number"
      interfaces :=
        ["java/lang/Comparable"]
      fields :=
        [("MAX_VALUE", "D"), ("MIN_VALUE", "D"), ("NaN", "D"), ("POSITIVE_INFINITY", "D"),
         ("NEGATIVE_INFINITY", "D")]
      methods :=
        [("parseDouble", "(Ljava/lang/String;)D"), ("valueOf", "(D)Ljava/lang/Double;"),
         ("isNaN", "(D)Z"), ("compare", "(DD)I")] },
    { path := "java/lang/Float"
      superClass := some "java/lang/Number"
      interfaces :=
        ["java/lang/Comparable"]
      fields :=
        [("MAX_VALUE", "F"), ("MIN_VALUE", "F"), ("NaN", "F")]
      methods :=
        [("parseFloat", "(Ljava/lang/String;)F"), ("valueOf", "(F)Ljava/lang/Float;")] },
    { path := "java/lang/Boolean"
      interfaces :=
        ["java/io/Serializable", "java/lang/Comparable"]
      fields :=
        [("TRUE", "Ljava/lang/Boolean;"), ("FALSE", "Ljava/lang/Boolean;")]
      methods :=
        [("booleanValue", "()Z"), ("parseBoolean", "(Ljava/lang/String;)Z"),
         ("valueOf", "(Z)Ljava/lang/Boolean;")] },
    { path := "java/lang/Character"
      interfaces :=
        ["java/io/Serializable", "java/lang/Comparable"]
      fields :=
        [("MAX_VALUE", "C"), ("MIN_VALUE", "C")]
      methods :=
        [("charValue", "()C"), ("isDigit", "(C)Z"), ("isLetter", "(C)Z"),
         ("isWhitespace", "(C)Z"), ("toUpperCase", "(C)C"), ("toLowerCase", "(C)C"),
         ("valueOf", "(C)Ljava/lang/Character;")] },
    { path := "java/lang/StringBuilder"
      interfaces :=
        ["java/lang/CharSequence", "java/io/Serializable"]
      methods :=
        [("append", "(Ljava/lang/Object;)Ljava/lang/StringBuilder;"),
         ("insert", "(ILjava/lang/String;)Ljava/lang/StringBuilder;"),
         ("reverse", "()Ljava/lang/StringBuilder;"), ("setLength", "(I)V"), ("length", "()I"),
         ("toString", "()Ljava/lang/String;")] },
    { path := "java/lang/StringBuffer"
      interfaces :=
        ["java/lang/CharSequence", "java/io/Serializable"]
      methods :=
        [("append", "(Ljava/lang/Object;)Ljava/lang/StringBuffer;"), ("length", "()I"),
         ("toString", "()Ljava/lang/String;")] },
    { path := "java/lang/Class"
      interfaces :=
        ["java/io/Serializable"]
      methods :=
        [("getName", "()Ljava/lang/String;"), ("getSimpleName", "()Ljava/lang/String;"),
         ("forName", "(Ljava/lang/String;)Ljava/lang/Class;"),
         ("newInstance", "()Ljava/lang/Object;"),
         ("getClassLoader", "()Ljava/lang/ClassLoader;"),
         ("isInstance", "(Ljava/lang/Object;)Z"),
         ("getResourceAsStream", "(Ljava/lang/String;)Ljava/io/InputStream;")] },
    { path := "java/lang/ClassLoader"
      methods :=
        [("loadClass", "(Ljava/lang/String;)Ljava/lang/Class;"),
         ("getParent", "()Ljava/lang/ClassLoader;")] },
    { path := "java/lang/Enum"
      interfaces :=
        ["java/lang/Comparable", "java/io/Serializable"]
      methods :=
        [("name", "()Ljava/lang/String;"), ("ordinal", "()I")] },
    { path := "java/lang/Thread"
      interfaces :=
        ["java/lang/Runnable"]
      fields :=
        [("MIN_PRIORITY", "I"), ("NORM_PRIORITY", "I"), ("MAX_PRIORITY", "I")]
      methods :=
        [("start", "()V"), ("join", "()V"), ("interrupt", "()V"), ("isAlive", "()Z"),
         ("sleep", "(J)V"), ("currentThread", "()Ljava/lang/Thread;"),
         ("getName", "()Ljava/lang/String;"), ("setDaemon", "(Z)V")] },
    { path := "java/lang/Throwable"
      interfaces :=
        ["java/io/Serializable"]
      methods :=
        [("getMessage", "()Ljava/lang/String;"), ("getCause", "()Ljava/lang/Throwable;"),
         ("printStackTrace", "()V"), ("getStackTrace", "()[Ljava/lang/StackTraceElement;"),
         ("addSuppressed", "(Ljava/lang/Throwable;)V")] },
    { path := "java/lang/Exception"
      superClass := some "java/lang/Throwable" },
    { path := "java/lang/RuntimeException"
      superClass := some "java/lang/Exception" },
    { path := "java/lang/IllegalArgumentException"
      superClass := some "java/lang/RuntimeException" },
    { path := "java/lang/IllegalStateException"
      superClass := some "java/lang/RuntimeException" },
    { path := "java/lang/NullPointerException"
      superClass := some "java/lang/RuntimeException" },
    { path := "java/lang/Error"
      superClass := some "java/lang/Throwable" }
  ]

/-- The types of `java.io`. -/
def ioTypes : List Entry :=
  [
    { path := "java/io/Serializable" },
    { path := "java/io/PrintStream"
      superClass := some "java/io/OutputStream"
      methods :=
        [("println", "(Ljava/lang/String;)V"), ("print", "(Ljava/lang/String;)V"),
         ("printf", "(Ljava/lang/String;[Ljava/lang/Object;)Ljava/io/PrintStream;"),
         ("format", "(Ljava/lang/String;[Ljava/lang/Object;)Ljava/io/PrintStream;")] },
    { path := "java/io/OutputStream"
      interfaces :=
        ["java/lang/AutoCloseable"]
      methods :=
        [("write", "([B)V"), ("flush", "()V"), ("close", "()V")] },
    { path := "java/io/InputStream"
      interfaces :=
        ["java/lang/AutoCloseable"]
      methods :=
        [("read", "()I"), ("available", "()I"), ("close", "()V")] },
    { path := "java/io/File"
      interfaces :=
        ["java/io/Serializable", "java/lang/Comparable"]
      fields :=
        [("separator", "Ljava/lang/String;"), ("pathSeparator", "Ljava/lang/String;")]
      methods :=
        [("exists", "()Z"), ("getName", "()Ljava/lang/String;"),
         ("getPath", "()Ljava/lang/String;"), ("getAbsolutePath", "()Ljava/lang/String;"),
         ("isDirectory", "()Z"), ("delete", "()Z"), ("mkdirs", "()Z"),
         ("listFiles", "()[Ljava/io/File;")] }
  ]

/-- The types of `java.util`. -/
def utilTypes : List Entry :=
  [
    { path := "java/util/Collection"
      interfaces :=
        ["java/lang/Iterable"]
      methods := collectionMethods },
    { path := "java/util/List"
      interfaces :=
        ["java/util/Collection"]
      methods := listMethods },
    { path := "java/util/Set"
      interfaces :=
        ["java/util/Collection"]
      methods :=
        [("of", "()Ljava/util/Set;")] },
    { path := "java/util/ArrayList"
      interfaces :=
        ["java/util/List"]
      methods :=
        [("ensureCapacity", "(I)V"), ("trimToSize", "()V")] },
    { path := "java/util/LinkedList"
      interfaces :=
        ["java/util/List"]
      methods :=
        [("addFirst", "(Ljava/lang/Object;)V"), ("addLast", "(Ljava/lang/Object;)V"),
         ("getFirst", "()Ljava/lang/Object;"), ("getLast", "()Ljava/lang/Object;")] },
    { path := "java/util/HashSet"
      interfaces :=
        ["java/util/Set"] },
    { path := "java/util/Map"
      methods := mapMethods },
    { path := "java/util/Map$Entry"
      methods :=
        [("getKey", "()Ljava/lang/Object;"), ("getValue", "()Ljava/lang/Object;"),
         ("setValue", "(Ljava/lang/Object;)Ljava/lang/Object;")] },
    { path := "java/util/HashMap"
      interfaces :=
        ["java/util/Map"] },
    { path := "java/util/TreeMap"
      interfaces :=
        ["java/util/Map"]
      methods :=
        [("firstKey", "()Ljava/lang/Object;"), ("lastKey", "()Ljava/lang/Object;")] },
    { path := "java/util/Iterator"
      methods :=
        [("hasNext", "()Z"), ("next", "()Ljava/lang/Object;"), ("remove", "()V")] },
    { path := "java/util/Collections"
      fields :=
        [("EMPTY_LIST", "Ljava/util/List;"), ("EMPTY_SET", "Ljava/util/Set;"),
         ("EMPTY_MAP", "Ljava/util/Map;")]
      methods :=
        [("emptyList", "()Ljava/util/List;"), ("emptyMap", "()Ljava/util/Map;"),
         ("unmodifiableList", "(Ljava/util/List;)Ljava/util/List;"),
         ("sort", "(Ljava/util/List;)V"),
         ("singletonList", "(Ljava/lang/Object;)Ljava/util/List;")] },
    { path := "java/util/Arrays"
      methods :=
        [("asList", "([Ljava/lang/Object;)Ljava/util/List;"), ("sort", "([I)V"),
         ("fill", "([II)V"), ("copyOf", "([II)[I"), ("toString", "([I)Ljava/lang/String;"),
         ("equals", "([I[I)Z")] },
    { path := "java/util/Objects"
      methods :=
        [("equals", "(Ljava/lang/Object;Ljava/lang/Object;)Z"),
         ("hash", "([Ljava/lang/Object;)I"),
         ("requireNonNull", "(Ljava/lang/Object;)Ljava/lang/Object;"),
         ("isNull", "(Ljava/lang/Object;)Z"),
         ("toString", "(Ljava/lang/Object;)Ljava/lang/String;")] },
    { path := "java/util/Optional"
      methods :=
        [("of", "(Ljava/lang/Object;)Ljava/util/Optional;"), ("empty", "()Ljava/util/Optional;"),
         ("isPresent", "()Z"), ("get", "()Ljava/lang/Object;"),
         ("orElse", "(Ljava/lang/Object;)Ljava/lang/Object;")] },
    { path := "java/util/Comparator"
      methods :=
        [("compare", "(Ljava/lang/Object;Ljava/lang/Object;)I")] }
  ]

/-- The types of `java.util.stream`. -/
def utilStreamTypes : List Entry :=
  [
    { path := "java/util/stream/Stream"
      interfaces :=
        ["java/lang/AutoCloseable"]
      methods :=
        [("map", "(Ljava/util/function/Function;)Ljava/util/stream/Stream;"),
         ("filter", "(Ljava/util/function/Predicate;)Ljava/util/stream/Stream;"),
         ("collect", "(Ljava/util/stream/Collector;)Ljava/lang/Object;"),
         ("forEach", "(Ljava/util/function/Consumer;)V"), ("count", "()J")] }
  ]

/-- The types of `java.util.concurrent`. -/
def utilConcurrentTypes : List Entry :=
  [
    { path := "java/util/concurrent/TimeUnit"
      superClass := some "java/lang/Enum"
      fields :=
        [("NANOSECONDS", "Ljava/util/concurrent/TimeUnit;"),
         ("MICROSECONDS", "Ljava/util/concurrent/TimeUnit;"),
         ("MILLISECONDS", "Ljava/util/concurrent/TimeUnit;"),
         ("SECONDS", "Ljava/util/concurrent/TimeUnit;"),
         ("MINUTES", "Ljava/util/concurrent/TimeUnit;"),
         ("HOURS", "Ljava/util/concurrent/TimeUnit;"),
         ("DAYS", "Ljava/util/concurrent/TimeUnit;")]
      methods :=
        [("sleep", "(J)V"), ("toMillis", "(J)J")] }
  ]

/-- Every type of the library. -/
def entries : List Entry :=
  langTypes ++ ioTypes ++ utilTypes ++ utilStreamTypes ++ utilConcurrentTypes

/-- The members whose descriptors can be read. -/
def members {ε : Type} (read : String → Except ε JavaType) (named : List (String × String)) :
    List Member :=
  named.filterMap fun (name, descriptor) =>
    match read descriptor with
    | .ok type => some { name, type }
    | .error _ => none

/-- The declaration of a library type. Only the root class is complete. -/
def Entry.declaration (entry : Entry) : TypeDecl where
  path := entry.path
  superClass := entry.superClass
  interfaces := entry.interfaces
  fields := members Descriptor.fieldType entry.fields
  methods := members (fun descriptor => (·.2) <$> Descriptor.methodType descriptor) entry.methods
  complete := entry.path == "java/lang/Object"

/-- The built-in library as a source of types. -/
def source : TypeSource :=
  TypeSource.ofDecls "runtime" (entries.map Entry.declaration)

end SymbolIndex.Builtin
