import Ratchet.Template.Kind

namespace Ratchet

/-!
# Members

What a kind has by name.  Some members are what operators and general functions
do with the things of the kind, some are operations, and some are parts.  A kind
has the members of all kinds that it specialises, and where two of them have a
member of one name, that of the nearer kind counts.

What is known of a member or an operation itself is its name, where it is at home
and what it is asked of.  Left out are its description, its signature and, of those
put together from others, their code, their defaults and their own attributes.  A
template that asks for one of these fails here, though it can be filled.
-/

namespace Template

/-- How a kind carries a member. -/
inductive Manner where
  /-- What an operator or a general function does with a thing of the kind. -/
  | operator
  /-- An operation on a thing of the kind. -/
  | operation
  /-- An operation on a kind, namely on that of the thing it is asked of. -/
  | shared
  /-- An operation on just the kind that carries it. -/
  | fixed
  /-- A part that is worked out. -/
  | part
  /-- A part that is stored. -/
  | field
  /-- An operation that is put together from others. -/
  | function
  /-- A part that is put together from others. -/
  | property
  deriving DecidableEq

namespace Manner

/-- The kind of a member that is asked of the kind which carries it. -/
def kind : Manner → Kind
  | .operator => .operatorOf
  | .operation => .operationOf
  | .shared | .fixed => .builtin
  | .part => .partOf
  | .field => .fieldOf
  | .function => .function
  | .property => .property

/-- What a member is called in the form that is shown of it. -/
def noun : Manner → String
  | .operator => "slot wrapper"
  | .operation | .shared | .fixed => "method"
  | .part => "attribute"
  | .field => "member"
  | .function => "function"
  | .property => "property"

end Manner

namespace Kind

private def orderings : List String :=
  ["__eq__", "__ge__", "__gt__", "__le__", "__lt__", "__ne__"]

private def comparisons : List String := "__hash__" :: orderings

/-- What operators and general functions do with the things of a kind. -/
def operators : Kind → List String
  | .anything => comparisons ++ ["__delattr__", "__getattribute__", "__init__", "__repr__",
    "__setattr__", "__str__"]
  | .nothing => ["__bool__", "__repr__"]
  | .truth => ["__and__", "__or__", "__rand__", "__repr__", "__ror__", "__rxor__", "__xor__"]
  | .integer => comparisons ++ ["__abs__", "__add__", "__and__", "__bool__", "__divmod__",
    "__float__", "__floordiv__", "__getattribute__", "__index__", "__int__", "__invert__",
    "__lshift__", "__mod__", "__mul__", "__neg__", "__or__", "__pos__", "__pow__", "__radd__",
    "__rand__", "__rdivmod__", "__repr__", "__rfloordiv__", "__rlshift__", "__rmod__", "__rmul__",
    "__ror__", "__rpow__", "__rrshift__", "__rshift__", "__rsub__", "__rtruediv__", "__rxor__",
    "__sub__", "__truediv__", "__xor__"]
  | .decimal => comparisons ++ ["__abs__", "__add__", "__bool__", "__divmod__", "__float__",
    "__floordiv__", "__getattribute__", "__int__", "__mod__", "__mul__", "__neg__", "__pos__",
    "__pow__", "__radd__", "__rdivmod__", "__repr__", "__rfloordiv__", "__rmod__", "__rmul__",
    "__rpow__", "__rsub__", "__rtruediv__", "__sub__", "__truediv__"]
  | .text | .octets => comparisons ++ ["__add__", "__contains__", "__getattribute__",
    "__getitem__", "__iter__", "__len__", "__mod__", "__mul__", "__repr__", "__rmod__",
    "__rmul__", "__str__"]
  | .list => orderings ++ ["__add__", "__contains__", "__delitem__", "__getattribute__",
    "__iadd__", "__imul__", "__init__", "__iter__", "__len__", "__mul__", "__repr__", "__rmul__",
    "__setitem__"]
  | .mapping => orderings ++ ["__delitem__", "__getattribute__", "__init__", "__ior__",
    "__iter__", "__len__", "__or__", "__repr__", "__ror__", "__setitem__"]
  | .set => orderings ++ ["__and__", "__getattribute__", "__iand__", "__init__", "__ior__",
    "__isub__", "__iter__", "__ixor__", "__len__", "__or__", "__rand__", "__repr__", "__ror__",
    "__rsub__", "__rxor__", "__sub__", "__xor__"]
  | .tuple => comparisons ++ ["__add__", "__contains__", "__getattribute__", "__getitem__",
    "__iter__", "__len__", "__mul__", "__repr__", "__rmul__"]
  | .date | .moment => comparisons ++ ["__add__", "__getattribute__", "__radd__", "__repr__",
    "__rsub__", "__str__", "__sub__"]
  | .duration => comparisons ++ ["__abs__", "__add__", "__bool__", "__divmod__", "__floordiv__",
    "__getattribute__", "__mod__", "__mul__", "__neg__", "__pos__", "__radd__", "__rdivmod__",
    "__repr__", "__rfloordiv__", "__rmod__", "__rmul__", "__rsub__", "__rtruediv__", "__str__",
    "__sub__", "__truediv__"]
  | .zoneBase => ["__getattribute__"]
  | .zone => comparisons ++ ["__repr__", "__str__"]
  | .kind => ["__call__", "__delattr__", "__getattribute__", "__init__", "__or__", "__repr__",
    "__ror__", "__setattr__"]
  | .method => comparisons ++ ["__call__", "__delattr__", "__getattribute__", "__repr__",
    "__setattr__"]
  | .builtin | .operator => comparisons ++ ["__call__", "__getattribute__", "__repr__"]
  | .operatorOf | .operationOf => ["__call__", "__get__", "__getattribute__", "__repr__"]
  | .partOf | .fieldOf => ["__delete__", "__get__", "__getattribute__", "__repr__", "__set__"]
  | .function => ["__call__", "__get__", "__repr__"]
  | .property => ["__delete__", "__get__", "__getattribute__", "__init__", "__set__"]
  | _ => []

/-- The operations on the things of a kind. -/
def operations : Kind → List String
  | .anything => ["__dir__", "__format__", "__getstate__", "__reduce__", "__reduce_ex__",
    "__sizeof__"]
  | .integer => ["__ceil__", "__floor__", "__format__", "__getnewargs__", "__round__",
    "__sizeof__", "__trunc__", "as_integer_ratio", "bit_count", "bit_length", "conjugate",
    "to_bytes"]
  | .decimal => ["__ceil__", "__floor__", "__format__", "__getnewargs__", "__round__",
    "__trunc__", "as_integer_ratio", "conjugate", "hex", "is_integer"]
  | .text => ["__format__", "__getnewargs__", "__sizeof__", "capitalize", "casefold", "center",
    "count", "encode", "endswith", "expandtabs", "find", "format", "format_map", "index",
    "isalnum", "isalpha", "isascii", "isdecimal", "isdigit", "isidentifier", "islower",
    "isnumeric", "isprintable", "isspace", "istitle", "isupper", "join", "ljust", "lower",
    "lstrip", "partition", "removeprefix", "removesuffix", "replace", "rfind", "rindex", "rjust",
    "rpartition", "rsplit", "rstrip", "split", "splitlines", "startswith", "strip", "swapcase",
    "title", "translate", "upper", "zfill"]
  | .octets => ["__bytes__", "__getnewargs__", "capitalize", "center", "count", "decode",
    "endswith", "expandtabs", "find", "hex", "index", "isalnum", "isalpha", "isascii", "isdigit",
    "islower", "isspace", "istitle", "isupper", "join", "ljust", "lower", "lstrip", "partition",
    "removeprefix", "removesuffix", "replace", "rfind", "rindex", "rjust", "rpartition", "rsplit",
    "rstrip", "split", "splitlines", "startswith", "strip", "swapcase", "title", "translate",
    "upper", "zfill"]
  | .list => ["__getitem__", "__reversed__", "__sizeof__", "append", "clear", "copy", "count",
    "extend", "index", "insert", "pop", "remove", "reverse", "sort"]
  | .mapping => ["__contains__", "__getitem__", "__reversed__", "__sizeof__", "clear", "copy",
    "get", "items", "keys", "pop", "popitem", "setdefault", "update", "values"]
  | .set => ["__contains__", "__reduce__", "__sizeof__", "add", "clear", "copy", "difference",
    "difference_update", "discard", "intersection", "intersection_update", "isdisjoint",
    "issubset", "issuperset", "pop", "remove", "symmetric_difference",
    "symmetric_difference_update", "union", "update"]
  | .tuple => ["__getnewargs__", "count", "index"]
  | .date => ["__format__", "__reduce__", "ctime", "isocalendar", "isoformat", "isoweekday",
    "replace", "strftime", "timetuple", "toordinal", "weekday"]
  | .moment => ["__reduce__", "__reduce_ex__", "astimezone", "ctime", "date", "dst", "isoformat",
    "replace", "time", "timestamp", "timetuple", "timetz", "tzname", "utcoffset", "utctimetuple"]
  | .duration => ["__reduce__", "total_seconds"]
  | .zoneBase => ["__reduce__", "dst", "fromutc", "tzname", "utcoffset"]
  | .zone => ["__getinitargs__", "dst", "fromutc", "tzname", "utcoffset"]
  | .kind => ["__dir__", "__instancecheck__", "__sizeof__", "__subclasscheck__", "__subclasses__",
    "mro"]
  | .method | .builtin | .operator | .operatorOf | .operationOf | .fieldOf => ["__reduce__"]
  | .property => ["__set_name__", "deleter", "getter", "setter"]
  | _ => []

/-- The operations on a kind and on those that specialise it. -/
def shared : Kind → List String
  | .anything => ["__init_subclass__", "__subclasshook__"]
  | .integer => ["from_bytes"]
  | .decimal => ["__getformat__", "fromhex"]
  | .octets => ["fromhex"]
  | .list | .set | .tuple => ["__class_getitem__"]
  | .mapping => ["__class_getitem__", "fromkeys"]
  | .date => ["fromisocalendar", "fromisoformat", "fromordinal", "fromtimestamp", "today"]
  | .moment => ["combine", "fromisoformat", "fromtimestamp", "now", "strptime",
    "utcfromtimestamp", "utcnow"]
  | .kind => ["__prepare__"]
  | .realPath => ["cwd", "home"]
  | _ => []

/-- The operations on one kind alone. -/
def fixed : Kind → List String
  | .text | .octets => ["__new__", "maketrans"]
  | .basePosixPath | .path | .parents | .sequence => []
  | .builtin | .operator | .operatorOf | .operationOf | .partOf | .fieldOf => []
  | _ => ["__new__"]

/-- The parts that are worked out. -/
def parts : Kind → List String
  | .integer => ["denominator", "imag", "numerator", "real"]
  | .decimal => ["imag", "real"]
  | .date => ["day", "month", "year"]
  | .moment => ["fold", "hour", "microsecond", "minute", "second", "tzinfo"]
  | _ => []

/-- The parts that are stored. -/
def fields : Kind → List String
  | .duration => ["days", "microseconds", "seconds"]
  | _ => []

/-- The operations that are put together from others: those of `basePath` need
no file, those of `realPath` look at files or change them. -/
def functions : Kind → List String
  | .basePath => ["__bytes__", "__eq__", "__fspath__", "__ge__", "__gt__", "__hash__", "__le__",
    "__lt__", "__reduce__", "__repr__", "__rtruediv__", "__str__", "__truediv__", "as_posix",
    "as_uri", "is_absolute", "is_relative_to", "is_reserved", "joinpath", "match", "relative_to",
    "with_name", "with_stem", "with_suffix"]
  | .realPath => ["__enter__", "__exit__", "absolute", "chmod", "exists", "expanduser", "glob",
    "group", "hardlink_to", "is_block_device", "is_char_device", "is_dir", "is_fifo", "is_file",
    "is_mount", "is_socket", "is_symlink", "iterdir", "lchmod", "link_to", "lstat", "mkdir",
    "open", "owner", "read_bytes", "read_text", "readlink", "rename", "replace", "resolve",
    "rglob", "rmdir", "samefile", "stat", "symlink_to", "touch", "unlink", "write_bytes",
    "write_text"]
  | .parents => ["__getitem__", "__init__", "__len__", "__repr__"]
  | .sequence => ["__contains__", "__iter__", "__reversed__", "count", "index"]
  | _ => []

/-- The parts that are put together from others. -/
def properties : Kind → List String
  | .basePath => ["anchor", "drive", "name", "parent", "parents", "parts", "root", "stem",
    "suffix", "suffixes"]
  | _ => []

/-- How a kind carries a member that it does not have from another kind. -/
def own? (k : Kind) (name : String) : Option Manner :=
  if k.operators.contains name then some .operator
  else if k.operations.contains name then some .operation
  else if k.shared.contains name then some .shared
  else if k.fixed.contains name then some .fixed
  else if k.parts.contains name then some .part
  else if k.fields.contains name then some .field
  else if k.functions.contains name then some .function
  else if k.properties.contains name then some .property
  else none

/-- The kind that a member of a kind comes from, and how that kind carries it. -/
def member? (k : Kind) (name : String) : Option (Kind × Manner) :=
  k.lineage.findSome? fun home => (home.own? name).map fun manner => (home, manner)

end Kind

end Template

end Ratchet
