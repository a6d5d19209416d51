import Ratchet.Text.Cut

namespace Ratchet

/-!
# Kinds

What a template can say about the kind of a thing: its name, the place the
name belongs to, the kinds it specialises, and its description.  Left out is what
says how a kind is built: the table of all its members, its size and layout, its
signature and its abstract members.  A template that asks for one of these fails
here, though it can be filled.
-/

namespace Template

/-- The kinds of things that a template can reach. -/
inductive Kind where
  | nothing
  | truth
  | integer
  | decimal
  | text
  | octets
  | list
  | mapping
  | set
  | tuple
  | date
  | moment
  | duration
  | zoneBase
  | zone
  | basePath
  | basePosixPath
  | realPath
  | path
  | parents
  | sequence
  | kind
  /-- The kind of those kinds that no thing belongs to directly. -/
  | abstractKind
  | method
  | builtin
  | operator
  | operatorOf
  | operationOf
  | partOf
  | fieldOf
  | function
  | property
  | anything
  deriving DecidableEq, Inhabited

namespace Kind

/-- The place that the name of a kind belongs to; nothing for the names that
are known everywhere. -/
def home? : Kind → Option String
  | .date | .moment | .duration | .zoneBase | .zone => some "datetime"
  | .basePath | .basePosixPath | .realPath | .path | .parents => some "pathlib"
  | .sequence => some "collections.abc"
  | .abstractKind => some "abc"
  | _ => none

def name : Kind → String
  | .nothing => "NoneType"
  | .truth => "bool"
  | .integer => "int"
  | .decimal => "float"
  | .text => "str"
  | .octets => "bytes"
  | .list => "list"
  | .mapping => "dict"
  | .set => "set"
  | .tuple => "tuple"
  | .date => "date"
  | .moment => "datetime"
  | .duration => "timedelta"
  | .zoneBase => "tzinfo"
  | .zone => "timezone"
  | .basePath => "PurePath"
  | .basePosixPath => "PurePosixPath"
  | .realPath => "Path"
  | .path => "PosixPath"
  | .parents => "_PathParents"
  | .sequence => "Sequence"
  | .kind => "type"
  | .abstractKind => "ABCMeta"
  | .method => "method"
  | .builtin => "builtin_function_or_method"
  | .operator => "method-wrapper"
  | .operatorOf => "wrapper_descriptor"
  | .operationOf => "method_descriptor"
  | .partOf => "getset_descriptor"
  | .fieldOf => "member_descriptor"
  | .function => "function"
  | .property => "property"
  | .anything => "object"

/-- The name with its place in front. -/
def fullName (k : Kind) : String :=
  match k.home? with
  | some home => home ++ "." ++ k.name
  | none => k.name

/-- The name by which error messages call a kind: only the kinds of dates and
times have their place in it. -/
def title (k : Kind) : String :=
  match k.home? with
  | some "datetime" => k.fullName
  | _ => k.name

def shown (k : Kind) : String := "<class '" ++ k.fullName ++ "'>"

/-- The kinds that a kind specialises directly. -/
def bases : Kind → List Kind
  | .anything => []
  | .truth => [.integer]
  | .moment => [.date]
  | .zone => [.zoneBase]
  | .basePosixPath | .realPath => [.basePath]
  | .path => [.realPath, .basePosixPath]
  | .parents => [.sequence]
  | .abstractKind => [.kind]
  | _ => [.anything]

/-- A kind and all that it specialises, the nearest first. -/
def lineage : Kind → List Kind
  | .anything => [.anything]
  | .truth => [.truth, .integer, .anything]
  | .moment => [.moment, .date, .anything]
  | .zone => [.zone, .zoneBase, .anything]
  | .basePosixPath => [.basePosixPath, .basePath, .anything]
  | .realPath => [.realPath, .basePath, .anything]
  | .path => [.path, .realPath, .basePosixPath, .basePath, .anything]
  | .parents => [.parents, .sequence, .anything]
  | .abstractKind => [.abstractKind, .kind, .anything]
  | k => [k, .anything]

private def paragraphs (lines : List String) : Option String := some (Text.join "\n" lines)

/-- The description of a kind. -/
def description? : Kind → Option String
  | .truth => paragraphs
    ["bool(x) -> bool",
      "",
      "Returns True when the argument x is true, False otherwise.",
      "The builtins True and False are the only two instances of the class bool.",
      "The class bool is a subclass of the class int, and cannot be subclassed."]
  | .integer => paragraphs
    ["int([x]) -> integer",
      "int(x, base=10) -> integer",
      "",
      "Convert a number or string to an integer, or return 0 if no arguments",
      "are given.  If x is a number, return x.__int__().  For floating point",
      "numbers, this truncates towards zero.",
      "",
      "If x is not a number or if base is given, then x must be a string,",
      "bytes, or bytearray instance representing an integer literal in the",
      "given base.  The literal can be preceded by '+' or '-' and be surrounded",
      "by whitespace.  The base defaults to 10.  Valid bases are 0 and 2-36.",
      "Base 0 means to interpret the base from the string as an integer literal.",
      ">>> int('0b100', base=0)",
      "4"]
  | .decimal => some "Convert a string or number to a floating point number, if possible."
  | .text => paragraphs
    ["str(object='') -> str",
      "str(bytes_or_buffer[, encoding[, errors]]) -> str",
      "",
      "Create a new string object from the given object. If encoding or",
      "errors is specified, then the object must expose a data buffer",
      "that will be decoded using the given encoding and error handler.",
      "Otherwise, returns the result of object.__str__() (if defined)",
      "or repr(object).",
      "encoding defaults to sys.getdefaultencoding().",
      "errors defaults to 'strict'."]
  | .octets => paragraphs
    ["bytes(iterable_of_ints) -> bytes",
      "bytes(string, encoding[, errors]) -> bytes",
      "bytes(bytes_or_buffer) -> immutable copy of bytes_or_buffer",
      "bytes(int) -> bytes object of size given by the parameter initialized with null bytes",
      "bytes() -> empty bytes object",
      "",
      "Construct an immutable array of bytes from:",
      "  - an iterable yielding integers in range(256)",
      "  - a text string encoded using the specified encoding",
      "  - any object implementing the buffer API.",
      "  - an integer"]
  | .list => paragraphs
    ["Built-in mutable sequence.",
      "",
      "If no argument is given, the constructor creates a new empty list.",
      "The argument must be an iterable if specified."]
  | .mapping => paragraphs
    ["dict() -> new empty dictionary",
      "dict(mapping) -> new dictionary initialized from a mapping object's",
      "    (key, value) pairs",
      "dict(iterable) -> new dictionary initialized as if via:",
      "    d = \x7b\x7d",
      "    for k, v in iterable:",
      "        d[k] = v",
      "dict(**kwargs) -> new dictionary initialized with the name=value pairs",
      "    in the keyword argument list.  For example:  dict(one=1, two=2)"]
  | .set => paragraphs
    ["set() -> new empty set object",
      "set(iterable) -> new set object",
      "",
      "Build an unordered collection of unique elements."]
  | .tuple => paragraphs
    ["Built-in immutable sequence.",
      "",
      "If no argument is given, the constructor returns an empty tuple.",
      "If iterable is specified the tuple is initialized from iterable's items.",
      "",
      "If the argument is a tuple, the return value is the same object."]
  | .date => some "date(year, month, day) --> date object"
  | .moment => paragraphs
    ["datetime(year, month, day[, hour[, minute[, second[, microsecond[,tzinfo]]]]])",
      "",
      "The year, month and day arguments are required. tzinfo may be None, or an",
      "instance of a tzinfo subclass. The remaining arguments may be ints.",
      ""]
  | .duration => paragraphs
    ["Difference between two datetime values.",
      "",
      "timedelta(days=0, seconds=0, microseconds=0, milliseconds=0, minutes=0, hours=0, weeks=0)",
      "",
      "All arguments are optional and default to 0.",
      "Arguments may be integers or floats, and may be positive or negative."]
  | .zoneBase => some "Abstract base class for time zone info objects."
  | .zone => some "Fixed offset from UTC implementation of tzinfo."
  | .basePath => paragraphs
    ["Base class for manipulating paths without I/O.",
      "",
      "    PurePath represents a filesystem path and offers operations which",
      "    don't imply any actual filesystem I/O.  Depending on your system,",
      "    instantiating a PurePath will return either a PurePosixPath or a",
      "    PureWindowsPath object.  You can also instantiate either of these classes",
      "    directly, regardless of your system.",
      "    "]
  | .basePosixPath => paragraphs
    ["PurePath subclass for non-Windows systems.",
      "",
      "    On a POSIX system, instantiating a PurePath should return this object.",
      "    However, you can also instantiate it directly on any system.",
      "    "]
  | .realPath => paragraphs
    ["PurePath subclass that can make system calls.",
      "",
      "    Path represents a filesystem path but unlike PurePath, also offers",
      "    methods to do system calls on path objects. Depending on your system,",
      "    instantiating a Path will return either a PosixPath or a WindowsPath",
      "    object. You can also instantiate a PosixPath or WindowsPath directly,",
      "    but cannot instantiate a WindowsPath on a POSIX system or vice versa.",
      "    "]
  | .path => paragraphs
    ["Path subclass for non-Windows systems.",
      "",
      "    On a POSIX system, instantiating a Path should return this object.",
      "    "]
  | .kind => paragraphs
    ["type(object) -> the object's type",
      "type(name, bases, dict, **kwds) -> a new type"]
  | .method => some "Create a bound instance method object."
  | .parents => paragraphs
    ["This object provides sequence-like access to the logical ancestors",
      "    of a path.  Don't try to construct it yourself."]
  | .anything => paragraphs
    ["The base class of the class hierarchy.",
      "",
      "When called, it accepts no arguments and returns a new featureless",
      "instance that has no instance attributes and cannot be given any.",
      ""]
  | _ => none

end Kind

end Template

end Ratchet
