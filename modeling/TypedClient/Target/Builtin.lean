import TypedClient.Target.Object

namespace TypedClient.Target

def builtinClasses : List String :=
  ["ArithmeticError", "AssertionError", "AttributeError", "BaseException", "BaseExceptionGroup",
   "BlockingIOError", "BrokenPipeError", "BufferError", "BytesWarning", "ChildProcessError",
   "ConnectionAbortedError", "ConnectionError", "ConnectionRefusedError", "ConnectionResetError",
   "DeprecationWarning", "EOFError", "EncodingWarning", "EnvironmentError", "Exception",
   "ExceptionGroup", "FileExistsError", "FileNotFoundError", "FloatingPointError",
   "FutureWarning", "GeneratorExit", "IOError", "ImportError", "ImportWarning",
   "IndentationError", "IndexError", "InterruptedError", "IsADirectoryError", "KeyError",
   "KeyboardInterrupt", "LookupError", "MemoryError", "ModuleNotFoundError", "NameError",
   "NotADirectoryError", "NotImplementedError", "OSError", "OverflowError",
   "PendingDeprecationWarning", "PermissionError", "ProcessLookupError", "RecursionError",
   "ReferenceError", "ResourceWarning", "RuntimeError", "RuntimeWarning", "StopAsyncIteration",
   "StopIteration", "SyntaxError", "SyntaxWarning", "SystemError", "SystemExit", "TabError",
   "TimeoutError", "TypeError", "UnboundLocalError", "UnicodeDecodeError", "UnicodeEncodeError",
   "UnicodeError", "UnicodeTranslateError", "UnicodeWarning", "UserWarning", "ValueError",
   "Warning", "ZeroDivisionError", "bool", "bytearray", "bytes", "classmethod", "complex", "dict",
   "enumerate", "filter", "float", "frozenset", "int", "list", "map", "memoryview", "object",
   "property", "range", "reversed", "set", "slice", "staticmethod", "str", "super", "tuple",
   "type", "zip"]

def builtinFunctions : List String :=
  ["__build_class__", "__import__", "abs", "aiter", "all", "anext", "any", "ascii", "bin",
   "breakpoint", "callable", "chr", "compile", "delattr", "dir", "divmod", "eval", "exec",
   "format", "getattr", "globals", "hasattr", "hash", "hex", "id", "input", "isinstance",
   "issubclass", "iter", "len", "locals", "max", "min", "next", "oct", "open", "ord", "pow",
   "print", "repr", "round", "setattr", "sorted", "sum", "vars"]

def farewell (name : String) : Object :=
  .other "Quitter" s!"Use {name}() or Ctrl-D (i.e. EOF) to exit"

def builtinNotes : List (String × Object) :=
  [("exit", farewell "exit"), ("quit", farewell "quit"),
   ("help", .other "_Helper"
     "Type help() for interactive help, or help(object) for help about object."),
   ("license", .other "_Printer" "Type license() to see the full license text"),
   ("copyright", .other "_Printer" "copyright"), ("credits", .other "_Printer" "credits")]

def builtinValues : List (String × Object) :=
  [("Ellipsis", .ellipsis), ("NotImplemented", .notImplemented), ("__debug__", .ofBool true)]

def builtin? (name : String) : Option Object :=
  if builtinClasses.contains name then some (.builtinClass name)
  else if builtinFunctions.contains name then some (.builtinFunction name)
  else
    match builtinValues.lookup name with
    | some o => some o
    | none => builtinNotes.lookup name

def builtinNamespace : Object :=
  .other "dict"
    ("\x7b'__name__': 'builtins', '__doc__': \x22Built-in functions, exceptions, and other"
      ++ " objects.\\n\\nNoteworthy: None is the `nil' object; Ellipsis represents `...' in"
      ++ " slices.\x22\x7d")

def genericClasses : List String :=
  ["BaseExceptionGroup", "ExceptionGroup", "dict", "enumerate", "frozenset", "list", "set",
   "tuple", "type"]

def typingForms : List (String × Option Nat) :=
  [("Optional", some 1), ("Union", none), ("Callable", none), ("Tuple", none), ("List", some 1),
   ("Set", some 1), ("FrozenSet", some 1), ("Type", some 1), ("Dict", some 2),
   ("Iterable", some 1), ("Sequence", some 1), ("Collection", some 1), ("Mapping", some 2),
   ("MutableMapping", some 2), ("MutableSequence", some 1), ("AbstractSet", some 1),
   ("MutableSet", some 1), ("Deque", some 1), ("DefaultDict", some 2), ("OrderedDict", some 2)]

def datetimeMembers : List (String × Object) :=
  ["date", "datetime", "time", "timedelta", "timezone", "tzinfo"].map
      (fun name => (name, .libraryClass "datetime" name))
    ++ [("MINYEAR", .ofInt 1), ("MAXYEAR", .ofInt 9999),
        ("UTC", .other "datetime.timezone" "datetime.timezone.utc")]

def decimalMembers : List (String × Object) :=
  ["Clamped", "Context", "ConversionSyntax", "Decimal", "DecimalException", "DecimalTuple",
   "DivisionByZero", "DivisionImpossible", "DivisionUndefined", "FloatOperation", "Inexact",
   "InvalidContext", "InvalidOperation", "Overflow", "Rounded", "Subnormal", "Underflow"].map
    fun name => (name, .libraryClass "decimal" name)

def uuidMembers : List (String × Object) :=
  [("UUID", .libraryClass "uuid" "UUID"), ("bytes_", .builtinClass "bytes"),
   ("int_", .builtinClass "int")]
    ++ ["getnode", "uuid1", "uuid3", "uuid4", "uuid5"].map
      fun name => (name, .libraryFunction "uuid" name)

def typingMembers : List (String × Object) :=
  [("Any", .any), ("Text", .builtinClass "str"), ("TYPE_CHECKING", .ofBool false)]
    ++ typingForms.map fun (name, _) => (name, .form name)

def pydanticMembers : List (String × Object) :=
  [("BaseModel", .modelBase), ("Field", .libraryFunction "pydantic" "Field"),
   ("ConfigDict", .libraryClass "pydantic" "ConfigDict"),
   ("TypeAdapter", .libraryClass "pydantic" "TypeAdapter")]

def httpxMembers : List (String × Object) :=
  ["AsyncClient", "Client", "Cookies", "Headers", "QueryParams", "Request", "Response", "Timeout",
   "URL"].map fun name => (name, .libraryClass "httpx" name)

def libraryMembers : String → List (String × Object)
  | "datetime" => datetimeMembers
  | "decimal" => decimalMembers
  | "uuid" => uuidMembers
  | "typing" => typingMembers
  | "pydantic" => pydanticMembers
  | "httpx" => httpxMembers
  | "pydantic_core" =>
    [("to_jsonable_python", .builtinFunction "to_jsonable_python")]
  | _ => []

end TypedClient.Target
