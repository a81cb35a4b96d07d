import ErrorTrail.Program.Kind

/-!
# Members of built-in classes

The names of the methods, class methods and properties of each built-in class, without those of the
classes above it.
-/

namespace ErrorTrail

namespace Kind

/-- The methods of a class. -/
def methods : Kind → List String
  | object =>
    ["__init__", "__new__", "__repr__", "__str__", "__eq__", "__ne__", "__hash__", "__setattr__",
      "__getattribute__", "__format__", "__init_subclass__"]
  | int => ["bit_length", "conjugate"]
  | float => ["is_integer"]
  | str => ["split", "rsplit", "join", "isdigit", "isdecimal", "isnumeric", "isalpha", "isalnum",
      "isspace", "isupper", "islower", "isidentifier", "upper", "lower", "casefold", "strip", "lstrip",
      "rstrip", "startswith", "endswith", "replace", "find", "rfind", "index", "rindex", "count",
      "format", "title", "capitalize", "swapcase", "splitlines", "zfill", "ljust", "rjust", "center",
      "partition", "rpartition", "removeprefix", "removesuffix", "encode", "expandtabs"]
  | bytes => ["decode", "hex"]
  | list => ["append", "pop", "extend", "insert", "remove", "reverse", "sort", "index", "count",
      "clear", "copy"]
  | tuple => ["index", "count"]
  | dict => ["get", "items", "keys", "values", "pop", "popitem", "setdefault", "update", "copy",
      "clear"]
  | set => ["add", "remove", "discard", "update", "union", "intersection", "difference",
      "symmetric_difference", "issubset", "issuperset", "isdisjoint", "pop", "clear", "copy"]
  | frozenset => ["union", "intersection", "difference", "symmetric_difference", "issubset",
      "issuperset", "isdisjoint", "copy"]
  | range => ["index", "count"]
  | iterator => ["__iter__", "__next__"]
  | generator => ["__iter__", "__next__", "send", "throw", "close"]
  | asyncGenerator => ["__aiter__", "__anext__", "asend", "athrow", "aclose"]
  | coroutine => ["send", "throw", "close", "__await__"]
  | property => ["getter", "setter", "deleter"]
  | type => ["mro"]
  | function => ["__call__", "__get__"]
  | method => ["__call__"]
  | baseException => ["with_traceback", "add_note"]
  | result => ["is_ok", "is_err", "unwrap", "unwrap_err", "unwrap_or", "unwrap_or_else", "expect",
      "propagate", "map", "map_err", "flat_map", "or_else", "ok", "err", "match", "__bool__"]
  | location => ["model_dump", "model_dump_json", "model_copy"]
  | report => ["format", "model_dump", "model_dump_json", "model_copy"]
  | envelope => ["push_location", "downcast", "is_", "take_inner", "stack", "report", "__reduce__"]
  | path => ["as_posix", "joinpath", "is_absolute", "with_name", "with_suffix"]
  | _ => []

/-- The methods that get the class itself. -/
def classMethods : Kind → List String
  | dict => ["fromkeys"]
  | envelope => ["new"]
  | transformError => ["create", "from_exc"]
  | location => ["model_construct", "model_validate"]
  | report => ["model_construct", "model_validate"]
  | _ => []

/-- The properties of the instances of a class. -/
def properties : Kind → List String
  | object => ["__class__"]
  | int => ["real", "imag", "numerator", "denominator"]
  | float => ["real", "imag"]
  | range => ["start", "stop", "step"]
  | slice => ["start", "stop", "step"]
  | function => ["__name__", "__qualname__", "__defaults__", "__kwdefaults__", "__dict__",
      "__globals__"]
  | builtinFunction => ["__name__", "__qualname__", "__doc__"]
  | builtinMethod => ["__name__", "__qualname__", "__self__", "__doc__"]
  | methodDescriptor => ["__name__", "__qualname__", "__doc__"]
  | method => ["__self__", "__func__"]
  | property => ["fget", "fset"]
  | staticMethod => ["__func__"]
  | classMethod => ["__func__"]
  | module => ["__name__"]
  | cell => ["cell_contents"]
  | baseException => ["args", "__cause__", "__context__", "__traceback__", "__suppress_context__"]
  | osError => ["errno", "strerror", "filename", "filename2"]
  | stopIteration => ["value"]
  | stopAsyncIteration => ["value"]
  | systemExit => ["code"]
  | result => ["_value", "_is_ok"]
  | propagation => ["result"]
  | transformError => ["code", "message", "target", "node"]
  | location => ["file", "line"]
  | report => ["message", "error_type", "locations", "depth", "origin"]
  | envelope => ["locations", "origin"]
  | path => ["name", "parent", "parts", "suffix", "stem"]
  | _ => []

end Kind

/-- Functions that every program can call by name. -/
def builtinFunctions : List String :=
  ["len", "sum", "sorted", "repr", "isinstance", "issubclass", "print", "min", "max", "abs", "any",
    "all", "enumerate", "zip", "map", "filter", "reversed", "iter", "next", "aiter", "anext",
    "getattr", "setattr", "hasattr", "delattr", "callable", "id", "hash", "divmod", "pow", "round",
    "ord", "chr", "bin", "oct", "hex", "format", "vars", "globals", "ascii"]

/-- Functions of the library that a program can be given, each with the module it is from. -/
def libraryOrigins : List (String × String) :=
  let result := "wherr.foundation.errors.result"
  let decorator := "wherr.core.decorator"
  [("Ok", result), ("Err", result), ("early_return", decorator),
    ("wherrapper", "wherr.runtime.wrapper"), ("sequence", result), ("traverse", result),
    ("collect_results", result), ("wherr", decorator), ("is_instrumented", decorator),
    ("instrument_function", "wherr.transform.compiler")]

/-- The names of the functions of the library. -/
def libraryFunctions : List String := libraryOrigins.map (·.1)

/-- The classes of the library whose methods are functions like those of programs. -/
def libraryClasses : List Kind :=
  [.result, .envelope, .propagation, .transformError, .foreign]

/-- The module that a function or method of the library is from. -/
def libraryOrigin? (name : String) : Option String :=
  (libraryOrigins.lookup name).orElse fun _ =>
    (libraryClasses.find? fun k => name.startsWith (k.name ++ ".")).map fun k => k.origin.getD ""

/-- Functions of the module of function tools. -/
def functionTools : List String := ["wraps", "update_wrapper", "reduce", "partial"]

end ErrorTrail
