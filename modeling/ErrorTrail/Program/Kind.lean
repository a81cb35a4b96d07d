/-!
# Built-in classes

The classes that exist before a program runs, their names, and which class each extends.
-/

namespace ErrorTrail

/-- A built-in class. -/
inductive Kind where
  | object | type
  | noneType | bool | int | float | str | bytes | ellipsis | notImplemented
  | list | tuple | dict | set | frozenset | range | slice
  | function | builtinFunction | builtinMethod | methodDescriptor | method
  | property | staticMethod | classMethod | superType | module | cell
  | dictKeys | dictValues | dictItems
  | iterator | generator | asyncGenerator | coroutine | code
  -- the library
  | result | location | report | settings | errorCode | envelope | propagation | transformError
  | capability | path | foreign
  -- exceptions
  | baseException | exception | generatorExit | keyboardInterrupt | systemExit
  | stopIteration | stopAsyncIteration
  | arithmeticError | zeroDivisionError | overflowError
  | assertionError | attributeError | bufferError | eofError
  | importError | moduleNotFoundError
  | lookupError | indexError | keyError
  | memoryError | nameError | unboundLocalError
  | osError | fileNotFoundError | fileExistsError | permissionError | isADirectoryError
  | notADirectoryError | connectionError | timeoutError | blockingIOError | interruptedError
  | referenceError | runtimeError | notImplementedError | recursionError
  | syntaxError | indentationError | tabError | systemError
  | typeError | valueError | unicodeError | unicodeDecodeError | unicodeEncodeError | warning
  | userWarning | deprecationWarning
  | validationError | settingsError | tokenError
  deriving DecidableEq, Repr, Inhabited

namespace Kind

/-- The name of a class. -/
def name : Kind → String
  | object => "object" | type => "type" | noneType => "NoneType" | bool => "bool" | int => "int"
  | float => "float" | str => "str" | bytes => "bytes" | ellipsis => "ellipsis"
  | notImplemented => "NotImplementedType" | list => "list" | tuple => "tuple" | dict => "dict"
  | set => "set" | frozenset => "frozenset" | range => "range" | slice => "slice"
  | function => "function" | builtinFunction => "builtin_function_or_method"
  | builtinMethod => "builtin_function_or_method" | methodDescriptor => "method_descriptor"
  | method => "method" | property => "property" | staticMethod => "staticmethod"
  | classMethod => "classmethod" | superType => "super" | module => "module" | cell => "cell"
  | dictKeys => "dict_keys" | dictValues => "dict_values" | dictItems => "dict_items"
  | iterator => "iterator" | generator => "generator"
  | asyncGenerator => "async_generator" | coroutine => "coroutine" | code => "code"
  | result => "Result" | location => "Location" | report => "WherrReport"
  | settings => "WherrSettings" | errorCode => "ErrorCode" | envelope => "Wherr"
  | propagation => "Propagation" | transformError => "TransformError" | capability => "WherrError"
  | path => "PosixPath" | foreign => "Foreign"
  | baseException => "BaseException" | exception => "Exception" | generatorExit => "GeneratorExit"
  | keyboardInterrupt => "KeyboardInterrupt" | systemExit => "SystemExit"
  | stopIteration => "StopIteration" | stopAsyncIteration => "StopAsyncIteration"
  | arithmeticError => "ArithmeticError" | zeroDivisionError => "ZeroDivisionError"
  | overflowError => "OverflowError" | assertionError => "AssertionError"
  | attributeError => "AttributeError" | bufferError => "BufferError" | eofError => "EOFError"
  | importError => "ImportError" | moduleNotFoundError => "ModuleNotFoundError"
  | lookupError => "LookupError" | indexError => "IndexError" | keyError => "KeyError"
  | memoryError => "MemoryError" | nameError => "NameError"
  | unboundLocalError => "UnboundLocalError" | osError => "OSError"
  | fileNotFoundError => "FileNotFoundError" | fileExistsError => "FileExistsError"
  | permissionError => "PermissionError" | isADirectoryError => "IsADirectoryError"
  | notADirectoryError => "NotADirectoryError" | connectionError => "ConnectionError"
  | timeoutError => "TimeoutError" | blockingIOError => "BlockingIOError"
  | interruptedError => "InterruptedError" | referenceError => "ReferenceError"
  | runtimeError => "RuntimeError" | notImplementedError => "NotImplementedError"
  | recursionError => "RecursionError" | syntaxError => "SyntaxError"
  | indentationError => "IndentationError" | tabError => "TabError" | systemError => "SystemError"
  | typeError => "TypeError" | valueError => "ValueError" | unicodeError => "UnicodeError"
  | unicodeDecodeError => "UnicodeDecodeError" | unicodeEncodeError => "UnicodeEncodeError"
  | warning => "Warning" | userWarning => "UserWarning"
  | deprecationWarning => "DeprecationWarning" | validationError => "ValidationError"
  | settingsError => "SettingsError" | tokenError => "TokenError"

/-- The module that a class of the library is from; the other classes are there without one. -/
def origin : Kind → Option String
  | result | propagation => some "wherr.foundation.errors.result"
  | location | report => some "wherr.foundation.errors.types"
  | errorCode | transformError => some "wherr.foundation.errors.errors"
  | settings => some "wherr.foundation.config.settings"
  | envelope | capability => some "wherr.runtime.wrapper"
  | path => some "pathlib"
  | _ => none

/-- The name of a class with the module it is from. -/
def fullName (k : Kind) : String :=
  match k.origin with
  | some o => o ++ "." ++ k.name
  | none => k.name

/-- The class that a class extends; only `object` extends none. -/
def parent : Kind → Option Kind
  | object => none
  | bool => some int
  | exception | generatorExit | keyboardInterrupt | systemExit | propagation => some baseException
  | stopIteration | stopAsyncIteration | arithmeticError | assertionError | attributeError
  | bufferError | eofError | importError | lookupError | memoryError | nameError | osError
  | referenceError | runtimeError | syntaxError | systemError | typeError | valueError | warning
  | envelope | transformError | tokenError => some exception
  | zeroDivisionError | overflowError => some arithmeticError
  | moduleNotFoundError => some importError
  | indexError | keyError => some lookupError
  | unboundLocalError => some nameError
  | fileNotFoundError | fileExistsError | permissionError | isADirectoryError | notADirectoryError
  | connectionError | timeoutError | blockingIOError | interruptedError => some osError
  | notImplementedError | recursionError => some runtimeError
  | indentationError => some syntaxError
  | tabError => some indentationError
  | unicodeError | validationError | settingsError => some valueError
  | unicodeDecodeError | unicodeEncodeError => some unicodeError
  | userWarning | deprecationWarning => some warning
  | errorCode => some str
  | _ => some object

/-- The depth below which every chain of classes ends. -/
def maxHeight : Nat := 6

/-- A class and the classes it extends, `n` steps at most. -/
def ancestorsWithin : Nat → Kind → List Kind
  | 0, k => [k]
  | n + 1, k =>
    match k.parent with
    | some p => k :: ancestorsWithin n p
    | none => [k]

/-- A class and the classes it extends, nearest first. -/
def ancestors (k : Kind) : List Kind := ancestorsWithin maxHeight k

/-- Whether a class is another or below it. -/
def isA (k ancestor : Kind) : Bool := k.ancestors.contains ancestor

/-- Whether instances of a class can be raised. -/
def isException (k : Kind) : Bool := k.isA baseException

/-- The classes whose names every program knows. -/
def named : List Kind :=
  [object, type, bool, int, float, str, bytes, list, tuple, dict, set, frozenset, range, slice,
    property, staticMethod, classMethod, superType,
    baseException, exception, generatorExit, keyboardInterrupt, systemExit, stopIteration,
    stopAsyncIteration, arithmeticError, zeroDivisionError, overflowError, assertionError,
    attributeError, bufferError, eofError, importError, moduleNotFoundError, lookupError,
    indexError,
    keyError, memoryError, nameError, unboundLocalError, osError, fileNotFoundError,
    fileExistsError, permissionError, isADirectoryError, notADirectoryError, connectionError,
    timeoutError, blockingIOError, interruptedError, referenceError, runtimeError,
    notImplementedError, recursionError, syntaxError, indentationError, tabError, systemError,
    typeError, valueError, unicodeError, unicodeDecodeError, unicodeEncodeError, warning,
    userWarning, deprecationWarning]

end Kind

end ErrorTrail
