import ErrorTrail.Exchange.Datum
import ErrorTrail.Refusal
import ErrorTrail.Settings.Basic
import ErrorTrail.Site.Build

/-!
# Errors as records

How the errors of the library are written as JSON values: an object with the kind of the error and
what the kind adds to it.
-/

namespace ErrorTrail.Exchange

open Syntax

/-- An error of which only the kind is told. -/
def errorKind (kind : String) : Json := .object [("error", .string kind)]

def errorWith (kind message : String) : Json :=
  .object [("error", .string kind), ("message", .string message)]

/-- A refusal. If it repeats the text of another error, that error's name stands for the text. -/
def writeRefusal (r : Refusal) : Json :=
  let repeats := [.parseFailed, .compileFailed, .sourceUnavailable].contains r.code
  let words := match repeats, r.cause with
    | true, some kind => ("exc", .string kind)
    | _, _ => ("message", .string r.text)
  .object [("error", .string r.code.text), ("target", .string r.target),
    ("line", r.line.elim .null .int), words]

def writePlace : Place → Json
  | .field n => .string n
  | .index i => .int i

/-- What is wrong with data. -/
def writeIssues (issues : List Issue) : Json :=
  .object [("error", .string "ValidationError"),
    ("errors", .array (issues.map fun i =>
      .object [("loc", .array (i.place.map writePlace)), ("type", .string i.complaint.kind),
        ("msg", .string i.complaint.message)]))]

def writeSettingsError : SettingsError → Json
  | .invalid issues => writeIssues issues
  | .unreadable => errorKind "SettingsError"

def writePathError : PathError → Json
  | .nullCharacter => errorWith "ValueError" "embedded null byte"
  | .noDirectory => errorKind "FileNotFoundError"

def writeUnprintable : Unprintable → Json
  | .backslash => errorWith "ValueError" "Unable to avoid backslash in f-string expression part"
  | .digits => errorWith "ValueError" ("Exceeds the limit (4300 digits) for integer string "
      ++ "conversion; use sys.set_int_max_str_digits() to increase the limit")
  | .shape => errorKind "AttributeError"

def writeInstrumentError : InstrumentError → Json
  | .refused r => writeRefusal r
  | .unlocated => errorKind "AttributeError"

def writeBuildError : BuildError → Json
  | .nullCharacter => errorWith "ValueError" "source code string cannot contain null bytes"
  | .nullInName => errorWith "ValueError" "embedded null character"
  | .refused r => writeRefusal r
  | .settings e => writeSettingsError e
  | .path e => writePathError e
  | .unprintable e => writeUnprintable e
  | .unlocated => errorKind "AttributeError"

end ErrorTrail.Exchange
