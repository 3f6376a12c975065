/-
This file reads the option values that describe the passes of a run: numbers between colons.

A write spec is the average number of columns, the average cell size and perhaps the number of
workers; a read spec is the percentage of keys to verify and perhaps the number of workers; a data
spec is the two averages alone. Every field is a whole number within its limits.
-/
import LoadVerifier.Record.Bounds
import LoadVerifier.Text.Integer

namespace LoadVerifier

/-- A write pass to make. -/
structure WriteSpec where
  bounds : Bounds
  threads : Int := defaultThreads
  multiPut : Bool := false
  deriving DecidableEq

/-- A read pass to make. -/
structure ReadSpec where
  verifyPercent : Int
  threads : Int := defaultThreads
  maxErrors : Int := defaultMaxErrors
  keyWindow : Int := defaultKeyWindow
  deriving DecidableEq

/-- The texts between the colons; a text without a colon is one field. -/
def colonFields : List Char → List (List Char)
  | [] => [[]]
  | character :: rest =>
    if character = ':' then [] :: colonFields rest
    else
      match colonFields rest with
      | [] => [[character]]
      | field :: others => (character :: field) :: others

/-- The fields of an option value, if their number is within the limits. -/
def splitFields (option value : String) (atLeast atMost : Int) :
    Except ConfigError (List String) :=
  let fields := (colonFields value.toList).map String.ofList
  if atLeast ≤ fields.length ∧ (fields.length : Int) ≤ atMost then .ok fields
  else .error (.fieldCount option value atLeast atMost)

/-- A whole number within limits. -/
def parseInteger (text : String) (low high : Int) (what : String) : Except ConfigError Int :=
  match Text.readInteger? text with
  | none => .error (.notAnInteger what text)
  | some value =>
    if low ≤ value ∧ value ≤ high then .ok value
    else .error (.integerOutOfRange what low high value)

/-- A number of workers. -/
def parseThreads (text : String) : Except ConfigError Int :=
  parseInteger text 1 maxThreads "number of threads"

/-- Bounds around the averages in two fields. -/
def parseAverages (columns size : String) : Except ConfigError Bounds := do
  let averageColumns ← parseInteger columns 1 maxAverage "average columns per key"
  let averageSize ← parseInteger size 1 maxAverage "average data size"
  Bounds.ofAverages averageColumns averageSize

/-- The number of workers in the field after the required ones, if there is such a field. -/
def parseOptionalThreads : List String → Except ConfigError Int
  | text :: _ => parseThreads text
  | [] => .ok defaultThreads

/-- Reads a data spec. -/
def parseDataSpec (value : String) : Except ConfigError Bounds := do
  match ← splitFields "data" value 2 2 with
  | columns :: size :: _ => parseAverages columns size
  | _ => .error (.fieldCount "data" value 2 2)

/-- Reads a write spec. -/
def parseWriteSpec (value : String) (multiPut : Bool) : Except ConfigError WriteSpec := do
  match ← splitFields "write" value 2 3 with
  | columns :: size :: rest =>
    let bounds ← parseAverages columns size
    let threads ← parseOptionalThreads rest
    return { bounds, threads, multiPut }
  | _ => .error (.fieldCount "write" value 2 3)

/-- Reads the fields of a read spec: the share of keys to verify, and the number of workers. -/
def parseReadFields (value : String) : Except ConfigError (Int × Int) := do
  match ← splitFields "read" value 1 2 with
  | percent :: rest =>
    let verifyPercent ← parseInteger percent 0 100 "verify percent"
    let threads ← parseOptionalThreads rest
    return (verifyPercent, threads)
  | _ => .error (.fieldCount "read" value 1 2)

/-- A number of read errors to tolerate. -/
def checkMaxErrors (maxErrors : Int) : Except ConfigError Int :=
  if maxErrors < 0 then .error (.negativeMaxReadErrors maxErrors) else .ok maxErrors

/-- A number of keys to stay behind the writer. -/
def checkKeyWindow (keyWindow : Int) : Except ConfigError Int :=
  if keyWindow < 0 then .error (.negativeKeyWindow keyWindow) else .ok keyWindow

/-- Reads a read spec, with the limits that are given apart from it. -/
def parseReadSpec (value : String) (maxErrors keyWindow : Int) : Except ConfigError ReadSpec := do
  let (verifyPercent, threads) ← parseReadFields value
  let maxErrors ← checkMaxErrors maxErrors
  let keyWindow ← checkKeyWindow keyWindow
  return { verifyPercent, threads, maxErrors, keyWindow }

/-- The bounds of a run: those of the write pass, or those given for a read-only run. -/
def resolveBounds (write : Option WriteSpec) (data : Option Bounds) :
    Except ConfigError Bounds :=
  match write, data with
  | some spec, some bounds =>
    if bounds = spec.bounds then .ok spec.bounds else .error .dataDisagrees
  | some spec, none => .ok spec.bounds
  | none, some bounds => .ok bounds
  | none, none => .error .dataMissing

end LoadVerifier
