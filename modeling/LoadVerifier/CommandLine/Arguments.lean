/-
This file holds what a command line asks for, and turns it into the options of a run.

The arguments are checked in a fixed order: the range of keys first, then the specs of the passes,
and last whether they fit together. The first problem is the one reported. A blank is a problem
where its value is needed for a check, and not before.
-/
import LoadVerifier.CommandLine.Connection
import LoadVerifier.Pass.Options
import LoadVerifier.Table.Statement

namespace LoadVerifier

/-- What every command line settles, with what holds when it says nothing. -/
structure Settings where
  connection : Connection := {}
  printPsql : Bool := false
  memory : Bool := false
  table : Given String := .value Table.defaultName
  schema : Given String := .value Table.defaultSchema
  logged : Bool := false
  dropExisting : Bool := false
  compression : Option (Given String) := none
  synchronousCommit : Bool := false
  write : Option (Given String) := none
  read : Option (Given String) := none
  data : Option (Given String) := none
  multiPut : Bool := false
  maxReadErrors : Given Int := .value defaultMaxErrors
  keyWindow : Given Int := .value defaultKeyWindow
  progressInterval : Given Float := .value defaultProgressInterval
  seed : Given Int := .value defaultSeed

/-- Settings together with the range of keys, which has to be given. -/
structure Arguments extends Settings where
  startKey : Given Int
  numKeys : Given Int

namespace Arguments

/-- The range of keys that is asked for. -/
def range (arguments : Arguments) : Except Failure KeyRange := do
  let startKey ← arguments.startKey.need (.crash (.blank .startKey))
  if startKey < 0 then .error (.config (.negativeStartKey startKey))
  else
    let numKeys ← arguments.numKeys.need (.crash (.blank .numKeys))
    let most := maxKey - startKey
    if 1 ≤ numKeys ∧ numKeys ≤ most then
      (KeyRange.ofCount startKey numKeys).mapError .config
    else .error (.config (.keyCountOutOfRange most numKeys))

/-- The write pass that is asked for, if one is. -/
def writePass (arguments : Arguments) : Except Failure (Option WriteSpec) :=
  (givenText arguments.write).mapM fun spec =>
    (parseWriteSpec spec arguments.multiPut).mapError .config

/-- The read pass that a spec asks for, with the limits that are given apart from it. -/
def readPassOf (arguments : Arguments) (spec : String) : Except Failure ReadSpec := do
  let (verifyPercent, threads) ← (parseReadFields spec).mapError .config
  let limit ← arguments.maxReadErrors.need (.crash (.blank .maxReadErrors))
  let maxErrors ← (checkMaxErrors limit).mapError .config
  let window ← arguments.keyWindow.need (.crash (.blank .keyWindow))
  let keyWindow ← (checkKeyWindow window).mapError .config
  return { verifyPercent, threads, maxErrors, keyWindow }

/-- The read pass that is asked for, if one is. -/
def readPass (arguments : Arguments) : Except Failure (Option ReadSpec) :=
  (givenText arguments.read).mapM arguments.readPassOf

/-- The bounds of the data to verify, if they are given. -/
def dataBounds (arguments : Arguments) : Except Failure (Option Bounds) :=
  (givenText arguments.data).mapM fun spec => (parseDataSpec spec).mapError .config

/-- The seconds between two progress lines. A blank stands for none of them, as zero does. -/
def interval (arguments : Arguments) : Float := arguments.progressInterval.value?.getD 0.0

/-- The options of the run that is asked for. -/
def runOptions (arguments : Arguments) : Except Failure Options := do
  let range ← arguments.range
  let write ← arguments.writePass
  let read ← arguments.readPass
  let data ← arguments.dataBounds
  if somePass : write.isSome ∨ read.isSome then
    let bounds ← (resolveBounds write data).mapError .config
    return ⟨range, bounds, write, read, arguments.interval, arguments.seed, somePass⟩
  else .error (.config .noPass)

/-- How the table of the run is created. The command line gives no other compression than those
that a table may have. -/
def creation (arguments : Arguments) : Except Failure Table.Creation := do
  let compression ← arguments.compression.mapM (·.need (.config .blankCompression))
  return { logged := arguments.logged, dropExisting := arguments.dropExisting, compression }

/-- The table of the run. -/
def namedTable (arguments : Arguments) : Except Failure Table := do
  let schema ← arguments.schema.need (.crash (.blank .schema))
  let name ← arguments.table.need (.crash (.blank .table))
  return { schema, name }

/-- The table of the run, and how it is created. The way it is created is looked at first. -/
def tableToCreate (arguments : Arguments) : Except Failure (Table × Table.Creation) := do
  let creation ← arguments.creation
  let table ← arguments.namedTable
  return (table, creation)

end Arguments

end LoadVerifier
