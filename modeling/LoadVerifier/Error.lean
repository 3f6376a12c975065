/-
This file lists what can go wrong, by cause, with the one wording of each cause.

A `ConfigError` is found before any worker starts: impossible bounds or ranges, options that
contradict each other, or a pool used out of order. A `StoreFailure` is one refused storage call;
workers count it and go on. A `Crash` is anything that is not expected; it ends a worker and stops
its pool, or ends the main thread. A `DatabaseFailure` is whatever the database refuses.
-/
import LoadVerifier.Limits
import LoadVerifier.Text.Digits
import LoadVerifier.Text.Quoted

namespace LoadVerifier

/-- The form of the value that repeats the sizes of an earlier write pass. -/
def dataUsage : String := "<avg_cols_per_key>:<avg_data_size>"

/-- A reason to refuse a configuration. -/
inductive ConfigError
  | negativeStart (start : Int)
  | limitBelowStart (limit start : Int)
  | limitTooLarge (limit : Int)
  | tooFewColumns (minColumns : Int)
  | columnsReversed (minColumns maxColumns : Int)
  | negativeSize (minSize : Int)
  | sizesReversed (minSize maxSize : Int)
  | averageColumnsTooSmall (average : Int)
  | averageSizeTooSmall (average : Int)
  | alreadyStarted (pool : String)
  | threadsOutOfRange (pool : String) (threads : Int)
  | neverStarted (pool : String)
  | configuredLate (pool : String)
  | linkedLate
  | notConfigured
  | verifyPercentOutOfRange (percent : Int)
  | negativeMaxErrors (limit : Int)
  | negativeKeyWindow (window : Int)
  | fieldCount (option value : String) (atLeast atMost : Int)
  | notAnInteger (what text : String)
  | integerOutOfRange (what : String) (low high value : Int)
  | negativeMaxReadErrors (limit : Int)
  | noPass
  | dataDisagrees
  | dataMissing
  | negativeStartKey (start : Int)
  | keyCountOutOfRange (most count : Int)
  | unknownCompression (name : String)
  | blankCompression
  deriving DecidableEq

/-- Whether a number has more digits than may be written. -/
def isUnwritable (number : Int) : Bool := maxDigits < (Nat.toDigits 10 number.natAbs).length

/-- The wording in the place of one that would hold a number with too many digits. -/
def unwritableNumber : String :=
  s!"Exceeds the limit ({maxDigits} digits) for integer string conversion; " ++
    "use sys.set_int_max_str_digits() to increase the limit"

/-- The wording of a refused configuration. -/
def ConfigError.message : ConfigError → String
  | .negativeStart start => s!"start key must be >= 0, got {start}"
  | .limitBelowStart limit start => s!"key range end {limit} < start {start}"
  | .limitTooLarge limit =>
    if isUnwritable limit then unwritableNumber else s!"key range end {limit} exceeds {maxKey}"
  | .tooFewColumns minColumns => s!"min_cols must be >= 1, got {minColumns}"
  | .columnsReversed minColumns maxColumns =>
    s!"columns per key: min {minColumns} > max {maxColumns}"
  | .negativeSize minSize => s!"min_size must be >= 0, got {minSize}"
  | .sizesReversed minSize maxSize => s!"data size per column: min {minSize} > max {maxSize}"
  | .averageColumnsTooSmall average => s!"average columns per key must be >= 1, got {average}"
  | .averageSizeTooSmall average => s!"average data size must be >= 1, got {average}"
  | .alreadyStarted pool => s!"{pool} was already started"
  | .threadsOutOfRange pool threads =>
    s!"{pool} threads must be in 1..{maxThreads}, got {threads}"
  | .neverStarted pool => s!"{pool} was never started"
  | .configuredLate pool => s!"{pool} must be configured before start()"
  | .linkedLate => "reader must be linked before start()"
  | .notConfigured => "writer.configure() must be called before start()"
  | .verifyPercentOutOfRange percent => s!"verify percent must be in 0..100, got {percent}"
  | .negativeMaxErrors limit => s!"max errors must be >= 0, got {limit}"
  | .negativeKeyWindow window => s!"key window must be >= 0, got {window}"
  | .fieldCount option value atLeast atMost =>
    s!"expected at least {atLeast} fields but no more than {atMost} " ++
      s!"in the colon-separated value {Text.quoted value} of the --{option} option"
  | .notAnInteger what text => s!"{what}: {Text.quoted text} is not an integer"
  | .integerOutOfRange what low high value => s!"{what} must be in {low}..{high}, got {value}"
  | .negativeMaxReadErrors limit => s!"max read errors must be >= 0, got {limit}"
  | .noPass => "either --write or --read has to be specified"
  | .dataDisagrees => "--data disagrees with the sizes given to --write"
  | .dataMissing => s!"a read-only pass needs --data {dataUsage} matching the earlier write"
  | .negativeStartKey start => s!"--start-key must be >= 0, got {start}"
  | .keyCountOutOfRange most count => s!"--num-keys must be in 1..{most}, got {count}"
  | .unknownCompression name =>
    s!"compression must be one of pglz, lz4, got {Text.quoted name}"
  | .blankCompression => "compression must be one of pglz, lz4, got []"

/-- The kind under which a refused configuration is reported. A limit with too many digits is
refused as a value, because its wording cannot name it. -/
def ConfigError.kind : ConfigError → String
  | .limitTooLarge limit => if isUnwritable limit then "ValueError" else "ConfigurationError"
  | _ => "ConfigurationError"

/-- One storage call that was refused. -/
structure StoreFailure where
  message : String
  key : Int
  deriving DecidableEq

/-- A reason why a record cannot be generated. -/
inductive GenerationError
  | negativeKey (key : Int)
  | negativeSeed
  | drawTooWide
  deriving DecidableEq

/-- The wording of a failed generation. -/
def GenerationError.message : GenerationError → String
  | .negativeKey key => s!"keys must be non-negative, got {key}"
  | .negativeSeed => "expected non-negative integer"
  | .drawTooWide => "high is out of bounds for int64"

/-- A value that is needed where a blank was given. -/
inductive BlankValue
  | startKey
  | numKeys
  | maxReadErrors
  | keyWindow
  | seed
  | schema
  | table
  deriving DecidableEq

/-- The wording of a blank in the place of a value: it says what the value was needed for. -/
def BlankValue.message : BlankValue → String
  | .startKey | .maxReadErrors | .keyWindow =>
    "'<' not supported between instances of 'list' and 'int'"
  | .numKeys => "'<=' not supported between instances of 'int' and 'list'"
  | .seed => "can only concatenate list (not \"int\") to list"
  | .schema | .table => "SQL identifier parts must be strings, got [] instead"

/-- Something that a worker needs, and that its pool gets only when it is configured and started. -/
inductive PoolPart
  | cursor
  | bounds
  | written
  deriving DecidableEq

/-- The wording of a missing part of a pool. -/
def PoolPart.missing : PoolPart → String
  | .cursor => "'NoneType' object has no attribute 'next_key'"
  | .bounds => "'NoneType' object has no attribute 'min_cols'"
  | .written => "'NoneType' object has no attribute 'record_completion'"

/-- What ends a worker, or the main thread, that did not expect it. -/
inductive Crash
  | generation (error : GenerationError)
  | writtenTwice (key : Int)
  | store (message : String)
  | notImplemented
  | blank (needed : BlankValue)
  | lacking (part : PoolPart)
  | unsupported (pool request : String)
  | unknownContent
  deriving DecidableEq

/-- The wording of a crash. -/
def Crash.message : Crash → String
  | .generation error => error.message
  | .writtenTwice key => s!"key {key} already recorded as written"
  | .store message => message
  | .notImplemented => ""
  | .blank needed => needed.message
  | .lacking part => part.missing
  | .unsupported pool request => s!"'{pool}' object has no attribute '{request}'"
  | .unknownContent => "object of type 'NoneType' has no len()"

/-- The kind under which a crash is reported. -/
def Crash.kind : Crash → String
  | .generation _ | .writtenTwice _ => "ValueError"
  | .store _ => "RuntimeError"
  | .notImplemented => "NotImplementedError"
  | .blank _ | .unknownContent => "TypeError"
  | .lacking _ | .unsupported _ _ => "AttributeError"

/-- The form in which a crash is reported: its kind, and its wording in quotes if it has one. -/
def Crash.report (crash : Crash) : String :=
  match crash with
  | .notImplemented => s!"{crash.kind}()"
  | _ => s!"{crash.kind}({Text.quoted crash.message})"

/-- A refusal by the database. -/
structure DatabaseFailure where
  message : String
  deriving DecidableEq

/-- Why something that was asked for gives no result. -/
inductive Failure
  | config (error : ConfigError)
  | crash (crash : Crash)
  | database (failure : DatabaseFailure)
  deriving DecidableEq

/-- The wording of a failure. -/
def Failure.message : Failure → String
  | .config error => error.message
  | .crash reason => reason.message
  | .database refusal => refusal.message

/-- One printed line. -/
inductive Line
  | out (text : String)
  | err (text : String)
  deriving DecidableEq

end LoadVerifier
