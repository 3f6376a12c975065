/-
This file spells out the calls that set an engine up, statement by statement. A method checks and
assigns in an order of its own, and when a check fails it raises, and what it has assigned before
stays assigned. So that a refused call changes nothing has to be proved: it is because in each
method all checks come before the first assignment.

What is proved of each method is that it does what the engine does in one go.
-/
import LoadVerifier.Proofs.PoolStep
import LoadVerifier.Reading.Reader
import LoadVerifier.Writing.Writer

namespace LoadVerifier

/-- The answer and the object after a change that is made in one go or not at all. -/
def Method.atOnce {Error Object : Type} (object : Object) :
    Except Error Object → Except Error Unit × Object
  | .ok next => (.ok (), next)
  | .error error => (.error error, object)

/-! ### The methods of a pool and of a writer -/

namespace Pool

variable {State Task : Type}

/-- The method that gives a pool its range. -/
def beginMethod (name : String) (range : KeyRange) (threads : Int) :
    Method ConfigError (Pool State Task) Unit := do
  Method.refuseIf (·.started) (.alreadyStarted name)
  Method.refuseIf (fun _ => threads < 1 ∨ maxThreads < threads) (.threadsOutOfRange name threads)
  Method.assign fun pool =>
    { pool with shared := { pool.shared with cursor := some (.ofRange range) } }

theorem call_beginMethod (name : String) (pool : Pool State Task) (range : KeyRange)
    (threads : Int) :
    (beginMethod name range threads).call pool =
      Method.atOnce pool (pool.begin name range threads) := by
  rw [begin]
  by_cases started : pool.started
  · simp [beginMethod, started, Method.atOnce]
  · by_cases impossible : threads < 1 ∨ maxThreads < threads
    · simp [beginMethod, started, impossible, Method.atOnce]
    · simp [beginMethod, started, impossible, Method.atOnce]

end Pool

namespace Writer

/-- The method that takes the write mode and the bounds. -/
def configureMethod (multiPut : Bool) (minColumns maxColumns minSize maxSize : Int) :
    Method ConfigError Writer Unit := do
  Method.refuseIf (·.started) (.configuredLate poolName)
  let bounds ← Method.orRaise (Bounds.make minColumns maxColumns minSize maxSize)
  Method.assign fun writer => { writer with state := { writer.state with bounds := some bounds } }
  Method.assign fun writer => { writer with state := { writer.state with multiPut } }

/-- The method that starts the workers. -/
def startMethod (range : KeyRange) (threads : Int) (now : Float) :
    Method ConfigError Writer Unit := do
  Method.refuseIf (·.state.bounds.isNone) .notConfigured
  Pool.beginMethod poolName range threads
  Method.assign fun writer =>
    { writer with state := { writer.state with written := some (.ofStart range.start) } }
  Method.assign fun writer => writer.spawn .checkStop threads now

theorem call_configureMethod (writer : Writer) (multiPut : Bool)
    (minColumns maxColumns minSize maxSize : Int) :
    (configureMethod multiPut minColumns maxColumns minSize maxSize).call writer =
      Method.atOnce writer (writer.configure multiPut minColumns maxColumns minSize maxSize) := by
  rw [configureMethod, configure, Method.call_bind, Method.call_refuseIf]
  by_cases started : Pool.started writer
  · simp only [started, if_true]
    rfl
  · simp only [started, Bool.false_eq_true, if_false, Method.call_bind, Method.call_orRaise,
      Method.call_assign]
    cases Bounds.make minColumns maxColumns minSize maxSize <;> rfl

theorem call_startMethod (writer : Writer) (range : KeyRange) (threads : Int) (now : Float) :
    (startMethod range threads now).call writer =
      Method.atOnce writer (writer.start range threads now) := by
  rw [startMethod, start, Method.call_bind, Method.call_refuseIf]
  by_cases unbounded : writer.state.bounds.isNone
  · simp only [unbounded, if_true]
    rfl
  · simp only [unbounded, Bool.false_eq_true, if_false, Method.call_bind, Pool.call_beginMethod,
      Method.call_assign]
    cases Pool.begin poolName writer range threads <;> rfl

end Writer

/-! ### The methods of a reader -/

/-- A reader, and the name of the writer that it is linked to, if it is. -/
structure LinkableReader where
  reader : Reader
  link? : Option Nat := none

namespace Reader

/-- The method that takes the share of keys to compare, the limit of errors and the window. -/
def configureMethod (verifyPercent maxErrors keyWindow : Int) : Method ConfigError Reader Unit := do
  Method.refuseIf (·.started) (.configuredLate poolName)
  Method.refuseIf (fun _ => verifyPercent < 0 ∨ 100 < verifyPercent)
    (.verifyPercentOutOfRange verifyPercent)
  Method.refuseIf (fun _ => maxErrors < 0) (.negativeMaxErrors maxErrors)
  Method.refuseIf (fun _ => keyWindow < 0) (.negativeKeyWindow keyWindow)
  Method.assign fun reader => { reader with state := { reader.state with verifyPercent } }
  Method.assign fun reader => { reader with state := { reader.state with maxErrors } }
  Method.assign fun reader => { reader with state := { reader.state with keyWindow } }

/-- The method that starts the workers. -/
def startMethod (range : KeyRange) (threads : Int) (now : Float) :
    Method ConfigError Reader Unit := do
  Pool.beginMethod poolName range threads
  Method.assign fun reader => reader.spawn .seed threads now

theorem call_configureMethod (reader : Reader) (verifyPercent maxErrors keyWindow : Int) :
    (configureMethod verifyPercent maxErrors keyWindow).call reader =
      Method.atOnce reader (reader.configure verifyPercent maxErrors keyWindow) := by
  rw [configure]
  by_cases started : Pool.started reader
  · simp [configureMethod, started, Method.atOnce]
  · by_cases badPercent : verifyPercent < 0 ∨ 100 < verifyPercent
    · simp [configureMethod, started, badPercent, Method.atOnce]
    · by_cases badErrors : maxErrors < 0
      · simp [configureMethod, started, badPercent, badErrors, Method.atOnce]
      · by_cases badWindow : keyWindow < 0
        · simp [configureMethod, started, badPercent, badErrors, badWindow, Method.atOnce]
        · simp [configureMethod, started, badPercent, badErrors, badWindow, Method.atOnce]

theorem call_startMethod (reader : Reader) (range : KeyRange) (threads : Int) (now : Float) :
    (startMethod range threads now).call reader =
      Method.atOnce reader (reader.start range threads now) := by
  rw [startMethod, start, Method.call_bind, Pool.call_beginMethod]
  cases Pool.begin poolName reader range threads <;> rfl

end Reader

namespace LinkableReader

/-- The method that links a reader to a writer. -/
def linkMethod (writer : Nat) : Method ConfigError LinkableReader Unit := do
  Method.refuseIf (·.reader.started) .linkedLate
  Method.assign fun engine => { engine with link? := some writer }

theorem call_linkMethod (engine : LinkableReader) (writer : Nat) :
    (linkMethod writer).call engine = Method.atOnce engine
      (engine.reader.checkLink.map fun _ => { engine with link? := some writer }) := by
  rw [linkMethod, Reader.checkLink, Method.call_bind, Method.call_refuseIf]
  by_cases started : Pool.started engine.reader
  · simp only [started, if_true]
    rfl
  · simp only [started, Bool.false_eq_true, if_false, Method.call_assign]
    rfl

end LinkableReader

end LoadVerifier
