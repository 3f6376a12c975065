/-
This file holds the limits of what may be asked for, and what is taken when nothing is asked for.
-/

namespace LoadVerifier

/-- The largest key that a range may end before: the largest signed number of 64 bits. -/
def maxKey : Int := 0x7fffffffffffffff

/-- The largest number of workers of one pool. -/
def maxThreads : Int := 32767

/-- The largest average that a spec may give. -/
def maxAverage : Int := 0x40000000

/-- The most digits that a number may be read or written with. -/
def maxDigits : Nat := 4300

/-- The number of workers of a pass that does not say how many. -/
def defaultThreads : Int := 20

/-- The number of read errors to tolerate unless another one is given. -/
def defaultMaxErrors : Int := 10

/-- The number of keys to stay behind the writer unless another one is given. -/
def defaultKeyWindow : Int := 0

/-- The seed of the samples unless another one is given. -/
def defaultSeed : Int := 12345

/-- The seconds between two progress lines unless another number is given. -/
def defaultProgressInterval : Float := 5.0

end LoadVerifier
