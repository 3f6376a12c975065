/-
This file holds the random stream and the draws taken from it.

The stream is a linear congruential generator on 128 bits; each step gives a 64-bit word by
folding the state and rotating it by its top bits. A 32-bit word is half of a 64-bit one, and the
other half is kept for the next. A bounded draw multiplies a word by the number of choices and
keeps the high part; words whose low part falls below a threshold are thrown away, so that every
choice is equally likely. A rejected word is followed by another one of the same stream, whose
period bounds the search.
-/
import LoadVerifier.Random.Seed

namespace LoadVerifier.Random

/-- A random stream: the generator, and the kept half of its last 64-bit word. -/
structure Stream where
  state : BitVec 128
  increment : BitVec 128
  half : Option UInt32
  deriving DecidableEq

/-- The factor of the generator. -/
def factor : BitVec 128 := 0x2360ed051fc65da44385df649fccf645#128

/-- Moves the generator on. -/
def Stream.step (stream : Stream) : Stream :=
  { stream with state := stream.state * factor + stream.increment }

/-- Two 32-bit words as one number, the low word first. -/
def joinWords (low high : UInt32) : BitVec 128 :=
  BitVec.ofNat 128 (low.toNat + 0x100000000 * high.toNat)

/-- The stream that starts from the words of a seed. -/
def Stream.ofWords (words : List UInt32) : Stream :=
  match squeeze (seedPool words) with
  | [first, second, third, fourth, fifth, sixth, seventh, eighth] =>
    let start := joinWords first second <<< 64 ||| joinWords third fourth
    let sequence := joinWords fifth sixth <<< 64 ||| joinWords seventh eighth
    let fresh : Stream := ⟨0, sequence <<< 1 ||| 1, none⟩
    let stepped := fresh.step
    ({ stepped with state := stepped.state + start } : Stream).step
  | _ => ⟨0, 1, none⟩

/-- The words of a list of numbers one after another, unless one of them is negative. -/
def entropyOf : List Int → Option (List UInt32)
  | [] => some []
  | number :: rest =>
    if number < 0 then none else (entropyOf rest).map (seedWords number.toNat ++ ·)

/-- The stream seeded by a list of numbers, unless one of them is negative. -/
def Stream.seeded? (numbers : List Int) : Option Stream :=
  (entropyOf numbers).map Stream.ofWords

/-- The next 64-bit word. -/
def Stream.word64 (stream : Stream) : UInt64 × Stream :=
  let stepped := stream.step
  let high : BitVec 64 := stepped.state.extractLsb' 64 64
  let low : BitVec 64 := stepped.state.extractLsb' 0 64
  let turn := (stepped.state >>> 122).toNat
  (UInt64.ofBitVec ((high ^^^ low).rotateRight turn), stepped)

/-- The next 32-bit word. -/
def Stream.word32 (stream : Stream) : UInt32 × Stream :=
  match stream.half with
  | some word => (word, { stream with half := none })
  | none =>
    let (word, stepped) := stream.word64
    (word.toUInt32, { stepped with half := some (word >>> 32).toUInt32 })

/-- More words than a stream gives before it repeats itself. -/
def period : Nat := 1 <<< 129

/-- Scales words below `modulus` down to `count` choices, and throws away those whose low part
is below the threshold. -/
def scaledDraw (modulus count : Nat) (word : Stream → Nat × Stream) :
    (fuel : Nat) → Stream → Nat × Stream
  | 0, stream =>
    let (drawn, rest) := word stream
    (drawn * count / modulus, rest)
  | fuel + 1, stream =>
    let (drawn, rest) := word stream
    let product := drawn * count
    if product % modulus < (modulus - count) % count then
      scaledDraw modulus count word fuel rest
    else (product / modulus, rest)

/-- A 32-bit word as a number. -/
def Stream.number32 (stream : Stream) : Nat × Stream :=
  let (word, rest) := stream.word32
  (word.toNat, rest)

/-- A 64-bit word as a number. -/
def Stream.number64 (stream : Stream) : Nat × Stream :=
  let (word, rest) := stream.word64
  (word.toNat, rest)

/-- A number from `0` to `span`, both included. A span of zero draws nothing. -/
def Stream.upTo (stream : Stream) (span : Nat) : Nat × Stream :=
  if span = 0 then (0, stream)
  else if span = 0xffffffff then stream.number32
  else if span < 0xffffffff then
    scaledDraw 0x100000000 (span + 1) Stream.number32 period stream
  else scaledDraw 0x10000000000000000 (span + 1) Stream.number64 period stream

/-- The largest number a draw may reach. -/
def maxDraw : Nat := 0x7fffffffffffffff

/-- A number from `low` to `high`, both included, unless `high` is beyond the largest number. -/
def Stream.between? (stream : Stream) (low high : Nat) : Option (Nat × Stream) :=
  if maxDraw < high then none
  else
    let (offset, rest) := stream.upTo (high - low)
    some (low + offset, rest)

/-- A 32-bit word as bytes, least significant first. -/
def wordBytes (word : UInt32) : List UInt8 :=
  [word.toUInt8, (word >>> 8).toUInt8, (word >>> 16).toUInt8, (word >>> 24).toUInt8]

/-- Draws `count` words and puts them, last one first, in front of those drawn before. -/
def Stream.wordsOnto (drawn : List UInt32) : (count : Nat) → Stream → List UInt32 × Stream
  | 0, stream => (drawn, stream)
  | count + 1, stream =>
    let (word, rest) := stream.word32
    Stream.wordsOnto (word :: drawn) count rest

/-- Draws `count` bytes; what is left of the last word is dropped. -/
def Stream.bytes (stream : Stream) (count : Nat) : List UInt8 × Stream :=
  let (words, rest) := Stream.wordsOnto [] ((count + 3) / 4) stream
  ((words.reverse.flatMap wordBytes).take count, rest)

end LoadVerifier.Random
