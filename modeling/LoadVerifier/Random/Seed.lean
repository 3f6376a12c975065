/-
This file turns a list of whole numbers into the starting words of a random stream.

The numbers are written as 32-bit words, least significant first, and the words are stirred into
a pool of four. Each pool word is stirred with every other one, and words beyond the fourth are
stirred in afterwards. Eight words are then squeezed out of the pool. All arithmetic wraps at 32
bits, and a multiplier that changes with every use keeps equal words apart.
-/

namespace LoadVerifier.Random

/-- A number as 32-bit words, least significant first; zero is one word. -/
def seedWords (number : Nat) : List UInt32 :=
  (List.range (number.log2 / 32 + 1)).map fun place => UInt32.ofNat (number >>> (32 * place))

/-- The pool under preparation, and the multiplier of its next use. -/
structure Mixer where
  pool : Vector UInt32 4
  multiplier : UInt32

/-- Stirs one word with the running multiplier. -/
def hashWord (multiplier word : UInt32) : UInt32 × UInt32 :=
  let next := multiplier * 0x931e8875
  let product := (word ^^^ multiplier) * next
  (product ^^^ (product >>> 16), next)

/-- Combines a pool word with a stirred one. -/
def combineWords (word stirred : UInt32) : UInt32 :=
  let sum := 0xca01f9dd * word - 0x4973f715 * stirred
  sum ^^^ (sum >>> 16)

/-- Fills one place of the pool. -/
def Mixer.fill (mixer : Mixer) (place : Fin 4) (word : UInt32) : Mixer :=
  let (stirred, next) := hashWord mixer.multiplier word
  ⟨mixer.pool.set place stirred, next⟩

/-- Stirs one word into one place of the pool. -/
def Mixer.stir (mixer : Mixer) (place : Fin 4) (word : UInt32) : Mixer :=
  let (stirred, next) := hashWord mixer.multiplier word
  ⟨mixer.pool.set place (combineWords mixer.pool[place] stirred), next⟩

/-- Every ordered pair of different places, by source and then by target. -/
def placePairs : List (Fin 4 × Fin 4) :=
  (List.finRange 4).flatMap fun source =>
    ((List.finRange 4).filter (· ≠ source)).map fun target => (source, target)

/-- The pool prepared from the words of the seed; missing words count as zero. -/
def seedPool (words : List UInt32) : Vector UInt32 4 :=
  let start : Mixer := ⟨Vector.replicate 4 0, 0x43b0d7e5⟩
  let filled := (List.finRange 4).foldl
    (fun mixer place => mixer.fill place (words.getD place.val 0)) start
  let stirred := placePairs.foldl
    (fun mixer pair => mixer.stir pair.2 mixer.pool[pair.1]) filled
  let finished := (words.drop 4).foldl
    (fun mixer word => (List.finRange 4).foldl (fun mixer place => mixer.stir place word) mixer)
    stirred
  finished.pool

/-- The `count` words squeezed out of a pool, with the multiplier before each. -/
def squeezeFrom (pool : Vector UInt32 4) : (count : Nat) → Fin 4 → UInt32 → List UInt32
  | 0, _, _ => []
  | count + 1, place, multiplier =>
    let next := multiplier * 0x58f38ded
    let product := (pool[place] ^^^ multiplier) * next
    (product ^^^ (product >>> 16)) :: squeezeFrom pool count (place + 1) next

/-- Eight words squeezed out of a pool. -/
def squeeze (pool : Vector UInt32 4) : List UInt32 :=
  squeezeFrom pool 8 0 0x8b51f9dd

end LoadVerifier.Random
