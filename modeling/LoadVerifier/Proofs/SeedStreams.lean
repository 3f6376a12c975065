/-
This file says when two seeds give the same stream. Every step from the words of a seed to the start
of its stream can be undone: multiplying by an odd number, folding the upper half of a word into the
lower one, stirring one word of the pool into another. So the four words that fill the pool can be
read back from the stream, and two short seeds give one stream exactly when they agree word by word,
where missing words count as zero. Put differently, they agree when their words spell one number.

The streams of a record are seeded by its key, for the number of columns, and by the key and a
column, for a cell. Written one after another, the words of a key and a column may spell what other
numbers spell: a column of zero adds nothing, and a column behind a key of one word looks like the
upper word of a longer key. Nothing else makes two of these streams one.
-/
import LoadVerifier.Proofs.RecordShape
import Mathlib.Data.Nat.Digits.Defs
import Mathlib.Data.Nat.ModEq
import Mathlib.Data.Nat.Prime.Basic

namespace LoadVerifier.Random

/-! ### Steps that can be undone -/

/-- Multiplying by an odd number loses nothing. -/
theorem eq_of_mul_odd {width : Nat} {first second odd : BitVec width}
    (isOdd : odd.toNat % 2 = 1) (equal : first * odd = second * odd) : first = second := by
  have products : first.toNat * odd.toNat ≡ second.toNat * odd.toNat [MOD 2 ^ width] := by
    rw [Nat.ModEq, ← BitVec.toNat_mul, ← BitVec.toNat_mul, equal]
  have coprime : Nat.Coprime (2 ^ width) odd.toNat :=
    (Nat.coprime_two_left.mpr (Nat.odd_iff.mpr isOdd)).pow_left width
  have factors := Nat.ModEq.cancel_right_of_coprime coprime products
  exact BitVec.eq_of_toNat_eq (factors.eq_of_lt_of_lt first.isLt second.isLt)

theorem eq_of_mul_odd_word {first second odd : UInt32} (isOdd : odd.toNat % 2 = 1)
    (equal : first * odd = second * odd) : first = second := by
  refine UInt32.toBitVec_inj.mp (eq_of_mul_odd isOdd ?_)
  rw [← UInt32.toBitVec_mul, ← UInt32.toBitVec_mul, equal]

theorem odd_mul {first second : UInt32} (firstOdd : first.toNat % 2 = 1)
    (secondOdd : second.toNat % 2 = 1) : (first * second).toNat % 2 = 1 := by
  rw [UInt32.toNat_mul, Nat.mod_mod_of_dvd _ (by decide), Nat.mul_mod, firstOdd, secondOdd]

/-- Folding the upper half of a word into the lower one a second time undoes the first. -/
theorem fold_fold (word : UInt32) :
    (word ^^^ (word >>> 16)) ^^^ ((word ^^^ (word >>> 16)) >>> 16) = word := by
  have gone : word.toBitVec >>> 32 = 0 := BitVec.ushiftRight_eq_zero (by decide)
  have unfolded : (word.toBitVec ^^^ word.toBitVec >>> 16) ^^^
      (word.toBitVec ^^^ word.toBitVec >>> 16) >>> 16 = word.toBitVec := by
    rw [BitVec.ushiftRight_xor_distrib, ← BitVec.shiftRight_add, gone, BitVec.xor_assoc,
      ← BitVec.xor_assoc (word.toBitVec >>> 16), BitVec.xor_self]
    simp
  exact UInt32.toBitVec_inj.mp unfolded

theorem eq_of_fold {first second : UInt32}
    (equal : first ^^^ (first >>> 16) = second ^^^ (second >>> 16)) : first = second := by
  rw [← fold_fold first, equal, fold_fold]

/-- A word can be told from what it becomes when it is masked, multiplied by an odd word and
folded. -/
theorem eq_of_stirred {mask odd first second : UInt32} (isOdd : odd.toNat % 2 = 1)
    (equal : (first ^^^ mask) * odd ^^^ (((first ^^^ mask) * odd) >>> 16) =
      (second ^^^ mask) * odd ^^^ (((second ^^^ mask) * odd) >>> 16)) : first = second :=
  (UInt32.xor_left_inj mask).mp (eq_of_mul_odd_word isOdd (eq_of_fold equal))

theorem eq_of_hashWord {multiplier first second : UInt32} (isOdd : multiplier.toNat % 2 = 1)
    (equal : (hashWord multiplier first).1 = (hashWord multiplier second).1) : first = second :=
  eq_of_stirred (odd_mul isOdd rfl) equal

/-- A pool word can be told from what it becomes when a stirred word is combined with it. -/
theorem eq_of_combineWords {stirred first second : UInt32}
    (equal : combineWords first stirred = combineWords second stirred) : first = second := by
  have products := (UInt32.sub_left_inj _).mp (eq_of_fold equal)
  rw [UInt32.mul_comm _ first, UInt32.mul_comm _ second] at products
  exact eq_of_mul_odd_word rfl products

/-! ### The pool -/

theorem get_set (pool : Vector UInt32 4) (place other : Fin 4) (word : UInt32) :
    (pool.set place word place.isLt).get other =
      if place = other then word else pool.get other := by
  simp only [Fin.ext_iff]
  exact Vector.getElem_set ..

theorem pool_fill (mixer : Mixer) (place other : Fin 4) (word : UInt32) :
    (mixer.fill place word).pool.get other =
      if place = other then (hashWord mixer.multiplier word).1 else mixer.pool.get other :=
  get_set _ _ _ _

theorem pool_stir (mixer : Mixer) (place other : Fin 4) (word : UInt32) :
    (mixer.stir place word).pool.get other =
      if place = other then combineWords (mixer.pool.get place) (hashWord mixer.multiplier word).1
      else mixer.pool.get other :=
  get_set _ _ _ _

/-- Two mixers are about to use one multiplier, and it is odd. -/
structure Aligned (first second : Mixer) : Prop where
  same : first.multiplier = second.multiplier
  odd : first.multiplier.toNat % 2 = 1

theorem Aligned.fill {first second : Mixer} (aligned : Aligned first second) (place : Fin 4)
    (word other : UInt32) : Aligned (first.fill place word) (second.fill place other) :=
  ⟨congrArg (· * _) aligned.same, odd_mul aligned.odd rfl⟩

theorem Aligned.stir {first second : Mixer} (aligned : Aligned first second) (place : Fin 4)
    (word other : UInt32) : Aligned (first.stir place word) (second.stir place other) :=
  ⟨congrArg (· * _) aligned.same, odd_mul aligned.odd rfl⟩

/-- Places that are not filled keep their words. -/
theorem pool_foldl_fill (words : Fin 4 → UInt32) (places : List (Fin 4)) (mixer : Mixer)
    (other : Fin 4) (unfilled : other ∉ places) :
    (places.foldl (fun mixer place => mixer.fill place (words place)) mixer).pool.get other =
      mixer.pool.get other := by
  induction places generalizing mixer with
  | nil => rfl
  | cons place rest inductionHypothesis =>
    rw [List.mem_cons, not_or] at unfilled
    rw [List.foldl_cons, inductionHypothesis _ unfilled.2, pool_fill,
      if_neg (Ne.symm unfilled.1)]

theorem aligned_foldl_fill (words others : Fin 4 → UInt32) (places : List (Fin 4))
    (first second : Mixer) (aligned : Aligned first second) :
    Aligned (places.foldl (fun mixer place => mixer.fill place (words place)) first)
      (places.foldl (fun mixer place => mixer.fill place (others place)) second) := by
  induction places generalizing first second with
  | nil => exact aligned
  | cons place rest inductionHypothesis => exact inductionHypothesis _ _ (aligned.fill place _ _)

/-- The words that fill places can be told from the pool. -/
theorem eq_of_foldl_fill (words others : Fin 4 → UInt32) (places : List (Fin 4))
    (distinct : places.Nodup) (first second : Mixer) (aligned : Aligned first second)
    (equal : (places.foldl (fun mixer place => mixer.fill place (words place)) first).pool =
      (places.foldl (fun mixer place => mixer.fill place (others place)) second).pool) :
    ∀ place ∈ places, words place = others place := by
  induction places generalizing first second with
  | nil => exact fun _ none => nomatch none
  | cons place rest inductionHypothesis =>
    rw [List.nodup_cons] at distinct
    rw [List.foldl_cons, List.foldl_cons] at equal
    intro other member
    rcases List.mem_cons.mp member with rfl | later
    -- The first place is not filled again, so the pool at the end still tells its word.
    · have kept := congrArg (fun pool => pool.get other) equal
      simp only [pool_foldl_fill _ rest _ other distinct.1, pool_fill, if_pos, aligned.same] at kept
      exact eq_of_hashWord (aligned.same ▸ aligned.odd) kept
    · exact inductionHypothesis distinct.2 _ _ (aligned.fill place _ _) equal other later

/-- A pool can be told from what it becomes when one of its words is stirred into another. -/
theorem eq_of_stir {first second : Mixer} (aligned : Aligned first second) {source target : Fin 4}
    (different : source ≠ target)
    (equal : (first.stir target (first.pool.get source)).pool =
      (second.stir target (second.pool.get source)).pool) : first.pool = second.pool := by
  have kept : ∀ place, target ≠ place → first.pool.get place = second.pool.get place := by
    intro place other
    have words := congrArg (fun pool => pool.get place) equal
    simpa only [pool_stir, if_neg other] using words
  have combined := congrArg (fun pool => pool.get target) equal
  simp only [pool_stir, if_pos, aligned.same, kept source different.symm] at combined
  refine Vector.ext fun place bound => ?_
  by_cases same : target = ⟨place, bound⟩
  · have words := eq_of_combineWords combined
    rw [same] at words
    exact words
  · exact kept ⟨place, bound⟩ same

/-- A pool can be told from what it becomes when its words are stirred into one another. -/
theorem eq_of_foldl_stir (pairs : List (Fin 4 × Fin 4))
    (different : ∀ pair ∈ pairs, pair.1 ≠ pair.2) (first second : Mixer)
    (aligned : Aligned first second)
    (equal :
      (pairs.foldl (fun mixer pair => mixer.stir pair.2 (mixer.pool.get pair.1)) first).pool =
        (pairs.foldl (fun mixer pair => mixer.stir pair.2 (mixer.pool.get pair.1)) second).pool) :
    first.pool = second.pool := by
  induction pairs generalizing first second with
  | nil => exact equal
  | cons pair rest inductionHypothesis =>
    -- The later steps are undone before the first one.
    have stirred := inductionHypothesis
      (fun other member => different other (List.mem_cons_of_mem _ member)) _ _
      (aligned.stir pair.2 (first.pool.get pair.1) (second.pool.get pair.1)) equal
    exact eq_of_stir aligned (different pair List.mem_cons_self) stirred

/-- The pool filled with four words, before it is stirred. -/
def filledWith (words : Fin 4 → UInt32) : Mixer :=
  (List.finRange 4).foldl (fun mixer place => mixer.fill place (words place))
    ⟨Vector.replicate 4 0, 0x43b0d7e5⟩

theorem seedPool_of_short (words : List UInt32) (short : words.length ≤ 4) :
    seedPool words = (placePairs.foldl (fun mixer pair => mixer.stir pair.2 (mixer.pool.get pair.1))
      (filledWith fun place => words.getD place.val 0)).pool := by
  simp only [seedPool, filledWith, List.drop_eq_nil_of_le short, List.foldl_nil]
  rfl

/-- Two seeds of at most four words prepare one pool exactly when they agree word by word, where
missing words count as zero. -/
theorem seedPool_eq_iff (words others : List UInt32) (short : words.length ≤ 4)
    (othersShort : others.length ≤ 4) :
    seedPool words = seedPool others ↔
      ∀ place : Fin 4, words.getD place.val 0 = others.getD place.val 0 := by
  rw [seedPool_of_short words short, seedPool_of_short others othersShort]
  constructor
  · intro equal place
    have start : Aligned ⟨Vector.replicate 4 0, 0x43b0d7e5⟩ ⟨Vector.replicate 4 0, 0x43b0d7e5⟩ :=
      ⟨rfl, rfl⟩
    have filled := eq_of_foldl_stir placePairs (by decide) _ _
      (aligned_foldl_fill _ _ (List.finRange 4) _ _ start) equal
    exact eq_of_foldl_fill _ _ (List.finRange 4) (List.nodup_finRange 4) _ _ start filled place
      (List.mem_finRange place)
  · intro equal
    rw [show (fun place : Fin 4 => words.getD place.val 0) = _ from funext equal]

/-! ### The stream -/

/-- The words of a pool can be told from as many words squeezed out of it. -/
theorem eq_of_take_squeezeFrom (first second : Vector UInt32 4) (further taken : Nat)
    (place : Fin 4) (multiplier : UInt32) (isOdd : multiplier.toNat % 2 = 1)
    (equal : (squeezeFrom first (further + taken) place multiplier).take taken =
      (squeezeFrom second (further + taken) place multiplier).take taken) :
    ∀ step < taken, ∀ other : Fin 4, other.val = (place.val + step) % 4 →
      first.get other = second.get other := by
  -- Each word taken tells one word of the pool, and the next one the word behind it.
  induction taken generalizing place multiplier with
  | zero => exact fun step impossible => absurd impossible (Nat.not_lt_zero step)
  | succ taken inductionHypothesis =>
    have nextOdd : (multiplier * 0x58f38ded).toNat % 2 = 1 := odd_mul isOdd rfl
    have parts := List.cons.inj equal
    intro step bound other reached
    cases step with
    | zero =>
      have same : other = place := Fin.ext (reached.trans (Nat.mod_eq_of_lt place.isLt))
      rw [same]
      exact eq_of_stirred nextOdd parts.1
    | succ step =>
      refine inductionHypothesis (place + 1) _ nextOdd parts.2 step (by omega) other ?_
      rw [reached, Fin.val_add]
      simp only [Fin.val_one]
      omega

theorem eq_of_take_squeeze {first second : Vector UInt32 4}
    (equal : (squeeze first).take 4 = (squeeze second).take 4) : first = second := by
  refine Vector.ext fun place bound => ?_
  refine eq_of_take_squeezeFrom first second 4 4 0 _ rfl equal place bound ⟨place, bound⟩ ?_
  rw [Fin.val_zero, Nat.zero_add, Nat.mod_eq_of_lt bound]

theorem toNat_joinWords (low high : UInt32) :
    (joinWords low high).toNat = low.toNat + 0x100000000 * high.toNat := by
  have lowBound := low.toNat_lt
  have highBound := high.toNat_lt
  rw [joinWords, BitVec.toNat_ofNat, Nat.mod_eq_of_lt (by omega)]

theorem toNat_joined (first second third fourth : UInt32) :
    (joinWords first second <<< 64 ||| joinWords third fourth).toNat =
      (first.toNat + 0x100000000 * second.toNat) * 0x10000000000000000 +
        (third.toNat + 0x100000000 * fourth.toNat) := by
  have firstBound := first.toNat_lt
  have secondBound := second.toNat_lt
  have thirdBound := third.toNat_lt
  have fourthBound := fourth.toNat_lt
  rw [BitVec.toNat_or, BitVec.toNat_shiftLeft, toNat_joinWords, toNat_joinWords,
    Nat.mod_eq_of_lt (by rw [Nat.shiftLeft_eq]; omega), ← Nat.shiftLeft_add_eq_or_of_lt (by omega),
    Nat.shiftLeft_eq]

/-- Four words can be told from the number that is made of them. -/
theorem eq_of_joined {first second third fourth first' second' third' fourth' : UInt32}
    (equal : joinWords first second <<< 64 ||| joinWords third fourth =
      joinWords first' second' <<< 64 ||| joinWords third' fourth') :
    [first, second, third, fourth] = [first', second', third', fourth'] := by
  have numbers := congrArg BitVec.toNat equal
  rw [toNat_joined, toNat_joined] at numbers
  have bounds := And.intro first.toNat_lt (And.intro second.toNat_lt (And.intro third.toNat_lt
    (And.intro fourth.toNat_lt (And.intro first'.toNat_lt (And.intro second'.toNat_lt
      (And.intro third'.toNat_lt fourth'.toNat_lt))))))
  have words : first.toNat = first'.toNat ∧ second.toNat = second'.toNat ∧
      third.toNat = third'.toNat ∧ fourth.toNat = fourth'.toNat := by omega
  rw [UInt32.toNat_inj.mp words.1, UInt32.toNat_inj.mp words.2.1,
    UInt32.toNat_inj.mp words.2.2.1, UInt32.toNat_inj.mp words.2.2.2]

theorem exists_squeeze (pool : Vector UInt32 4) :
    ∃ first second third fourth fifth sixth seventh eighth,
      squeeze pool = [first, second, third, fourth, fifth, sixth, seventh, eighth] :=
  ⟨_, _, _, _, _, _, _, _, rfl⟩

/-- The first four words squeezed out of the pool can be told from the stream: its first step starts
from them, and that step can be undone. -/
theorem squeeze_of_ofWords {words others : List UInt32}
    (equal : Stream.ofWords words = Stream.ofWords others) :
    (squeeze (seedPool words)).take 4 = (squeeze (seedPool others)).take 4 := by
  obtain ⟨a, b, c, d, e, f, g, h, squeezed⟩ := exists_squeeze (seedPool words)
  obtain ⟨a', b', c', d', e', f', g', h', squeezed'⟩ := exists_squeeze (seedPool others)
  rw [Stream.ofWords, Stream.ofWords, squeezed, squeezed'] at equal
  simp only [Stream.step, Stream.mk.injEq] at equal
  obtain ⟨states, increments, -⟩ := equal
  rw [increments] at states
  have starts := (BitVec.add_right_inj _).mp
    (eq_of_mul_odd rfl ((BitVec.add_left_inj _).mp states))
  rw [squeezed, squeezed']
  exact eq_of_joined starts

/-- Two seeds of at most four words give one stream exactly when they agree word by word, where
missing words count as zero. -/
theorem ofWords_eq_iff (words others : List UInt32) (short : words.length ≤ 4)
    (othersShort : others.length ≤ 4) :
    Stream.ofWords words = Stream.ofWords others ↔
      ∀ place : Fin 4, words.getD place.val 0 = others.getD place.val 0 := by
  rw [← seedPool_eq_iff words others short othersShort]
  constructor
  · exact fun equal => eq_of_take_squeeze (squeeze_of_ofWords equal)
  · intro equal
    rw [Stream.ofWords, Stream.ofWords, equal]

/-! ### The number that words spell -/

/-- The number whose 32-bit words these are, the least significant first. -/
def spelled (words : List UInt32) : Nat := Nat.ofDigits 0x100000000 (words.map UInt32.toNat)

theorem spelled_append (words others : List UInt32) :
    spelled (words ++ others) =
      spelled words + 0x100000000 ^ words.length * spelled others := by
  rw [spelled, List.map_append, Nat.ofDigits_append, List.length_map, spelled, spelled]

theorem spelled_of_short (words : List UInt32) (short : words.length ≤ 4) :
    spelled words = (words.getD 0 0).toNat + 0x100000000 * ((words.getD 1 0).toNat +
      0x100000000 * ((words.getD 2 0).toNat + 0x100000000 * (words.getD 3 0).toNat)) := by
  match words, short with
  | [], _ => rfl
  | [first], _ => simp [spelled]
  | [first, second], _ => simp [spelled, Nat.ofDigits]
  | [first, second, third], _ => simp [spelled, Nat.ofDigits]
  | [first, second, third, fourth], _ => simp [spelled, Nat.ofDigits]

/-- Two seeds of at most four words give one stream exactly when they spell one number. -/
theorem ofWords_eq_iff_spelled (words others : List UInt32) (short : words.length ≤ 4)
    (othersShort : others.length ≤ 4) :
    Stream.ofWords words = Stream.ofWords others ↔ spelled words = spelled others := by
  rw [ofWords_eq_iff words others short othersShort, spelled_of_short words short,
    spelled_of_short others othersShort]
  constructor
  · intro equal
    have zeroth : words.getD 0 0 = others.getD 0 0 := equal 0
    have first : words.getD 1 0 = others.getD 1 0 := equal 1
    have second : words.getD 2 0 = others.getD 2 0 := equal 2
    have third : words.getD 3 0 = others.getD 3 0 := equal 3
    rw [zeroth, first, second, third]
  · intro equal place
    have zeroth := (words.getD 0 0).toNat_lt
    have first := (words.getD 1 0).toNat_lt
    have second := (words.getD 2 0).toNat_lt
    have otherZeroth := (others.getD 0 0).toNat_lt
    have otherFirst := (others.getD 1 0).toNat_lt
    have otherSecond := (others.getD 2 0).toNat_lt
    refine UInt32.toNat_inj.mp ?_
    match place with
    | 0 => show (words.getD 0 0).toNat = (others.getD 0 0).toNat; omega
    | 1 => show (words.getD 1 0).toNat = (others.getD 1 0).toNat; omega
    | 2 => show (words.getD 2 0).toNat = (others.getD 2 0).toNat; omega
    | 3 => show (words.getD 3 0).toNat = (others.getD 3 0).toNat; omega

/-- The words of a number spell it. -/
theorem spelled_seedWords (number : Nat) : spelled (seedWords number) = number := by
  have below : ∀ count : Nat, spelled ((List.range count).map fun place =>
      UInt32.ofNat (number >>> (32 * place))) = number % 0x100000000 ^ count := by
    intro count
    induction count with
    | zero => rw [Nat.pow_zero, Nat.mod_one]; rfl
    | succ count inductionHypothesis =>
      have last : spelled [UInt32.ofNat (number >>> (32 * count))] =
          number / 0x100000000 ^ count % 0x100000000 := by
        rw [Nat.shiftRight_eq_div_pow, Nat.pow_mul]
        exact Nat.ofDigits_singleton
      rw [List.range_succ, List.map_append, spelled_append, inductionHypothesis, List.map_singleton,
        last, List.length_map, List.length_range, Nat.mod_pow_succ]
  have small : number < 0x100000000 ^ (number.log2 / 32 + 1) := by
    calc number < 2 ^ (number.log2 + 1) := Nat.lt_log2_self
      _ ≤ 2 ^ (32 * (number.log2 / 32 + 1)) := Nat.pow_le_pow_right (by decide) (by omega)
      _ = 0x100000000 ^ (number.log2 / 32 + 1) := by rw [Nat.pow_mul]
  rw [seedWords, below, Nat.mod_eq_of_lt small]

theorem length_seedWords (number : Nat) : (seedWords number).length = number.log2 / 32 + 1 := by
  rw [seedWords, List.length_map, List.length_range]

theorem length_seedWords_of_lt (number : Nat) (small : number < 0x100000000) :
    (seedWords number).length = 1 := by
  have log : number.log2 < 32 := by
    by_cases zero : number = 0
    · rw [zero]; decide
    · exact (Nat.log2_lt zero).mpr small
  rw [length_seedWords]
  omega

theorem length_seedWords_of_le (number : Nat) (large : 0x100000000 ≤ number)
    (small : number < 0x10000000000000000) : (seedWords number).length = 2 := by
  have nonzero : number ≠ 0 := by omega
  have most : number.log2 < 64 := (Nat.log2_lt nonzero).mpr small
  have least : ¬number.log2 < 32 := fun less =>
    absurd ((Nat.log2_lt nonzero).mp less) (Nat.not_lt.mpr large)
  rw [length_seedWords]
  omega

theorem length_seedWords_le (number : Nat) (small : number < 0x10000000000000000) :
    (seedWords number).length ≤ 2 := by
  by_cases short : number < 0x100000000
  · rw [length_seedWords_of_lt number short]
    decide
  · rw [length_seedWords_of_le number (Nat.not_lt.mp short) small]

/-! ### The streams of a record -/

/-- Two lists of numbers seed one stream. -/
def SeedAlike (first second : List Int) : Prop :=
  ∃ stream, Stream.seeded? first = some stream ∧ Stream.seeded? second = some stream

theorem entropyOf_cons (number : Nat) (rest : List Int) :
    entropyOf ((number : Int) :: rest) = (entropyOf rest).map (seedWords number ++ ·) := by
  rw [entropyOf, if_neg (Int.not_lt.mpr (Int.natCast_nonneg number)), Int.toNat_natCast]

theorem seeded?_count (key : Nat) :
    Stream.seeded? [(key : Int)] = some (Stream.ofWords (seedWords key)) := by
  rw [Stream.seeded?, entropyOf_cons, entropyOf, Option.map_some, Option.map_some, List.append_nil]

theorem seeded?_cell (key column : Nat) :
    Stream.seeded? [(key : Int), (column : Int)] =
      some (Stream.ofWords (seedWords key ++ seedWords column)) := by
  rw [Stream.seeded?, entropyOf_cons, entropyOf_cons, entropyOf, Option.map_some, Option.map_some,
    Option.map_some, List.append_nil]

theorem seedAlike_iff {first second : List Int} {words others : List UInt32}
    (firstSeeds : Stream.seeded? first = some (Stream.ofWords words))
    (secondSeeds : Stream.seeded? second = some (Stream.ofWords others))
    (short : words.length ≤ 4) (othersShort : others.length ≤ 4) :
    SeedAlike first second ↔ spelled words = spelled others := by
  rw [SeedAlike, firstSeeds, secondSeeds, ← ofWords_eq_iff_spelled words others short othersShort]
  constructor
  · rintro ⟨stream, equal, otherEqual⟩
    exact Option.some.inj (equal.trans otherEqual.symm)
  · exact fun equal => ⟨_, rfl, congrArg some equal.symm⟩

/-- The number that the words of a key and a column spell together. -/
theorem spelled_cell (key column : Nat) (keyFits : key < 0x10000000000000000) :
    spelled (seedWords key ++ seedWords column) =
      if key < 0x100000000 then key + 0x100000000 * column
      else key + 0x10000000000000000 * column := by
  rw [spelled_append, spelled_seedWords, spelled_seedWords]
  split
  · rename_i small
    rw [length_seedWords_of_lt key small, Nat.pow_one]
  · rename_i large
    rw [length_seedWords_of_le key (Nat.not_lt.mp large) keyFits]
    rfl

theorem length_words_cell (key column : Nat) (keyFits : key < 0x10000000000000000)
    (columnFits : column < 0x100000000) :
    (seedWords key ++ seedWords column).length ≤ 4 := by
  have keyWords := length_seedWords_le key keyFits
  have columnWords := length_seedWords_of_lt column columnFits
  rw [List.length_append]
  omega

/-- The stream of a column count and that of a cell are one only when the column is the first of the
same key, or when the cell's key is the lower word of the key and its column the upper one. The
streams of two cells are one only when one of them is the first cell of a key whose lower word is
the other's key and whose upper word is the other's column. -/
theorem streams_shared_only_across_words (key other column otherColumn : Nat)
    (keyFits : key ≤ 0x7ffffffffffffffe) (otherFits : other ≤ 0x7ffffffffffffffe)
    (columnFits : column ≤ 0x7fffffff) (otherColumnFits : otherColumn ≤ 0x7fffffff) :
    (SeedAlike [(key : Int)] [(other : Int), (otherColumn : Int)] ↔
      (key = other ∧ otherColumn = 0) ∨
        (other < 0x100000000 ∧ key = other + 0x100000000 * otherColumn)) ∧
    (SeedAlike [(key : Int), (column : Int)] [(other : Int), (otherColumn : Int)] ↔
      (key = other ∧ column = otherColumn) ∨
        (key < 0x100000000 ∧ other = key + 0x100000000 * column ∧ otherColumn = 0) ∨
          (other < 0x100000000 ∧ key = other + 0x100000000 * otherColumn ∧ column = 0)) := by
  have otherWords := length_words_cell other otherColumn (by omega) (by omega)
  constructor
  · have keyWords := length_seedWords_le key (by omega)
    rw [seedAlike_iff (seeded?_count key) (seeded?_cell other otherColumn) (by omega) otherWords,
      spelled_seedWords, spelled_cell other otherColumn (by omega)]
    split <;> omega
  · rw [seedAlike_iff (seeded?_cell key column) (seeded?_cell other otherColumn)
      (length_words_cell key column (by omega) (by omega)) otherWords,
      spelled_cell key column (by omega), spelled_cell other otherColumn (by omega)]
    split <;> split <;> omega

theorem streams_shared_only_across_words_of_two_words :
    SeedAlike [4294967301] [5, 1] ∧ SeedAlike [4294967301, 0] [5, 1] ∧
      ¬SeedAlike [4294967301, 1] [5, 1] := by
  have shared := streams_shared_only_across_words 4294967301 5 0 1 (by decide) (by decide)
    (by decide) (by decide)
  have apart := streams_shared_only_across_words 4294967301 5 1 1 (by decide) (by decide)
    (by decide) (by decide)
  exact ⟨shared.1.mpr (by decide), shared.2.mpr (by decide), fun alike =>
    absurd (apart.2.mp alike) (by decide)⟩

/-- The column count of a key has the stream of the key's first cell, and also that of a cell of
another key. Two cells of different keys have one stream. -/
theorem streams_coincide :
    SeedAlike [5] [5, 0] ∧ SeedAlike [4294967301] [5, 1] ∧ SeedAlike [5, 1] [4294967301, 0] := by
  exact ⟨(seedAlike_iff (seeded?_count 5) (seeded?_cell 5 0) (by decide) (by decide)).mpr
      (by decide),
    (seedAlike_iff (seeded?_count 4294967301) (seeded?_cell 5 1) (by decide) (by decide)).mpr
      (by decide),
    (seedAlike_iff (seeded?_cell 5 1) (seeded?_cell 4294967301 0) (by decide) (by decide)).mpr
      (by decide)⟩

end LoadVerifier.Random

namespace LoadVerifier

open LoadVerifier.Random

/-- What the shared stream of a count and a first cell does to a record: where as many column counts
are possible as cell sizes, one draw decides both. -/
theorem first_size_follows_count (key : Nat) (bounds : Bounds) (record : Record) (value : Bytes)
    (fits : key < 0x10000000000000000)
    (spans : bounds.maxColumns - bounds.minColumns = bounds.maxSize - bounds.minSize)
    (generated : generate key bounds = .ok record)
    (first : record.columns.find? 0 = some value) :
    record.numColumns - bounds.minColumns = value.length - bounds.minSize := by
  have words := length_seedWords_le key fits
  have alike : SeedAlike [(key : Int)] [(key : Int), ((0 : Nat) : Int)] := by
    rw [seedAlike_iff (seeded?_count key) (seeded?_cell key 0) (by omega)
      (length_words_cell key 0 fits (by decide)), spelled_append, spelled_seedWords,
      spelled_seedWords, Nat.mul_zero, Nat.add_zero]
  obtain ⟨stream, countSeeds, cellSeeds⟩ := alike
  have counted := generateColumnCount_eq_numColumns key bounds record generated
  have valued := value_of_mem_cells key bounds record generated _
    (record.columns.mem_of_find?_eq_some 0 value first)
  obtain ⟨countStream, _, countSeeded, countDrawn⟩ :=
    drawn_of_generateColumnCount key bounds _ counted
  obtain ⟨sizeStream, size, _, sizeSeeded, sizeDrawn, rfl⟩ :=
    drawn_of_generateValue key 0 bounds value valued
  have sameStream : countStream = sizeStream :=
    (Option.some.inj (countSeeded.symm.trans countSeeds)).trans
      (Option.some.inj (cellSeeds.symm.trans sizeSeeded))
  have columns := drawn_of_between? _ _ _ _ _ countDrawn
  have length := drawn_of_between? _ _ _ _ _ sizeDrawn
  rw [length_cellContent, columns, length, spans, sameStream]
  omega

end LoadVerifier
