/-
This file holds the options of a run: the range of keys, the bounds of the records, and the passes
to make. A run makes at least one pass; the proof is part of the options. Only a read pass asks for
the seed, and not before its workers start.
-/
import LoadVerifier.Given
import LoadVerifier.Key.Range
import LoadVerifier.Pass.Spec

namespace LoadVerifier

/-- What a run is asked to do. -/
structure Options where
  range : KeyRange
  bounds : Bounds
  write : Option WriteSpec
  read : Option ReadSpec
  progressInterval : Float := defaultProgressInterval
  seed : Given Int := .value defaultSeed
  some_pass : write.isSome ∨ read.isSome

namespace Options

/-- Options with these passes, of which there has to be one. -/
def make (range : KeyRange) (bounds : Bounds) (write : Option WriteSpec) (read : Option ReadSpec)
    (progressInterval : Float) (seed : Given Int) : Except ConfigError Options :=
  if somePass : write.isSome ∨ read.isSome then
    .ok ⟨range, bounds, write, read, progressInterval, seed, somePass⟩
  else .error .noPass

/-- The lines that describe a write pass. -/
def describeWrite (bounds : Bounds) (spec : WriteSpec) : List String :=
  let multiPut := if spec.multiPut then "True" else "False"
  [s!"Multi-puts: {multiPut}",
    s!"Columns per key: {bounds.minColumns}..{bounds.maxColumns}",
    s!"Data size per column: {bounds.minSize}..{bounds.maxSize}",
    s!"Writer threads: {spec.threads}"]

/-- The lines that describe a read pass. -/
def describeRead (spec : ReadSpec) : List String :=
  [s!"Percent of keys to verify: {spec.verifyPercent}",
    s!"Reader threads: {spec.threads}",
    s!"Max read errors: {spec.maxErrors}",
    s!"Key window: {spec.keyWindow}"]

/-- The lines that describe a run before it starts. -/
def describe (options : Options) : List String :=
  options.write.toList.flatMap (describeWrite options.bounds) ++
    options.read.toList.flatMap describeRead ++ [s!"Key range: {options.range.text}"]

end Options

end LoadVerifier
