import DesignCode.Json.Record

/-!
# Performance samples

A `Sample` says how long an operation took, with further values under names.  Samples are collected
in the order in which they come.
-/

namespace DesignCode

open Json

/-- How long an operation took. -/
structure Sample where
  operation : String
  durationMs : Float
  metadata : OrderedMap Json := .empty

namespace Sample

/-- Nanoseconds as milliseconds, by way of seconds. -/
def milliseconds (nanos : Nat) : Float :=
  (Float.ofNat (nanos / 1000000000) + Float.ofNat (nanos % 1000000000) / 1000000000) * 1000

/-- The same sample with a further value. -/
def withMetadata (s : Sample) (key : String) (value : Json) : Sample :=
  { s with metadata := s.metadata.insert key value }

/-- Maps that are not written if they are empty. -/
def metadataField : Json.Field Sample :=
  { Field.defaulted "metadata" Codec.any.map Sample.metadata fun v s => { s with metadata := v } with
    write := fun s => if s.metadata.isEmpty then none else some (Codec.any.map.write s.metadata) }

def record : Record Sample where
  title := "struct PerformanceSample"
  blank := { operation := "", durationMs := 0 }
  fields :=
    [.needed "operation" .string Sample.operation fun v s => { s with operation := v },
     .needed "durationMs" .float Sample.durationMs fun v s => { s with durationMs := v },
     metadataField]

def codec : Codec Sample := record.codec

end Sample

end DesignCode
