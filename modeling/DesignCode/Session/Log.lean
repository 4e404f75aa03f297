import DesignCode.Json.Record

/-!
# Session logs

A `SessionLog` holds the counts of one run and its warnings.  `SessionLog.fitted` drops the oldest
warnings until the text of the log is not longer than a log may be.
-/

namespace DesignCode

open Json

/-- The counts of one run and its warnings. -/
structure SessionLog where
  nodeCount : Nat := 0
  durationMs : Float := 0
  skippedCount : Nat := 0
  unsupportedCount : Nat := 0
  warnings : List String := []
  version : String := ""

namespace SessionLog

def record : Record SessionLog where
  title := "struct SessionLog"
  blank := {}
  fields :=
    [.needed "nodeCount" .count SessionLog.nodeCount fun v l => { l with nodeCount := v },
     .needed "durationMs" .float SessionLog.durationMs fun v l => { l with durationMs := v },
     .needed "skippedCount" .count SessionLog.skippedCount fun v l => { l with skippedCount := v },
     .needed "unsupportedCount" .count SessionLog.unsupportedCount fun v l =>
       { l with unsupportedCount := v },
     .defaulted "warnings" (.list .string) SessionLog.warnings fun v l => { l with warnings := v },
     .needed "version" .string SessionLog.version fun v l => { l with version := v }]

def codec : Codec SessionLog := record.codec

/-- The length of the text of a log in bytes. -/
def byteSize (l : SessionLog) : Nat := (codec.text l).utf8ByteSize

/-- The most bytes that the text of a log has, if dropping warnings can achieve it. -/
def maxBytes : Nat := 50 * 1024

/-- The length of the text of a warning in bytes. -/
def warningSize (w : String) : Nat := (Codec.string.text w).utf8ByteSize

/-- The first warnings that fit into a number of bytes with a comma before each but the first. -/
def takeFitting (budget comma : Nat) : List String → List String
  | [] => []
  | w :: ws =>
    if warningSize w + comma ≤ budget then
      w :: takeFitting (budget - (warningSize w + comma)) 1 ws
    else []

/-- The newest warnings that fit into the bytes that the other fields leave. -/
def newestFitting (l : SessionLog) : List String :=
  let budget := maxBytes - byteSize { l with warnings := [] }
  (takeFitting budget 0 l.warnings.reverse).reverse

/-- The log with the newest warnings only, if its text is too long. -/
def fitted (l : SessionLog) : SessionLog :=
  if l.byteSize ≤ maxBytes then l else { l with warnings := l.newestFitting }

end SessionLog

end DesignCode
