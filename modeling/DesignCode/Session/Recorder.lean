import DesignCode.Session.Log

/-!
# Recorders

A `Recorder` collects warnings before and after a log is recorded.  The warnings collected before go
into the log behind its own; a warning that the log has already is not added again.
-/

namespace DesignCode

/-- The warnings of a session and its log, once that is recorded. -/
structure Recorder where
  /-- The last warnings, oldest first. -/
  funnel : List String := []
  recorded : Option SessionLog := none

namespace Recorder

/-- A recorder without warnings and without a log. -/
def empty : Recorder := {}

/-- The most warnings that the funnel keeps. -/
def maxFunnel : Nat := 500

/-- The version of a log that was not recorded. -/
def unrecordedVersion : String := "0.0.0"

def lastOnes {α : Type} (n : Nat) (xs : List α) : List α := xs.drop (xs.length - n)

/-- The elements that are not in `seen` and did not come before. -/
def firstOnes (seen : List String) : List String → List String
  | [] => []
  | w :: ws => if w ∈ seen then firstOnes seen ws else w :: firstOnes (w :: seen) ws

/-- Adds a warning to a log that does not have it. -/
def addWarning (w : String) (l : SessionLog) : SessionLog :=
  if w ∈ l.warnings then l else { l with warnings := l.warnings ++ [w] }

/-- Adds a warning; an empty one is ignored. -/
def push (r : Recorder) (w : String) : Recorder :=
  if w = "" then r
  else
    { funnel := lastOnes maxFunnel (r.funnel ++ [w])
      recorded := r.recorded.map (addWarning w) }

/-- Records a log, with the warnings of the funnel behind its own and each warning once. -/
def record (r : Recorder) (l : SessionLog) : Recorder :=
  { r with recorded := some { l with warnings := firstOnes [] (l.warnings ++ r.funnel) } }

/-- The recorded log, or an empty one with the warnings of the funnel. -/
def current (r : Recorder) : SessionLog :=
  r.recorded.getD { warnings := r.funnel, version := unrecordedVersion }

/-- The text of the log, cut to the allowed length.  The recorded log keeps the warnings that are
left. -/
def exportText (r : Recorder) : String × Recorder :=
  let l := r.current.fitted
  (SessionLog.codec.text l,
    { r with recorded := r.recorded.map fun l' => { l' with warnings := l.warnings } })

/-- A recorder with the log of a text. -/
def ofText (s : String) : Except Json.Fault Recorder :=
  (SessionLog.codec.parse s).map fun l => { recorded := some l }

/-- How messages speak of a text that is no log. -/
def faultMessage (fault : Json.Fault) : String := "JSON error: " ++ fault.message

end Recorder

end DesignCode
