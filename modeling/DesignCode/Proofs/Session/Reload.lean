import DesignCode.Proofs.Json.Number
import DesignCode.Proofs.Session.Reading

/-!
# Saved session logs

A text that a recorder exports can be loaded again.  The log that is loaded is the one that was
exported (`Recorder.ofText_exportText`); as it is within the ceiling already, exporting it once more
drops no further warnings.
-/

namespace DesignCode

open Json

namespace SessionLog

/-- The counts are such as 64 bits hold. -/
structure HasCounts (l : SessionLog) : Prop where
  nodeCount : l.nodeCount < 2 ^ 64
  skippedCount : l.skippedCount < 2 ^ 64
  unsupportedCount : l.unsupportedCount < 2 ^ 64

/-- The text of a log is read as the log. -/
theorem parse_text_of {l : SessionLog} (counts : l.HasCounts)
    (finite : l.durationMs.isFinite = true) : codec.parse (codec.text l) = .ok l := by
  rw [parse_text, read_count counts.nodeCount, read_float finite,
    read_count counts.skippedCount, read_count counts.unsupportedCount]
  rfl

theorem HasCounts.fitted {l : SessionLog} (counts : l.HasCounts) : l.fitted.HasCounts := by
  obtain ⟨-, kept⟩ := l.isNewestFitting_fitted
  rw [kept]
  exact ⟨counts.nodeCount, counts.skippedCount, counts.unsupportedCount⟩

theorem durationMs_fitted (l : SessionLog) : l.fitted.durationMs = l.durationMs := by
  obtain ⟨-, kept⟩ := l.isNewestFitting_fitted
  rw [kept]

end SessionLog

namespace Recorder

/-- A text that a recorder exports is loaded as a recorder with the log that was exported, that is, the
one with the newest warnings that fit.  Exporting that log once more gives the same text. -/
theorem ofText_exportText (r : Recorder) (counts : r.current.HasCounts)
    (finite : r.current.durationMs.isFinite = true) :
    ∃ r' : Recorder, Recorder.ofText r.exportText.1 = .ok r' ∧
      (∃ ws, r.current.IsNewestFitting ws ∧ r'.current = { r.current with warnings := ws }) ∧
      r.exportText.1 = SessionLog.codec.text r'.current ∧
      r'.exportText.1 = r.exportText.1 := by
  obtain ⟨newest, kept⟩ := r.current.isNewestFitting_fitted
  have finite' : r.current.fitted.durationMs.isFinite = true := by
    rwa [SessionLog.durationMs_fitted]
  have loaded : SessionLog.codec.parse r.exportText.1 = .ok r.current.fitted :=
    SessionLog.parse_text_of counts.fitted finite'
  refine ⟨{ recorded := some r.current.fitted }, ?_, ⟨_, newest, kept⟩, rfl, ?_⟩
  · rw [Recorder.ofText, loaded]
    rfl
  · show SessionLog.codec.text r.current.fitted.fitted = _
    rw [SessionLog.fitted_fitted]
    rfl

/-- A recorder with warnings that are not written as they are. -/
def quoting : Recorder where
  recorded := some
    { nodeCount := 12, durationMs := 7.25, unsupportedCount := 1,
      warnings := ["\"Größe\" fehlt", "line\nbreak", "bell\x07", "back\\slash"], version := "1.0.0" }

theorem ofText_exportText_quoting :
    ∃ r' : Recorder, Recorder.ofText quoting.exportText.1 = .ok r' ∧
      (∃ ws, quoting.current.IsNewestFitting ws ∧
        r'.current = { quoting.current with warnings := ws }) ∧
      quoting.exportText.1 = SessionLog.codec.text r'.current ∧
      r'.exportText.1 = quoting.exportText.1 :=
  ofText_exportText quoting ⟨by decide, by decide, by decide⟩ rfl

end Recorder

end DesignCode
