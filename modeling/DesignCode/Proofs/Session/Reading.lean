import DesignCode.Proofs.Json.Reading
import DesignCode.Proofs.Session.Export

/-!
# Session logs read back

Reading the text of a log reads its numbers one after the other and finds its warnings and its
version as they were (`SessionLog.parse_text`).  The list of warnings can also be read alone
(`warningList_parse_text`), whatever the numbers are.
-/

namespace DesignCode

open Json

/-- The list of warnings in a text, whatever else the text has. -/
def warningList : Record (List String) where
  title := "warnings"
  blank := []
  fields := [.needed "warnings" (.list .string) id fun ws _ => ws]

theorem warningList_parse_text (l : SessionLog) :
    warningList.codec.parse (SessionLog.codec.text l) = .ok l.warnings := by
  rw [SessionLog.codec_text, Codec.parse_text]
  show warningList.readMembers 126 [] [] _ = _
  simp only [Members.printed]
  rw [Record.readMembers_unknown rfl, Record.readMembers_unknown rfl, Record.readMembers_unknown rfl,
    Record.readMembers_unknown rfl,
    Record.readMembers_known rfl (fun _ _ => rfl) (by decide), read_strings, Except.bind,
    Record.readMembers_unknown rfl]
  rfl

namespace SessionLog

theorem parse_text (l : SessionLog) :
    codec.parse (codec.text l) = do
      let nodeCount ← Codec.count.read 126 (Draft.printed (.nat l.nodeCount))
      let durationMs ← Codec.float.read 126 (Draft.printed (.float l.durationMs))
      let skippedCount ← Codec.count.read 126 (Draft.printed (.nat l.skippedCount))
      let unsupportedCount ← Codec.count.read 126 (Draft.printed (.nat l.unsupportedCount))
      return { l with nodeCount, durationMs, skippedCount, unsupportedCount } := by
  rw [codec_text, Codec.parse_text]
  show record.readMembers 126 [] {} _ = _
  simp only [Members.printed]
  refine (Record.readMembers_known rfl (fun _ _ => rfl) (by decide)).trans ?_
  refine congrArg (Except.bind _) (funext fun nodeCount => ?_)
  refine (Record.readMembers_known rfl (fun _ _ => rfl) (by decide)).trans ?_
  refine congrArg (Except.bind _) (funext fun durationMs => ?_)
  refine (Record.readMembers_known rfl (fun _ _ => rfl) (by decide)).trans ?_
  refine congrArg (Except.bind _) (funext fun skippedCount => ?_)
  refine (Record.readMembers_known rfl (fun _ _ => rfl) (by decide)).trans ?_
  refine congrArg (Except.bind _) (funext fun unsupportedCount => ?_)
  rw [Record.readMembers_known rfl (fun _ _ => rfl) (by decide), read_strings, Except.bind,
    Record.readMembers_known rfl (fun _ _ => rfl) (by decide)]
  rfl

theorem warnings_of_parse_text {l l' : SessionLog} (h : codec.parse (codec.text l) = .ok l') :
    l'.warnings = l.warnings := by
  rw [parse_text] at h
  obtain ⟨nodeCount, -, h⟩ := exists_of_bind_eq_ok h
  obtain ⟨durationMs, -, h⟩ := exists_of_bind_eq_ok h
  obtain ⟨skippedCount, -, h⟩ := exists_of_bind_eq_ok h
  obtain ⟨unsupportedCount, -, h⟩ := exists_of_bind_eq_ok h
  cases h
  rfl

end SessionLog

end DesignCode
