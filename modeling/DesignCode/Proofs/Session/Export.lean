import Mathlib.Data.List.Infix
import Mathlib.Data.String.Basic
import DesignCode.Session.Recorder

/-!
# Exported session logs

An export drops the oldest warnings of a log whose text is too long.  The bytes of the text are those
of the log without warnings and those of the warnings with commas between them (`byteSize_eq`), so
that the budget of `SessionLog.takeFitting` is exact: the warnings that are left are the newest ones
that fit (`isNewestFitting_fitted`).
-/

namespace DesignCode

open Json

namespace SessionLog

/-! ### The bytes of a log -/

/-- The bytes that warnings take in a list, with a comma before each but the first, and `comma` bytes
before that. -/
def listSize (comma : Nat) : List String → Nat
  | [] => 0
  | w :: ws => warningSize w + comma + listSize 1 ws

theorem warningSize_eq (w : String) : warningSize w = String.utf8Len (render (.string w)) :=
  String.utf8ByteSize_ofList _

theorem utf8Len_renderItems (ws : List String) :
    String.utf8Len (renderItems (ws.map Json.string)) = listSize 1 ws + 1 := by
  induction ws with
  | nil => rfl
  | cons w ws ih =>
    rw [List.map_cons, renderItems, String.utf8Len_cons, String.utf8Len_append, ih, listSize,
      warningSize_eq]
    have comma : Char.utf8Size ',' = 1 := rfl
    omega

theorem utf8Len_strings (ws : List String) :
    String.utf8Len (render (strings ws)) = listSize 0 ws + 2 := by
  cases ws with
  | nil => rfl
  | cons w ws =>
    rw [strings, List.map_cons, render, String.utf8Len_cons, String.utf8Len_append,
      utf8Len_renderItems, listSize, warningSize_eq]
    have bracket : Char.utf8Size '[' = 1 := rfl
    omega

theorem codec_text (l : SessionLog) :
    codec.text l = (Json.object
      [("nodeCount", .nat l.nodeCount), ("durationMs", .float l.durationMs),
        ("skippedCount", .nat l.skippedCount), ("unsupportedCount", .nat l.unsupportedCount),
        ("warnings", .strings l.warnings), ("version", .string l.version)]).text :=
  rfl

/-- The bytes of a log are those without its warnings and those of its warnings. -/
theorem byteSize_eq (l : SessionLog) (ws : List String) :
    byteSize { l with warnings := ws } = byteSize { l with warnings := [] } + listSize 0 ws := by
  simp only [byteSize, codec_text, Json.text, String.utf8ByteSize_ofList, render, renderMembers,
    String.utf8Len_append, String.utf8Len_cons, utf8Len_strings, listSize]
  omega

/-! ### The newest warnings that fit -/

theorem takeFitting_prefix (budget comma : Nat) (ws : List String) :
    takeFitting budget comma ws <+: ws := by
  induction ws generalizing budget comma with
  | nil => exact List.nil_prefix
  | cons w ws ih =>
    rw [takeFitting]
    by_cases fits : warningSize w + comma ≤ budget
    · rw [if_pos fits]
      apply (List.prefix_cons_inj w).2
      exact ih _ _
    · rw [if_neg fits]
      exact List.nil_prefix

theorem listSize_takeFitting_le (budget comma : Nat) (ws : List String) :
    listSize comma (takeFitting budget comma ws) ≤ budget := by
  induction ws generalizing budget comma with
  | nil => exact Nat.zero_le _
  | cons w ws ih =>
    rw [takeFitting]
    by_cases fits : warningSize w + comma ≤ budget
    · have others := ih (budget - (warningSize w + comma)) 1
      rw [if_pos fits, listSize]
      omega
    · rw [if_neg fits]
      exact Nat.zero_le _

/-- No longer list of first warnings fits. -/
theorem length_le_takeFitting {budget comma : Nat} {vs ws : List String} (first : vs <+: ws)
    (fits : listSize comma vs ≤ budget) : vs.length ≤ (takeFitting budget comma ws).length := by
  induction vs generalizing budget comma ws with
  | nil => exact Nat.zero_le _
  | cons v vs ih =>
    obtain ⟨rest, rfl⟩ := first
    rw [listSize] at fits
    rw [List.cons_append, takeFitting, if_pos (by omega), List.length_cons, List.length_cons]
    have others : vs.length ≤
        (takeFitting (budget - (warningSize v + comma)) 1 (vs ++ rest)).length :=
      ih (List.prefix_append vs rest) (by omega)
    omega

theorem listSize_concat (comma : Nat) (ws : List String) (w : String) :
    listSize comma (ws ++ [w]) =
      listSize comma ws + warningSize w + if ws = [] then comma else 1 := by
  induction ws generalizing comma with
  | nil => simp [listSize]
  | cons v ws ih =>
    rw [List.cons_append, listSize, listSize, ih, if_neg (List.cons_ne_nil v ws)]
    by_cases last : ws = []
    · rw [if_pos last]
      omega
    · rw [if_neg last]
      omega

/-- The order of warnings does not change their size. -/
theorem listSize_reverse (comma : Nat) (ws : List String) :
    listSize comma ws.reverse = listSize comma ws := by
  induction ws with
  | nil => rfl
  | cons w ws ih =>
    rw [List.reverse_cons, listSize_concat, ih, listSize]
    cases ws with
    | nil => simp [listSize]
    | cons v vs =>
      rw [if_neg (by simp), listSize, listSize]
      omega

theorem eq_nil_of_listSize_eq_zero {comma : Nat} {ws : List String} (h : listSize comma ws = 0) :
    ws = [] := by
  cases ws with
  | nil => rfl
  | cons w ws =>
    -- a warning has its quotes at least
    have quotes : 0 < warningSize w := by
      rw [warningSize_eq, render, stringText, List.cons_append, String.utf8Len_cons]
      have quote : Char.utf8Size '"' = 1 := rfl
      omega
    rw [listSize] at h
    omega

/-- The newest warnings of a log: the longest end of the list with which the text of the log is not
too long, and none if no end will do. -/
structure IsNewestFitting (l : SessionLog) (ws : List String) : Prop where
  isSuffix : ws <:+ l.warnings
  fits : byteSize { l with warnings := ws } ≤ maxBytes ∨ ws = []
  longest : ∀ vs, vs <:+ l.warnings → byteSize { l with warnings := vs } ≤ maxBytes →
    vs.length ≤ ws.length

theorem isNewestFitting_newestFitting (l : SessionLog) : l.IsNewestFitting l.newestFitting where
  isSuffix := by
    rw [← List.reverse_prefix, newestFitting, List.reverse_reverse]
    exact takeFitting_prefix _ _ _
  fits := by
    have within := listSize_takeFitting_le (maxBytes - byteSize { l with warnings := [] }) 0
      l.warnings.reverse
    rw [← listSize_reverse] at within
    by_cases room : byteSize { l with warnings := [] } ≤ maxBytes
    · left
      rw [byteSize_eq, newestFitting]
      omega
    · right
      have nothing : listSize 0 l.newestFitting = 0 := by
        rw [newestFitting]
        omega
      exact eq_nil_of_listSize_eq_zero nothing
  longest vs suffix fits := by
    rw [byteSize_eq, ← listSize_reverse] at fits
    have first := List.reverse_prefix.2 suffix
    have most : vs.reverse.length ≤ l.newestFitting.reverse.length := by
      rw [newestFitting, List.reverse_reverse]
      exact length_le_takeFitting first (by omega)
    rwa [List.length_reverse, List.length_reverse] at most

/-- A log that is cut has the newest warnings that fit, and is otherwise as before. -/
theorem isNewestFitting_fitted (l : SessionLog) :
    l.IsNewestFitting l.fitted.warnings ∧ l.fitted = { l with warnings := l.fitted.warnings } := by
  rw [fitted]
  by_cases small : l.byteSize ≤ maxBytes
  · rw [if_pos small]
    exact ⟨⟨List.suffix_rfl, .inl small, fun vs suffix _ => suffix.length_le⟩, rfl⟩
  · rw [if_neg small]
    exact ⟨l.isNewestFitting_newestFitting, rfl⟩

/-- Cutting a log that was cut changes nothing. -/
theorem fitted_fitted (l : SessionLog) : l.fitted.fitted = l.fitted := by
  obtain ⟨newest, kept⟩ := l.isNewestFitting_fitted
  generalize l.fitted.warnings = ws at newest kept
  rw [kept, fitted]
  rcases newest.fits with small | rfl
  · rw [if_pos small]
  · exact ite_id _

end SessionLog

namespace Recorder

open SessionLog

theorem current_of_recorded {r : Recorder} {l : SessionLog} (h : r.recorded = some l) :
    r.current = l := by
  rw [current, h, Option.getD_some]

/-- An export leaves the exported log. -/
theorem recorded_exportText {r : Recorder} {l : SessionLog} (h : r.recorded = some l) :
    r.exportText.2.recorded = some l.fitted := by
  obtain ⟨-, kept⟩ := l.isNewestFitting_fitted
  rw [kept, exportText, h, current_of_recorded h, Option.map_some]

theorem exportText_of_unrecorded {r : Recorder} (h : r.recorded = none) : r.exportText.2 = r := by
  rw [exportText, h, Option.map_none, ← h]

theorem exportText_exportText (r : Recorder) : r.exportText.2.exportText = r.exportText := by
  cases h : r.recorded with
  | none => rw [exportText_of_unrecorded h]
  | some l =>
    have left := recorded_exportText h
    have again := recorded_exportText left
    have sameText : r.exportText.2.exportText.1 = r.exportText.1 := by
      show SessionLog.codec.text _ = SessionLog.codec.text _
      rw [current_of_recorded left, current_of_recorded h, fitted_fitted]
    have sameLog : r.exportText.2.exportText.2.recorded = r.exportText.2.recorded := by
      rw [again, left, fitted_fitted]
    have sameRecorder : r.exportText.2.exportText.2 = r.exportText.2 :=
      congrArg (Recorder.mk r.funnel) sameLog
    exact Prod.ext sameText sameRecorder

/-- An export gives the text of the log with the newest warnings that fit, so that it is too long
only if the log is too long without any warning.  It changes nothing but the warnings of a recorded
log, and a further export gives the same text and changes nothing at all. -/
theorem exportText_newest (r : Recorder) :
    ∃ ws, r.current.IsNewestFitting ws ∧
      r.exportText.1 = (Json.object
        [("nodeCount", .nat r.current.nodeCount), ("durationMs", .float r.current.durationMs),
          ("skippedCount", .nat r.current.skippedCount),
          ("unsupportedCount", .nat r.current.unsupportedCount),
          ("warnings", .strings ws), ("version", .string r.current.version)]).text ∧
      (maxBytes < r.exportText.1.utf8ByteSize →
        maxBytes < byteSize { r.current with warnings := [] }) ∧
      r.exportText.2 =
        { funnel := r.funnel, recorded := r.recorded.map fun l => { l with warnings := ws } } ∧
      r.exportText.2.exportText = r.exportText := by
  obtain ⟨newest, kept⟩ := r.current.isNewestFitting_fitted
  have text : r.exportText.1 =
      codec.text { r.current with warnings := r.current.fitted.warnings } :=
    congrArg codec.text kept
  refine ⟨r.current.fitted.warnings, newest, text.trans (codec_text _), ?_, rfl,
    exportText_exportText r⟩
  intro long
  rcases newest.fits with small | none
  · rw [text] at long
    exact absurd small (Nat.not_le.2 long)
  · rwa [text, none] at long

end Recorder

end DesignCode
