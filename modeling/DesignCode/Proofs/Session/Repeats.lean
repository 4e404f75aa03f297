import DesignCode.Proofs.Session.Merge
import DesignCode.Proofs.Session.Reading

/-!
# Warnings that are exported twice

A `Desk` is a recorder with the files that were saved from it; a session works on it by events, by
exports and by files that are saved and loaded again.  A recorded log has every warning once, and so
has each file that was saved from one.  Messages that come before any log is recorded are exported as
they came, so that a message may stand there twice, and then also in a log loaded from such a file
(`exports_distinct_iff`).
-/

namespace DesignCode

open Json

/-- A recorder and the texts of saved files, the newest first. -/
structure Desk where
  recorder : Recorder := .empty
  files : List (String × String) := []

namespace Desk

/-- What a session does at its desk. -/
inductive Action where
  | event (e : Recorder.Event)
  | exportLog
  | save (file : String)
  | load (file : String)

namespace Action

def event? : Action → Option Recorder.Event
  | event e => some e
  | _ => none

/-- Whether a text is exported, be it into a file. -/
def isExport : Action → Bool
  | exportLog | save _ => true
  | _ => false

end Action

/-- The desk after an action.  A file that is not there or holds no log leaves all as it is. -/
def step (d : Desk) : Action → Desk
  | .event e => { d with recorder := d.recorder.apply e }
  | .exportLog => { d with recorder := d.recorder.exportText.2 }
  | .save file =>
    { recorder := d.recorder.exportText.2, files := (file, d.recorder.exportText.1) :: d.files }
  | .load file =>
    match d.files.lookup file with
    | none => d
    | some text =>
      match Recorder.ofText text with
      | .ok r => { d with recorder := r }
      | .error _ => d

/-- An empty desk after actions, the first one first. -/
def run (as : List Action) : Desk := as.foldl step {}

/-- The texts that are exported by actions, in their order. -/
def exports (d : Desk) : List Action → List String
  | [] => []
  | a :: as => (if a.isExport then [d.recorder.exportText.1] else []) ++ (d.step a).exports as

def events (as : List Action) : List Recorder.Event := as.filterMap Action.event?

/-- Whether the list of warnings in a text has none twice. -/
def IsDistinct (text : String) : Prop :=
  ∃ ws, warningList.codec.parse text = .ok ws ∧ ws.Nodup

/-! ### Exports of a run -/

theorem run_concat (as : List Action) (a : Action) : run (as ++ [a]) = (run as).step a := by
  simp [run]

theorem mem_exports {d : Desk} {as : List Action} {text : String} :
    text ∈ d.exports as ↔
      ∃ before a after, as = before ++ a :: after ∧ a.isExport = true ∧
        text = (before.foldl step d).recorder.exportText.1 := by
  induction as generalizing d with
  | nil => simp [exports]
  | cons a as ih =>
    rw [exports, List.mem_append, ih]
    constructor
    · rintro (mem | ⟨before, b, after, rfl, isExport, rfl⟩)
      · by_cases isExport : a.isExport = true
        · rw [if_pos isExport, List.mem_singleton] at mem
          exact ⟨[], a, as, rfl, isExport, mem⟩
        · rw [if_neg isExport] at mem
          cases mem
      · exact ⟨a :: before, b, after, rfl, isExport, rfl⟩
    · rintro ⟨before, b, after, split, isExport, rfl⟩
      cases before with
      | nil =>
        obtain ⟨rfl, rfl⟩ := List.cons.inj split
        left
        rw [if_pos isExport]
        exact List.mem_singleton_self _
      | cons b' before =>
        obtain ⟨rfl, rfl⟩ := List.cons.inj split
        exact .inr ⟨before, b, after, rfl, isExport, rfl⟩

theorem isDistinct_exportText (r : Recorder) :
    IsDistinct r.exportText.1 ↔ r.current.fitted.warnings.Nodup := by
  have read : warningList.codec.parse r.exportText.1 = .ok r.current.fitted.warnings :=
    warningList_parse_text _
  constructor
  · rintro ⟨ws, same, distinct⟩
    rw [read] at same
    cases same
    exact distinct
  · intro distinct
    exact ⟨_, read, distinct⟩

/-- A load puts the log of a saved file in place of the recorder, or does nothing. -/
theorem step_load (d : Desk) (file : String) :
    d.step (.load file) = d ∨
      ∃ text l, (file, text) ∈ d.files ∧ SessionLog.codec.parse text = .ok l ∧
        d.step (.load file) = { d with recorder := { recorded := some l } } := by
  rw [step]
  cases found : d.files.lookup file with
  | none => exact .inl rfl
  | some text =>
    have mem : (file, text) ∈ d.files := by
      obtain ⟨before, after, split, -⟩ := List.lookup_eq_some_iff.1 found
      rw [split]
      exact List.mem_append_right _ List.mem_cons_self
    cases read : SessionLog.codec.parse text with
    | error fault => simp [Recorder.ofText, read, Except.map]
    | ok l => exact .inr ⟨text, l, mem, read, by simp [Recorder.ofText, read, Except.map]⟩

/-! ### Messages before a record -/

theorem funnel_apply_congr {r r' : Recorder} (h : r.funnel = r'.funnel) (e : Recorder.Event) :
    (r.apply e).funnel = (r'.apply e).funnel := by
  cases e with
  | push w => rw [Recorder.apply, Recorder.apply, Recorder.funnel_push, Recorder.funnel_push, h]
  | record l => exact h
  | clear => rfl

theorem unrecorded_or_clear {r : Recorder} {e : Recorder.Event} (h : (r.apply e).recorded = none) :
    r.recorded = none ∨ e = .clear := by
  cases e with
  | push w =>
    left
    rw [Recorder.apply, Recorder.push] at h
    by_cases blank : w = ""
    · rwa [if_pos blank] at h
    · rw [if_neg blank] at h
      exact Option.map_eq_none_iff.1 h
  | record l => cases h
  | clear => exact .inr rfl

/-- While no log is recorded, exports and files have no part in what the recorder holds. -/
theorem funnel_of_unrecorded {as : List Action} (h : (run as).recorder.recorded = none) :
    (run as).recorder.funnel = (Recorder.run (events as)).funnel := by
  induction as using List.reverseRecOn with
  | nil => rfl
  | append_singleton as a ih =>
    rw [run_concat] at h ⊢
    have silent {a : Action} (none : a.event? = none) : events (as ++ [a]) = events as := by
      simp [events, none]
    cases a with
    | event e =>
      have more : events (as ++ [.event e]) = events as ++ [e] := by simp [events, Action.event?]
      rw [more, Recorder.run_concat]
      rcases unrecorded_or_clear h with unrecorded | rfl
      · exact funnel_apply_congr (ih unrecorded) e
      · rfl
    | exportLog =>
      rw [silent rfl]
      exact ih (Option.map_eq_none_iff.1 h)
    | save file =>
      rw [silent rfl]
      exact ih (Option.map_eq_none_iff.1 h)
    | load file =>
      rw [silent rfl]
      rcases step_load (run as) file with same | ⟨text, l, -, -, loaded⟩
      · rw [same] at h ⊢
        exact ih h
      · rw [loaded] at h
        cases h

/-! ### Recorded logs and saved files -/

/-- The recorded log has no warning twice, and neither has any saved file. -/
structure IsClean (d : Desk) : Prop where
  recorded : ∀ l, d.recorder.recorded = some l → l.warnings.Nodup
  saved : ∀ f ∈ d.files, ∃ l, f.2 = SessionLog.codec.text l ∧ l.warnings.Nodup

theorem nodup_fitted {l : SessionLog} (h : l.warnings.Nodup) : l.fitted.warnings.Nodup := by
  obtain ⟨newest, -⟩ := l.isNewestFitting_fitted
  exact h.sublist newest.isSuffix.sublist

theorem nodup_addWarning {l : SessionLog} (h : l.warnings.Nodup) (w : String) :
    (Recorder.addWarning w l).warnings.Nodup := by
  rw [Recorder.addWarning]
  by_cases old : w ∈ l.warnings
  · rwa [if_pos old]
  · rw [if_neg old, ← List.concat_eq_append]
    exact h.concat old

/-- Events keep the warnings of the recorded log distinct. -/
theorem nodup_recorded_apply {r : Recorder} (h : ∀ l, r.recorded = some l → l.warnings.Nodup)
    (e : Recorder.Event) : ∀ l, (r.apply e).recorded = some l → l.warnings.Nodup := by
  intro l recorded
  cases e with
  | push w =>
    rw [Recorder.apply, Recorder.push] at recorded
    by_cases blank : w = ""
    · rw [if_pos blank] at recorded
      exact h l recorded
    · rw [if_neg blank] at recorded
      obtain ⟨l', before, rfl⟩ := Option.map_eq_some_iff.1 recorded
      exact nodup_addWarning (h l' before) w
  | record l' =>
    cases recorded
    show (Recorder.firstOnes [] _).Nodup
    rw [Recorder.firstOnes_nil]
    exact nodup_eraseDups _
  | clear => cases recorded

theorem nodup_current_fitted {d : Desk} (clean : d.IsClean)
    (distinct : d.recorder.recorded = none → d.recorder.current.fitted.warnings.Nodup) :
    d.recorder.current.fitted.warnings.Nodup := by
  cases recorded : d.recorder.recorded with
  | none => exact distinct recorded
  | some l =>
    rw [Recorder.current_of_recorded recorded]
    exact nodup_fitted (clean.recorded l recorded)

theorem nodup_recorded_exportText {r : Recorder}
    (h : ∀ l, r.recorded = some l → l.warnings.Nodup) :
    ∀ l, r.exportText.2.recorded = some l → l.warnings.Nodup := by
  intro l left
  cases recorded : r.recorded with
  | none =>
    rw [Recorder.exportText_of_unrecorded recorded] at left
    exact h l left
  | some l' =>
    rw [Recorder.recorded_exportText recorded] at left
    cases left
    exact nodup_fitted (h l' recorded)

/-- Actions keep a desk clean if what they export before a record is distinct. -/
theorem IsClean.step {d : Desk} {a : Action} (clean : d.IsClean)
    (distinct : a.isExport = true → d.recorder.recorded = none →
      d.recorder.current.fitted.warnings.Nodup) : (d.step a).IsClean := by
  cases a with
  | event e => exact ⟨nodup_recorded_apply clean.recorded e, clean.saved⟩
  | exportLog => exact ⟨nodup_recorded_exportText clean.recorded, clean.saved⟩
  | save file =>
    refine ⟨nodup_recorded_exportText clean.recorded, List.forall_mem_cons.2 ⟨?_, clean.saved⟩⟩
    exact ⟨d.recorder.current.fitted, rfl, nodup_current_fitted clean (distinct rfl)⟩
  | load file =>
    rcases step_load d file with same | ⟨text, l, mem, read, loaded⟩
    · rwa [same]
    · rw [loaded]
      obtain ⟨l', rfl, nodup⟩ := clean.saved _ mem
      refine ⟨?_, clean.saved⟩
      intro l'' recorded
      cases recorded
      rwa [SessionLog.warnings_of_parse_text read]

/-- The log of a session that pushed messages and recorded none. -/
def unrecordedLog (ms : List String) : SessionLog :=
  { warnings := ms, version := Recorder.unrecordedVersion }

theorem current_of_unrecorded {as : List Action} (h : (run as).recorder.recorded = none) :
    (run as).recorder.current =
      unrecordedLog ((Recorder.messages (Recorder.sinceClear (events as))).rtake
        Recorder.maxFunnel) := by
  rw [Recorder.current, h, Option.getD_none, funnel_of_unrecorded h, Recorder.funnel_run,
    unrecordedLog]

/-- No text that a run exports has a warning twice if and only if this holds of those that it exports
while no log is recorded.  Such a text has the newest that fit of the last messages since the last
clear, as they were pushed. -/
theorem exports_distinct_iff (as : List Action) :
    (∀ text ∈ exports {} as, IsDistinct text) ↔
      ∀ before a after, as = before ++ a :: after → a.isExport = true →
        (run before).recorder.recorded = none →
        (unrecordedLog ((Recorder.messages (Recorder.sinceClear (events before))).rtake
          Recorder.maxFunnel)).fitted.warnings.Nodup := by
  constructor
  · intro distinct before a after split isExport unrecorded
    rw [← current_of_unrecorded unrecorded, ← isDistinct_exportText]
    exact distinct _ (mem_exports.2 ⟨before, a, after, split, isExport, rfl⟩)
  · intro distinct text mem
    obtain ⟨before, a, after, split, isExport, rfl⟩ := mem_exports.1 mem
    have unrecorded {before : List Action} {a : Action} {after : List Action}
        (split : as = before ++ a :: after) (isExport : a.isExport = true)
        (none : (run before).recorder.recorded = none) :
        (run before).recorder.current.fitted.warnings.Nodup := by
      rw [current_of_unrecorded none]
      exact distinct before a after split isExport none
    have clean (before after : List Action) (split : as = before ++ after) :
        (run before).IsClean := by
      induction before using List.reverseRecOn generalizing after with
      | nil => exact ⟨fun l recorded => (by cases recorded), fun f mem => (by cases mem)⟩
      | append_singleton before a ih =>
        rw [List.append_assoc] at split
        rw [run_concat]
        exact (ih _ split).step (unrecorded split)
    rw [isDistinct_exportText]
    exact nodup_current_fitted (clean before _ split) (unrecorded split isExport)

/-- A message that was pushed twice is exported twice. -/
theorem repeatedMessage_exported_twice :
    ¬ ∀ text ∈ exports {} [.event (.push "a"), .event (.push "a"), .exportLog], IsDistinct text := by
  intro distinct
  have exported := distinct _ (mem_exports.2
    ⟨[.event (.push "a"), .event (.push "a")], .exportLog, [], rfl, rfl, rfl⟩)
  rw [isDistinct_exportText] at exported
  revert exported
  decide

end Desk

end DesignCode
