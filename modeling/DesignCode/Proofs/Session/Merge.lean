import Mathlib.Data.List.DropRight
import Mathlib.Tactic.SplitIfs
import DesignCode.Session.Recorder
import DesignCode.Proofs.Distinct

/-!
# Warnings of a session

A session pushes messages, records logs and clears its recorder in any order.  What its recorder
holds depends on the events since the last clear only (`run_sinceClear`): the funnel has the last of
their messages (`funnel_run`), and the recorded log has its own warnings, the messages of the funnel
and all later ones, each at its first occurrence (`current_run`).
-/

namespace DesignCode

namespace Recorder

/-- What happens to a recorder. -/
inductive Event where
  | push (w : String)
  | record (l : SessionLog)
  | clear

namespace Event

def isRecord : Event → Bool
  | record _ => true
  | _ => false

def isClear : Event → Bool
  | clear => true
  | _ => false

/-- The message that is pushed, unless it is empty. -/
def message? : Event → Option String
  | push w => if w = "" then none else some w
  | _ => none

end Event

/-- The recorder after an event. -/
def apply (r : Recorder) : Event → Recorder
  | .push w => r.push w
  | .record l => r.record l
  | .clear => empty

/-- The recorder after events, the first one first. -/
def applyAll (r : Recorder) (es : List Event) : Recorder := es.foldl apply r

/-- A new recorder after events. -/
def run (es : List Event) : Recorder := empty.applyAll es

/-- The messages that are pushed, without the empty ones. -/
def messages (es : List Event) : List String := es.filterMap Event.message?

/-- The events behind the last clear. -/
def sinceClear (es : List Event) : List Event := es.rtakeWhile fun e => !e.isClear

/-! ### First and last ones -/

theorem firstOnes_eq (seen ws : List String) : firstOnes seen ws = (ws.removeAll seen).eraseDups := by
  induction ws generalizing seen with
  | nil => rfl
  | cons w ws ih =>
    rw [firstOnes, List.cons_removeAll]
    by_cases old : w ∈ seen
    · simp [old, ih]
    · simp only [old, if_false, List.contains_eq_mem, decide_false, if_true, List.eraseDups_cons, ih]
      congr 2
      simp [List.removeAll, List.filter_filter]
      rfl

/-- Recording keeps the first occurrence of every warning. -/
theorem firstOnes_nil (ws : List String) : firstOnes [] ws = ws.eraseDups := by
  rw [firstOnes_eq, List.removeAll_nil]

theorem lastOnes_eq {α : Type} (n : Nat) (xs : List α) : lastOnes n xs = xs.rtake n := rfl

/-- The last `n` elements still count if one more comes. -/
theorem rtake_rtake_concat {α : Type} (n : Nat) (xs : List α) (x : α) :
    (xs.rtake n ++ [x]).rtake n = (xs ++ [x]).rtake n := by
  simp only [List.rtake_eq_reverse_take_reverse, List.reverse_concat, List.reverse_reverse]
  cases n with
  | zero => rfl
  | succ n => simp [List.take_take]

/-! ### The events since the last clear -/

theorem run_concat (es : List Event) (e : Event) : run (es ++ [e]) = (run es).apply e := by
  simp [run, applyAll]

theorem messages_append (es es' : List Event) : messages (es ++ es') = messages es ++ messages es' :=
  List.filterMap_append

theorem sinceClear_concat {es : List Event} {e : Event} (h : e.isClear = false) :
    sinceClear (es ++ [e]) = sinceClear es ++ [e] :=
  List.rtakeWhile_concat_pos _ _ _ (by simp [h])

theorem sinceClear_concat_clear (es : List Event) : sinceClear (es ++ [.clear]) = [] :=
  List.rtakeWhile_concat_neg _ _ _ (by simp [Event.isClear])

theorem isClear_of_mem_sinceClear {es : List Event} {e : Event} (mem : e ∈ sinceClear es) :
    e.isClear = false := by
  simpa using List.mem_rtakeWhile_imp mem

theorem sinceClear_of_forall {es : List Event} (h : ∀ e ∈ es, e.isClear = false) :
    sinceClear es = es := by
  apply List.rtakeWhile_eq_self_iff.2
  intro e mem
  simp [h e mem]

/-- What came before the last clear does not count. -/
theorem run_sinceClear (es : List Event) : run (sinceClear es) = run es := by
  induction es using List.reverseRecOn with
  | nil => rfl
  | append_singleton es e ih =>
    cases e with
    | clear => rw [sinceClear_concat_clear, run_concat]; rfl
    | push w => rw [sinceClear_concat rfl, run_concat, run_concat, ih]
    | record l => rw [sinceClear_concat rfl, run_concat, run_concat, ih]

theorem messages_push (w : String) : messages [.push w] = if w = "" then [] else [w] := by
  by_cases blank : w = "" <;> simp [messages, Event.message?, blank]

theorem funnel_push (r : Recorder) (w : String) :
    (r.push w).funnel = if w = "" then r.funnel else (r.funnel ++ [w]).rtake maxFunnel := by
  rw [push]
  by_cases blank : w = ""
  · rw [if_pos blank, if_pos blank]
  · rw [if_neg blank, if_neg blank, lastOnes_eq]

/-- The funnel has the last messages since the last clear. -/
theorem funnel_run (es : List Event) :
    (run es).funnel = (messages (sinceClear es)).rtake maxFunnel := by
  induction es using List.reverseRecOn with
  | nil => rfl
  | append_singleton es e ih =>
    rw [run_concat]
    cases e with
    | clear => rw [sinceClear_concat_clear]; rfl
    | record l =>
      have silent : messages [.record l] = [] := rfl
      rw [sinceClear_concat rfl, messages_append, silent, List.append_nil, ← ih]
      rfl
    | push w =>
      rw [sinceClear_concat rfl, messages_append, messages_push, apply, funnel_push]
      by_cases blank : w = ""
      · rw [if_pos blank, if_pos blank, List.append_nil, ih]
      · rw [if_neg blank, if_neg blank, ih, rtake_rtake_concat]

/-! ### The recorded log -/

theorem recorded_push {r : Recorder} {l : SessionLog} {ws : List String}
    (h : r.recorded = some { l with warnings := ws.eraseDups }) (w : String) :
    (r.push w).recorded =
      some { l with warnings := (ws ++ messages [.push w]).eraseDups } := by
  rw [push, messages_push]
  by_cases blank : w = ""
  · simpa only [blank, if_true, List.append_nil] using h
  · simp only [blank, if_false, h, eraseDups_concat, Option.map_some, addWarning,
      List.mem_eraseDups]
    by_cases old : w ∈ ws <;> simp [old]

/-- A recorded log gets every later message that it does not have. -/
theorem recorded_applyAll {r : Recorder} {l : SessionLog} {ws : List String} {es : List Event}
    (h : r.recorded = some { l with warnings := ws.eraseDups })
    (pushes : ∀ e ∈ es, e.isRecord = false ∧ e.isClear = false) :
    (r.applyAll es).recorded =
      some { l with warnings := (ws ++ messages es).eraseDups } := by
  induction es generalizing r ws with
  | nil => simpa [applyAll, messages] using h
  | cons e es ih =>
    obtain ⟨⟨noRecord, noClear⟩, others⟩ := List.forall_mem_cons.1 pushes
    cases e with
    | record l => cases noRecord
    | clear => cases noClear
    | push w =>
      have pushed := ih (recorded_push h w) others
      rwa [List.append_assoc, ← messages_append] at pushed

theorem current_of_sinceClear {es before after : List Event} {l : SessionLog}
    (split : sinceClear es = before ++ .record l :: after)
    (last : ∀ e ∈ after, e.isRecord = false) :
    (run es).current =
      { l with
        warnings :=
          (l.warnings ++ (messages before).rtake maxFunnel ++ messages after).eraseDups } := by
  have uncleared : ∀ e ∈ before ++ .record l :: after, e.isClear = false := by
    rw [← split]
    exact fun e mem => isClear_of_mem_sinceClear mem
  have funnel : (run before).funnel = (messages before).rtake maxFunnel := by
    rw [funnel_run, sinceClear_of_forall]
    intro e mem
    exact uncleared e (List.mem_append_left _ mem)
  have recorded : ((run before).record l).recorded =
      some { l with
        warnings := (l.warnings ++ (messages before).rtake maxFunnel).eraseDups } := by
    rw [record, firstOnes_nil, funnel]
  have pushed := recorded_applyAll recorded fun e mem =>
    ⟨last e mem, uncleared e (List.mem_append_right _ (List.mem_cons_of_mem _ mem))⟩
  have whole : run es = ((run before).record l).applyAll after := by
    rw [← run_sinceClear, split]
    simp [run, applyAll, apply]
  rw [whole, current, pushed, Option.getD_some]

/-- After a record and pushes the log has the warnings it came with, the last messages before it and
those behind it, each once.  So where the record stands does not matter as long as the funnel loses
no message. -/
theorem current_run {es before after : List Event} {l : SessionLog}
    (split : sinceClear es = before ++ .record l :: after)
    (last : ∀ e ∈ after, e.isRecord = false) :
    (run es).current =
        { l with
          warnings :=
            (l.warnings ++ (messages before).rtake maxFunnel ++ messages after).eraseDups } ∧
      ∀ es' before' after', sinceClear es' = before' ++ .record l :: after' →
        (∀ e ∈ after', e.isRecord = false) →
        messages before' ++ messages after' = messages before ++ messages after →
        (messages before ++ messages after).length ≤ maxFunnel →
        (run es').current = (run es).current := by
  refine ⟨current_of_sinceClear split last, ?_⟩
  intro es' before' after' split' last' same few
  have keeps {es es' : List Event} (h : (messages es ++ messages es').length ≤ maxFunnel) :
      (messages es).rtake maxFunnel = messages es := by
    rw [List.length_append] at h
    rw [List.rtake, Nat.sub_eq_zero_of_le (by omega), List.drop_zero]
  rw [current_of_sinceClear split' last', current_of_sinceClear split last, keeps few,
    keeps (same ▸ few), List.append_assoc, List.append_assoc, same]

/-- A run with two records, an empty message and repeated ones; the last record may also come first. -/
theorem current_run_recorded_twice :
    let l : SessionLog := { nodeCount := 10, warnings := ["font", "mask"], version := "1.0.0" }
    let es : List Event :=
      [.push "old", .clear, .push "blend", .record {}, .push "", .push "font", .record l,
        .push "late", .push "blend"]
    let moved : List Event :=
      [.record l, .push "blend", .push "font", .push "late", .push "blend"]
    (run es).current = { l with warnings := ["font", "mask", "blend", "late"] } ∧
      (run moved).current = (run es).current := by
  intro l es moved
  have split : sinceClear es =
      [.push "blend", .record {}, .push "", .push "font"] ++
        .record l :: [.push "late", .push "blend"] := rfl
  obtain ⟨closed, same⟩ := current_run split (by simp [Event.isRecord])
  refine ⟨closed.trans ?_, same moved [] _ rfl (by simp [Event.isRecord]) ?_ ?_⟩
  · rfl
  · rfl
  · decide

end Recorder

end DesignCode
