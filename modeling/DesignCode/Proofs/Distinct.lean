import Mathlib.Data.List.Induction
import Mathlib.Data.List.Nodup
import Mathlib.Tactic.SplitIfs

/-!
# First occurrences

`List.eraseDups` keeps the first occurrence of every element.  A further element at the end is kept exactly if it
did not come before (`eraseDups_concat`), which is how lists without repetitions grow.
-/

namespace DesignCode

variable {α : Type} [BEq α] [LawfulBEq α]

theorem eraseDups_concat (xs : List α) (x : α) :
    (xs ++ [x]).eraseDups = if x ∈ xs then xs.eraseDups else xs.eraseDups ++ [x] := by
  rw [List.eraseDups_append, List.removeAll]
  split_ifs with seen <;> simp [seen, List.eraseDups_cons]

theorem nodup_eraseDups (xs : List α) : xs.eraseDups.Nodup := by
  induction xs using List.reverseRecOn with
  | nil => simp
  | append_singleton xs x ih =>
    rw [eraseDups_concat]
    split_ifs with seen
    · exact ih
    · have new : x ∉ xs.eraseDups := fun mem => seen (List.mem_eraseDups.1 mem)
      rw [← List.concat_eq_append]
      exact ih.concat new

end DesignCode
