import DesignCode.Text.Lines
import Mathlib.Tactic.Common

/-!
# Parts of texts

How a text is cut where a class of characters ends or at the characters of a class, and how
`Text.joined` puts a list of parts together, one part at a time.
-/

namespace DesignCode.Text

namespace ByMember

/-- Where this namespace is open, what holds of all members of a list is decided member by member, and
not over all characters. -/
scoped instance (priority := 10000) decidableForallMem {α : Type} {p : α → Prop} [DecidablePred p]
    (l : List α) : Decidable (∀ a ∈ l, p a) :=
  List.decidableBAll p l

end ByMember

/-- A run of characters of a class is cut off where the class ends. -/
theorem cut_append {p : Char → Bool} {w : List Char} (hw : ∀ c ∈ w, p c = true) (rest : List Char)
    (hr : ∀ c ∈ rest.head?, p c = false) :
    (w ++ rest).takeWhile p = w ∧ (w ++ rest).dropWhile p = rest := by
  rw [List.takeWhile_append_of_pos hw, List.dropWhile_append_of_pos hw]
  cases rest with
  | nil => simp
  | cons c rest => simp [hr c (by simp)]

theorem head?_cons_of {p : Char → Bool} {c : Char} (h : p c = false) (rest : List Char) :
    ∀ d ∈ (c :: rest).head?, p d = false := by
  intro d hd
  obtain rfl : c = d := by simpa using hd
  exact h

theorem splitAt_of_none {p : Char → Bool} {w : List Char} (hw : ∀ c ∈ w, p c = false) :
    splitAt p w = [w] := by
  induction w with
  | nil => rfl
  | cons c w ih =>
    obtain ⟨first, others⟩ := List.forall_mem_cons.1 hw
    rw [splitAt, first, ih others]
    rfl

/-- A text is cut at the first character of a class. -/
theorem splitAt_append_cons {p : Char → Bool} {w : List Char} (hw : ∀ c ∈ w, p c = false) {c : Char}
    (hc : p c = true) (rest : List Char) : splitAt p (w ++ c :: rest) = w :: splitAt p rest := by
  induction w with
  | nil => rw [List.nil_append, splitAt, hc]; rfl
  | cons d w ih =>
    obtain ⟨first, others⟩ := List.forall_mem_cons.1 hw
    rw [List.cons_append, splitAt, first, ih others]
    rfl

@[simp] theorem joined_nil (sep : List Char) : joined sep [] = [] := rfl

@[simp] theorem joined_singleton (sep part : List Char) : joined sep [part] = part := by
  simp [joined]

theorem joined_cons_cons (sep p q : List Char) (ps : List (List Char)) :
    joined sep (p :: q :: ps) = p ++ (sep ++ joined sep (q :: ps)) := by
  simp [joined]

/-- Parts without a separator are cut apart again. -/
theorem splitAt_joined {p : Char → Bool} {sep : Char} (hsep : p sep = true) {parts : List (List Char)}
    (ne : parts ≠ []) (h : ∀ part ∈ parts, ∀ c ∈ part, p c = false) :
    splitAt p (joined [sep] parts) = parts := by
  induction parts with
  | nil => contradiction
  | cons part parts ih =>
    rw [List.forall_mem_cons] at h
    cases parts with
    | nil => rw [joined_singleton, splitAt_of_none h.1]
    | cons next parts =>
      rw [joined_cons_cons, List.singleton_append, splitAt_append_cons h.1 hsep,
        ih (List.cons_ne_nil next parts) h.2]

theorem forall_mem_joined {P : Char → Prop} {sep : Char} (hsep : P sep) {parts : List (List Char)}
    (h : ∀ part ∈ parts, ∀ c ∈ part, P c) : ∀ c ∈ joined [sep] parts, P c := by
  induction parts with
  | nil => simp
  | cons part parts ih =>
    rw [List.forall_mem_cons] at h
    cases parts with
    | nil => simpa using h.1
    | cons next parts =>
      rw [joined_cons_cons, List.singleton_append]
      exact List.forall_mem_append.2 ⟨h.1, List.forall_mem_cons.2 ⟨hsep, ih h.2⟩⟩

end DesignCode.Text
