import DesignCode.Proofs.Text.Moved

/-!
# Texts cut apart

Cutting a list at an element leaves parts of the list without that element (`subset_of_mem_splitOn`), and the
lines of a text have no line feed.  Lines that are joined are cut apart again (`Text.lines_intercalate`).
What is read part by part stems from the parts (`exists_mem_of_mapM`).
-/

namespace DesignCode

/-! ### Parts of lists -/

/-- A part between two cuts has members of the list, and not the one at which it is cut. -/
theorem subset_of_mem_splitOn {α : Type} [BEq α] [LawfulBEq α] {a : α} {xs part : List α}
    (h : part ∈ xs.splitOn a) : part ⊆ xs ∧ a ∉ part := by
  induction xs generalizing part with
  | nil =>
    rw [List.splitOn_nil, List.mem_singleton] at h
    simp [h]
  | cons x xs ih =>
    obtain ⟨first, parts, cut⟩ := List.exists_cons_of_ne_nil (List.splitOn_ne_nil a xs)
    rw [cut] at ih
    rw [List.splitOn_cons_eq_if_modifyHead, cut] at h
    split_ifs at h with same
    · rcases List.mem_cons.1 h with rfl | h
      · simp
      · exact ⟨fun y hy => List.mem_cons_of_mem _ ((ih h).1 hy), (ih h).2⟩
    · rcases List.mem_cons.1 h with rfl | h
      · obtain ⟨sub, apart⟩ := ih List.mem_cons_self
        refine ⟨List.cons_subset_cons x sub, ?_⟩
        rw [List.mem_cons, not_or]
        exact ⟨fun e => same (by simp [e]), apart⟩
      · obtain ⟨sub, apart⟩ := ih (List.mem_cons_of_mem _ h)
        exact ⟨fun y hy => List.mem_cons_of_mem _ (sub hy), apart⟩

/-- What is read of a list stems from its members. -/
theorem exists_mem_of_mapM {α β : Type} {f : α → Option β} {xs : List α} {ys : List β}
    (h : xs.mapM f = some ys) : ∀ y ∈ ys, ∃ x ∈ xs, f x = some y := by
  induction xs generalizing ys with
  | nil =>
    obtain rfl : [] = ys := by simpa using h
    simp
  | cons x xs ih =>
    rw [List.mapM_cons] at h
    obtain ⟨y, first, h⟩ := Option.bind_eq_some_iff.1 h
    obtain ⟨ys', others, h⟩ := Option.bind_eq_some_iff.1 h
    obtain rfl : y :: ys' = ys := Option.some.inj h
    refine List.forall_mem_cons.2 ⟨⟨x, by simp, first⟩, fun z hz => ?_⟩
    obtain ⟨w, hw, read⟩ := ih others z hz
    exact ⟨w, by simp [hw], read⟩

theorem mapM_eq_some_map {α β : Type} {f : α → Option β} {g : α → β} {xs : List α}
    (h : ∀ x ∈ xs, f x = some (g x)) : xs.mapM f = some (xs.map g) := by
  induction xs with
  | nil => rfl
  | cons x xs ih =>
    rw [List.forall_mem_cons] at h
    rw [List.mapM_cons, h.1, ih h.2]
    rfl

namespace Text

theorem feed_not_mem_of_mem_lines {cs line : List Char} (h : line ∈ lines cs) : '\n' ∉ line := by
  fun_induction lines cs generalizing line with
  | case1 => cases h
  | case2 rest ih =>
    rcases List.mem_cons.1 h with rfl | h
    · exact List.not_mem_nil
    · exact ih h
  | case3 rest ih =>
    rcases List.mem_cons.1 h with rfl | h
    · exact List.not_mem_nil
    · exact ih h
  | case4 c rest feed ret none ih =>
    rw [List.mem_singleton.1 h, List.mem_singleton]
    exact fun same => feed same.symm
  | case5 c rest feed ret l ls more ih =>
    rw [more] at ih
    rcases List.mem_cons.1 h with rfl | h
    · rw [List.mem_cons, not_or]
      exact ⟨fun same => feed same.symm, ih List.mem_cons_self⟩
    · exact ih (List.mem_cons_of_mem _ h)

/-- A line is cut off at its line feed. -/
theorem lines_append_feed {line : List Char} (feed : '\n' ∉ line)
    (ret : ∀ c ∈ line.getLast?, c ≠ '\r') (rest : List Char) :
    lines (line ++ '\n' :: rest) = line :: lines rest := by
  induction line with
  | nil => rw [List.nil_append, lines]
  | cons c line ih =>
    rw [List.mem_cons, not_or] at feed
    cases line with
    | nil =>
      have ends : c ≠ '\r' := ret c rfl
      rw [List.cons_append, lines_cons (Ne.symm feed.1) fun _ e _ => ends e, List.nil_append, lines]
    | cons d line =>
      have inside : ∀ r, c = '\r' → (d :: line) ++ '\n' :: rest = '\n' :: r → False := by
        rintro r - e
        exact feed.2 (by simp [(List.cons.inj e).1])
      rw [List.getLast?_cons_cons] at ret
      rw [List.cons_append, lines_cons (Ne.symm feed.1) inside, ih feed.2 ret]

theorem lines_of_feed_not_mem {line : List Char} (feed : '\n' ∉ line) (ne : line ≠ []) :
    lines line = [line] := by
  induction line with
  | nil => exact absurd rfl ne
  | cons c line ih =>
    rw [List.mem_cons, not_or] at feed
    cases line with
    | nil => rw [lines_cons (Ne.symm feed.1) (by simp), lines]
    | cons d line =>
      have inside : ∀ r, c = '\r' → d :: line = '\n' :: r → False := by
        rintro r - e
        exact feed.2 (by simp [(List.cons.inj e).1])
      rw [lines_cons (Ne.symm feed.1) inside, ih feed.2 (List.cons_ne_nil d line)]

/-- Lines that do not end with a carriage return are cut apart again. -/
theorem lines_intercalate {ls : List (List Char)} (feed : ∀ l ∈ ls, '\n' ∉ l)
    (ret : ∀ l ∈ ls, ∃ c ∈ l.getLast?, c ≠ '\r') : lines (['\n'].intercalate ls) = ls := by
  induction ls with
  | nil => rfl
  | cons l ls ih =>
    rw [List.forall_mem_cons] at feed ret
    obtain ⟨⟨c, last, other⟩, ret⟩ := ret
    cases ls with
    | nil =>
      have ne : l ≠ [] := by
        rintro rfl
        cases last
      rw [List.intercalate_singleton, lines_of_feed_not_mem feed.1 ne]
    | cons l' ls =>
      rw [List.intercalate_cons_of_ne_nil (List.cons_ne_nil l' ls), List.append_assoc,
        List.singleton_append, lines_append_feed feed.1, ih feed.2 ret]
      intro d hd
      rwa [Option.some.inj (hd.symm.trans last)]

end Text

end DesignCode
