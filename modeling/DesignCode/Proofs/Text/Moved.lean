import DesignCode.Proofs.Text.Lines

/-!
# Moving the lines of a text

`moved n` is what `Text.indent n` does to the characters behind the margin of the first line: every
later line that is not blank gets a margin of its own, and a carriage return at the end of a line is
dropped.  It goes through a text piece by piece wherever a piece begins or ends with a character that
is not blank.
-/

namespace DesignCode.Text

/-- Whether a text begins with a blank line that a line feed ends. -/
def opensBlank : List Char → Bool
  | [] => false
  | '\n' :: _ => true
  | c :: rest => isBlank c && opensBlank rest

/-- The spaces that a text gets at its beginning. -/
def margin (n : Nat) (cs : List Char) : List Char :=
  if opensBlank cs then [] else List.replicate n ' '

/-- A text whose lines but the first get their margins. -/
def moved (n : Nat) : List Char → List Char
  | [] => []
  | '\n' :: rest => '\n' :: (margin n rest ++ moved n rest)
  | '\r' :: '\n' :: rest => '\n' :: (margin n rest ++ moved n rest)
  | c :: rest => c :: moved n rest

/-- The last character is not blank. -/
def EndsSolid (cs : List Char) : Prop := ∃ a c, cs = a ++ [c] ∧ isBlank c = false

/-- Whether the character begins the end of a line. -/
def isBreak (c : Char) : Bool := c = '\n' ∨ c = '\r'

theorem isBreak_of_solid {c : Char} (h : isBlank c = false) : isBreak c = false := by
  by_contra hb
  simp only [isBreak, Bool.not_eq_false, decide_eq_true_eq] at hb
  rcases hb with rfl | rfl <;> exact absurd h (by decide)

theorem EndsSolid.append {cs : List Char} (h : EndsSolid cs) (before : List Char) :
    EndsSolid (before ++ cs) := by
  obtain ⟨a, d, rfl, solid⟩ := h
  exact ⟨before ++ a, d, by simp, solid⟩

theorem EndsSolid.tail {c d : Char} {cs : List Char} (h : EndsSolid (c :: d :: cs)) :
    EndsSolid (d :: cs) := by
  obtain ⟨a, e, written, solid⟩ := h
  cases a with
  | nil => simp at written
  | cons b a => exact ⟨a, e, (List.cons.inj written).2, solid⟩

theorem EndsSolid.singleton {c : Char} (h : EndsSolid [c]) : isBlank c = false := by
  obtain ⟨a, e, written, solid⟩ := h
  cases a with
  | nil =>
    rw [(List.cons.inj written).1]
    exact solid
  | cons b a => simp at written

/-! ### What `indent` does -/

theorem joined_cons (sep part : List Char) (parts : List (List Char)) :
    joined sep (part :: parts) = part ++ parts.flatMap (sep ++ ·) := by
  induction parts generalizing part with
  | nil => simp
  | cons q parts ih => rw [joined_cons_cons, ih, List.flatMap_cons, List.append_assoc]

theorem opensBlank_cons {c : Char} (h : c ≠ '\n') (rest : List Char) :
    opensBlank (c :: rest) = (isBlank c && opensBlank rest) := by
  rw [opensBlank]
  exact h

theorem moved_cons (n : Nat) {c : Char} (h : c ≠ '\n') {rest : List Char}
    (hr : ∀ r, c = '\r' → rest = '\n' :: r → False) : moved n (c :: rest) = c :: moved n rest := by
  rw [moved]
  · exact h
  · exact hr

theorem lines_cons {c : Char} (h : c ≠ '\n') {rest : List Char}
    (hr : ∀ r, c = '\r' → rest = '\n' :: r → False) :
    lines (c :: rest) =
      match lines rest with
      | [] => [[c]]
      | l :: ls => (c :: l) :: ls := by
  rw [lines.eq_def]
  split
  · next e => exact absurd e (by simp)
  · next e => exact absurd (List.cons.inj e).1 h
  · next r e => exact absurd (List.cons.inj e).2 (hr r (List.cons.inj e).1)
  · next e =>
    obtain ⟨rfl, rfl⟩ := List.cons.inj e
    rfl

/-- What the lines of a text say about the moved text: the first line is blank exactly if the text
opens with a blank one, and the moved text is the first line with the others indented behind it. -/
def LinesMove (n : Nat) (cs : List Char) : Prop :=
  ∃ l ls, lines cs = l :: ls ∧ l.all isBlank = opensBlank cs ∧
    moved n cs = l ++ (ls.map (indentLine n)).flatMap ('\n' :: ·)

/-- Behind a line feed all lines are indented. -/
theorem LinesMove.feed {n : Nat} {rest : List Char} (h : LinesMove n rest) :
    '\n' :: (margin n rest ++ moved n rest) =
      ((lines rest).map (indentLine n)).flatMap ('\n' :: ·) := by
  obtain ⟨l, ls, cut, blank, moves⟩ := h
  have first : indentLine n l = margin n rest ++ l := by
    rw [indentLine, margin, blank]
    split_ifs <;> simp
  rw [cut, List.map_cons, List.flatMap_cons, first, moves, List.cons_append, List.append_assoc]

theorem EndsSolid.of_feed {rest : List Char} (h : EndsSolid ('\n' :: rest)) : EndsSolid rest := by
  cases rest with
  | nil => exact absurd h.singleton (by decide)
  | cons c rest => exact h.tail

theorem linesMove_of_endsSolid (n : Nat) {cs : List Char} (h : EndsSolid cs) : LinesMove n cs := by
  fun_induction lines cs with
  | case1 =>
    obtain ⟨a, c, written, -⟩ := h
    simp at written
  | case2 rest ih =>
    refine ⟨[], lines rest, rfl, rfl, ?_⟩
    rw [moved, (ih h.of_feed).feed, List.nil_append]
  | case3 rest ih =>
    refine ⟨[], lines rest, rfl, ?_, ?_⟩
    · rw [opensBlank_cons (by decide), opensBlank]
      decide
    · rw [moved, (ih h.tail.of_feed).feed, List.nil_append]
  | case4 c rest feed ret none ih =>
    cases rest with
    | nil =>
      have solid := h.singleton
      refine ⟨[c], [], by rw [lines_cons feed ret, none], ?_, ?_⟩
      · rw [opensBlank_cons feed]
        simp [solid]
      · rw [moved_cons n feed ret]
        rfl
    | cons d rest =>
      obtain ⟨l, ls, cut, -⟩ := ih h.tail
      rw [none] at cut
      exact absurd cut (by simp)
  | case5 c rest feed ret l ls more ih =>
    cases rest with
    | nil => exact absurd more (by simp [lines])
    | cons d rest =>
      obtain ⟨l', ls', cut, blank, moves⟩ := ih h.tail
      obtain ⟨rfl, rfl⟩ := List.cons.inj (more.symm.trans cut)
      refine ⟨c :: l, ls, by rw [lines_cons feed ret, more], ?_, ?_⟩
      · rw [opensBlank_cons feed, List.all_cons, blank]
      · rw [moved_cons n feed ret, moves, List.cons_append]

/-- A text is indented by its margin and by moving its lines. -/
theorem indent_of_endsSolid (n : Nat) {cs : List Char} (h : EndsSolid cs) :
    indent n cs = margin n cs ++ moved n cs := by
  have feed := (linesMove_of_endsSolid n h).feed
  obtain ⟨l, ls, cut, -⟩ := linesMove_of_endsSolid n h
  rw [cut, List.map_cons, List.flatMap_cons, List.cons_append] at feed
  rw [indent, cut, List.map_cons, joined_cons, (List.cons.inj feed).2]
  rfl

/-! ### Moving piece by piece -/

theorem opensBlank_append_cons {c : Char} (h : isBlank c = false) (a b : List Char) :
    opensBlank (a ++ c :: b) = opensBlank a := by
  have feed : c ≠ '\n' := by
    rintro rfl
    exact absurd h (by decide)
  induction a with
  | nil => rw [List.nil_append, opensBlank_cons feed, h]; rfl
  | cons d a ih =>
    by_cases hd : d = '\n'
    · subst hd; rfl
    · rw [List.cons_append, opensBlank_cons hd, opensBlank_cons hd, ih]

/-- A character that is not blank cuts a text into two that are moved apart from each other. -/
theorem moved_append_cons (n : Nat) {c : Char} (h : isBlank c = false) (a b : List Char) :
    moved n (a ++ c :: b) = moved n a ++ c :: moved n b := by
  fun_induction moved n a with
  | case1 =>
    refine moved_cons n ?_ ?_
    · rintro rfl
      exact absurd h (by decide)
    · rintro r rfl -
      exact absurd h (by decide)
  | case2 rest ih =>
    rw [List.cons_append, moved, ih, margin, opensBlank_append_cons h, ← margin]
    simp
  | case3 rest ih =>
    rw [List.cons_append, List.cons_append, moved, ih, margin, opensBlank_append_cons h, ← margin]
    simp
  | case4 d rest feed ret ih =>
    rw [List.cons_append, moved_cons n feed, ih, List.cons_append]
    rintro r rfl hr
    cases rest with
    | nil =>
      rw [List.nil_append] at hr
      rw [(List.cons.inj hr).1] at h
      exact absurd h (by decide)
    | cons e rest => exact ret rest rfl (by rw [(List.cons.inj hr).1])

/-- A piece without ends of lines stays as it is. -/
theorem moved_append_of_noBreak (n : Nat) {a : List Char} (h : ∀ c ∈ a, isBreak c = false)
    (b : List Char) : moved n (a ++ b) = a ++ moved n b := by
  induction a with
  | nil => rfl
  | cons c a ih =>
    have hc := h c List.mem_cons_self
    have here : c ≠ '\n' ∧ c ≠ '\r' := by simpa [isBreak] using hc
    rw [List.cons_append, moved_cons n here.1 fun _ e _ => here.2 e,
      ih fun d hd => h d (List.mem_cons_of_mem _ hd), List.cons_append]

/-- Behind the end of a line the margin comes before the spaces that are there. -/
theorem moved_lineBreak (n k : Nat) {c : Char} (h : isBlank c = false) (b : List Char) :
    moved n ('\n' :: (List.replicate k ' ' ++ c :: b)) =
      '\n' :: (List.replicate (n + k) ' ' ++ moved n (c :: b)) := by
  have spaces : opensBlank (List.replicate k ' ') = false := by
    induction k with
    | zero => rfl
    | succ k ih => rw [List.replicate_succ, opensBlank_cons (by decide), ih, Bool.and_false]
  have plain : ∀ c ∈ List.replicate k ' ', isBreak c = false := by
    intro c hc
    rw [List.eq_of_mem_replicate hc]
    decide
  rw [moved, margin, opensBlank_append_cons h, spaces, moved_append_of_noBreak n plain,
    ← List.replicate_append_replicate, List.append_assoc]
  rfl

/-! ### What is left as it is -/

theorem opensBlank_of_not_mem {cs : List Char} (h : '\n' ∉ cs) : opensBlank cs = false := by
  induction cs with
  | nil => rfl
  | cons c cs ih =>
    have hc : c ≠ '\n' := fun e => h (e ▸ List.mem_cons_self)
    rw [opensBlank_cons hc, ih fun m => h (List.mem_cons_of_mem _ m), Bool.and_false]

/-- Moving takes no space away, and puts `n` of them behind the last line feed. -/
theorem count_moved (n : Nat) (cs : List Char) :
    cs.count ' ' + (if '\n' ∈ cs then n else 0) ≤ (moved n cs).count ' ' := by
  have feed (rest : List Char)
      (ih : rest.count ' ' + (if '\n' ∈ rest then n else 0) ≤ (moved n rest).count ' ') :
      rest.count ' ' + n ≤ (margin n rest ++ moved n rest).count ' ' := by
    rw [List.count_append]
    split_ifs at ih with last
    · omega
    · rw [margin, opensBlank_of_not_mem last]
      simp only [Bool.false_eq_true, if_false, List.count_replicate_self]
      omega
  fun_induction moved n cs with
  | case1 => simp
  | case2 rest ih =>
    rw [List.count_cons_of_ne (by decide), List.count_cons_of_ne (by decide),
      if_pos List.mem_cons_self]
    exact feed rest ih
  | case3 rest ih =>
    rw [List.count_cons_of_ne (by decide), List.count_cons_of_ne (by decide),
      List.count_cons_of_ne (by decide), if_pos (by simp)]
    exact feed rest ih
  | case4 c rest hc _ ih =>
    have mem : '\n' ∈ c :: rest ↔ '\n' ∈ rest := by
      rw [List.mem_cons]
      exact or_iff_right fun e => hc e.symm
    rw [List.count_cons, List.count_cons]
    simp only [mem]
    omega

/-- A text stays as it is exactly if it has one line. -/
theorem moved_eq_self_iff {n : Nat} (hn : 0 < n) {cs : List Char} : moved n cs = cs ↔ '\n' ∉ cs := by
  constructor
  · intro same mem
    have count := count_moved n cs
    rw [same, if_pos mem] at count
    omega
  · intro h
    induction cs with
    | nil => rfl
    | cons c cs ih =>
      have hc : c ≠ '\n' := fun e => h (e ▸ List.mem_cons_self)
      have rest : '\n' ∉ cs := fun m => h (List.mem_cons_of_mem _ m)
      have ret : ∀ r, c = '\r' → cs = '\n' :: r → False := by
        rintro r - rfl
        exact rest List.mem_cons_self
      rw [moved_cons n hc ret, ih rest]

/-! ### Pieces that move apart from the rest -/

/-- The piece `w` of a text becomes `w'` when the lines of the text are moved, whatever follows it. -/
def Moves (n : Nat) (w w' : List Char) : Prop := ∀ rest, moved n (w ++ rest) = w' ++ moved n rest

variable {n : Nat} {w w' v v' : List Char}

theorem Moves.moved (h : Moves n w w') : moved n w = w' := by
  have alone := h []
  rw [List.append_nil] at alone
  rw [alone, Text.moved, List.append_nil]

theorem Moves.append (h : Moves n w w') (h' : Moves n v v') : Moves n (w ++ v) (w' ++ v') := by
  intro rest
  rw [List.append_assoc, h, h', List.append_assoc]

theorem moves_nil : Moves n [] [] := fun _ => rfl

theorem Moves.flatMap {α β : Type} {as : List α} {f : α → List Char} {g : β → List Char} {m : α → β}
    (h : ∀ a ∈ as, Moves n (f a) (g (m a))) : Moves n (as.flatMap f) ((as.map m).flatMap g) := by
  induction as with
  | nil => exact moves_nil
  | cons a as ih =>
    rw [List.flatMap_cons, List.map_cons, List.flatMap_cons]
    exact (h a List.mem_cons_self).append (ih fun b hb => h b (List.mem_cons_of_mem _ hb))

theorem moves_of_noBreak (h : ∀ c ∈ w, isBreak c = false) : Moves n w w := moved_append_of_noBreak n h

theorem moves_concat {c : Char} (h : isBlank c = false) (a : List Char) :
    Moves n (a ++ [c]) (Text.moved n a ++ [c]) := by
  intro rest
  rw [List.append_assoc, List.append_assoc]
  exact moved_append_cons n h a rest

/-- A line feed and the spaces of a margin. -/
def lineBreak (k : Nat) : List Char := '\n' :: List.replicate k ' '

theorem Moves.lineBreak (h : Moves n w w') (k : Nat) {c : Char} (hc : w.head? = some c)
    (solid : isBlank c = false) : Moves n (lineBreak k ++ w) (lineBreak (n + k) ++ w') := by
  intro rest
  cases w with
  | nil => simp at hc
  | cons d w =>
    obtain rfl : d = c := by simpa using hc
    have line := moved_lineBreak n k solid (w ++ rest)
    have all := h rest
    rw [List.cons_append] at all
    rw [all] at line
    simpa [Text.lineBreak] using line

end DesignCode.Text
