import DesignCode.Code.Landmark
import DesignCode.Proofs.Text.Lines
import Mathlib.Data.List.Infix

/-!
# Names word by word

Keywords are searched in the snake-case form of a name with underscores around both, and levels of
headings by a scan over its characters.  Both find whole words: a keyword is found exactly if its words
stand side by side among the words of the name (`hasKeyword_iff`), and the scan stops at the first word
that names a level (`firstLevel?_eq`).
-/

namespace DesignCode

/-! ### Runs of words -/

section

variable {α : Type} {sep : α} {w v : List α}

/-- What begins with a separator does not begin inside a word. -/
theorem infix_append_iff (h : sep ∉ w) (xs ys : List α) :
    sep :: xs <:+: w ++ ys ↔ sep :: xs <:+: ys := by
  induction w with
  | nil => rfl
  | cons c w ih =>
    rw [List.mem_cons, not_or] at h
    rw [List.cons_append, List.infix_cons_iff, ih h.2, or_iff_right]
    intro start
    exact h.1 (List.cons_prefix_cons.1 start).1

/-- Texts that begin with whole words begin alike exactly if the words are the same. -/
theorem word_prefix_iff (hw : sep ∉ w) (hv : sep ∉ v) (xs ys : List α) :
    w ++ sep :: xs <+: v ++ sep :: ys ↔ w = v ∧ xs <+: ys := by
  induction w generalizing v with
  | nil =>
    cases v with
    | nil => simp
    | cons d v =>
      rw [List.mem_cons, not_or] at hv
      simp [hv.1]
  | cons c w ih =>
    rw [List.mem_cons, not_or] at hw
    cases v with
    | nil => simp [Ne.symm hw.1]
    | cons d v =>
      rw [List.mem_cons, not_or] at hv
      rw [List.cons_append, List.cons_append, List.cons_prefix_cons, ih hw.2 hv.2, List.cons.injEq,
        and_assoc]

/-- Words, each with a separator behind it. -/
def ended (sep : α) (ws : List (List α)) : List α := ws.flatMap (· ++ [sep])

theorem ended_cons (w : List α) (ws : List (List α)) : ended sep (w :: ws) = w ++ sep :: ended sep ws := by
  simp [ended]

theorem ended_prefix_iff {ks ws : List (List α)} (hk : ∀ k ∈ ks, sep ∉ k) (hw : ∀ w ∈ ws, sep ∉ w) :
    ended sep ks <+: ended sep ws ↔ ks <+: ws := by
  induction ks generalizing ws with
  | nil => simp [ended]
  | cons k ks ih =>
    rw [List.forall_mem_cons] at hk
    cases ws with
    | nil => simp [ended]
    | cons w ws =>
      rw [List.forall_mem_cons] at hw
      rw [ended_cons, ended_cons, word_prefix_iff hk.1 hw.1, ih hk.2 hw.2, List.cons_prefix_cons]

/-- A run of words stands in a text with separators around exactly if it is a run of its words. -/
theorem ended_infix_iff {ks ws : List (List α)} (hk : ∀ k ∈ ks, sep ∉ k) (hw : ∀ w ∈ ws, sep ∉ w) :
    sep :: ended sep ks <:+: sep :: ended sep ws ↔ ks <:+: ws := by
  induction ws with
  | nil => cases ks <;> simp [ended, List.infix_cons_iff]
  | cons w ws ih =>
    have starts := ended_prefix_iff hk hw
    rw [List.forall_mem_cons] at hw
    rw [List.infix_cons_iff, List.cons_prefix_cons, and_iff_right rfl, starts, ended_cons,
      infix_append_iff hw.1, ih hw.2, List.infix_cons_iff]

end

/-! ### Words of a text -/

/-- The words between the underscores of a text. -/
def snakeWords (cs : List Char) : List (List Char) := Text.splitAt (· = '_') cs

theorem exists_snakeWords (cs : List Char) : ∃ w ws, snakeWords cs = w :: ws := by
  cases cs with
  | nil => exact ⟨_, _, rfl⟩
  | cons c cs =>
    rw [snakeWords, Text.splitAt]
    split
    · exact ⟨_, _, rfl⟩
    · split <;> exact ⟨_, _, rfl⟩

theorem snakeWords_underscore (cs : List Char) : snakeWords ('_' :: cs) = [] :: snakeWords cs := by
  simp [snakeWords, Text.splitAt]

theorem snakeWords_cons {c : Char} (h : c ≠ '_') {cs w : List Char} {ws : List (List Char)}
    (rest : snakeWords cs = w :: ws) : snakeWords (c :: cs) = (c :: w) :: ws := by
  rw [snakeWords] at rest ⊢
  simp [Text.splitAt, h, rest]

theorem underscore_not_mem_snakeWords (cs : List Char) : ∀ w ∈ snakeWords cs, '_' ∉ w := by
  induction cs with
  | nil => simp [snakeWords, Text.splitAt]
  | cons c cs ih =>
    obtain ⟨w, ws, rest⟩ := exists_snakeWords cs
    rw [rest, List.forall_mem_cons] at ih
    by_cases sep : c = '_'
    · subst sep
      rw [snakeWords_underscore, rest, List.forall_mem_cons, List.forall_mem_cons]
      exact ⟨List.not_mem_nil, ih⟩
    · rw [snakeWords_cons sep rest, List.forall_mem_cons, List.mem_cons, not_or]
      exact ⟨⟨Ne.symm sep, ih.1⟩, ih.2⟩

theorem ended_snakeWords (cs : List Char) : ended '_' (snakeWords cs) = cs ++ ['_'] := by
  induction cs with
  | nil => rfl
  | cons c cs ih =>
    by_cases sep : c = '_'
    · subst sep
      rw [snakeWords_underscore, ended_cons, ih]
      rfl
    · obtain ⟨w, ws, rest⟩ := exists_snakeWords cs
      rw [rest, ended_cons] at ih
      rw [snakeWords_cons sep rest, ended_cons, List.cons_append, ih]
      rfl

/-- Behind the first word of a text the text ends, or another word. -/
theorem exists_rest {cs w : List Char} {ws : List (List Char)} (h : snakeWords cs = w :: ws) :
    ∃ rest, cs = w ++ rest ∧ endsWord rest = true := by
  induction cs generalizing w ws with
  | nil =>
    obtain rfl : [] = w := (List.cons.inj h).1
    exact ⟨[], rfl, rfl⟩
  | cons c cs ih =>
    by_cases sep : c = '_'
    · subst sep
      rw [snakeWords_underscore] at h
      obtain rfl : [] = w := (List.cons.inj h).1
      exact ⟨'_' :: cs, rfl, rfl⟩
    · obtain ⟨v, vs, words⟩ := exists_snakeWords cs
      rw [snakeWords_cons sep words] at h
      obtain rfl : c :: v = w := (List.cons.inj h).1
      obtain ⟨rest, rfl, ends⟩ := ih words
      exact ⟨rest, rfl, ends⟩

theorem head?_snakeWords_append {w rest : List Char} (h : '_' ∉ w) (ends : endsWord rest = true) :
    (snakeWords (w ++ rest)).head? = some w := by
  have apart : ∀ c ∈ w, decide (c = '_') = false := by
    intro c mem
    rw [decide_eq_false_iff_not]
    rintro rfl
    exact h mem
  cases rest with
  | nil => rw [List.append_nil, snakeWords, Text.splitAt_of_none apart, List.head?_cons]
  | cons c rest => rw [snakeWords, Text.splitAt_append_cons apart ends, List.head?_cons]

/-! ### Keywords -/

theorem occursIn_iff (part cs : List Char) : occursIn part cs = true ↔ part <:+: cs := by
  induction cs with
  | nil => simp [occursIn]
  | cons c cs ih => simp [occursIn, ih, List.infix_cons_iff]

/-- A keyword is found exactly if its words stand side by side among the words of the text. -/
theorem hasKeyword_iff (cs : List Char) (keyword : String) :
    hasKeyword cs keyword = true ↔ snakeWords keyword.toList <:+: snakeWords cs := by
  rw [hasKeyword, occursIn_iff, List.cons_append, List.cons_append, ← ended_snakeWords, ← ended_snakeWords,
    ended_infix_iff (underscore_not_mem_snakeWords _) (underscore_not_mem_snakeWords _)]

/-- A keyword of one word is found exactly if it is one of the words. -/
theorem hasKeyword_iff_mem {keyword : String} (one : snakeWords keyword.toList = [keyword.toList])
    (cs : List Char) : hasKeyword cs keyword = true ↔ keyword.toList ∈ snakeWords cs := by
  rw [hasKeyword_iff, one, List.singleton_infix_iff]

/-! ### Levels -/

/-- The words that name a level of a heading, with the level. -/
def levelWords : List (List Char × Nat) :=
  [(['h', '1'], 1), (['h', '2'], 2), (['h', '3'], 3), (['h', '4'], 4), (['h', '5'], 5), (['h', '6'], 6)]

/-- The level that a whole word names. -/
def wordLevel? (w : List Char) : Option Nat := levelWords.lookup w

theorem mem_levelWords {p : List Char × Nat} (h : p ∈ levelWords) :
    ∃ d, p = (['h', d], d.toNat - 48) ∧ '1' ≤ d ∧ d ≤ '6' := by
  simp only [levelWords, List.mem_cons, List.not_mem_nil, or_false] at h
  rcases h with rfl | rfl | rfl | rfl | rfl | rfl
  all_goals exact ⟨_, rfl, by decide⟩

theorem wordLevel?_eq_none {w : List Char} (h : ∀ d, '1' ≤ d ∧ d ≤ '6' → w ≠ ['h', d]) :
    wordLevel? w = none := by
  rw [wordLevel?, List.lookup_eq_none_iff]
  intro p mem
  obtain ⟨d, rfl, range⟩ := mem_levelWords mem
  simpa using h d range

theorem wordLevel?_of_range {d : Char} (h : '1' ≤ d ∧ d ≤ '6') :
    wordLevel? ['h', d] = some (d.toNat - 48) := by
  have least : 49 ≤ d.toNat := h.1
  have most : d.toNat ≤ 54 := h.2
  have same {e : Char} (eq : d.toNat = e.toNat) : d = e := Char.ext (UInt32.toNat_inj.1 eq)
  obtain eq | eq | eq | eq | eq | eq : d.toNat = 49 ∨ d.toNat = 50 ∨ d.toNat = 51 ∨ d.toNat = 52 ∨
      d.toNat = 53 ∨ d.toNat = 54 := by omega
  · rw [same (e := '1') eq]; rfl
  · rw [same (e := '2') eq]; rfl
  · rw [same (e := '3') eq]; rfl
  · rw [same (e := '4') eq]; rfl
  · rw [same (e := '5') eq]; rfl
  · rw [same (e := '6') eq]; rfl

/-- Where a word starts, the scan finds the level that the whole word names. -/
theorem levelAt?_eq {cs w : List Char} {ws : List (List Char)} (h : snakeWords cs = w :: ws) :
    levelAt? cs = wordLevel? w := by
  by_cases level : ∃ d, w = ['h', d] ∧ '1' ≤ d ∧ d ≤ '6'
  · obtain ⟨d, rfl, range⟩ := level
    obtain ⟨rest, rfl, ends⟩ := exists_rest h
    rw [wordLevel?_of_range range]
    exact if_pos ⟨range.1, range.2, ends⟩
  · rw [wordLevel?_eq_none fun d range same => level ⟨d, same, range⟩]
    -- a level that the scan finds would be that of the whole word
    unfold levelAt?
    split
    · next d rest =>
      rw [if_neg]
      rintro ⟨least, most, ends⟩
      have apart : '_' ∉ ['h', d] := by
        simp only [List.mem_cons, List.not_mem_nil, or_false, not_or]
        refine ⟨by decide, ?_⟩
        rintro rfl
        exact absurd most (by decide)
      have first := head?_snakeWords_append apart ends
      rw [List.cons_append, List.cons_append, List.nil_append, h] at first
      exact level ⟨d, Option.some.inj first, least, most⟩
    · rfl

/-- The scan finds the level of the first word that names one, and within a word that of the first word
behind it. -/
theorem firstLevel?_eq (cs : List Char) :
    firstLevel? true cs = (snakeWords cs).findSome? wordLevel? ∧
      firstLevel? false cs = (snakeWords cs).tail.findSome? wordLevel? := by
  induction cs with
  | nil => exact ⟨rfl, rfl⟩
  | cons c cs ih =>
    obtain ⟨w, ws, rest⟩ := exists_snakeWords cs
    by_cases sep : c = '_'
    · subst sep
      have start : levelAt? ('_' :: cs) = none := rfl
      have scan : firstLevel? true cs = (snakeWords cs).findSome? wordLevel? := ih.1
      rw [firstLevel?, firstLevel?, snakeWords_underscore, start]
      exact ⟨scan, scan⟩
    · have words := snakeWords_cons sep rest
      have start := levelAt?_eq words
      have scan : firstLevel? (c = '_') cs = ws.findSome? wordLevel? := by
        rw [decide_eq_false sep, ih.2, rest]
        rfl
      rw [firstLevel?, firstLevel?, words, scan, start, List.findSome?_cons]
      refine ⟨?_, rfl⟩
      cases wordLevel? (c :: w) <;> rfl

/-! ### Names -/

/-- The words of the snake-case form of a name. -/
def nameWords (name : String) : List (List Char) := snakeWords (Text.snake name.toList)

/-- The landmark of a name is the first one with a keyword whose words stand side by side among the words of
the name.  Its level is that of the first word that names one, or 2 if a word means a heading. -/
theorem names_read_by_words (name : String) :
    Landmark.ofName? name =
        Landmark.all.find? (fun l => ∃ k ∈ l.keywords, snakeWords k.toList <:+: nameWords name) ∧
      headingLevel? name =
        ((nameWords name).findSome? wordLevel? <|>
          if ∃ k ∈ headingWords, k.toList ∈ nameWords name then some 2 else none) := by
  constructor
  · have speaks (l : Landmark) : l.keywords.any (hasKeyword (Text.snake name.toList)) =
        decide (∃ k ∈ l.keywords, snakeWords k.toList <:+: nameWords name) := by
      rw [Bool.eq_iff_iff, List.any_eq_true, decide_eq_true_iff]
      simp only [hasKeyword_iff, nameWords]
    simp only [Landmark.ofName?, speaks]
  · have heads : headingWords.any (hasKeyword (Text.snake name.toList)) = true ↔
        ∃ k ∈ headingWords, k.toList ∈ nameWords name := by
      rw [List.any_eq_true]
      refine exists_congr fun k => and_congr_right fun mem => ?_
      exact hasKeyword_iff_mem ((by decide : ∀ k ∈ headingWords, snakeWords k.toList = [k.toList]) k mem) _
    rw [headingLevel?, (firstLevel?_eq _).1]
    exact congrArg _ (funext fun _ => if_congr heads rfl rfl)

/-- Repeated underscores make no words that count, and the second of two levels is not looked at. -/
example : headingLevel? "__H2--h1 Title" = some 2 ∧ Landmark.ofName? "My TopBar menu" = some .header := by
  decide +kernel

end DesignCode
