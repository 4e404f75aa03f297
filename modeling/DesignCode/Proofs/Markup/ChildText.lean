import DesignCode.Proofs.Markup.Moved

/-!
# Texts as children of elements

A child of an element is a string literal in braces or a text with entities, and the first character tells which.
`readChild?` reads a child; it gets every text back (`childText_read`), wherever the lines around the child are
moved.
-/

namespace DesignCode.Markup

open Script (readInside)
open Text (indent margin moved opensBlank)

/-! ### The reader -/

/-- Whether the character may begin or end a tag or an expression. -/
def isDelimiter (c : Char) : Bool := c = '<' ∨ c = '>' ∨ c = '\x7b' ∨ c = '\x7d'

/-- Reads a whole child: a string literal that a brace ends, or a text without delimiters. -/
def readChild? : List Char → Option (List Char)
  | '\x7b' :: '\x27' :: rest =>
    match readInside rest with
    | some (cs, ['\x7d']) => some cs
    | _ => none
  | cs => if cs.any isDelimiter then none else some (decode textEntities cs)

/-! ### Reading texts back -/

theorem isDelimiter_of_mem_escape {cs : List Char} : ∀ c ∈ escape cs, isDelimiter c = false := by
  intro c hc
  obtain ⟨plain, greater, closing⟩ := isPlain_of_mem_escape c hc
  simp only [isPlain, decide_eq_true_eq] at plain
  simp [isDelimiter, plain.1, plain.2, greater, closing]

theorem readChild?_escape (cs : List Char) : readChild? (escape cs) = some cs := by
  have none : (escape cs).any isDelimiter = false := by
    rw [List.any_eq_false]
    intro c hc
    simp [isDelimiter_of_mem_escape c hc]
  unfold readChild?
  split
  · next rest written =>
    rw [written] at none
    exact absurd none (by simp [isDelimiter])
  · rw [if_neg (by simp [none]), decode_escape List.prefix_rfl]

theorem readChild?_literal (cs : List Char) :
    readChild? ('\x7b' :: Script.literal cs ++ ['\x7d']) = some cs := by
  have written : '\x7b' :: Script.literal cs ++ ['\x7d'] =
      '\x7b' :: '\x27' :: (Script.escape cs ++ '\x27' :: ['\x7d']) := by
    simp [Script.literal]
  unfold readChild?
  rw [written]
  simp only [Script.readInside_escape]

theorem readChild?_childText (cs : List Char) : readChild? (childText cs) = some cs := by
  unfold childText
  split_ifs
  · exact readChild?_literal cs
  · exact readChild?_escape cs

/-! ### Lines -/

/-- Indenting moves what is before and behind a child, and leaves the child as it is. -/
theorem indent_childText (n : Nat) (a b cs : List Char) :
    indent n (a ++ '>' :: (childText cs ++ '<' :: (b ++ ['>']))) =
      margin n a ++ moved n a ++ '>' :: (childText cs ++ '<' :: (moved n b ++ ['>'])) := by
  have solid : Text.EndsSolid (a ++ '>' :: (childText cs ++ '<' :: (b ++ ['>']))) :=
    ⟨a ++ '>' :: (childText cs ++ '<' :: b), '>', by simp, by decide⟩
  have margins : margin n (a ++ '>' :: (childText cs ++ '<' :: (b ++ ['>']))) = margin n a := by
    rw [margin, Text.opensBlank_append_cons (by decide), ← margin]
  have inside : moved n (childText cs ++ '<' :: (b ++ ['>'])) =
      childText cs ++ '<' :: (moved n b ++ ['>']) := by
    rw [Text.moved_append_of_noBreak n (noBreak_childText cs)]
    have behind := Text.moved_append_cons n (c := '<') (by decide) [] (b ++ ['>'])
    have last := Text.moved_append_cons n (c := '>') (by decide) b []
    rw [List.nil_append, moved, List.nil_append] at behind
    rw [behind, last, moved]
  rw [Text.indent_of_endsSolid n solid, margins, Text.moved_append_cons n (by decide), inside,
    List.append_assoc]

/-- A text as a child holds no end of a line and is read back, also where the lines around it have been indented.
Hence different texts are different children. -/
theorem childText_read :
    (∀ cs, (∀ c ∈ childText cs, endsLine c = false) ∧ readChild? (childText cs) = some cs) ∧
      (∀ n a b, ∃ a' b', ∀ cs, indent n (a ++ '>' :: (childText cs ++ '<' :: (b ++ ['>']))) =
        a' ++ '>' :: (childText cs ++ '<' :: (b' ++ ['>']))) ∧
      Function.Injective childText := by
  refine ⟨fun cs => ⟨endsLine_childText cs, readChild?_childText cs⟩, ?_, ?_⟩
  · exact fun n a b => ⟨margin n a ++ moved n a, moved n b, indent_childText n a b⟩
  · intro cs cs' same
    have read := readChild?_childText cs
    rw [same, readChild?_childText] at read
    exact (Option.some.inj read).symm

end DesignCode.Markup
