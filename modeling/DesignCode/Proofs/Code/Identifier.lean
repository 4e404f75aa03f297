import DesignCode.Proofs.Code.Expression
import DesignCode.Proofs.Text.Case

/-!
# Names of components

The name of a component is to begin with a capital and must be no reserved word of scripts.  Characters that cannot
stand in it are dropped after the words of the name have got their capitals, so that a capital may be dropped and a
small letter comes first.  `isUsable_identifier_iff` says when that happens.
-/

namespace DesignCode

open Text (allBounds capital lower upperOf words)

/-- The words of scripts that name no declaration, those of strict scripts included. -/
def reservedWords : List String :=
  ["await", "break", "case", "catch", "class", "const", "continue", "debugger", "default", "delete",
    "do", "else", "enum", "export", "extends", "false", "finally", "for", "function", "if",
    "implements", "import", "in", "instanceof", "interface", "let", "new", "null", "package",
    "private", "protected", "public", "return", "static", "super", "switch", "this", "throw", "true",
    "try", "typeof", "var", "void", "while", "with", "yield"]

/-- A name for a component: a capital of ASCII, then letters and digits of ASCII and underscores, and no reserved
word. -/
structure IsUsable (name : String) : Prop where
  capital : name.toList.head?.any Char.isUpper = true
  chars : ∀ c ∈ name.toList, Options.isNameChar c = true
  free : name ∉ reservedWords

namespace Options

/-- What may stand in a name of the word that it is a part of, with its capital. -/
def leftOf (w : List Char) : List Char := (capital w).filter isNameChar

/-- Whether what is left of a word begins with the capital of the word or with a digit. -/
def keepsCapital : List Char → Bool
  | [] => false
  | c :: rest =>
    match (upperOf c).filter isNameChar with
    | d :: _ => d ≠ '_'
    | [] => ((lower rest).filter isNameChar).head?.any Char.isDigit

/-- The first word of a name of which something is left. -/
def firstLeft? (name : String) : Option (List Char) :=
  (words allBounds name.toList).find? (leftOf · ≠ [])

/-! ### Words -/

theorem isNameChar_iff {c : Char} :
    isNameChar c = true ↔ c.isUpper = true ∨ c.isLower = true ∨ c.isDigit = true ∨ c = '_' := by
  simp only [isNameChar, Char.isAlphanum, Char.isAlpha, Bool.or_eq_true, decide_eq_true_eq, or_assoc]

/-- An underscore is the only character of a name that is neither a letter nor a digit. -/
theorem ne_underscore_iff {c : Char} (h : isNameChar c = true) (large : c.isLower = false) :
    c ≠ '_' ↔ c.isUpper = true ∨ c.isDigit = true := by
  constructor
  · intro other
    rcases isNameChar_iff.1 h with upper | small | digit | underscore
    · exact .inl upper
    · exact absurd (large.symm.trans small) (by decide)
    · exact .inr digit
    · exact absurd underscore other
  · rintro upper rfl
    exact absurd upper (by decide)

/-- A word keeps its capital exactly if what is left of it begins with a capital or a digit. -/
theorem keepsCapital_iff {w left : List Char} {d : Char} (h : leftOf w = d :: left) :
    keepsCapital w = true ↔ d.isUpper = true ∨ d.isDigit = true := by
  cases w with
  | nil => exact absurd h (by simp [leftOf, capital])
  | cons c rest =>
    rw [leftOf, capital, List.filter_append] at h
    cases first : (upperOf c).filter isNameChar with
    | nil =>
      rw [first, List.nil_append] at h
      have mem : d ∈ lower rest := List.mem_of_mem_filter (h ▸ List.mem_cons_self)
      rw [keepsCapital, first, h, Text.isUpper_of_mem_lower d mem]
      simp
    | cons e more =>
      rw [first] at h
      obtain rfl : e = d := (List.cons.inj h).1
      obtain ⟨mem, name⟩ := List.mem_filter.1 (first ▸ List.mem_cons_self : e ∈ _)
      rw [keepsCapital, first, ← ne_underscore_iff name (Text.isLower_of_mem_upperOf mem)]
      simp

/-- What is left of a name begins like its first word of which something is left. -/
theorem head?_left (name : String) :
    ((Text.pascal name.toList).filter isNameChar).head? =
      (firstLeft? name).bind fun w => (leftOf w).head? := by
  rw [Text.pascal, List.filter_flatMap, firstLeft?]
  induction words allBounds name.toList with
  | nil => rfl
  | cons w ws ih =>
    rw [List.flatMap_cons, List.head?_append, ih, List.find?_cons]
    cases left : leftOf w with
    | nil =>
      rw [← leftOf, left]
      rfl
    | cons d ds =>
      rw [← leftOf, left]
      simp [left]

/-! ### Names -/

/-- No reserved word begins with a capital. -/
theorem not_mem_reservedWords {name : String} (h : name.toList.head?.any Char.isUpper = true) :
    name ∉ reservedWords := fun mem =>
  absurd h ((by decide +kernel :
    ∀ s ∈ reservedWords, ¬ s.toList.head?.any Char.isUpper = true) name mem)

theorem isUsable_iff_of_chars {name : String} (h : ∀ c ∈ name.toList, isNameChar c = true) :
    IsUsable name ↔ name.toList.head?.any Char.isUpper = true :=
  ⟨IsUsable.capital, fun capital => ⟨capital, h, not_mem_reservedWords capital⟩⟩

open scoped Text.ByMember in
theorem chars_identifier (o : Options) : ∀ c ∈ o.identifier.toList, isNameChar c = true := by
  rcases o.identifier_cases with ⟨-, name⟩ | ⟨c, rest, left, name⟩
  · rw [name]
    decide
  · have chars : ∀ d ∈ c :: rest, isNameChar d = true := fun d hd => (List.mem_filter.1 (left ▸ hd)).2
    rw [name]
    split_ifs
    · exact List.forall_mem_append.2 ⟨by decide, chars⟩
    · exact chars

/-- The name of a component begins with a capital exactly if nothing is left of the name that was given, or what is
left begins with a capital or a digit. -/
theorem isUpper_identifier_iff (o : Options) :
    o.identifier.toList.head?.any Char.isUpper = true ↔
      ∀ c ∈ ((Text.pascal o.componentName.toList).filter isNameChar).head?,
        c.isUpper = true ∨ c.isDigit = true := by
  rcases o.identifier_cases with ⟨left, name⟩ | ⟨c, rest, left, name⟩
  · simp [left, name, defaultName]
  · rw [left, name]
    split_ifs with digit <;> simp [digit]

/-- A reserved word does not end like the name of an alias. -/
theorem append_memo_not_mem_reservedWords (name : String) : name ++ "Memo" ∉ reservedWords := by
  have ends : ∀ s ∈ reservedWords, "Memo".toList.isSuffixOf s.toList = false := by decide +kernel
  intro mem
  have no := ends _ mem
  rw [String.toList_append, ← Bool.not_eq_true, List.isSuffixOf_iff_suffix] at no
  exact no (List.suffix_append _ _)

/-- The name of a component is always an identifier of letters and digits of ASCII and underscores, and the name of
the alias is no reserved word.  It begins with a capital and is no reserved word exactly if the first word that leaves
something of the name keeps its capital, or begins with a digit as far as it is left. -/
theorem isUsable_identifier_iff (o : Options) :
    ((∀ c ∈ o.identifier.toList, isNameChar c = true) ∧
        Script.isIdentifier o.identifier.toList = true ∧ o.identifier ++ "Memo" ∉ reservedWords) ∧
      (IsUsable o.identifier ↔
        ∀ w, firstLeft? o.componentName = some w → keepsCapital w = true) := by
  have chars := chars_identifier o
  refine ⟨⟨chars, isIdentifier_identifier o, append_memo_not_mem_reservedWords _⟩, ?_⟩
  rw [isUsable_iff_of_chars chars, isUpper_identifier_iff, head?_left]
  cases first : firstLeft? o.componentName with
  | none => simp
  | some w =>
    have something : leftOf w ≠ [] := by simpa using List.find?_some first
    obtain ⟨d, left, written⟩ := List.exists_cons_of_ne_nil something
    simp [written, keepsCapital_iff written]

/-- The capital of this name is dropped, and a reserved word is left. -/
theorem accentedNew_not_usable :
    ({ componentName := "énew" } : Options).identifier = "new" ∧
      ¬ IsUsable ({ componentName := "énew" } : Options).identifier := by
  have name : ({ componentName := "énew" } : Options).identifier = "new" := by decide +kernel
  refine ⟨name, ?_⟩
  rw [name]
  exact fun usable => usable.free (by decide)

end Options

end DesignCode
