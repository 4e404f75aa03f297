import DesignCode.Json.Reader
import DesignCode.Markup.Escape
import DesignCode.Proofs.Text.Lines

/-!
# Reading scripts

A `Term` is an expression of a script: a string literal, a word, an object, or a call of a function.
`Term.read?` reads a text as one term.  Nothing but string literals is opaque to it: the characters
of a literal, whose grammar is `Denotes`, are looked at only for the quote that ends it; everything
else is made of words, brackets, commas and colons with spaces between them.  `Reads` says that a
piece of text is read as a term wherever it stands, and the lemmas below build it up for literals,
words, objects and calls.
-/

namespace DesignCode.Script

/-- An expression of a script. -/
inductive Term where
  /-- A string literal with the text that it denotes. -/
  | text (cs : List Char)
  /-- A word or a number. -/
  | word (cs : List Char)
  | object (members : List (List Char × Term))
  | call (function : List Char) (arguments : List Term)

/-! ### The reader -/

/-- The character that four hexadecimal digits stand for; half of a surrogate pair is none. -/
def codeUnit? (a b c d : Char) : Option Char := do
  let n := (((← Json.hexValue a) * 16 + (← Json.hexValue b)) * 16 + (← Json.hexValue c)) * 16 +
    (← Json.hexValue d)
  if Json.isHighSurrogate n ∨ Json.isLowSurrogate n then none else some (Char.ofNat n)

/-- The character that a backslash with a letter stands for. -/
def letterEscape? (c : Char) : Option Char :=
  if c = 'n' then some '\n'
  else if c = 'r' then some '\r'
  else if c = '\\' ∨ c = '\x27' then some c
  else none

/-- Reads a string literal behind its opening quote: the text that it denotes, and what follows its
closing quote.  A literal does not go over the end of a line. -/
def readInside : List Char → Option (List Char × List Char)
  | [] => none
  | '\x27' :: rest => some ([], rest)
  | '\\' :: 'u' :: a :: b :: c :: d :: rest =>
    (codeUnit? a b c d).bind fun x => (readInside rest).map fun r => (x :: r.1, r.2)
  | '\\' :: c :: rest =>
    (letterEscape? c).bind fun x => (readInside rest).map fun r => (x :: r.1, r.2)
  | c :: rest =>
    if Markup.endsLine c then none else (readInside rest).map fun r => (c :: r.1, r.2)

/-- Whether the character may stand between two tokens. -/
def isSpace (c : Char) : Bool := c = ' ' ∨ c = '\n' ∨ c = '\t' ∨ c = '\r'

/-- Drops the spaces at the beginning. -/
def skip (cs : List Char) : List Char := cs.dropWhile isSpace

/-- Whether the character may stand in a word or a number. -/
def isWordChar (c : Char) : Bool := startsIdentifier c ∨ c.isDigit ∨ c = '.' ∨ c = '-'

/-- Reads the key of a member: an identifier or a string literal. -/
def readKey (cs : List Char) : Option (List Char × List Char) :=
  match skip cs with
  | '\x27' :: rest => readInside rest
  | cs =>
    if isIdentifier (cs.takeWhile isWordChar) then
      some (cs.takeWhile isWordChar, cs.dropWhile isWordChar)
    else none

mutual

/-- Reads a term, and gives what follows it. -/
def readTerm : Nat → List Char → Option (Term × List Char)
  | 0, _ => none
  | fuel + 1, cs =>
    match skip cs with
    | '\x27' :: rest => (readInside rest).map fun r => (.text r.1, r.2)
    | '\x7b' :: rest => (readMembers fuel rest).map fun r => (.object r.1, r.2)
    | cs =>
      if cs.takeWhile isWordChar = [] then none
      else match cs.dropWhile isWordChar with
        | '(' :: rest =>
          (readArguments fuel rest).map fun r => (.call (cs.takeWhile isWordChar) r.1, r.2)
        | rest => some (.word (cs.takeWhile isWordChar), rest)

/-- Reads the members of an object up to its closing brace. -/
def readMembers : Nat → List Char → Option (List (List Char × Term) × List Char)
  | 0, _ => none
  | fuel + 1, cs =>
    match readKey cs with
    | some (key, cs) =>
      match skip cs with
      | ':' :: cs =>
        match readTerm fuel cs with
        | some (value, cs) =>
          match skip cs with
          | ',' :: cs => (readMembers fuel cs).map fun r => ((key, value) :: r.1, r.2)
          | '\x7d' :: cs => some ([(key, value)], cs)
          | _ => none
        | none => none
      | _ => none
    | none =>
      match skip cs with
      | '\x7d' :: cs => some ([], cs)
      | _ => none

/-- Reads the arguments of a call up to its closing bracket. -/
def readArguments : Nat → List Char → Option (List Term × List Char)
  | 0, _ => none
  | fuel + 1, cs =>
    match readTerm fuel cs with
    | some (t, cs) =>
      match skip cs with
      | ',' :: cs => (readArguments fuel cs).map fun r => (t :: r.1, r.2)
      | ')' :: cs => some ([t], cs)
      | _ => none
    | none =>
      match skip cs with
      | ')' :: cs => some ([], cs)
      | _ => none

end

/-- Reads a whole text as one term.  The length of the text is fuel enough: no reader calls the next
one before it has taken a character off. -/
def Term.read? (cs : List Char) : Option Term :=
  match readTerm cs.length cs with
  | some (t, rest) => if skip rest = [] then some t else none
  | none => none

/-! ### Spaces -/

theorem skip_append {spaces : List Char} (h : ∀ c ∈ spaces, isSpace c) (cs : List Char) :
    skip (spaces ++ cs) = skip cs := List.dropWhile_append_of_pos h

theorem skip_space {c : Char} (h : isSpace c = true) (cs : List Char) : skip (c :: cs) = skip cs := by
  simp [skip, h]

theorem skip_cons {c : Char} (h : isSpace c = false) (cs : List Char) : skip (c :: cs) = c :: cs := by
  simp [skip, h]

theorem isSpace_of_isWordChar {c : Char} (h : isWordChar c = true) : isSpace c = false := by
  by_contra hs
  rw [Bool.not_eq_false, isSpace, decide_eq_true_eq] at hs
  rcases hs with rfl | rfl | rfl | rfl <;> revert h <;> decide

/-! ### String literals -/

/-- The characters stand for one character inside a string literal. -/
inductive Spells : List Char → Char → Prop
  /-- A character stands for itself if it does not end the literal or a line and begins no escape. -/
  | plain {c : Char} (quote : c ≠ '\x27') (backslash : c ≠ '\\') (line : Markup.endsLine c = false) :
      Spells [c] c
  | backslash : Spells ['\\', '\\'] '\\'
  | quote : Spells ['\\', '\x27'] '\x27'
  | lineFeed : Spells ['\\', 'n'] '\n'
  | carriageReturn : Spells ['\\', 'r'] '\r'
  /-- Four hexadecimal digits stand for the character with their number. -/
  | number {a b c d x : Char} (value : codeUnit? a b c d = some x) : Spells ['\\', 'u', a, b, c, d] x

/-- The characters between the quotes of a literal denote a text. -/
inductive Denotes : List Char → List Char → Prop
  | nil : Denotes [] []
  | cons {w ws : List Char} {c : Char} {cs : List Char} (first : Spells w c) (others : Denotes ws cs) :
      Denotes (w ++ ws) (c :: cs)

theorem readInside_of_spells {w : List Char} {c : Char} (h : Spells w c) (rest : List Char) :
    readInside (w ++ rest) = (readInside rest).map fun r => (c :: r.1, r.2) := by
  cases h with
  | plain quote backslash line =>
    rw [List.singleton_append, readInside]
    · simp [line]
    · exact quote
    all_goals simp [backslash]
  | backslash => rfl
  | quote => rfl
  | lineFeed => rfl
  | carriageReturn => rfl
  | number value => simp [readInside, value]

theorem readInside_of_denotes {w cs : List Char} (h : Denotes w cs) (rest : List Char) :
    readInside (w ++ '\x27' :: rest) = some (cs, rest) := by
  induction h with
  | nil => rfl
  | cons first others ih =>
    rw [List.append_assoc, readInside_of_spells first, ih]
    rfl

theorem spells_escapedChar (c : Char) : Spells (escapedChar c) c := by
  unfold escapedChar
  split_ifs with backslash quote lineFeed carriageReturn lineSeparator paragraphSeparator
  · exact backslash ▸ .backslash
  · exact quote ▸ .quote
  · exact lineFeed ▸ .lineFeed
  · exact carriageReturn ▸ .carriageReturn
  · exact lineSeparator ▸ .number (by decide)
  · exact paragraphSeparator ▸ .number (by decide)
  · refine .plain quote backslash ?_
    simp [Markup.endsLine, lineFeed, carriageReturn, lineSeparator, paragraphSeparator]

theorem denotes_escape (cs : List Char) : Denotes (escape cs) cs := by
  induction cs with
  | nil => exact .nil
  | cons c cs ih => exact .cons (spells_escapedChar c) ih

/-- Reading the inside of a literal stops at the quote that ends it. -/
theorem readInside_escape (cs rest : List Char) :
    readInside (escape cs ++ '\x27' :: rest) = some (cs, rest) :=
  readInside_of_denotes (denotes_escape cs) rest

/-! ### Words -/

/-- A text before which a word ends and is not the name of a function. -/
def Stops (rest : List Char) : Prop := ∀ c ∈ rest.head?, isWordChar c = false ∧ c ≠ '('

theorem stops_cons {c : Char} (h : isWordChar c = false) (hc : c ≠ '(') (rest : List Char) :
    Stops (c :: rest) := by
  intro d hd
  obtain rfl : c = d := by simpa using hd
  exact ⟨h, hc⟩

theorem stops_spaces {spaces : List Char} (hs : ∀ c ∈ spaces, isSpace c = true) {c : Char}
    (h : isWordChar c = false) (hc : c ≠ '(') (rest : List Char) : Stops (spaces ++ c :: rest) := by
  cases spaces with
  | nil => exact stops_cons h hc rest
  | cons d spaces =>
    have hd := hs d List.mem_cons_self
    refine stops_cons ?_ ?_ _
    · by_contra hw
      rw [isSpace_of_isWordChar (by simpa using hw)] at hd
      exact absurd hd (by decide)
    · rintro rfl
      exact absurd hd (by decide)

/-- A word is a text of word characters, and not the empty one. -/
def IsWord (w : List Char) : Prop := w ≠ [] ∧ ∀ c ∈ w, isWordChar c = true

open scoped Text.ByMember in
instance (w : List Char) : Decidable (IsWord w) := inferInstanceAs (Decidable (_ ∧ _))

theorem isWord_of_isIdentifier {w : List Char} (h : isIdentifier w = true) : IsWord w := by
  cases w with
  | nil => simp [isIdentifier] at h
  | cons c w =>
    simp only [isIdentifier, List.all_eq_true, Bool.decide_and, Bool.and_eq_true,
      decide_eq_true_eq] at h
    refine ⟨by simp, ?_⟩
    intro d hd
    rcases List.mem_cons.1 hd with rfl | hd
    · simp [isWordChar, h.1]
    · rcases h.2 d hd with hs | hs <;> simp [isWordChar, hs]

/-! ### Pieces of text that are read as terms -/

/-- The text `w` is read as the term `t` wherever a term may end behind it. -/
def Reads (w : List Char) (t : Term) : Prop :=
  ∀ fuel rest, w.length ≤ fuel → Stops rest → readTerm fuel (w ++ rest) = some (t, rest)

theorem readTerm_space {c : Char} (h : isSpace c = true) (fuel : Nat) (cs : List Char) :
    readTerm fuel (c :: cs) = readTerm fuel cs := by
  cases fuel with
  | zero => rfl
  | succ fuel => simp only [readTerm, skip_space h]

theorem reads_literal (cs : List Char) : Reads (literal cs) (.text cs) := by
  intro fuel rest hf _
  cases fuel with
  | zero => simp [literal] at hf
  | succ fuel =>
    have inside := readInside_escape cs rest
    simp [literal, readTerm, skip_cons (c := '\x27') (by decide), inside]

/-- A word is read up to the first character that is not of a word. -/
theorem readTerm_word {w : List Char} (hw : IsWord w) (fuel : Nat) {rest : List Char} :
    (∀ c ∈ rest.head?, isWordChar c = false) →
    readTerm (fuel + 1) (w ++ rest) =
      match rest with
      | '(' :: rest => (readArguments fuel rest).map fun r => (.call w r.1, r.2)
      | rest => some (.word w, rest) := by
  intro hr
  obtain ⟨ne, hw⟩ := hw
  obtain ⟨take, drop⟩ := Text.cut_append hw rest hr
  cases w with
  | nil => exact absurd rfl ne
  | cons c w =>
    have hc := hw c List.mem_cons_self
    have quote : c ≠ '\x27' := by rintro rfl; exact absurd hc (by decide)
    have brace : c ≠ '\x7b' := by rintro rfl; exact absurd hc (by decide)
    rw [List.cons_append] at take drop ⊢
    rw [readTerm, skip_cons (isSpace_of_isWordChar hc)]
    split
    · next h => exact absurd (List.cons.inj h).1 quote
    · next h => exact absurd (List.cons.inj h).1 brace
    · rw [take, drop, if_neg (by simp)]

theorem reads_word {w : List Char} (hw : IsWord w) : Reads w (.word w) := by
  intro fuel rest hf hs
  cases fuel with
  | zero => exact absurd (List.eq_nil_of_length_eq_zero (Nat.le_zero.1 hf)) hw.1
  | succ fuel =>
    rw [readTerm_word hw fuel fun c hc => (hs c hc).1]
    split
    · next h => exact absurd rfl (hs '(' (by simp)).2
    · rfl

/-! ### Objects -/

theorem readKey_space {c : Char} (h : isSpace c = true) (cs : List Char) :
    readKey (c :: cs) = readKey cs := by
  simp only [readKey, skip_space h]

theorem readMembers_space {c : Char} (h : isSpace c = true) (fuel : Nat) (cs : List Char) :
    readMembers fuel (c :: cs) = readMembers fuel cs := by
  cases fuel with
  | zero => rfl
  | succ fuel => simp only [readMembers, readKey_space h, skip_space h]

/-- A key is read back, quoted or not. -/
theorem readKey_key (cs rest : List Char) : readKey (key cs ++ ':' :: rest) = some (cs, ':' :: rest) := by
  unfold key
  split_ifs with h
  · have word := isWord_of_isIdentifier h
    obtain ⟨take, drop⟩ := Text.cut_append word.2 (':' :: rest)
      (Text.head?_cons_of (by decide) rest)
    cases cs with
    | nil => exact absurd rfl word.1
    | cons c cs =>
      have hc := word.2 c List.mem_cons_self
      rw [List.cons_append] at take drop ⊢
      rw [readKey, skip_cons (isSpace_of_isWordChar hc)]
      split
      · next e => exact absurd hc (by rw [(List.cons.inj e).1]; decide)
      · rw [take, drop, if_pos h]
  · have inside := readInside_escape cs (':' :: rest)
    simp [literal, readKey, skip_cons (c := '\x27') (by decide), inside]

/-- What is written of a member of an object. -/
def member (k w : List Char) : List Char := key k ++ ':' :: ' ' :: w

theorem readMembers_member {k w : List Char} {t : Term} (h : Reads w t) {fuel : Nat}
    (hf : (member k w).length ≤ fuel + 1) {rest : List Char} (hs : Stops rest) :
    readMembers (fuel + 1) (member k w ++ rest) =
      match skip rest with
      | ',' :: cs => (readMembers fuel cs).map fun r => ((k, t) :: r.1, r.2)
      | '\x7d' :: cs => some ([(k, t)], cs)
      | _ => none := by
  have hk : readKey (member k w ++ rest) = some (k, ':' :: ' ' :: (w ++ rest)) := by
    rw [member, List.append_assoc]
    exact readKey_key k _
  have hw : w.length ≤ fuel := by
    simp only [member, List.length_append, List.length_cons] at hf
    omega
  have ht : readTerm fuel (' ' :: (w ++ rest)) = some (t, rest) := by
    rw [readTerm_space (by decide)]
    exact h fuel rest hw hs
  simp only [readMembers, hk, skip_cons (c := ':') (by decide), ht]

section Object

variable {α : Type} {k w : α → List Char} {t : α → Term}

/-- Members with commas between them are read up to the brace, one call of the reader for each. -/
theorem readMembers_joined (x : α) (xs : List α) (h : ∀ y ∈ x :: xs, Reads (w y) (t y)) (fuel : Nat)
    (hf : (Text.joined [',', ' '] ((x :: xs).map fun y => member (k y) (w y))).length ≤ fuel)
    (rest : List Char) :
    readMembers fuel
        (Text.joined [',', ' '] ((x :: xs).map fun y => member (k y) (w y)) ++ ' ' :: '\x7d' :: rest) =
      some ((x :: xs).map fun y => (k y, t y), rest) := by
  induction xs generalizing x fuel with
  | nil =>
    rw [List.map_singleton, Text.joined_singleton] at hf ⊢
    cases fuel with
    | zero => simp [member] at hf
    | succ fuel =>
      rw [readMembers_member (h x List.mem_cons_self) hf
        (stops_cons (by decide) (by decide) _), skip_space (by decide), skip_cons (by decide)]
      rfl
  | cons x' xs ih =>
    rw [List.map_cons, List.map_cons, Text.joined_cons_cons] at hf ⊢
    simp only [List.length_append, List.length_cons, List.length_nil] at hf
    cases fuel with
    | zero => omega
    | succ fuel =>
      have more := ih x' (fun y hy => h y (List.mem_cons_of_mem _ hy)) fuel
        (by rw [List.map_cons]; omega)
      rw [List.map_cons] at more
      simp only [List.append_assoc, List.cons_append, List.nil_append]
      rw [readMembers_member (h x List.mem_cons_self) (by omega)
        (stops_cons (by decide) (by decide) _), skip_cons (by decide)]
      simp only
      rw [readMembers_space (by decide), more]
      rfl

theorem reads_object (xs : List α) (h : ∀ x ∈ xs, Reads (w x) (t x)) :
    Reads (object (xs.map fun x => (k x, w x))) (.object (xs.map fun x => (k x, t x))) := by
  intro fuel rest hf _
  cases xs with
  | nil =>
    cases fuel with
    | zero => simp [object] at hf
    | succ fuel =>
      cases fuel with
      | zero => simp [object] at hf
      | succ fuel => rfl
  | cons x xs =>
    have written : object ((x :: xs).map fun y => (k y, w y)) =
        '\x7b' :: ' ' :: (Text.joined [',', ' '] ((x :: xs).map fun y => member (k y) (w y)) ++
          [' ', '\x7d']) := by
      simp [object, member, Function.comp_def]
    rw [written] at hf ⊢
    simp only [List.length_cons, List.length_append, List.length_nil] at hf
    cases fuel with
    | zero => omega
    | succ fuel =>
      have members := readMembers_joined (k := k) x xs h fuel (by omega) rest
      simp only [List.cons_append, List.append_assoc, List.nil_append, readTerm,
        skip_cons (c := '\x7b') (by decide)]
      rw [readMembers_space (by decide), members]
      rfl

end Object

/-! ### Calls -/

/-- The text `w` is read as the arguments `ts` with the bracket behind them, wherever it stands. -/
def ReadsArguments (w : List Char) (ts : List Term) : Prop :=
  ∀ fuel rest, w.length < fuel → readArguments fuel (w ++ rest) = some (ts, rest)

theorem readArguments_spaces {spaces : List Char} (h : ∀ c ∈ spaces, isSpace c = true) (fuel : Nat)
    (cs : List Char) : readArguments fuel (spaces ++ cs) = readArguments fuel cs := by
  induction spaces with
  | nil => rfl
  | cons c spaces ih =>
    rw [List.cons_append, ← ih fun d hd => h d (List.mem_cons_of_mem _ hd)]
    cases fuel with
    | zero => rfl
    | succ fuel =>
      have hc := h c List.mem_cons_self
      simp only [readArguments, readTerm_space hc, skip_space hc]

theorem ReadsArguments.spaces {w spaces : List Char} {ts : List Term} (h : ReadsArguments w ts)
    (hs : ∀ c ∈ spaces, isSpace c = true) : ReadsArguments (spaces ++ w) ts := by
  intro fuel rest hf
  rw [List.append_assoc, readArguments_spaces hs]
  exact h fuel rest (by rw [List.length_append] at hf; omega)

theorem Reads.readArguments {w : List Char} {t : Term} (h : Reads w t) {fuel : Nat}
    (hf : w.length ≤ fuel) {rest : List Char} (hs : Stops rest) :
    readArguments (fuel + 1) (w ++ rest) =
      match skip rest with
      | ',' :: cs => (Script.readArguments fuel cs).map fun r => (t :: r.1, r.2)
      | ')' :: cs => some ([t], cs)
      | _ => none := by
  simp only [Script.readArguments, h fuel rest hf hs]

theorem Reads.lastArgument {w spaces : List Char} {t : Term} (h : Reads w t)
    (hs : ∀ c ∈ spaces, isSpace c = true) : ReadsArguments (w ++ (spaces ++ [')'])) [t] := by
  intro fuel rest hf
  cases fuel with
  | zero => omega
  | succ fuel =>
    rw [List.length_append] at hf
    simp only [List.append_assoc, List.singleton_append]
    rw [h.readArguments (by omega) (stops_spaces hs (by decide) (by decide) _), skip_append hs,
      skip_cons (by decide)]
    rfl

theorem Reads.consArgument {w more : List Char} {t : Term} {ts : List Term} (h : Reads w t)
    (hm : ReadsArguments more ts) : ReadsArguments (w ++ ',' :: more) (t :: ts) := by
  intro fuel rest hf
  cases fuel with
  | zero => omega
  | succ fuel =>
    rw [List.length_append, List.length_cons] at hf
    rw [List.append_assoc, List.cons_append,
      h.readArguments (by omega) (stops_cons (by decide) (by decide) _), skip_cons (by decide)]
    simp only
    rw [hm fuel rest (by omega)]
    rfl

/-- A call is a word with arguments in brackets right behind it. -/
theorem reads_call {f w : List Char} {ts : List Term} (hf : IsWord f) (h : ReadsArguments w ts) :
    Reads (f ++ '(' :: w) (.call f ts) := by
  intro fuel rest hl _
  have pos : 0 < f.length := List.length_pos_iff.2 hf.1
  rw [List.length_append, List.length_cons] at hl
  cases fuel with
  | zero => omega
  | succ fuel =>
    rw [List.append_assoc, List.cons_append, readTerm_word hf fuel
      (Text.head?_cons_of (by decide) _)]
    simp only
    rw [h fuel rest (by omega)]
    rfl

/-- What is read as a term in front of other text is read as that term alone. -/
theorem Reads.read? {w : List Char} {t : Term} (h : Reads w t) : Term.read? w = some t := by
  have read := h w.length [] (Nat.le_refl _) (by intro c hc; simp at hc)
  rw [List.append_nil] at read
  rw [Term.read?, read]
  rfl

end DesignCode.Script
