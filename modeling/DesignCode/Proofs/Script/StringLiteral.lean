import Mathlib.Data.List.DropRight
import DesignCode.Proofs.Script.StyleObject

/-!
# String literals

The reader takes what the grammar of string literals has, and nothing else (`readInside_eq_some_iff`).  In the
grammar every quote inside a literal is escaped, that is, it has an odd number of backslashes before it
(`opensEscape_before_quote`), so that the literal of a text is ended by its own quote, whatever the text is and
whatever follows the literal (`literal_denotes`).
-/

namespace DesignCode.Script

open Markup (endsLine)

/-! ### What the reader takes -/

theorem spells_letter {c x : Char} (h : letterEscape? c = some x) : Spells ['\\', c] x := by
  unfold letterEscape? at h
  split_ifs at h with lineFeed carriageReturn itself
  · obtain rfl := Option.some.inj h
    exact lineFeed ▸ .lineFeed
  · obtain rfl := Option.some.inj h
    exact carriageReturn ▸ .carriageReturn
  · obtain rfl := Option.some.inj h
    rcases itself with rfl | rfl
    · exact .backslash
    · exact .quote

/-- A spelling in front of a text of the grammar makes a longer one. -/
theorem exists_denotes_of_spells {w : List Char} {c : Char} (first : Spells w c)
    {input cs rest : List Char}
    (others : ∀ {cs rest : List Char}, readInside input = some (cs, rest) →
      ∃ ws, input = ws ++ '\x27' :: rest ∧ Denotes ws cs)
    (read : (readInside input).map (fun r => (c :: r.1, r.2)) = some (cs, rest)) :
    ∃ ws, w ++ input = ws ++ '\x27' :: rest ∧ Denotes ws cs := by
  obtain ⟨⟨cs', rest'⟩, behind, same⟩ := Option.map_eq_some_iff.1 read
  obtain ⟨rfl, rfl⟩ := Prod.mk.inj same
  obtain ⟨ws, rfl, denotes⟩ := others behind
  exact ⟨w ++ ws, (List.append_assoc w ws _).symm, .cons first denotes⟩

theorem exists_denotes_of_readInside {input cs rest : List Char}
    (h : readInside input = some (cs, rest)) : ∃ w, input = w ++ '\x27' :: rest ∧ Denotes w cs := by
  fun_induction readInside input generalizing cs rest with
  | case1 => cases h
  | case2 rest' =>
    obtain ⟨rfl, rfl⟩ := Prod.mk.inj (Option.some.inj h)
    exact ⟨[], rfl, .nil⟩
  | case3 a b c d rest' ih =>
    obtain ⟨x, value, read⟩ := Option.bind_eq_some_iff.1 h
    exact exists_denotes_of_spells (.number value) ih read
  | case4 c rest' _ ih =>
    obtain ⟨x, letter, read⟩ := Option.bind_eq_some_iff.1 h
    exact exists_denotes_of_spells (spells_letter letter) ih read
  | case5 => cases h
  | case6 c rest' quote _ escape line ih =>
    by_cases backslash : c = '\\'
    · -- a backslash that nothing follows is not read
      cases rest' with
      | nil => cases h
      | cons d rest' => exact (escape d rest' backslash rfl).elim
    · exact exists_denotes_of_spells (.plain quote backslash (Bool.eq_false_iff.2 line)) ih h

/-- The reader takes off what the grammar has up to a quote, and nothing else. -/
theorem readInside_eq_some_iff {input cs rest : List Char} :
    readInside input = some (cs, rest) ↔ ∃ w, input = w ++ '\x27' :: rest ∧ Denotes w cs := by
  refine ⟨exists_denotes_of_readInside, ?_⟩
  rintro ⟨w, rfl, denotes⟩
  exact readInside_of_denotes denotes rest

/-! ### Escaped characters -/

/-- Whether the character behind the text is escaped: the run of backslashes at its end is odd. -/
def opensEscape (cs : List Char) : Bool := (cs.rtakeWhile (· = '\\')).length % 2 = 1

theorem opensEscape_concat (cs : List Char) (c : Char) :
    opensEscape (cs ++ [c]) = (decide (c = '\\') && !opensEscape cs) := by
  unfold opensEscape
  by_cases backslash : c = '\\'
  · rw [List.rtakeWhile_concat_pos _ _ _ (by simpa using backslash), List.length_append,
      List.length_singleton, decide_eq_true backslash, Bool.true_and, ← decide_not, decide_eq_decide]
    omega
  · rw [List.rtakeWhile_concat_neg _ _ _ (by simpa using backslash), decide_eq_false backslash]
    rfl

/-- A text that does not escape what follows it makes no difference in front of another. -/
theorem opensEscape_append {cs : List Char} (h : opensEscape cs = false) (ds : List Char) :
    opensEscape (cs ++ ds) = opensEscape ds := by
  induction ds using List.reverseRecOn with
  | nil => rw [List.append_nil, h]; rfl
  | append_singleton ds d ih => rw [← List.append_assoc, opensEscape_concat, opensEscape_concat, ih]

theorem hexValue_of_codeUnit? {a b c d x : Char} (h : codeUnit? a b c d = some x) :
    ∀ e ∈ [a, b, c, d], Json.hexValue e ≠ none := by
  simp only [codeUnit?, Option.bind_eq_bind, Option.bind_eq_some_iff] at h
  obtain ⟨_, ha, _, hb, _, hc, _, hd, -⟩ := h
  simp [ha, hb, hc, hd]

/-- A spelling does not escape what follows it. -/
theorem opensEscape_of_spells {w : List Char} {c : Char} (h : Spells w c) : opensEscape w = false := by
  cases h with
  | plain quote backslash line =>
    rw [← List.nil_append [c], opensEscape_concat, decide_eq_false backslash, Bool.false_and]
  | backslash => rfl
  | quote => rfl
  | lineFeed => rfl
  | carriageReturn => rfl
  | @number a b c d x value =>
    have last : d ≠ '\\' := by
      rintro rfl
      exact hexValue_of_codeUnit? value '\\' (by simp) (by decide)
    have digits := opensEscape_concat ['\\', 'u', a, b, c] d
    rwa [decide_eq_false last, Bool.false_and] at digits

/-- A quote is spelled behind a backslash. -/
theorem opensEscape_of_spells_quote {before after : List Char} {c : Char}
    (h : Spells (before ++ '\x27' :: after) c) : opensEscape before = true := by
  have mem : '\x27' ∈ before ++ '\x27' :: after := by simp
  generalize written : before ++ '\x27' :: after = w at h mem
  cases h with
  | plain quote backslash line => exact absurd (List.mem_singleton.1 mem).symm quote
  | backslash => exact absurd mem (by decide)
  | quote =>
    cases before with
    | nil => exact absurd (List.cons.inj written).1 (by decide)
    | cons b before =>
      obtain ⟨rfl, rest⟩ := List.cons.inj written
      obtain ⟨rfl, -⟩ | ⟨rfl, none⟩ := List.append_eq_singleton_iff.1 rest
      · rfl
      · cases none
  | lineFeed => exact absurd mem (by decide)
  | carriageReturn => exact absurd mem (by decide)
  | number value =>
    refine absurd (hexValue_of_codeUnit? value '\x27' ?_) (by decide)
    simpa using mem

/-- Inside a literal every quote is escaped. -/
theorem opensEscape_before_quote {w cs : List Char} (h : Denotes w cs) {before after : List Char}
    (quote : w = before ++ '\x27' :: after) : opensEscape before = true := by
  induction h generalizing before with
  | nil => simp at quote
  | @cons w ws c cs first others ih =>
    rcases List.append_eq_append_iff.1 quote with ⟨inside, rfl, behind⟩ | ⟨inside, rfl, behind⟩
    · rw [opensEscape_append (opensEscape_of_spells first)]
      exact ih behind
    · cases inside with
      | nil =>
        -- the first spelling ends right before the quote, which then opens the others
        have opens : opensEscape [] = true := ih behind.symm
        exact absurd opens (by decide)
      | cons d inside =>
        obtain ⟨rfl, -⟩ := List.cons.inj behind
        exact opensEscape_of_spells_quote first

/-! ### Literals -/

/-- Takes a string literal off a text, and gives the text that it denotes with what follows it. -/
def readLiteral? : List Char → Option (List Char × List Char)
  | '\x27' :: cs => readInside cs
  | _ => none

/-- The reader of literals takes what the grammar has between two quotes, and nothing else. -/
theorem readLiteral?_eq_some_iff {input text rest : List Char} :
    readLiteral? input = some (text, rest) ↔
      ∃ w, input = '\x27' :: (w ++ '\x27' :: rest) ∧ Denotes w text := by
  constructor
  · intro read
    unfold readLiteral? at read
    split at read
    · next inside =>
      obtain ⟨w, rfl, denotes⟩ := readInside_eq_some_iff.1 read
      exact ⟨w, rfl, denotes⟩
    · cases read
  · rintro ⟨w, rfl, denotes⟩
    exact readInside_eq_some_iff.2 ⟨w, rfl, denotes⟩

theorem literal_append (cs rest : List Char) :
    literal cs ++ rest = '\x27' :: (escape cs ++ '\x27' :: rest) := by
  simp [literal]

theorem readLiteral?_literal (cs rest : List Char) :
    readLiteral? (literal cs ++ rest) = some (cs, rest) :=
  readLiteral?_eq_some_iff.2 ⟨escape cs, literal_append cs rest, denotes_escape cs⟩

/-- A literal is cut off any text at its own closing quote, and at no other. -/
theorem literal_append_eq_iff (cs rest w text rest' : List Char) :
    literal cs ++ rest = '\x27' :: (w ++ '\x27' :: rest') ∧ Denotes w text ↔
      w = escape cs ∧ text = cs ∧ rest' = rest := by
  constructor
  · rintro ⟨same, denotes⟩
    have read := readLiteral?_eq_some_iff.2 ⟨w, same, denotes⟩
    rw [readLiteral?_literal] at read
    obtain ⟨rfl, rfl⟩ := Prod.mk.inj (Option.some.inj read)
    rw [literal_append, List.cons_inj_right] at same
    exact ⟨(List.append_cancel_right same).symm, rfl, rfl⟩
  · rintro ⟨rfl, rfl, rfl⟩
    exact ⟨literal_append _ _, denotes_escape _⟩

/-- The literal of a text, as the reader and the grammar have it. -/
structure LiteralDenotes (cs : List Char) : Prop where
  /-- The reader takes off what the grammar has between two quotes, and nothing else. -/
  reader : ∀ input text rest, readLiteral? input = some (text, rest) ↔
    ∃ w, input = '\x27' :: (w ++ '\x27' :: rest) ∧ Denotes w text
  /-- Whatever follows the literal, it is read up to its own closing quote, and gives the text. -/
  read : ∀ rest, readLiteral? (literal cs ++ rest) = some (cs, rest)
  /-- The grammar does not read it otherwise. -/
  only : ∀ rest w text rest',
    literal cs ++ rest = '\x27' :: (w ++ '\x27' :: rest') ∧ Denotes w text ↔
      w = escape cs ∧ text = cs ∧ rest' = rest
  /-- No character between its quotes ends a line. -/
  oneLine : ∀ c ∈ escape cs, endsLine c = false
  /-- Every quote between its quotes is escaped. -/
  quotes : ∀ before after, escape cs = before ++ '\x27' :: after → opensEscape before = true

/-- The literal of a text denotes that text, whatever the text is and whatever follows the literal. -/
theorem literal_denotes (cs : List Char) : LiteralDenotes cs where
  reader _ _ _ := readLiteral?_eq_some_iff
  read := readLiteral?_literal cs
  only := literal_append_eq_iff cs
  oneLine c mem := endsLine_literal cs c (by simp [literal, mem])
  quotes _ _ quote := opensEscape_before_quote (denotes_escape cs) quote

/-- In the literal of a backslash and a quote the three backslashes before the quote escape it. -/
theorem literal_denotes_backslashQuote :
    (escape ['\\', '\x27'] = ['\\', '\\', '\\'] ++ '\x27' :: [] ∧
        opensEscape ['\\', '\\', '\\'] = true) ∧
      ('n' ∈ escape ['\n'] ∧ endsLine 'n' = false) :=
  ⟨⟨rfl, (literal_denotes ['\\', '\x27']).quotes ['\\', '\\', '\\'] [] rfl⟩,
    by decide, (literal_denotes ['\n']).oneLine 'n' (by decide)⟩

end DesignCode.Script
