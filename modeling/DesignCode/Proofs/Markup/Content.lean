import DesignCode.Proofs.Script.Term
import Mathlib.Data.List.Forall2

/-!
# Reading markup

A `Content` is what stands between two tags: a text or an element.  `Content.read?` reads a text as one
element.  An attribute has its value in double quotes or a term in braces; a text between tags is
written as it is, or as a string literal in braces.  Space with an end of a line in it separates
elements and is no text.  `ReadsElement` and `ReadsContents` say that a piece of markup is read as
something wherever it stands.
-/

namespace DesignCode.Markup

open Script (Term readTerm skip isSpace)

/-- What stands between two tags. -/
inductive Content where
  | text (cs : List Char)
  /-- An element; the value of an attribute in quotes counts as a string literal. -/
  | element (tag : List Char) (attributes : List (List Char × Term)) (contents : List Content)

/-! ### The reader -/

/-- A name of a character, which stands in a text behind `&`. -/
structure Entity where
  name : List Char
  char : Char

/-- The entities of a text between tags. -/
def textEntities : List Entity :=
  [⟨['a', 'm', 'p', ';'], '&'⟩, ⟨['l', 't', ';'], '<'⟩, ⟨['g', 't', ';'], '>'⟩,
    ⟨['#', '1', '2', '3', ';'], '\x7b'⟩, ⟨['#', '1', '2', '5', ';'], '\x7d'⟩]

/-- The entities of markup: a value between quotes has one for the quote. -/
def entities : List Entity := textEntities ++ [⟨['q', 'u', 'o', 't', ';'], '"'⟩]

/-- Replaces the entities of a table behind the first `k` characters, which are the name of an entity
that has been replaced. -/
def decodeBehind (table : List Entity) : Nat → List Char → List Char
  | _, [] => []
  | k + 1, _ :: rest => decodeBehind table k rest
  | 0, c :: rest =>
    match if c = '&' then table.find? (·.name.isPrefixOf rest) else none with
    | some e => e.char :: decodeBehind table e.name.length rest
    | none => c :: decodeBehind table 0 rest

/-- Replaces the entities of a table by the characters that they stand for. -/
def decode (table : List Entity) (cs : List Char) : List Char := decodeBehind table 0 cs

/-- Whether the character may stand in the name of a tag or of an attribute. -/
def isNameChar (c : Char) : Bool := c.isAlphanum ∨ c = '-'

/-- Whether the character may stand in a value between double quotes. -/
def isQuotable (c : Char) : Bool := c ≠ '"'

/-- Whether the character begins neither a tag nor a term in braces. -/
def isPlain (c : Char) : Bool := c ≠ '<' ∧ c ≠ '\x7b'

/-- Reads an attribute behind spaces. -/
def readAttribute (fuel : Nat) (cs : List Char) : Option ((List Char × Term) × List Char) :=
  let cs := skip cs
  if cs.takeWhile isNameChar = [] then none
  else match cs.dropWhile isNameChar with
    | '=' :: '"' :: rest =>
      match rest.dropWhile isQuotable with
      | '"' :: after =>
        some ((cs.takeWhile isNameChar, .text (decode entities (rest.takeWhile isQuotable))), after)
      | _ => none
    | '=' :: '\x7b' :: rest =>
      match readTerm fuel rest with
      | some (t, rest) =>
        match skip rest with
        | '\x7d' :: after => some ((cs.takeWhile isNameChar, t), after)
        | _ => none
      | none => none
    | _ => none

/-- Reads the attributes of a tag. -/
def readAttributes : Nat → List Char → Option (List (List Char × Term) × List Char)
  | 0, _ => none
  | fuel + 1, cs =>
    match readAttribute fuel cs with
    | some (a, rest) => (readAttributes fuel rest).map fun r => (a :: r.1, r.2)
    | none => some ([], cs)

/-- The text that stands between two tags or terms: space over the end of a line is none. -/
def plainText? (cs : List Char) : Option (List Content) :=
  if cs = [] then some []
  else if cs.any endsLine then if cs.all isSpace then some [] else none
  else if cs.any (fun c => c = '>' ∨ c = '\x7d') then none
  else some [.text (decode entities cs)]

mutual

/-- Reads an element. -/
def readElement : Nat → List Char → Option (Content × List Char)
  | 0, _ => none
  | fuel + 1, cs =>
    match cs with
    | '<' :: cs =>
      if cs.takeWhile isNameChar = [] then none
      else match readAttributes fuel (cs.dropWhile isNameChar) with
        | some (attributes, rest) =>
          match skip rest with
          | '/' :: '>' :: after => some (.element (cs.takeWhile isNameChar) attributes [], after)
          | '>' :: rest =>
            match readContents fuel rest with
            | some (contents, rest) =>
              if (cs.takeWhile isNameChar ++ ['>']).isPrefixOf rest then
                some (.element (cs.takeWhile isNameChar) attributes contents,
                  rest.drop (cs.takeWhile isNameChar ++ ['>']).length)
              else none
            | none => none
          | _ => none
        | none => none
    | _ => none

/-- Reads what stands between two tags, and the bracket and the slash of the second tag. -/
def readContents : Nat → List Char → Option (List Content × List Char)
  | 0, _ => none
  | fuel + 1, cs =>
    match plainText? (cs.takeWhile isPlain) with
    | some texts =>
      match cs.dropWhile isPlain with
      | '<' :: '/' :: rest => some (texts, rest)
      | '\x7b' :: rest =>
        match readTerm fuel rest with
        | some (.text s, rest) =>
          match skip rest with
          | '\x7d' :: rest => (readContents fuel rest).map fun r => (texts ++ .text s :: r.1, r.2)
          | _ => none
        | _ => none
      | rest =>
        match readElement fuel rest with
        | some (e, rest) => (readContents fuel rest).map fun r => (texts ++ e :: r.1, r.2)
        | none => none
    | none => none

end

/-- Reads a whole text as one element with spaces around it. -/
def Content.read? (cs : List Char) : Option Content :=
  match readElement cs.length (skip cs) with
  | some (e, rest) => if skip rest = [] then some e else none
  | none => none

/-! ### Entities -/

section

variable {table : List Entity}

theorem decode_cons {c : Char} (h : c ≠ '&') (rest : List Char) :
    decode table (c :: rest) = c :: decode table rest := by
  rw [decode, decodeBehind, if_neg h]
  rfl

/-- What is written character by character is read back if each character is. -/
theorem decode_flatMap {f : Char → List Char}
    (h : ∀ c rest, decode table (f c ++ rest) = c :: decode table rest) (cs : List Char) :
    decode table (cs.flatMap f) = cs := by
  induction cs with
  | nil => rfl
  | cons c cs ih => rw [List.flatMap_cons, h, ih]

theorem decode_escapedChar (texts : textEntities <+: table) (c : Char) (rest : List Char) :
    decode table (escapedChar c ++ rest) = c :: decode table rest := by
  obtain ⟨more, rfl⟩ := texts
  unfold escapedChar
  split_ifs with ampersand less greater opening closing
  · subst ampersand; rfl
  · subst less; rfl
  · subst greater; rfl
  · subst opening; rfl
  · subst closing; rfl
  · exact decode_cons ampersand rest

/-- A text between tags is read back by every table that begins with the entities of texts. -/
theorem decode_escape (texts : textEntities <+: table) (cs : List Char) :
    decode table (escape cs) = cs :=
  decode_flatMap (decode_escapedChar texts) cs

end

theorem textEntities_prefix : textEntities <+: entities := List.prefix_append _ _

theorem decode_attributeChar (c : Char) (rest : List Char) :
    decode entities (attributeChar c ++ rest) = c :: decode entities rest := by
  unfold attributeChar
  split_ifs with ampersand quote less greater
  · subst ampersand; rfl
  · subst quote; rfl
  · subst less; rfl
  · subst greater; rfl
  · exact decode_cons ampersand rest

theorem decode_attributeText (cs : List Char) : decode entities (attributeText cs) = cs :=
  decode_flatMap decode_attributeChar cs

/-- Whether an entity may hold the character. -/
def isEntityChar (c : Char) : Bool := c.isAlphanum ∨ c = '&' ∨ c = ';' ∨ c = '#'

theorem ne_of_isEntityChar {c d : Char} (h : isEntityChar c = true) (hd : isEntityChar d = false) :
    c ≠ d := by
  rintro rfl
  exact absurd (h.symm.trans hd) (by decide)

open scoped Text.ByMember in
theorem mem_attributeChar {c d : Char} (h : d ∈ attributeChar c) :
    isEntityChar d = true ∨ d = c ∧ c ≠ '"' := by
  unfold attributeChar at h
  split_ifs at h with ampersand quote less greater
  · exact .inl ((by decide : ∀ d ∈ ['&', 'a', 'm', 'p', ';'], isEntityChar d = true) d h)
  · exact .inl ((by decide : ∀ d ∈ ['&', 'q', 'u', 'o', 't', ';'], isEntityChar d = true) d h)
  · exact .inl ((by decide : ∀ d ∈ ['&', 'l', 't', ';'], isEntityChar d = true) d h)
  · exact .inl ((by decide : ∀ d ∈ ['&', 'g', 't', ';'], isEntityChar d = true) d h)
  · exact .inr ⟨List.mem_singleton.1 h, quote⟩

open scoped Text.ByMember in
theorem mem_escapedChar {c d : Char} (h : d ∈ escapedChar c) :
    isEntityChar d = true ∨ d = c ∧ c ≠ '<' ∧ c ≠ '>' ∧ c ≠ '\x7b' ∧ c ≠ '\x7d' := by
  unfold escapedChar at h
  split_ifs at h with ampersand less greater opening closing
  · exact .inl ((by decide : ∀ d ∈ ['&', 'a', 'm', 'p', ';'], isEntityChar d = true) d h)
  · exact .inl ((by decide : ∀ d ∈ ['&', 'l', 't', ';'], isEntityChar d = true) d h)
  · exact .inl ((by decide : ∀ d ∈ ['&', 'g', 't', ';'], isEntityChar d = true) d h)
  · exact .inl ((by decide : ∀ d ∈ ['&', '#', '1', '2', '3', ';'], isEntityChar d = true) d h)
  · exact .inl ((by decide : ∀ d ∈ ['&', '#', '1', '2', '5', ';'], isEntityChar d = true) d h)
  · exact .inr ⟨List.mem_singleton.1 h, less, greater, opening, closing⟩

/-- An attribute text holds no quote, so that the first quote ends it. -/
theorem isQuotable_of_mem_attributeText {cs : List Char} :
    ∀ c ∈ attributeText cs, isQuotable c = true := by
  intro c hc
  obtain ⟨d, -, hd⟩ := List.mem_flatMap.1 hc
  rcases mem_attributeChar hd with entity | ⟨rfl, quote⟩
  · simpa [isQuotable] using ne_of_isEntityChar entity (d := '"') (by decide)
  · simpa [isQuotable] using quote

/-- A text between tags holds nothing that could begin or end a tag or a term. -/
theorem isPlain_of_mem_escape {cs : List Char} :
    ∀ c ∈ escape cs, isPlain c = true ∧ c ≠ '>' ∧ c ≠ '\x7d' := by
  intro c hc
  obtain ⟨d, -, hd⟩ := List.mem_flatMap.1 hc
  rcases mem_escapedChar hd with entity | ⟨rfl, less, greater, opening, closing⟩
  · have ne (d : Char) (h : isEntityChar d = false) : c ≠ d := ne_of_isEntityChar entity h
    simp [isPlain, ne '<' (by decide), ne '\x7b' (by decide), ne '>' (by decide),
      ne '\x7d' (by decide)]
  · simp [isPlain, less, greater, opening, closing]

/-- Escaping brings no end of a line into a text. -/
theorem endsLine_escape {cs : List Char} (h : ∀ c ∈ cs, endsLine c = false) :
    ∀ c ∈ escape cs, endsLine c = false := by
  intro c hc
  obtain ⟨d, hcs, hd⟩ := List.mem_flatMap.1 hc
  rcases mem_escapedChar hd with entity | ⟨rfl, -⟩
  · have ne (d : Char) (h : isEntityChar d = false) : c ≠ d := ne_of_isEntityChar entity h
    simp [endsLine, ne '\n' (by decide), ne '\r' (by decide), ne '\u2028' (by decide),
      ne '\u2029' (by decide)]
  · exact h c hcs

/-! ### Attributes -/

/-- A name is a text of name characters, and not the empty one. -/
def IsName (w : List Char) : Prop := w ≠ [] ∧ ∀ c ∈ w, isNameChar c = true

open scoped Text.ByMember in
instance (w : List Char) : Decidable (IsName w) := inferInstanceAs (Decidable (_ ∧ _))

theorem isSpace_of_isNameChar {c : Char} (h : isNameChar c = true) : isSpace c = false := by
  refine Script.isSpace_of_isWordChar ?_
  simp only [isNameChar, Char.isAlphanum, Bool.or_eq_true, decide_eq_true_eq] at h
  rcases h with (alpha | digit) | rfl
  · simp [Script.isWordChar, Script.startsIdentifier, alpha]
  · simp [Script.isWordChar, digit]
  · decide

theorem skip_name {w : List Char} (h : IsName w) (rest : List Char) :
    skip (w ++ rest) = w ++ rest := by
  obtain ⟨ne, h⟩ := h
  cases w with
  | nil => exact absurd rfl ne
  | cons c w => exact Script.skip_cons (isSpace_of_isNameChar (h c List.mem_cons_self)) _

/-- The piece of a tag `w` begins with a space and is read as the attribute `a` wherever it stands. -/
def ReadsAttribute (w : List Char) (a : List Char × Term) : Prop :=
  w.head? = some ' ' ∧
    ∀ fuel rest, w.length ≤ fuel → readAttribute fuel (w ++ rest) = some (a, rest)

theorem readsAttribute_quoted {name : String} (h : IsName name.toList) (value : List Char) :
    ReadsAttribute (' ' :: attr name value) (name.toList, .text value) := by
  refine ⟨rfl, ?_⟩
  intro fuel rest _
  obtain ⟨take, drop⟩ := Text.cut_append h.2 ('=' :: '"' :: (attributeText value ++ '"' :: rest))
    (Text.head?_cons_of (by decide) _)
  obtain ⟨takeValue, dropValue⟩ := Text.cut_append
    (@isQuotable_of_mem_attributeText value) ('"' :: rest) (Text.head?_cons_of (by decide) rest)
  have written : ' ' :: attr name value ++ rest =
      ' ' :: (name.toList ++ '=' :: '"' :: (attributeText value ++ '"' :: rest)) := by
    simp [attr]
  rw [written, readAttribute, Script.skip_space (by decide), skip_name h]
  simp only [take, if_neg h.1, drop, takeValue, dropValue, decode_attributeText]

theorem readsAttribute_braces {name w : List Char} {t : Term} (h : IsName name)
    (hw : Script.Reads w t) :
    ReadsAttribute (' ' :: (name ++ '=' :: '\x7b' :: (w ++ ['\x7d']))) (name, t) := by
  refine ⟨rfl, ?_⟩
  intro fuel rest hf
  obtain ⟨take, drop⟩ := Text.cut_append h.2 ('=' :: '\x7b' :: (w ++ '\x7d' :: rest))
    (Text.head?_cons_of (by decide) _)
  have written : ' ' :: (name ++ '=' :: '\x7b' :: (w ++ ['\x7d'])) ++ rest =
      ' ' :: (name ++ '=' :: '\x7b' :: (w ++ '\x7d' :: rest)) := by
    simp
  have read : readTerm fuel (w ++ '\x7d' :: rest) = some (t, '\x7d' :: rest) :=
    hw fuel _ (by simp at hf; omega) (Script.stops_cons (by decide) (by decide) _)
  rw [written, readAttribute, Script.skip_space (by decide), skip_name h]
  simp only [take, if_neg h.1, drop, read, Script.skip_cons (c := '\x7d') (by decide)]

theorem readAttributes_append {ws : List (List Char)} {as : List (List Char × Term)}
    (h : List.Forall₂ ReadsAttribute ws as) {fuel : Nat} (hf : ws.flatten.length < fuel)
    {rest : List Char} (hr : ∀ c ∈ (skip rest).head?, isNameChar c = false) :
    readAttributes fuel (ws.flatten ++ rest) = some (as, rest) := by
  induction h generalizing fuel with
  | nil =>
    cases fuel with
    | zero => omega
    | succ fuel =>
      have none : readAttribute fuel rest = none := by
        have take : (skip rest).takeWhile isNameChar = [] :=
          (Text.cut_append (w := []) (by simp) (skip rest) hr).1
        rw [readAttribute, if_pos take]
      rw [List.flatten_nil, List.nil_append, readAttributes, none]
  | @cons w a ws as hw _ ih =>
    rw [List.flatten_cons, List.length_append] at hf
    have pos : 0 < w.length := by
      rw [List.length_pos_iff]
      rintro rfl
      exact absurd hw.1 (by simp)
    cases fuel with
    | zero => omega
    | succ fuel =>
      rw [List.flatten_cons, List.append_assoc, readAttributes, hw.2 fuel _ (by omega)]
      simp only
      rw [ih (by omega)]
      rfl

/-! ### Pieces of markup -/

/-- The piece of markup `w` is read as the element `c` wherever it stands. -/
def ReadsElement (w : List Char) (c : Content) : Prop :=
  (∃ a r, w = '<' :: a :: r ∧ a ≠ '/') ∧
    ∀ fuel rest, w.length ≤ fuel → readElement fuel (w ++ rest) = some (c, rest)

/-- The piece of markup `w` is read as the contents `cs` in front of every closing tag. -/
def ReadsContents (w : List Char) (cs : List Content) : Prop :=
  ∀ fuel rest, w.length < fuel → readContents fuel (w ++ '<' :: '/' :: rest) = some (cs, rest)

theorem tag_head {tag : List Char} (h : IsName tag) (r : List Char) :
    ∃ a r', '<' :: (tag ++ r) = '<' :: a :: r' ∧ a ≠ '/' := by
  obtain ⟨ne, h⟩ := h
  cases tag with
  | nil => exact absurd rfl ne
  | cons a tag =>
    refine ⟨a, tag ++ r, rfl, ?_⟩
    rintro rfl
    exact absurd (h '/' List.mem_cons_self) (by decide)

/-- The name of a tag ends where its attributes begin. -/
theorem attributes_head {ws : List (List Char)} {as : List (List Char × Term)}
    (h : List.Forall₂ ReadsAttribute ws as) {rest : List Char}
    (hr : ∀ c ∈ rest.head?, isNameChar c = false) :
    ∀ c ∈ (ws.flatten ++ rest).head?, isNameChar c = false := by
  cases h with
  | nil => exact hr
  | @cons w a ws as hw _ =>
    intro c hc
    rw [List.flatten_cons, List.append_assoc, List.head?_append, hw.1] at hc
    obtain rfl : ' ' = c := by simpa using hc
    decide

/-- Spaces and a slash are part of no name. -/
theorem slash_head {spaces : List Char} (hs : ∀ c ∈ spaces, isSpace c = true) (rest : List Char) :
    ∀ c ∈ (spaces ++ '/' :: rest).head?, isNameChar c = false := by
  cases spaces with
  | nil => exact Text.head?_cons_of (by decide) _
  | cons c spaces =>
    refine Text.head?_cons_of ?_ _
    by_contra hc
    have space := hs c List.mem_cons_self
    rw [isSpace_of_isNameChar (by simpa using hc)] at space
    exact absurd space (by decide)

section Tags

variable {tag : List Char} {ws : List (List Char)} {as : List (List Char × Term)}

/-- A tag with its attributes is read up to where they end. -/
theorem readElement_tag (ht : IsName tag) (ha : List.Forall₂ ReadsAttribute ws as) {fuel : Nat}
    (hf : ws.flatten.length < fuel) {rest : List Char}
    (head : ∀ c ∈ rest.head?, isNameChar c = false)
    (stop : ∀ c ∈ (skip rest).head?, isNameChar c = false) :
    readElement (fuel + 1) ('<' :: (tag ++ (ws.flatten ++ rest))) =
      match skip rest with
      | '/' :: '>' :: after => some (.element tag as [], after)
      | '>' :: rest =>
        match readContents fuel rest with
        | some (contents, rest) =>
          if (tag ++ ['>']).isPrefixOf rest then
            some (.element tag as contents, rest.drop (tag ++ ['>']).length)
          else none
        | none => none
      | _ => none := by
  obtain ⟨take, drop⟩ := Text.cut_append ht.2 (ws.flatten ++ rest) (attributes_head ha head)
  rw [readElement]
  simp only [take, drop, if_neg ht.1, readAttributes_append ha hf stop]

/-- A tag that closes itself is an element without contents. -/
theorem readsElement_closed (ht : IsName tag) (ha : List.Forall₂ ReadsAttribute ws as)
    {spaces : List Char} (hs : ∀ c ∈ spaces, isSpace c = true) :
    ReadsElement ('<' :: (tag ++ (ws.flatten ++ (spaces ++ ['/', '>'])))) (.element tag as []) := by
  refine ⟨tag_head ht _, ?_⟩
  intro fuel rest hf
  have skipped : skip (spaces ++ '/' :: '>' :: rest) = '/' :: '>' :: rest := by
    rw [Script.skip_append hs, Script.skip_cons (by decide)]
  have written : '<' :: (tag ++ (ws.flatten ++ (spaces ++ ['/', '>']))) ++ rest =
      '<' :: (tag ++ (ws.flatten ++ (spaces ++ '/' :: '>' :: rest))) := by
    simp
  rw [List.length_cons, List.length_append, List.length_append, List.length_append] at hf
  simp only [List.length_cons, List.length_nil] at hf
  cases fuel with
  | zero => omega
  | succ fuel =>
    rw [written, readElement_tag ht ha (by omega) (slash_head hs _)
      (by rw [skipped]; exact Text.head?_cons_of (by decide) _), skipped]
    rfl

/-- Contents between two tags of one name are those of an element. -/
theorem readsElement_contents (ht : IsName tag) (ha : List.Forall₂ ReadsAttribute ws as)
    {w : List Char} {cs : List Content} (hw : ReadsContents w cs) :
    ReadsElement ('<' :: (tag ++ (ws.flatten ++ '>' :: (w ++ '<' :: '/' :: (tag ++ ['>'])))))
      (.element tag as cs) := by
  refine ⟨tag_head ht _, ?_⟩
  intro fuel rest hf
  have written : '<' :: (tag ++ (ws.flatten ++ '>' :: (w ++ '<' :: '/' :: (tag ++ ['>'])))) ++ rest =
      '<' :: (tag ++ (ws.flatten ++ '>' :: (w ++ '<' :: '/' :: (tag ++ '>' :: rest)))) := by
    simp
  have bracket (r : List Char) : ∀ c ∈ ('>' :: r).head?, isNameChar c = false :=
    Text.head?_cons_of (by decide) r
  have skipped (r : List Char) : skip ('>' :: r) = '>' :: r := Script.skip_cons (by decide) r
  have closing : (tag ++ ['>']).isPrefixOf (tag ++ '>' :: rest) = true := by
    rw [List.isPrefixOf_iff_prefix]
    exact ⟨rest, by simp⟩
  have after : (tag ++ '>' :: rest).drop (tag ++ ['>']).length = rest := by
    rw [show tag ++ '>' :: rest = (tag ++ ['>']) ++ rest by simp, List.drop_left]
  rw [List.length_cons, List.length_append, List.length_append, List.length_cons,
    List.length_append] at hf
  cases fuel with
  | zero => omega
  | succ fuel =>
    rw [written, readElement_tag ht ha (by omega) (bracket _) (by rw [skipped]; exact bracket _),
      skipped]
    simp only [hw fuel _ (by omega), closing, if_true, after]

end Tags

/-! ### Contents -/

/-- Nothing, or spaces over the end of a line: what separates elements and is no text. -/
def IsSeparator (w : List Char) : Prop :=
  (∀ c ∈ w, isSpace c = true) ∧ (w ≠ [] → ∃ c ∈ w, endsLine c = true)

theorem isSeparator_nil : IsSeparator [] := ⟨by simp, by simp⟩

theorem plainText?_separator {w : List Char} (h : IsSeparator w) : plainText? w = some [] := by
  unfold plainText?
  split_ifs with empty breaks spaces
  · rfl
  · rfl
  · exact absurd (List.all_eq_true.2 h.1) spaces
  all_goals exact absurd (List.any_eq_true.2 (h.2 empty)) breaks

/-- A separator is cut off in front of a tag. -/
theorem separator_cut {w : List Char} (h : IsSeparator w) (rest : List Char) :
    (w ++ '<' :: rest).takeWhile isPlain = w ∧ (w ++ '<' :: rest).dropWhile isPlain = '<' :: rest := by
  refine Text.cut_append ?_ _ (Text.head?_cons_of (by decide) rest)
  intro c hc
  have space := h.1 c hc
  by_contra plain
  have bracket : c = '<' ∨ c = '\x7b' := by
    by_contra none
    simp only [isPlain, not_or] at none plain
    simp [none] at plain
  rcases bracket with rfl | rfl <;> exact absurd space (by decide)

theorem readsContents_separator {w : List Char} (h : IsSeparator w) : ReadsContents w [] := by
  intro fuel rest hf
  obtain ⟨take, drop⟩ := separator_cut h ('/' :: rest)
  cases fuel with
  | zero => omega
  | succ fuel => simp only [readContents, take, drop, plainText?_separator h]

/-- An element behind a separator comes before the contents behind it. -/
theorem readsContents_element {spaces w ws : List Char} (h : IsSeparator spaces) {c : Content}
    (hw : ReadsElement w c) {cs : List Content} (hs : ReadsContents ws cs) :
    ReadsContents (spaces ++ (w ++ ws)) (c :: cs) := by
  intro fuel rest hf
  obtain ⟨⟨a, r, rfl, slash⟩, read⟩ := hw
  have written : spaces ++ ('<' :: a :: r ++ ws) ++ '<' :: '/' :: rest =
      spaces ++ '<' :: (a :: r ++ (ws ++ '<' :: '/' :: rest)) := by
    simp
  obtain ⟨take, drop⟩ := separator_cut h (a :: r ++ (ws ++ '<' :: '/' :: rest))
  rw [List.length_append, List.length_append, List.length_cons] at hf
  cases fuel with
  | zero => omega
  | succ fuel =>
    have element : readElement fuel ('<' :: (a :: r ++ (ws ++ '<' :: '/' :: rest))) =
        some (c, ws ++ '<' :: '/' :: rest) := read fuel _ (by rw [List.length_cons]; omega)
    rw [written, readContents]
    simp only [take, drop, plainText?_separator h]
    split
    · next e => exact absurd (List.cons.inj (List.cons.inj e).2).1 slash
    · next e => exact absurd (List.cons.inj e).1 (by decide)
    · rw [element]
      simp only [hs fuel rest (by omega)]
      rfl

/-- What a text between two tags is read as: an empty one is nothing. -/
def textContents (cs : List Char) : List Content := if cs = [] then [] else [.text cs]

theorem escape_ne_nil {cs : List Char} (h : cs ≠ []) : escape cs ≠ [] := by
  intro e
  have decoded := decode_escape textEntities_prefix cs
  rw [e] at decoded
  exact h decoded.symm

theorem any_closing_escape (cs : List Char) :
    (escape cs).any (fun c => c = '>' ∨ c = '\x7d') = false := by
  rw [List.any_eq_false]
  intro c hc
  obtain ⟨-, greater, closing⟩ := isPlain_of_mem_escape c hc
  simp [greater, closing]

/-- An escaped text is read as the text if it has one line. -/
theorem plainText?_escape {cs : List Char} (h : ∀ c ∈ cs, endsLine c = false) :
    plainText? (escape cs) = some (textContents cs) := by
  unfold textContents
  split_ifs with empty
  · subst empty
    rfl
  · have breaks : (escape cs).any endsLine = false := by
      rw [List.any_eq_false]
      intro c hc
      simp [endsLine_escape h c hc]
    rw [plainText?, if_neg (escape_ne_nil empty), if_neg (by simp [breaks]),
      if_neg (by rw [any_closing_escape]; simp), decode_escape textEntities_prefix]

/-- A literal in braces as the only content of an element. -/
theorem readsContents_literal (cs : List Char) :
    ReadsContents ('\x7b' :: Script.literal cs ++ ['\x7d']) [.text cs] := by
  intro fuel rest hf
  obtain ⟨take, drop⟩ := Text.cut_append (p := isPlain) (w := []) (by simp)
    ('\x7b' :: (Script.literal cs ++ '\x7d' :: '<' :: '/' :: rest))
    (Text.head?_cons_of (by decide) _)
  have written : '\x7b' :: Script.literal cs ++ ['\x7d'] ++ '<' :: '/' :: rest =
      [] ++ '\x7b' :: (Script.literal cs ++ '\x7d' :: '<' :: '/' :: rest) := by
    simp
  rw [List.length_append, List.length_cons, List.length_singleton] at hf
  cases fuel with
  | zero => omega
  | succ fuel =>
    have literal : readTerm fuel (Script.literal cs ++ '\x7d' :: '<' :: '/' :: rest) =
        some (.text cs, '\x7d' :: '<' :: '/' :: rest) :=
      Script.reads_literal cs fuel _ (by omega) (Script.stops_cons (by decide) (by decide) _)
    have ends : readContents fuel ('<' :: '/' :: rest) = some ([], rest) :=
      readsContents_separator isSeparator_nil fuel rest (by rw [List.length_nil]; omega)
    rw [written, readContents]
    simp only [take, drop, plainText?_separator isSeparator_nil, literal,
      Script.skip_cons (c := '\x7d') (by decide), ends]
    rfl

theorem readsContents_escape {cs : List Char} (h : ∀ c ∈ cs, endsLine c = false) :
    ReadsContents (escape cs) (textContents cs) := by
  intro fuel rest hf
  have plain : ∀ c ∈ escape cs, isPlain c = true := fun c hc => (isPlain_of_mem_escape c hc).1
  obtain ⟨take, drop⟩ := Text.cut_append plain ('<' :: '/' :: rest)
    (Text.head?_cons_of (by decide) _)
  cases fuel with
  | zero => omega
  | succ fuel => simp only [readContents, take, drop, plainText?_escape h]

/-- A text as the only content of an element is read back, whatever its characters are. -/
theorem readsContents_childText (cs : List Char) : ReadsContents (childText cs) (textContents cs) := by
  unfold childText
  split_ifs with breaks
  · have nonempty : cs ≠ [] := by
      rintro rfl
      exact absurd breaks (by decide)
    rw [textContents, if_neg nonempty]
    exact readsContents_literal cs
  · exact readsContents_escape (by simpa using breaks)

/-- What is read as an element is read as that element with spaces in front of it. -/
theorem ReadsElement.read? {w : List Char} {c : Content} (h : ReadsElement w c) {spaces : List Char}
    (hs : ∀ c ∈ spaces, isSpace c = true) : Content.read? (spaces ++ w) = some c := by
  obtain ⟨⟨a, r, rfl, -⟩, read⟩ := h
  have element := read (spaces ++ '<' :: a :: r).length [] (by simp)
  rw [List.append_nil] at element
  rw [Content.read?, Script.skip_append hs, Script.skip_cons (by decide), element]
  rfl

end DesignCode.Markup
