import DesignCode.Proofs.Markup.Content

/-!
# Reading markup line by line

A line of markup is a margin and then pieces: tags and texts.  `readPieces` reads them one after the other, whatever
stands on other lines.  A `Nest` is what the pieces so far amount to: the elements that are open and the contents of
the innermost one.  A closing tag must have the name of the innermost open element, and the margin of a line must be
two columns for each element around it (`Nest.readLine?`).
-/

namespace DesignCode.Markup

open Script (Term readTerm skip isSpace)

/-- A tag, or a text between tags. -/
inductive Piece where
  | text (cs : List Char)
  | opening (tag : List Char) (attributes : List (List Char × Term))
  | closing (tag : List Char)
  /-- A tag that closes itself. -/
  | single (tag : List Char) (attributes : List (List Char × Term))

/-! ### The reader -/

/-- Reads a closing tag behind its slash. -/
def readClosing (cs : List Char) : Option (Piece × List Char) :=
  if cs.takeWhile isNameChar = [] then none
  else match cs.dropWhile isNameChar with
    | '>' :: rest => some (.closing (cs.takeWhile isNameChar), rest)
    | _ => none

/-- Reads a tag with attributes behind its bracket. -/
def readOpening (fuel : Nat) (cs : List Char) : Option (Piece × List Char) :=
  if cs.takeWhile isNameChar = [] then none
  else match readAttributes fuel (cs.dropWhile isNameChar) with
    | some (attributes, rest) =>
      match skip rest with
      | '/' :: '>' :: after => some (.single (cs.takeWhile isNameChar) attributes, after)
      | '>' :: after => some (.opening (cs.takeWhile isNameChar) attributes, after)
      | _ => none
    | none => none

/-- Reads a string literal behind the brace in front of it. -/
def readBraces (fuel : Nat) (cs : List Char) : Option (Piece × List Char) :=
  match readTerm fuel cs with
  | some (.text s, rest) =>
    match skip rest with
    | '\x7d' :: after => some (.text s, after)
    | _ => none
  | _ => none

/-- Reads the first piece of what is left of a line. -/
def readPiece (fuel : Nat) : List Char → Option (Piece × List Char)
  | '<' :: '/' :: cs => readClosing cs
  | '<' :: cs => readOpening fuel cs
  | '\x7b' :: cs => readBraces fuel cs
  | cs =>
    if (cs.takeWhile isPlain).any (fun c => c = '>' ∨ c = '\x7d') then none
    else some (.text (decode entities (cs.takeWhile isPlain)), cs.dropWhile isPlain)

/-- Reads the pieces of a line behind its margin. -/
def readPieces : Nat → List Char → Option (List Piece)
  | _, [] => some []
  | 0, _ :: _ => none
  | fuel + 1, c :: cs => do
    let (p, rest) ← readPiece fuel (c :: cs)
    let ps ← readPieces fuel rest
    some (p :: ps)

/-! ### Open elements -/

/-- An open element: its opening tag, and what stands before it in the element around it. -/
structure OpenElement where
  tag : List Char
  attributes : List (List Char × Term)
  before : List Content

/-- What has been read: the open elements, innermost first, and the contents of the innermost so far. -/
structure Nest where
  opened : List OpenElement
  contents : List Content

namespace Nest

/-- With nothing read. -/
def empty : Nest := ⟨[], []⟩

/-- With further contents in the innermost element. -/
def put (s : Nest) (cs : List Content) : Nest := { s with contents := s.contents ++ cs }

/-- Takes in the next piece.  A closing tag closes the innermost element, which must have its name. -/
def step (s : Nest) : Piece → Option Nest
  | .text cs => some (s.put [.text cs])
  | .single tag attributes => some (s.put [.element tag attributes []])
  | .opening tag attributes => some ⟨⟨tag, attributes, s.contents⟩ :: s.opened, []⟩
  | .closing tag =>
    match s.opened with
    | e :: others =>
      if tag = e.tag then
        some ⟨others, e.before ++ [.element e.tag e.attributes s.contents]⟩
      else none
    | [] => none

/-- The number of elements around a line: those that are open, without the one that the line begins by closing. -/
def depthAt (s : Nest) : List Piece → Nat
  | .closing _ :: _ => s.opened.length - 1
  | _ => s.opened.length

/-- Takes in a line with a margin of two columns for each element around it. -/
def readLine? (s : Nest) (line : List Char) : Option Nest := do
  let ps ← readPieces line.length (line.dropWhile (· = ' '))
  if (line.takeWhile (· = ' ')).length = 2 * s.depthAt ps then ps.foldlM step s else none

def readLines? (s : Nest) (lines : List (List Char)) : Option Nest := lines.foldlM readLine? s

@[simp] theorem opened_put (s : Nest) (cs : List Content) : (s.put cs).opened = s.opened := rfl

theorem put_nil (s : Nest) : s.put [] = s := by
  rw [put, List.append_nil]

theorem put_put (s : Nest) (cs ds : List Content) : (s.put cs).put ds = s.put (cs ++ ds) := by
  rw [put, put, put, List.append_assoc]

theorem readLines?_cons (s : Nest) (l : List Char) (ls : List (List Char)) :
    s.readLines? (l :: ls) = (s.readLine? l).bind fun s' => s'.readLines? ls := by
  rw [readLines?, List.foldlM_cons]
  rfl

theorem readLines?_append (s : Nest) (ls ms : List (List Char)) :
    s.readLines? (ls ++ ms) = (s.readLines? ls).bind fun s' => s'.readLines? ms := by
  rw [readLines?, List.foldlM_append]
  rfl

theorem readLines?_singleton (s : Nest) (l : List Char) : s.readLines? [l] = s.readLine? l := by
  rw [readLines?_cons]
  exact Option.bind_fun_some _

end Nest

/-! ### Pieces of a line -/

/-- A line without its margin is read as pieces. -/
def IsReadAs (w : List Char) (ps : List Piece) : Prop :=
  ∀ fuel, w.length ≤ fuel → readPieces fuel w = some ps

theorem isReadAs_nil : IsReadAs [] [] := by
  intro fuel _
  cases fuel <;> rfl

/-- What is read as a piece is the first piece of a line. -/
theorem isReadAs_cons {c : Char} {w rest : List Char} {p : Piece} {ps : List Piece}
    (h : ∀ fuel, w.length ≤ fuel → readPiece fuel (c :: w ++ rest) = some (p, rest))
    (hr : IsReadAs rest ps) : IsReadAs (c :: w ++ rest) (p :: ps) := by
  intro fuel hf
  rw [List.cons_append, List.length_cons, List.length_append] at hf
  cases fuel with
  | zero => omega
  | succ fuel =>
    have first := h fuel (by omega)
    rw [List.cons_append] at first ⊢
    rw [readPieces, first]
    simp only [Option.bind_eq_bind, Option.bind_some, hr fuel (by omega)]

section Tags

variable {tag : List Char} {ws : List (List Char)} {as : List (List Char × Term)}

/-- Behind its bracket, a tag is read up to where its attributes end. -/
theorem readPiece_tag (ht : IsName tag) (ha : List.Forall₂ ReadsAttribute ws as) {fuel : Nat}
    (hf : ws.flatten.length < fuel) {rest : List Char} (head : ∀ c ∈ rest.head?, isNameChar c = false)
    (stop : ∀ c ∈ (skip rest).head?, isNameChar c = false) :
    readPiece fuel ('<' :: (tag ++ (ws.flatten ++ rest))) =
      match skip rest with
      | '/' :: '>' :: after => some (.single tag as, after)
      | '>' :: after => some (.opening tag as, after)
      | _ => none := by
  obtain ⟨take, drop⟩ := Text.cut_append ht.2 (ws.flatten ++ rest) (attributes_head ha head)
  obtain ⟨a, r, written, slash⟩ := tag_head ht (ws.flatten ++ rest)
  have opening : readPiece fuel ('<' :: (tag ++ (ws.flatten ++ rest))) =
      readOpening fuel (tag ++ (ws.flatten ++ rest)) := by
    rw [readPiece]
    rintro cs same
    rw [same] at written
    exact slash (List.cons.inj (List.cons.inj written).2).1.symm
  rw [opening, readOpening]
  simp only [take, drop, if_neg ht.1, readAttributes_append ha hf stop]

theorem isReadAs_opening (ht : IsName tag) (ha : List.Forall₂ ReadsAttribute ws as)
    {rest : List Char} {ps : List Piece} (h : IsReadAs rest ps) :
    IsReadAs ('<' :: (tag ++ (ws.flatten ++ '>' :: rest))) (.opening tag as :: ps) := by
  have written : '<' :: (tag ++ (ws.flatten ++ '>' :: rest)) =
      '<' :: (tag ++ (ws.flatten ++ ['>'])) ++ rest := by simp
  have bracket : ∀ c ∈ ('>' :: rest).head?, isNameChar c = false :=
    Text.head?_cons_of (by decide) rest
  have skipped : skip ('>' :: rest) = '>' :: rest := Script.skip_cons (by decide) rest
  rw [written]
  refine isReadAs_cons ?_ h
  intro fuel hf
  simp only [List.length_append, List.length_singleton] at hf
  have pos : 0 < tag.length := List.length_pos_iff.2 ht.1
  rw [← written, readPiece_tag ht ha (by omega) bracket (by rwa [skipped]), skipped]
  rfl

theorem isReadAs_single (ht : IsName tag) (ha : List.Forall₂ ReadsAttribute ws as) {spaces : List Char}
    (hs : ∀ c ∈ spaces, isSpace c = true) {rest : List Char} {ps : List Piece}
    (h : IsReadAs rest ps) :
    IsReadAs ('<' :: (tag ++ (ws.flatten ++ (spaces ++ '/' :: '>' :: rest)))) (.single tag as :: ps) := by
  have written : '<' :: (tag ++ (ws.flatten ++ (spaces ++ '/' :: '>' :: rest))) =
      '<' :: (tag ++ (ws.flatten ++ (spaces ++ ['/', '>']))) ++ rest := by simp
  have skipped : skip (spaces ++ '/' :: '>' :: rest) = '/' :: '>' :: rest := by
    rw [Script.skip_append hs, Script.skip_cons (by decide)]
  rw [written]
  refine isReadAs_cons ?_ h
  intro fuel hf
  simp only [List.length_append, List.length_cons, List.length_nil] at hf
  rw [← written, readPiece_tag ht ha (by omega) (slash_head hs _)
    (by rw [skipped]; exact Text.head?_cons_of (by decide) _), skipped]
  rfl

theorem isReadAs_closing (ht : IsName tag) {rest : List Char} {ps : List Piece}
    (h : IsReadAs rest ps) :
    IsReadAs ('<' :: '/' :: (tag ++ '>' :: rest)) (.closing tag :: ps) := by
  have written : '<' :: '/' :: (tag ++ '>' :: rest) = '<' :: ('/' :: (tag ++ ['>'])) ++ rest := by simp
  obtain ⟨take, drop⟩ := Text.cut_append ht.2 ('>' :: rest) (Text.head?_cons_of (by decide) rest)
  rw [written]
  refine isReadAs_cons ?_ h
  intro fuel _
  rw [← written, readPiece, readClosing]
  simp only [take, drop, if_neg ht.1]

end Tags

/-- The pieces of a text between two tags: an empty one is nothing. -/
def textPieces (cs : List Char) : List Piece := if cs = [] then [] else [.text cs]

theorem isReadAs_escape {cs : List Char} (hcs : cs ≠ []) {rest : List Char} {ps : List Piece}
    (h : IsReadAs ('<' :: rest) ps) : IsReadAs (escape cs ++ '<' :: rest) (.text cs :: ps) := by
  have plain : ∀ c ∈ escape cs, isPlain c = true := fun c hc => (isPlain_of_mem_escape c hc).1
  have closings := any_closing_escape cs
  obtain ⟨take, drop⟩ := Text.cut_append plain ('<' :: rest) (Text.head?_cons_of (by decide) _)
  have decoded := decode_escape textEntities_prefix cs
  cases written : escape cs with
  | nil => exact absurd written (escape_ne_nil hcs)
  | cons c w =>
    rw [written] at plain closings take drop decoded
    refine isReadAs_cons ?_ h
    intro fuel _
    have first : isPlain c = true := plain c List.mem_cons_self
    rw [readPiece, take, drop, decoded, if_neg (by rw [closings]; decide)]
    all_goals
      rintro _ same
      obtain rfl := (List.cons.inj same).1
      exact absurd first (by decide)

theorem isReadAs_literal (cs : List Char) {rest : List Char} {ps : List Piece} (h : IsReadAs rest ps) :
    IsReadAs ('\x7b' :: (Script.literal cs ++ ['\x7d']) ++ rest) (.text cs :: ps) := by
  refine isReadAs_cons ?_ h
  intro fuel hf
  rw [List.length_append] at hf
  have written : '\x7b' :: (Script.literal cs ++ ['\x7d']) ++ rest =
      '\x7b' :: (Script.literal cs ++ '\x7d' :: rest) := by simp
  have literal : readTerm fuel (Script.literal cs ++ '\x7d' :: rest) = some (.text cs, '\x7d' :: rest) :=
    Script.reads_literal cs fuel _ (by omega) (Script.stops_cons (by decide) (by decide) _)
  rw [written, readPiece, readBraces, literal]
  simp only [Script.skip_cons (c := '\x7d') (by decide)]

/-- A text in front of a tag is read back, whatever its characters are. -/
theorem isReadAs_childText (cs : List Char) {rest : List Char} {ps : List Piece}
    (h : IsReadAs ('<' :: rest) ps) :
    IsReadAs (childText cs ++ '<' :: rest) (textPieces cs ++ ps) := by
  unfold textPieces
  split_ifs with empty
  · subst empty
    exact h
  · unfold childText
    split_ifs
    · exact isReadAs_literal cs h
    · exact isReadAs_escape empty h

/-! ### Pieces and contents -/

/-- Pieces that bring contents into whatever element is open, and leave the same elements open. -/
def Puts (ps : List Piece) (cs : List Content) : Prop :=
  ∀ s : Nest, ps.foldlM Nest.step s = some (s.put cs)

theorem puts_textPieces (cs : List Char) : Puts (textPieces cs) (textContents cs) := by
  intro s
  unfold textPieces textContents
  split_ifs
  · exact congrArg some s.put_nil.symm
  · rfl

theorem puts_single (tag : List Char) (as : List (List Char × Term)) :
    Puts [.single tag as] [.element tag as []] := fun _ => rfl

/-- Between the tags of an element, pieces bring contents into it. -/
theorem puts_element (tag : List Char) (as : List (List Char × Term)) {ps : List Piece}
    {cs : List Content} (h : Puts ps cs) :
    Puts (.opening tag as :: (ps ++ [.closing tag])) [.element tag as cs] := by
  intro s
  have inside := h ⟨⟨tag, as, s.contents⟩ :: s.opened, []⟩
  rw [List.foldlM_cons, Nest.step, Option.bind_eq_bind, Option.bind_some, List.foldlM_append, inside]
  simp [Nest.step, Nest.put]

end DesignCode.Markup
