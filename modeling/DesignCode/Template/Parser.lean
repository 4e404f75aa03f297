import DesignCode.Template.Basic
import DesignCode.Json.Reader

/-!
# Reading templates

Places stand between doubled braces.  A place names a value by its keys, calls the helper `indent`,
or opens, divides or closes a block.  A tag of a block that stands alone on a line takes the whole
line with it.
-/

namespace DesignCode.Template

/-- What can go wrong with a template. -/
inductive Fault where
  /-- The text is no template. -/
  | malformed
  /-- A helper that does not exist. -/
  | unknownHelper (name : String)
  /-- A block without its operand. -/
  | missingOperand (name : String)
  /-- A template that does not exist. -/
  | unknownTemplate (name : String)

/-! ### Tags -/

/-- A tag between braces. -/
inductive Tag where
  | expression (name : List Char) (operands : List Operand)
  | opening (name : List Char) (operands : List Operand)
  | otherwise
  | closing (name : List Char)

/-- A template cut into texts and tags. -/
inductive Piece where
  | text (cs : List Char)
  | tag (t : Tag)

/-- Whether a character may stand in a name. -/
def isNameChar (c : Char) : Bool :=
  c.isAlphanum ∨ c = '_' ∨ c = '-' ∨ c = '$' ∨ c = '@' ∨ c = '.' ∨ c = '/' ∨ c = '[' ∨ c = ']' ∨
    0x80 ≤ c.toNat

/-- Whether a character may stand between words of a tag. -/
def isTagSpace (c : Char) : Bool := c = ' ' ∨ c = '\t' ∨ c = '\n' ∨ c = '\r'

/-- The keys that a name is made of; `this` and a lone point mean the value at hand. -/
def keysOf (name : List Char) : List String :=
  ((Text.splitAt (fun c => c = '.' ∨ c = '/') name).map fun part =>
    String.ofList (part.filter fun c => c ≠ '[' ∧ c ≠ ']')).filter fun k => k ≠ "" ∧ k ≠ "this"

/-- A word of a tag as an operand. -/
def operandOf (word : List Char) : Operand :=
  if word = ['t', 'r', 'u', 'e'] then .literal (.bool true)
  else if word = ['f', 'a', 'l', 's', 'e'] then .literal (.bool false)
  else if word = ['n', 'u', 'l', 'l'] then .literal .null
  else match Json.readNumber word with
    | (⟨.ok n, _⟩, some []) => .literal n.toJson
    | _ => .path (keysOf word)

/-- Reads the operands of a tag. -/
def operandsOf : Nat → List Char → Option (List Operand)
  | 0, _ => none
  | fuel + 1, cs =>
    match cs.dropWhile isTagSpace with
    | [] => some []
    | c :: rest =>
      if c = '"' ∨ c = '\x27' then
        match rest.dropWhile (· ≠ c) with
        | [] => none
        | _ :: after => do
          let s := String.ofList (rest.takeWhile (· ≠ c))
          return .literal (.string s) :: (← operandsOf fuel after)
      else
        let word := (c :: rest).takeWhile isNameChar
        let after := (c :: rest).dropWhile isNameChar
        if word.isEmpty ∨ ¬ (after.isEmpty ∨ after.head?.any isTagSpace) then none
        else do return operandOf word :: (← operandsOf fuel after)

/-- Reads a name and the operands behind it. -/
def nameAndOperands (cs : List Char) : Option (List Char × List Operand) :=
  let cs := cs.dropWhile isTagSpace
  let name := cs.takeWhile isNameChar
  let after := cs.dropWhile isNameChar
  if name.isEmpty ∨ ¬ (after.isEmpty ∨ after.head?.any isTagSpace) then none
  else do return (name, ← operandsOf (after.length + 1) after)

/-- Reads what stands between the braces of a tag. -/
def tagOf : List Char → Option Tag
  | '#' :: cs => do
    let (name, operands) ← nameAndOperands cs
    return .opening name operands
  | '/' :: cs => do
    match ← nameAndOperands cs with
    | (name, []) => return .closing name
    | _ => none
  | cs => do
    match ← nameAndOperands cs with
    | (['e', 'l', 's', 'e'], []) => return .otherwise
    | (name, operands) => return .expression name operands

/-! ### Pieces -/

/-- Splits a text before the first occurrence of `mark`, which is dropped. -/
def splitBefore (mark : List Char) : List Char → Option (List Char × List Char)
  | [] => none
  | c :: rest =>
    if mark.isPrefixOf (c :: rest) then some ([], (c :: rest).drop mark.length)
    else (splitBefore mark rest).map fun (before, after) => (c :: before, after)

/-- A text as a piece, if it is not empty. -/
def textPiece (cs : List Char) : List Piece := if cs.isEmpty then [] else [.text cs]

/-- Cuts a template into texts and tags. -/
def pieces : Nat → List Char → Option (List Piece)
  | 0, _ => none
  | fuel + 1, cs =>
    match splitBefore ['\x7b', '\x7b'] cs with
    | none => some (textPiece cs)
    | some (before, '\x7b' :: rest) => do
      let (inside, after) ← splitBefore ['\x7d', '\x7d', '\x7d'] rest
      match ← tagOf inside with
      | .expression name operands =>
        return textPiece before ++ .tag (.expression name operands) :: (← pieces fuel after)
      | _ => none
    | some (before, rest) => do
      let (inside, after) ← splitBefore ['\x7d', '\x7d'] rest
      return textPiece before ++ .tag (← tagOf inside) :: (← pieces fuel after)

/-! ### Tags alone on a line -/

/-- Whether the character is a space inside a line. -/
def isLineSpace (c : Char) : Bool := c = ' ' ∨ c = '\t'

/-- Whether a text ends where a line begins, apart from spaces; `atStart` says that the text begins
the template. -/
def endsAtLineStart (atStart : Bool) (cs : List Char) : Bool :=
  match cs.reverse.dropWhile isLineSpace with
  | [] => atStart
  | c :: _ => c = '\n'

/-- Whether a text begins with the rest of an empty line; `atEnd` says that it ends the template. -/
def beginsAtLineEnd (atEnd : Bool) (cs : List Char) : Bool :=
  match cs.dropWhile isLineSpace with
  | [] => atEnd
  | c :: rest => c = '\n' ∨ (c = '\r' ∧ rest.head? = some '\n')

/-- Drops spaces at the end of a text. -/
def dropLineIndent (cs : List Char) : List Char := (cs.reverse.dropWhile isLineSpace).reverse

/-- Drops the rest of an empty line. -/
def dropEmptyLine (cs : List Char) : List Char :=
  match cs.dropWhile isLineSpace with
  | '\r' :: '\n' :: rest => rest
  | '\n' :: rest => rest
  | rest => rest

/-- Whether a tag may take its line with it. -/
def Tag.isBlockTag : Tag → Bool
  | expression _ _ => false
  | _ => true

/-- Whether the text before a tag, if there is one, leaves it at the start of a line. -/
def opensLine : List Piece → Bool
  | [] => true
  | [.text cs] => endsAtLineStart true cs
  | .text cs :: _ => endsAtLineStart false cs
  | .tag _ :: _ => false

/-- Whether the text behind a tag, if there is one, leaves it at the end of a line. -/
def closesLine : List Piece → Bool
  | [] => true
  | [.text cs] => beginsAtLineEnd true cs
  | .text cs :: _ => beginsAtLineEnd false cs
  | .tag _ :: _ => false

/-- Whether a block tag stands alone on its line; `before` lists the earlier pieces, last one
first. -/
def isAlone (before : List Piece) (t : Tag) (after : List Piece) : Bool :=
  t.isBlockTag ∧ opensLine before ∧ closesLine after

/-- Whether the first piece is a tag that stands alone on its line. -/
def startsAlone (before : List Piece) : List Piece → Bool
  | .tag t :: rest => isAlone before t rest
  | _ => false

/-- Takes the lines of tags that stand alone out of the texts around them; `before` lists the
earlier pieces, last one first, and `afterAlone` says whether the last one stood alone. -/
def dropTagLines (before : List Piece) (afterAlone : Bool) : List Piece → List Piece
  | [] => []
  | .text cs :: rest =>
    let trimmed := if afterAlone then dropEmptyLine cs else cs
    let trimmed := if startsAlone (.text cs :: before) rest then dropLineIndent trimmed else trimmed
    .text trimmed :: dropTagLines (.text cs :: before) false rest
  | .tag t :: rest => .tag t :: dropTagLines (.tag t :: before) (isAlone before t rest) rest

/-! ### Blocks -/

/-- The part that an expression stands for. -/
def expressionPart (name : List Char) (operands : List Operand) : TemplatePart Fault :=
  if name = ['i', 'n', 'd', 'e', 'n', 't'] then .indent operands
  else if operands.isEmpty then .value (keysOf name)
  else .fail (.unknownHelper (String.ofList name))

/-- The part that a block stands for. -/
def blockPart (name : List Char) (operands : List Operand) (body otherwise : Template Fault) :
    TemplatePart Fault :=
  let name := String.ofList name
  match name, operands with
  | "if", o :: _ => .when o body otherwise
  | "each", o :: _ => .each o body otherwise
  | "if", [] | "each", [] => .fail (.missingOperand name)
  | _, _ => .fail (.unknownHelper name)

/-- What ends a sequence of parts. -/
inductive Stop where
  | textEnd
  | otherwise
  | closing (name : List Char)

/-- Reads parts up to a tag that ends them. -/
def readParts : Nat → List Piece → Option (Template Fault × Stop × List Piece)
  | 0, _ => none
  | _ + 1, [] => some ([], .textEnd, [])
  | fuel + 1, .text cs :: rest => do
    let (parts, stop, rest) ← readParts fuel rest
    return (.text (String.ofList cs) :: parts, stop, rest)
  | _ + 1, .tag .otherwise :: rest => some ([], .otherwise, rest)
  | _ + 1, .tag (.closing name) :: rest => some ([], .closing name, rest)
  | fuel + 1, .tag (.expression name operands) :: rest => do
    let (parts, stop, rest) ← readParts fuel rest
    return (expressionPart name operands :: parts, stop, rest)
  | fuel + 1, .tag (.opening name operands) :: rest => do
    let (body, stop, rest) ← readParts fuel rest
    let (otherwise, stop, rest) ← match stop with
      | .otherwise => readParts fuel rest
      | stop => some ([], stop, rest)
    match stop with
    | .closing name' =>
      if name = name' then
        let (parts, stop, rest) ← readParts fuel rest
        return (blockPart name operands body otherwise :: parts, stop, rest)
      else none
    | _ => none

def parse (s : String) : Except Fault (Template Fault) :=
  let cs := s.toList
  match pieces (cs.length + 1) cs with
  | none => .error .malformed
  | some ps =>
    match readParts (2 * ps.length + 2) (dropTagLines [] false ps) with
    | some (parts, .textEnd, _) => .ok parts
    | _ => .error .malformed

end DesignCode.Template
