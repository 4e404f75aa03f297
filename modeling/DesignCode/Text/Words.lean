import DesignCode.Text.Cluster
import DesignCode.Text.Lines

/-!
# Words of a name

A name is cut into words at spaces, underscores and hyphens, which vanish, and where the letters
change: `humps` cuts between a lower and an upper case letter, `allBounds` also between letters and
digits and before the last capital of an acronym that leads a word.  `snake` and `pascal` write the
words together again.
-/

namespace DesignCode.Text

/-- Where a name is cut, besides at its separators. -/
structure Bounds where
  /-- Whether to cut between two clusters. -/
  between : List Char → List Char → Bool
  /-- Whether to cut after the first of three clusters. -/
  afterFirst : List Char → List Char → List Char → Bool

/-- Cuts between a lower and an upper case letter. -/
def humps : Bounds where
  between a b := isLowerCluster a ∧ isUpperCluster b
  afterFirst _ _ _ := false

/-- Cuts at humps, between letters and digits, and before the last capital of an acronym. -/
def allBounds : Bounds where
  between a b :=
    humps.between a b ∨ (isDigitCluster a ∧ (isLowerCluster b ∨ isUpperCluster b)) ∨
      ((isLowerCluster a ∨ isUpperCluster a) ∧ isDigitCluster b)
  afterFirst a b c := isUpperCluster a ∧ isUpperCluster b ∧ isLowerCluster c

/-- The clusters that separate words. -/
def isSeparator (g : List Char) : Bool := g = ['_'] ∨ g = ['-'] ∨ g = [' ']

/-- Whether a word starts at the cluster `c` between its neighbours. -/
def Bounds.cutsAt (b : Bounds) (before : Option (List Char)) (c : List Char)
    (after : Option (List Char)) : Bool :=
  match before, after with
  | none, _ => false
  | some a, none => b.between a c
  | some a, some d => b.between a c ∨ b.afterFirst a c d

/-- The words of a text that follows the cluster `before`; the first one continues a word. -/
def wordsAfter (b : Bounds) (before : Option (List Char)) : List (List Char) → List (List Char)
  | [] => [[]]
  | c :: rest =>
    let more := wordsAfter b (some c) rest
    if isSeparator c then [] :: more
    else
      let word := c ++ more.headD []
      if b.cutsAt before c rest.head? then [] :: word :: more.tail else word :: more.tail

def words (b : Bounds) (cs : List Char) : List (List Char) :=
  (wordsAfter b none (clusters cs)).filter (· ≠ [])

/-- The first character in upper case and the others in lower case. -/
def capital : List Char → List Char
  | [] => []
  | c :: rest => upperOf c ++ lower rest

/-- The words cut at humps, in lower case with underscores between them. -/
def snake (cs : List Char) : List Char := joined ['_'] ((words humps cs).map lower)

/-- The words cut at all bounds, each with a capital, written together. -/
def pascal (cs : List Char) : List Char := (words allBounds cs).flatMap capital

end DesignCode.Text
