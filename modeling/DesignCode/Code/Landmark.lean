import DesignCode.Text.Words

/-!
# What names of layers say about them

A name that holds a keyword as a whole word makes a container a landmark or a text a heading.  Words
are those of the name in lower case with underscores between them.
-/

namespace DesignCode

/-- A part of a page with an element of its own. -/
inductive Landmark where
  | header
  | footer
  | nav
  | main
  | aside
deriving DecidableEq

namespace Landmark

def tag : Landmark → String
  | header => "header"
  | footer => "footer"
  | nav => "nav"
  | main => "main"
  | aside => "aside"

/-- The words that make a container the landmark. -/
def keywords : Landmark → List String
  | header => ["header", "top_bar", "app_bar", "toolbar"]
  | footer => ["footer", "bottom_bar"]
  | nav => ["nav", "navbar", "navigation", "menu"]
  | main => ["main", "content"]
  | aside => ["aside", "sidebar", "side_bar", "drawer"]

/-- All landmarks; the first one that a name speaks of counts. -/
def all : List Landmark := [header, footer, nav, main, aside]

end Landmark

/-- Whether `part` stands somewhere in a text. -/
def occursIn (part : List Char) : List Char → Bool
  | [] => part.isEmpty
  | c :: rest => part.isPrefixOf (c :: rest) ∨ occursIn part rest

/-- Whether a keyword stands in a text with underscores or an end on both sides. -/
def hasKeyword (snake : List Char) (keyword : String) : Bool :=
  occursIn ('_' :: keyword.toList ++ ['_']) ('_' :: snake ++ ['_'])

/-- The landmark that a name speaks of. -/
def Landmark.ofName? (name : String) : Option Landmark :=
  let snake := Text.snake name.toList
  all.find? fun l => l.keywords.any (hasKeyword snake)

/-- Whether a word ends before a text. -/
def endsWord (cs : List Char) : Bool := cs.head?.all (· = '_')

/-- The level that the word at the start of a text names. -/
def levelAt? : List Char → Option Nat
  | 'h' :: d :: rest => if '1' ≤ d ∧ d ≤ '6' ∧ endsWord rest then some (d.toNat - 48) else none
  | _ => none

/-- The level at the leftmost place of a text where a word starts that names one; `starts` says whether
a word starts at the first character. -/
def firstLevel? (starts : Bool) : List Char → Option Nat
  | [] => none
  | c :: rest => (if starts then levelAt? (c :: rest) else none) <|> firstLevel? (c = '_') rest

/-- The words that mean a heading without a level. -/
def headingWords : List String := ["heading", "title", "headline"]

/-- The level of the heading that a name speaks of: that of the first word `h1` to `h6`, or 2 for a
word that means a heading. -/
def headingLevel? (name : String) : Option Nat :=
  let snake := Text.snake name.toList
  firstLevel? true snake <|> if headingWords.any (hasKeyword snake) then some 2 else none

end DesignCode
