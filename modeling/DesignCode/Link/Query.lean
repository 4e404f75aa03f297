import DesignCode.Link.Percent
import DesignCode.Text.Lines

/-!
# Queries

A query lists names with values: `&` stands between two pairs and the first `=` of a pair between
name and value.  Empty pairs do not count, and a pair without `=` has an empty value.
-/

namespace DesignCode.Link.Query

/-- A pair of name and value. -/
def pair (cs : List Char) : List Char × List Char :=
  (formDecode (cs.takeWhile (· ≠ '=')), formDecode ((cs.dropWhile (· ≠ '=')).drop 1))

def pairs (cs : List Char) : List (List Char × List Char) :=
  ((Text.splitAt (· = '&') cs).filter (· ≠ [])).map pair

/-- The first value of a name. -/
def value? (name : List Char) (cs : List Char) : Option (List Char) := (pairs cs).lookup name

end DesignCode.Link.Query
