import DesignCode.Text.Case
import DesignCode.Text.ClusterTable

/-!
# Clusters of characters

A cluster is what a reader takes for one letter: a character with the marks and joiners that follow
it and the signs that lead it.  A cluster has a case if its upper and its lower form differ.
-/

namespace DesignCode.Text

def clusters : List Char → List (List Char)
  | [] => []
  | c :: rest =>
    match clusters rest with
    | (d :: g) :: gs =>
      if inRanges d.toNat attaching ∨ inRanges c.toNat prepending then (c :: d :: g) :: gs
      else [c] :: (d :: g) :: gs
    | gs => [c] :: gs

/-- Whether the cluster is an upper case one. -/
def isUpperCluster (g : List Char) : Bool := upper g ≠ lower g ∧ g = upper g

/-- Whether the cluster is a lower case one. -/
def isLowerCluster (g : List Char) : Bool := upper g ≠ lower g ∧ g = lower g

/-- Whether the cluster is a decimal digit of ASCII. -/
def isDigitCluster (g : List Char) : Bool := g.all Char.isDigit

end DesignCode.Text
