/-!
# Rose trees

A `Tree` holds a value and the trees below it.  `fold` computes from the leaves up, `inherit` from
the root down: it hands each node what its ancestors left for it.  `preorder` lists the values,
each before those below it.
-/

namespace DesignCode

/-- A value with an ordered list of trees below it. -/
inductive Tree (α : Type) where
  | node (value : α) (children : List (Tree α))

namespace Tree

variable {α β γ : Type}

def value : Tree α → α
  | node v _ => v

def children : Tree α → List (Tree α)
  | node _ cs => cs

mutual

/-- Computes a result from the value of a node and the results of its children. -/
def fold (f : α → List β → β) : Tree α → β
  | node v cs => f v (foldAll f cs)

def foldAll (f : α → List β → β) : List (Tree α) → List β
  | [] => []
  | t :: ts => fold f t :: foldAll f ts

end

theorem foldAll_eq_map (f : α → List β → β) (ts : List (Tree α)) :
    foldAll f ts = ts.map (fold f) := by
  induction ts with
  | nil => rfl
  | cons t ts ih => simp [foldAll, ih]

mutual

/-- Replaces each subtree by what `here` makes of it and of the inherited value; `below` gives what
the children of a node inherit. -/
def inherit (here : γ → Tree α → β) (below : γ → α → γ) (c : γ) : Tree α → Tree β
  | node v cs => node (here c (node v cs)) (inheritAll here below (below c v) cs)

/-- The same for trees with a common parent. -/
def inheritAll (here : γ → Tree α → β) (below : γ → α → γ) (c : γ) :
    List (Tree α) → List (Tree β)
  | [] => []
  | t :: ts => inherit here below c t :: inheritAll here below c ts

end

theorem inheritAll_eq_map (here : γ → Tree α → β) (below : γ → α → γ) (c : γ)
    (ts : List (Tree α)) : inheritAll here below c ts = ts.map (inherit here below c) := by
  induction ts with
  | nil => rfl
  | cons t ts ih => simp [inheritAll, ih]

def size (t : Tree α) : Nat := t.fold fun _ sizes => 1 + sizes.foldr (· + ·) 0

def height (t : Tree α) : Nat := t.fold fun _ heights => 1 + heights.foldl max 0

/-- The values, each before those below it. -/
def preorder (t : Tree α) : List α := t.fold fun v below => v :: below.flatten

end Tree

end DesignCode
