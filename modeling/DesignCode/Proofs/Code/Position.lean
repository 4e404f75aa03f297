import DesignCode.Proofs.Code.ComponentOutline
import DesignCode.Proofs.Code.Token

/-!
# Positions of nodes in generated code

`Outlines o t x y` says that the expression for `t` is read with the outline `x` and the component with
the outline `y`.  Both outlines have the nodes at the positions that they have in `t`: the expression
all of them (`Outlines.at?_expression`), the component those that no node above them covers
(`Outlines.at?_component`).
-/

namespace DesignCode

open Markup (Content)
open Script (Term)

/-! ### Nodes that hide others -/

namespace Node

/-- Whether a component has no elements for what is below a node: the node is a text or an icon. -/
def covers (o : Options) (n : Node) : Bool := n.isText ∨ (Styled.iconOf o n).isSome

/-- Whether a component makes a list of a tree of nodes: it is a column with texts. -/
def isList (t : Tree Node) : Bool :=
  t.value.flex.any (·.direction = .column) ∧ t.children.any (·.value.isText)

end Node

/-- Some node above the position covers it. -/
def IsCovered (o : Options) (t : Tree Node) (p : List Nat) : Prop :=
  ∃ q r u, p = q ++ r ∧ r ≠ [] ∧ t.at? q = some u ∧ u.value.covers o = true

/-- The node at the position is an item of a list. -/
def IsItem (t : Tree Node) (p : List Nat) : Prop :=
  ∃ q i u, p = q ++ [i] ∧ t.at? q = some u ∧ Node.isList u = true

theorem not_isCovered_nil (o : Options) (t : Tree Node) : ¬ IsCovered o t [] := by
  rintro ⟨q, r, u, h, hr, -⟩
  exact hr (List.append_eq_nil_iff.1 h.symm).2

theorem not_isItem_nil (t : Tree Node) : ¬ IsItem t [] := by
  rintro ⟨q, i, u, h, -⟩
  simp at h

/-- A position is covered by the root or by a node on the way from the first child. -/
theorem isCovered_cons (o : Options) {t c : Tree Node} {i : Nat} (h : t.children[i]? = some c)
    (p : List Nat) : IsCovered o t (i :: p) ↔ t.value.covers o = true ∨ IsCovered o c p := by
  constructor
  · rintro ⟨q, r, u, split, hr, at_q, covers⟩
    cases q with
    | nil =>
      obtain rfl : t = u := by simpa using at_q
      exact .inl covers
    | cons j q =>
      obtain ⟨rfl, rfl⟩ := List.cons.inj split
      rw [Tree.at?_cons, h] at at_q
      exact .inr ⟨q, r, u, rfl, hr, at_q, covers⟩
  · rintro (covers | ⟨q, r, u, rfl, hr, at_q, covers⟩)
    · exact ⟨[], i :: p, t, rfl, by simp, rfl, covers⟩
    · exact ⟨i :: q, r, u, rfl, hr, by rw [Tree.at?_cons, h]; exact at_q, covers⟩

theorem isItem_singleton (t : Tree Node) (i : Nat) : IsItem t [i] ↔ Node.isList t = true := by
  constructor
  · rintro ⟨q, j, u, split, at_q, list⟩
    cases q with
    | nil =>
      obtain rfl : t = u := by simpa using at_q
      exact list
    | cons k q => simp at split
  · exact fun list => ⟨[], i, t, rfl, rfl, list⟩

theorem isItem_cons {t c : Tree Node} {i : Nat} (h : t.children[i]? = some c) {p : List Nat}
    (hp : p ≠ []) : IsItem t (i :: p) ↔ IsItem c p := by
  constructor
  · rintro ⟨q, j, u, split, at_q, list⟩
    cases q with
    | nil => exact absurd (List.cons.inj split).2 hp
    | cons k q =>
      obtain ⟨rfl, rfl⟩ := List.cons.inj split
      rw [Tree.at?_cons, h] at at_q
      exact ⟨q, j, u, rfl, at_q, list⟩
  · rintro ⟨q, j, u, rfl, at_q, list⟩
    exact ⟨i :: q, j, u, rfl, by rw [Tree.at?_cons, h]; exact at_q, list⟩

/-! ### Positions in a component -/

namespace Styled

variable (o : Options) (tokens : TokenRegistry)

/-- The nodes of a tree with their styles, given what they inherit. -/
def treeBelow (i : Inherited) (t : Tree Node) : Tree Styled :=
  t.inherit (ofNode o tokens) Inherited.below i

theorem treeBelow_node (i : Inherited) (n : Node) (children : List (Tree Node)) :
    treeBelow o tokens i (.node n children) =
      .node (ofNode o tokens i (.node n children)) (children.map (treeBelow o tokens (i.below n))) := by
  rw [treeBelow, Tree.inherit_node]
  rfl

theorem value_treeBelow (i : Inherited) (t : Tree Node) :
    (treeBelow o tokens i t).value = ofNode o tokens i t := by
  cases t with
  | node n children => rw [treeBelow_node]; rfl

theorem isList_treeBelow (i : Inherited) (n : Node) (children : List (Tree Node)) :
    Element.isList (ofNode o tokens i (.node n children))
      (children.map (treeBelow o tokens (i.below n))) = Node.isList (.node n children) := by
  have texts : ((children.map (treeBelow o tokens (i.below n))).any (·.value.node.isText)) =
      children.any (·.value.isText) := by
    rw [List.any_map]
    congr 1
    funext c
    rw [Function.comp_apply, value_treeBelow]
    rfl
  unfold Element.isList Node.isList
  rw [texts]
  rfl

theorem placeBelow_treeBelow (i : Inherited) (n : Node) (children : List (Tree Node)) :
    (ofNode o tokens i (.node n children)).placeBelow
        (children.map (treeBelow o tokens (i.below n))) =
      if Node.isList (.node n children) then .item else .block := by
  rw [placeBelow, isList_treeBelow]

/-- A component has elements for the nodes that nothing covers, at their positions, and for no
others. -/
theorem at?_nodesShown (p : List Nat) (t : Tree Node) (i : Inherited) (place : Place) {u : Tree Node}
    (h : t.at? p = some u) :
    (IsCovered o t p → (nodesShown place (treeBelow o tokens i t)).at? p = none) ∧
      (¬ IsCovered o t p → ∃ j place',
        (nodesShown place (treeBelow o tokens i t)).at? p =
            some (nodesShown place' (treeBelow o tokens j u)) ∧
          (p = [] → place' = place) ∧ (p ≠ [] → (place' = .item ↔ IsItem t p))) := by
  induction p generalizing t i place with
  | nil =>
    obtain rfl : t = u := by simpa using h
    refine ⟨fun covered => absurd covered (not_isCovered_nil o t), fun _ => ?_⟩
    exact ⟨i, place, rfl, fun _ => rfl, fun ne => absurd rfl ne⟩
  | cons k p ih =>
    cases t with
    | node n children =>
      rw [Tree.at?_cons, Tree.children] at h
      obtain ⟨c, hc, at_p⟩ := Option.bind_eq_some_iff.1 h
      have child : (Tree.node n children).children[k]? = some c := hc
      have root : (ofNode o tokens i (.node n children)).covers = n.covers o := rfl
      rw [isCovered_cons o child, treeBelow_node, nodesShown_node, Tree.at?_cons,
        Tree.children, root]
      by_cases covers : n.covers o = true
      · rw [if_pos covers]
        exact ⟨fun _ => rfl, fun open_ => absurd (.inl covers) open_⟩
      · rw [if_neg covers, List.map_map, List.getElem?_map, hc, placeBelow_treeBelow]
        obtain ⟨hidden, visible⟩ := ih c (i.below n)
          (if Node.isList (.node n children) then .item else .block) at_p
        refine ⟨fun covered => hidden (covered.resolve_left covers), fun open_ => ?_⟩
        obtain ⟨j, place', found, first, later⟩ := visible fun covered => open_ (.inr covered)
        refine ⟨j, place', found, by simp, fun _ => ?_⟩
        by_cases hp : p = []
        · subst hp
          rw [first rfl, isItem_singleton]
          split_ifs with list <;> simp [list]
        · rw [later hp, isItem_cons child hp]

end Styled

theorem Styled.placeBelow_ne_root (s : Styled) (children : List (Tree Styled)) :
    s.placeBelow children ≠ .root := by
  unfold placeBelow
  split_ifs <;> decide

/-- An element of a component is that of the tree at its position; only the first one is the root. -/
theorem exists_of_at?_nodesPlaced {p : List Nat} {t : Tree Styled} {place : Place}
    {w : Tree (Place × Tree Styled)} (h : (nodesPlaced place t).at? p = some w) :
    ∃ place' u, t.at? p = some u ∧ w.value = (place', u) ∧
      (p = [] → place' = place) ∧ (p ≠ [] → place' ≠ .root) := by
  induction p generalizing t place with
  | nil =>
    obtain rfl : nodesPlaced place t = w := by simpa using h
    cases t with
    | node s children =>
      rw [nodesPlaced_node]
      exact ⟨place, _, rfl, rfl, fun _ => rfl, fun ne => absurd rfl ne⟩
  | cons i p ih =>
    cases t with
    | node s children =>
      rw [nodesPlaced_node, Tree.at?_cons, Tree.children] at h
      split_ifs at h with covers
      · exact absurd h (by simp)
      · rw [List.getElem?_map] at h
        obtain ⟨_, found, at_p⟩ := Option.bind_eq_some_iff.1 h
        obtain ⟨c, hc, rfl⟩ := Option.map_eq_some_iff.1 found
        obtain ⟨place', u, hu, value, first, later⟩ := ih at_p
        refine ⟨place', u, ?_, value, by simp, fun _ => ?_⟩
        · rw [Tree.at?_cons, Tree.children, hc]
          exact hu
        · by_cases hp : p = []
          · rw [first hp]
            exact s.placeBelow_ne_root children
          · exact later hp

theorem exists_of_at?_nodesShown {p : List Nat} {t : Tree Styled} {place : Place}
    {w : Tree (Place × Styled)} (h : (nodesShown place t).at? p = some w) :
    ∃ place' u, t.at? p = some u ∧ w.value = (place', u.value) ∧
      (p = [] → place' = place) ∧ (p ≠ [] → place' ≠ .root) := by
  rw [nodesShown, Tree.at?_map] at h
  obtain ⟨v, hv, rfl⟩ := Option.map_eq_some_iff.1 h
  obtain ⟨place', u, hu, value, places⟩ := exists_of_at?_nodesPlaced hv
  exact ⟨place', u, hu, by rw [Tree.value_map, value], places⟩

/-! ### Both kinds of code -/

/-- The expression for the nodes is its frame around calls that make the elements `x`, and the component its
frame around markup with the elements `y`. -/
structure Draws (o : Options) (t : Tree Node) (x y : Tree ReadElement) : Prop where
  expression : (expressionCode o t).toList =
      expressionFrame o.identifier.toList (expressionTree o t) ∧
    ∃ e, Term.read? (expressionTree o t) = some e ∧ e.elements = [x]
  component : (componentCode o t).toList =
      componentFrame o.identifier.toList o.memo ((componentRules o t).map String.toList)
        (Text.indent 4 (componentBody o t)) ∧
    ∃ m, Content.read? (Text.indent 4 (componentBody o t)) = some m ∧ m.elements = [y]

/-- Both kinds of code can be read, and make elements of the nodes. -/
theorem draws_ofTree (o : Options) (t : Tree Node) :
    Draws o t ((Styled.ofTree o t).map ReadElement.ofCall)
      ((nodesPlaced .root (Styled.ofTree o t)).map (ReadElement.ofPlaced 4)) where
  expression := ⟨toList_expressionCode o t, _, (Call.reads_render _ 4).read?, Call.elements_term _⟩
  component := ⟨toList_componentCode o t, _, (componentCode_reads o t).2,
    (elements_ofTree 4 (Styled.ofTree o t)).1 true⟩

/-- The expression for the nodes is its frame around calls with the outline `x`, and the component its
frame around markup with the outline `y`. -/
structure Outlines (o : Options) (t : Tree Node) (x y : Tree Shown) : Prop where
  expression : (expressionCode o t).toList =
      expressionFrame o.identifier.toList (expressionTree o t) ∧
    ∃ e, Term.read? (expressionTree o t) = some e ∧ e.outline = [x]
  component : (componentCode o t).toList =
      componentFrame o.identifier.toList o.memo ((componentRules o t).map String.toList)
        (Text.indent 4 (componentBody o t)) ∧
    ∃ m, Content.read? (Text.indent 4 (componentBody o t)) = some m ∧ m.outline = [y]

variable {o : Options} {t : Tree Node} {x y : Tree Shown}

/-- The outlines of both kinds of code say what their elements show. -/
theorem Draws.outlines {v w : Tree ReadElement} (h : Draws o t v w) :
    Outlines o t (v.map ReadElement.shown) (w.map ReadElement.shown) := by
  obtain ⟨⟨frame, e, read, made⟩, markupFrame, m, readMarkup, madeMarkup⟩ := h
  refine ⟨⟨frame, e, read, ?_⟩, markupFrame, m, readMarkup, ?_⟩
  · rw [Term.outline, made, List.map_singleton]
  · rw [Content.outline, madeMarkup, List.map_singleton]

/-- Both kinds of code can be read, and have outlines. -/
theorem outlines_ofTree (o : Options) (t : Tree Node) :
    Outlines o t ((Styled.ofTree o t).map Shown.ofCall)
      ((nodesShown .root (Styled.ofTree o t)).map (Shown.ofPlaced 4)) := by
  have outlines := (draws_ofTree o t).outlines
  have calls : ReadElement.shown ∘ ReadElement.ofCall = Shown.ofCall := funext Call.shown_ofCall
  rw [map_shown_nodesPlaced, Tree.map_map, calls] at outlines
  exact outlines

/-- The outlines are those of the calls and of the markup of the nodes. -/
theorem Outlines.eq (h : Outlines o t x y) :
    x = (Styled.ofTree o t).map Shown.ofCall ∧
      y = (nodesShown .root (Styled.ofTree o t)).map (Shown.ofPlaced 4) := by
  obtain ⟨⟨-, e, read, outline⟩, -, m, readMarkup, outlineMarkup⟩ := h
  obtain ⟨⟨-, e', read', outline'⟩, -, m', readMarkup', outlineMarkup'⟩ := outlines_ofTree o t
  obtain rfl : e = e' := Option.some.inj (read.symm.trans read')
  obtain rfl : m = m' := Option.some.inj (readMarkup.symm.trans readMarkup')
  exact ⟨(List.cons.inj (outline.symm.trans outline')).1,
    (List.cons.inj (outlineMarkup.symm.trans outlineMarkup')).1⟩

/-- The expression has a call for every node, at the position of the node. -/
theorem Outlines.at?_expression (h : Outlines o t x y) {p : List Nat} {u : Tree Node}
    (hu : t.at? p = some u) :
    ∃ i v, x.at? p = some v ∧
      v.value = Shown.ofCall (Styled.ofNode o (Styled.registry o t) i u) := by
  obtain ⟨i, found⟩ := Styled.at?_ofTree o t p
  rw [h.eq.1, Tree.at?_map, found, hu]
  refine ⟨i, _, rfl, ?_⟩
  rw [Tree.value_map]
  exact congrArg Shown.ofCall (Styled.value_treeBelow o _ i u)

/-- The component has an element for every node that is not covered, at the position of the node, and
none for a covered one. -/
theorem Outlines.at?_component (h : Outlines o t x y) {p : List Nat} {u : Tree Node}
    (hu : t.at? p = some u) :
    (IsCovered o t p → y.at? p = none) ∧
      (¬ IsCovered o t p → ∃ i place v, y.at? p = some v ∧ (place = .item ↔ IsItem t p) ∧
        v.value = Shown.ofPlaced 4 (place, Styled.ofNode o (Styled.registry o t) i u)) := by
  obtain ⟨hidden, visible⟩ := Styled.at?_nodesShown o (Styled.registry o t) p t {} .root hu
  rw [h.eq.2, Tree.at?_map, Styled.ofTree]
  refine ⟨fun covered => ?_, fun uncovered => ?_⟩
  · rw [← Styled.treeBelow, hidden covered]
    rfl
  · obtain ⟨j, place, found, first, later⟩ := visible uncovered
    rw [← Styled.treeBelow, found]
    refine ⟨j, place, _, rfl, ?_, ?_⟩
    · by_cases hp : p = []
      · subst hp
        simp [first rfl, not_isItem_nil]
      · exact later hp
    · cases u with
      | node n children =>
        rw [Tree.value_map, Styled.treeBelow_node, nodesShown_node]
        rfl

/-! ### What nodes inherit -/

/-- The nodes at a position and below it inherit what the nodes above the position leave for them. -/
theorem Styled.at?_ofTree_treeBelow (o : Options) (t : Tree Node) (p : List Nat) :
    (ofTree o t).at? p = (t.at? p).map (treeBelow o (registry o t) (.ofAbove (t.above p))) := by
  have found := Tree.at?_inherit_aboveAt (ofNode o (registry o t)) Inherited.below {} [] t p
  rw [List.foldr_nil] at found
  rw [ofTree, found]
  rfl

theorem Styled.at?_ofTree_above (o : Options) (t : Tree Node) (p : List Nat) :
    ((ofTree o t).at? p).map Tree.value =
      (t.at? p).map (ofNode o (registry o t) (.ofAbove (t.above p))) := by
  rw [at?_ofTree_treeBelow, Option.map_map]
  refine congrArg (Option.map · (t.at? p)) ?_
  funext u
  exact value_treeBelow o (registry o t) _ u

/-- The expression shows at every position the node that is there, and has no other positions. -/
theorem Outlines.value_expression (h : Outlines o t x y) (p : List Nat) :
    (x.at? p).map Tree.value =
      (t.at? p).map fun u =>
        Shown.ofCall (Styled.ofNode o (Styled.registry o t) (.ofAbove (t.above p)) u) := by
  have found := congrArg (Option.map Shown.ofCall) (Styled.at?_ofTree_above o t p)
  rw [Option.map_map, Option.map_map] at found
  rw [h.eq.1, Tree.at?_map, Option.map_map, Function.comp_def]
  simp only [Tree.value_map]
  exact found

/-- An element of the component shows the node at its position; only the first one is the root. -/
theorem Outlines.value_component (h : Outlines o t x y) {p : List Nat} {v : Tree Shown}
    (hv : y.at? p = some v) :
    ∃ place u, t.at? p = some u ∧ (p ≠ [] → place ≠ .root) ∧
      v.value = Shown.ofPlaced 4
        (place, Styled.ofNode o (Styled.registry o t) (.ofAbove (t.above p)) u) := by
  rw [h.eq.2, Tree.at?_map] at hv
  obtain ⟨w, hw, rfl⟩ := Option.map_eq_some_iff.1 hv
  obtain ⟨place, s, hs, value, -, later⟩ := exists_of_at?_nodesShown hw
  have node := Styled.at?_ofTree_above o t p
  rw [hs] at node
  obtain ⟨u, hu, same⟩ := Option.map_eq_some_iff.1 node.symm
  exact ⟨place, u, hu, later, by rw [Tree.value_map, value, same]⟩

end DesignCode
