import DesignCode.Proofs.Code.Outline
import DesignCode.Proofs.Node.Survey

/-!
# Calls with markup inside

A host that makes elements takes a call with markup for the inside of its element only if the call has
no texts and no children besides.  The calls of an expression are such exactly if no square stands for a
node that has texts or children (`isAcceptedExpression_iff`); the nodes of a document that are shown as
squares have no texts.
-/

namespace DesignCode

open Script (Term)

/-- The name of the property that holds markup for the inside of an element. -/
def innerMarkup : String := "dangerouslySetInnerHTML"

namespace Script.Term

mutual

/-- The calls in a term: the second argument of each, and the arguments behind it. -/
def calls : Term → List (Term × List Term)
  | call _ (_ :: properties :: arguments) => (properties, arguments) :: callsAll arguments
  | _ => []

/-- The calls in several terms. -/
def callsAll : List Term → List (Term × List Term)
  | [] => []
  | t :: ts => calls t ++ callsAll ts

end

theorem callsAll_eq (ts : List Term) : callsAll ts = ts.flatMap calls := by
  induction ts with
  | nil => rfl
  | cons t ts ih => rw [callsAll, ih, List.flatMap_cons]

end Script.Term

/-- A call that has markup for the inside of its element has nothing else to put there. -/
def IsAccepted (call : Term × List Term) : Prop :=
  innerMarkup.toList ∈ call.1.members.map Prod.fst → call.2 = []

/-- A square for a node without texts and children. -/
def SquareAlone (t : Tree Styled) : Prop :=
  (∃ width height label, t.value.icon = some (.svg width height label)) →
    t.value.node.text = none ∧ t.children = []

namespace Call

theorem innerMarkup_mem_content (s : Styled) :
    innerMarkup ∈ (content? s).toList.map Prod.fst ↔
      ∃ width height label, s.icon = some (.svg width height label) := by
  unfold content?
  cases hi : s.icon with
  | none => cases s.node.placeholder <;> simp [innerMarkup]
  | some icon => cases icon <;> simp [innerMarkup]

/-- Only a square is given as markup. -/
theorem innerMarkup_mem_properties (s : Styled) :
    innerMarkup ∈ (ofStyled s).properties.map Prod.fst ↔
      ∃ width height label, s.icon = some (.svg width height label) := by
  have text (name : String) (a : Option String) (h : innerMarkup ≠ name) :
      innerMarkup ∉ (a.map fun b => (name, Property.text b)).toList.map Prod.fst := by
    cases a <;> simp [h]
  have style : innerMarkup ∉ (if s.style.isEmpty then []
      else [("style", Property.style s.style)]).map Prod.fst := by
    split_ifs <;> simp [innerMarkup]
  rw [← innerMarkup_mem_content]
  simp only [ofStyled, List.map_append, List.mem_append, style,
    text "aria-label" _ (by decide), text "className" _ (by decide), false_or, or_false]

theorem innerMarkup_mem_members (s : Styled) :
    innerMarkup.toList ∈ (ofStyled s).propertiesTerm.members.map Prod.fst ↔
      ∃ width height label, s.icon = some (.svg width height label) := by
  have names : (ofStyled s).propertiesTerm.members.map Prod.fst =
      ((ofStyled s).properties.map Prod.fst).map String.toList := by
    rw [members_propertiesTerm, List.map_map, List.map_map]
    rfl
  rw [names, ← innerMarkup_mem_properties]
  constructor
  · intro h
    obtain ⟨name, mem, same⟩ := List.mem_map.1 h
    rwa [← String.toList_inj.1 same]
  · exact fun h => List.mem_map.2 ⟨innerMarkup, h, rfl⟩

/-- The call of a node is accepted exactly if a square stands for a node without texts and children. -/
theorem isAccepted_node (s : Styled) (children : List (Tree Styled)) :
    IsAccepted ((ofStyled s).propertiesTerm,
        (ofStyled s).texts.map (.text ·.toList) ++ children.map fun c => term (ofTree c)) ↔
      SquareAlone (.node s children) := by
  have texts (h : ∃ width height label, s.icon = some (.svg width height label)) :
      (ofStyled s).texts = [] ↔ s.node.text = none := by
    obtain ⟨width, height, label, hi⟩ := h
    cases ht : s.node.text <;> simp [ofStyled, glyph?, hi, ht]
  unfold IsAccepted SquareAlone
  dsimp only
  rw [innerMarkup_mem_members]
  refine imp_congr_right fun square => ?_
  rw [List.append_eq_nil_iff, List.map_eq_nil_iff, List.map_eq_nil_iff, texts square]
  rfl

/-- The calls of a tree of nodes are accepted exactly if every square stands alone. -/
theorem accepted_iff (t : Tree Styled) :
    (∀ c ∈ (term (ofTree t)).calls, IsAccepted c) ↔ ∀ p u, t.at? p = some u → SquareAlone u := by
  induction t using Tree.induct with
  | node s children ih =>
    have literals : ((ofStyled s).texts.map (Term.text ·.toList)).flatMap Term.calls = [] := by
      rw [List.flatMap_map]
      simp [Term.calls]
    have below : (∀ c ∈ (children.map fun c => term (ofTree c)).flatMap Term.calls, IsAccepted c) ↔
        ∀ c ∈ children, ∀ p u, c.at? p = some u → SquareAlone u := by
      rw [List.flatMap_map]
      constructor
      · intro h c hc
        exact (ih c hc).1 fun d hd => h d (List.mem_flatMap.2 ⟨c, hc, hd⟩)
      · intro h d hd
        obtain ⟨c, hc, hd⟩ := List.mem_flatMap.1 hd
        exact (ih c hc).2 (h c hc) d hd
    rw [term_ofTree, Term.calls, Term.callsAll_eq, List.flatMap_append, literals, List.nil_append,
      List.forall_mem_cons, below, isAccepted_node, Tree.forall_at?_node]

end Call

/-! ### Expressions of surveys -/

/-- An expression is read as calls of which every one is accepted. -/
def IsAcceptedExpression (o : Options) (t : Tree Node) : Prop :=
  (expressionCode o t).toList = expressionFrame o.identifier.toList (expressionTree o t) ∧
    ∃ e, Term.read? (expressionTree o t) = some e ∧ ∀ c ∈ e.calls, IsAccepted c

/-- Given what it inherits, a square stands alone if its node has neither text nor children. -/
theorem squareAlone_inherit (o : Options) (tokens : TokenRegistry) (i : Inherited) (u : Tree Node) :
    SquareAlone (u.inherit (Styled.ofNode o tokens) Inherited.below i) ↔
      (u.value.IsSquare o → u.value.text = none ∧ u.children = []) := by
  cases u with
  | node n children =>
    rw [Tree.inherit_node]
    unfold SquareAlone
    simp only [Tree.children, Tree.value, List.map_eq_nil_iff]
    rfl

/-- The calls of an expression are accepted exactly if every node that is shown as a square has
neither text nor children. -/
theorem isAcceptedExpression_iff (o : Options) (t : Tree Node) :
    IsAcceptedExpression o t ↔ ∀ p u, t.at? p = some u → u.value.IsSquare o →
      u.value.text = none ∧ u.children = [] := by
  have read : Term.read? (expressionTree o t) = some _ := (Call.reads_render _ 4).read?
  have alone := Call.accepted_iff (Styled.ofTree o t)
  constructor
  · rintro ⟨-, e, read', accepted⟩ p u hu
    obtain rfl := Option.some.inj (read'.symm.trans read)
    obtain ⟨i, found⟩ := Styled.at?_ofTree o t p
    rw [hu] at found
    exact (squareAlone_inherit o _ i u).1 (alone.1 accepted p _ found)
  · intro h
    refine ⟨toList_expressionCode o t, _, read, alone.2 ?_⟩
    intro p v hv
    obtain ⟨i, found⟩ := Styled.at?_ofTree o t p
    rw [found] at hv
    obtain ⟨u, hu, rfl⟩ := Option.map_eq_some_iff.1 hv
    exact (squareAlone_inherit o _ i u).2 (h p u hu)

/-- A node of a layer that is shown as a square has no text. -/
theorem Node.IsOfLayer.text_of_isSquare {o : Options} {n : Node} (h : n.IsOfLayer)
    (square : n.IsSquare o) : n.text = none := by
  obtain ⟨width, height, label, icon⟩ := square
  cases ht : n.text with
  | none => rfl
  | some c =>
    have kind := h.kind_of_isText (by rw [Node.isText, ht]; rfl)
    rw [Styled.iconOf] at icon
    simp [IconSource.ofNode, IconSource.isIcon, kind, Kind.isShape] at icon

/-- For the nodes of a document, the calls of an expression are accepted exactly if no node that is
shown as a square has children. -/
theorem expression_of_survey_accepted_iff {layers : Tree Layer} {parent : Option Layer}
    {t : Tree Node} (h : (survey layers parent).1 = some t) (o : Options) :
    IsAcceptedExpression o t ↔
      ∀ p u, t.at? p = some u → u.value.IsSquare o → u.children = [] := by
  rw [isAcceptedExpression_iff]
  constructor
  · exact fun alone p u hu square => (alone p u hu square).2
  · intro childless p u hu square
    have ofLayer := isOfLayer_survey h u.value (Tree.mem_preorder_of_at? hu)
    exact ⟨ofLayer.text_of_isSquare square, childless p u hu square⟩

/-- A drawn shape without children is accepted. -/
theorem expression_of_vector_accepted :
    (survey (.node { kind := .vector } []) none).1 =
        some (.node (Node.ofLayer { kind := .vector } none) []) ∧
      IsAcceptedExpression {} (.node (Node.ofLayer { kind := .vector } none) []) := by
  have made : (survey (.node { kind := .vector } []) none).1 =
      some (.node (Node.ofLayer { kind := .vector } none) []) := rfl
  refine ⟨made, (expression_of_survey_accepted_iff made {}).2 ?_⟩
  intro p u hu _
  cases p with
  | nil =>
    rw [Tree.at?_nil] at hu
    rw [← Option.some.inj hu]
    rfl
  | cons i p => exact absurd hu (by simp [Tree.at?_cons, Tree.children])

/-- A boolean operation with a shape in it, as documents have them. -/
def shapeOfShapes : Tree Layer :=
  .node { id := "1", name := "Union", kind := .booleanOperation, box := some ⟨0, 0, 24, 24⟩ }
    [.node { id := "2", name := "Part", kind := .vector, box := some ⟨0, 0, 12, 12⟩ } []]

/-- The expression for a shape with a shape below it gives a call both markup and a child. -/
theorem shapeOfShapes_not_accepted :
    ¬ ∃ t, (survey shapeOfShapes none).1 = some t ∧ IsAcceptedExpression {} t := by
  rintro ⟨t, h, accepted⟩
  have root : t.at? [] = some t := rfl
  obtain rfl := Option.some.inj h
  have square : (Node.ofLayer shapeOfShapes.value none).IsSquare {} :=
    ⟨"24", "24", "Union icon", rfl⟩
  exact absurd ((isAcceptedExpression_iff {} _).1 accepted [] _ root square).2
    (by simp [Tree.children])

end DesignCode
