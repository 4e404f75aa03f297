import DesignCode.Node.OfLayer
import DesignCode.Proofs.Tree.Subtrees

/-!
# Nodes of a survey

Every node that a survey of layers leaves is made of one of the layers and of the layer of its parent
(`isTreeOf_survey`), so that a node with text is of the kind that texts have.
-/

namespace DesignCode

/-- A survey of a visible layer leaves its node above those of its children. -/
theorem survey_of_visible {l : Layer} (visible : l.isHidden = false) (parent : Option Layer)
    (cs : List (Tree Layer)) :
    (survey (.node l cs) parent).1 =
      some (.node (Node.ofLayer l parent) (surveyAll l 2 (Survey.note {} l parent 1) cs).1) := by
  have shown : ¬ l.isHidden = true := by
    rw [visible]
    decide
  rw [survey, surveyFrom, if_neg shown]

/-- Whether the node is the node of some layer. -/
def Node.IsOfLayer (n : Node) : Prop := ∃ l parent, n = Node.ofLayer l parent

/-- Nodes of layers, the root with the layer that it stands in and each node below it with the layer of its
parent. -/
inductive Node.IsTreeOf : Option Layer → Tree Node → Prop
  | node {parent : Option Layer} (l : Layer) (cs : List (Tree Node))
      (below : ∀ c ∈ cs, IsTreeOf (some l) c) : IsTreeOf parent (.node (ofLayer l parent) cs)

namespace Node.IsTreeOf

variable {parent : Option Layer} {t : Tree Node}

theorem value (h : IsTreeOf parent t) : ∃ l, t.value = ofLayer l parent := by
  obtain ⟨l, cs, below⟩ := h
  exact ⟨l, rfl⟩

/-- Only the root of a tree that stands in no layer has no layer above it. -/
theorem of_mem (h : IsTreeOf parent t) {above : List Node} (outer : parent = none ↔ above = []) :
    ∀ x ∈ t.subtreesBelow above, ∃ p : Option Layer, (p = none ↔ x.1 = []) ∧ IsTreeOf p x.2 := by
  induction h generalizing above with
  | node l cs below ih =>
    rw [Tree.subtreesBelow_node, List.forall_mem_cons]
    refine ⟨⟨_, outer, .node l cs below⟩, ?_⟩
    intro x hx
    obtain ⟨c, hc, hx⟩ := List.mem_flatMap.1 hx
    exact ih c hc (by simp) x hx

theorem isOfLayer (h : IsTreeOf parent t) : ∀ n ∈ t.preorder, n.IsOfLayer := by
  induction h with
  | @node parent l cs below ih =>
    rw [Tree.preorder_node, List.forall_mem_cons]
    refine ⟨⟨l, parent, rfl⟩, ?_⟩
    intro n hn
    obtain ⟨c, hc, hn⟩ := List.mem_flatMap.1 hn
    exact ih c hc n hn

end Node.IsTreeOf

mutual

theorem isTreeOf_surveyFrom (parent : Option Layer) (depth : Nat) (s : Survey) :
    ∀ (layers : Tree Layer) (t : Tree Node), (surveyFrom parent depth s layers).1 = some t →
      Node.IsTreeOf parent t
  | .node l cs, t, h => by
    rw [surveyFrom] at h
    split_ifs at h
    obtain rfl := Option.some.inj h
    exact .node l _ (isTreeOf_surveyAll l (depth + 1) (s.note l parent depth) cs)

theorem isTreeOf_surveyAll (parent : Layer) (depth : Nat) (s : Survey) :
    ∀ layers : List (Tree Layer), ∀ t ∈ (surveyAll parent depth s layers).1, Node.IsTreeOf (some parent) t
  | [], t, h => absurd h (by simp [surveyAll])
  | l :: ls, t, h => by
    rw [surveyAll] at h
    rcases List.mem_append.1 h with h | h
    · exact isTreeOf_surveyFrom (some parent) depth s l t (Option.mem_toList.1 h)
    · exact isTreeOf_surveyAll parent depth _ ls t h

end

/-- The nodes of a survey are those of layers, and the layer above a node is that of its parent. -/
theorem isTreeOf_survey {layers : Tree Layer} {parent : Option Layer} {t : Tree Node}
    (h : (survey layers parent).1 = some t) : Node.IsTreeOf parent t :=
  isTreeOf_surveyFrom parent 1 {} layers t h

/-- The nodes of a survey are those of layers. -/
theorem isOfLayer_survey {layers : Tree Layer} {parent : Option Layer} {t : Tree Node}
    (h : (survey layers parent).1 = some t) : ∀ n ∈ t.preorder, n.IsOfLayer :=
  (isTreeOf_survey h).isOfLayer

/-- Only a text layer gives its node a text. -/
theorem Node.IsOfLayer.kind_of_isText {n : Node} (h : n.IsOfLayer) (ht : n.isText = true) :
    n.kind = .text := by
  obtain ⟨l, parent, rfl⟩ := h
  have text : l.textContent.isSome = true := ht
  have kind : l.kind.isText = true := by
    by_contra other
    rw [Layer.textContent, if_neg other] at text
    exact absurd text (by simp)
  show l.kind = .text
  simpa [Kind.isText] using kind

end DesignCode
