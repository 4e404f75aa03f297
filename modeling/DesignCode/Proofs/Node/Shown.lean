import Mathlib.Tactic.SplitIfs
import DesignCode.Node.OfLayer
import DesignCode.Proofs.Tree.Subtrees

/-!
# The layers that a survey meets

A layer is reached by a survey if all layers above it are visible (`Layer.reachedBelow`); then it is shown by
a node or, if it is hidden itself, skipped with all that is below it.  `survey_eq_foldl` says that a survey
counts the reached layers one after the other, `placed_survey` that its nodes are those of the shown ones,
each below the nodes of the layers above it.
-/

namespace DesignCode

/-! ### Reached layers -/

namespace Layer

/-- What a layer has in common with its node. -/
def tag (l : Layer) : String × String × Kind := (l.id, l.name, l.kind)

/-- The layers of a tree below some layers that stand below visible layers only, each with the layers above
it, the nearest first. -/
def reachedBelow (above : List Layer) (t : Tree Layer) : List (List Layer × Tree Layer) :=
  (t.subtreesBelow above).filter fun x => x.1.all fun l => !l.isHidden

/-- The layers among them that are visible themselves. -/
def shownBelow (above : List Layer) (t : Tree Layer) : List (List Layer × Tree Layer) :=
  (reachedBelow above t).filter fun x => !x.2.value.isHidden

/-- The layers among them that are hidden themselves. -/
def skippedBelow (above : List Layer) (t : Tree Layer) : List (List Layer × Tree Layer) :=
  (reachedBelow above t).filter fun x => x.2.value.isHidden

/-- The visible layers of a tree without a hidden layer above them. -/
def shown (t : Tree Layer) : List (List Layer × Tree Layer) :=
  t.subtrees.filter fun x => !x.2.value.isHidden && x.1.all fun l => !l.isHidden

/-- The hidden layers of a tree without another hidden layer above them. -/
def skipped (t : Tree Layer) : List (List Layer × Tree Layer) :=
  t.subtrees.filter fun x => x.2.value.isHidden && x.1.all fun l => !l.isHidden

theorem shown_eq (t : Tree Layer) : shown t = shownBelow [] t := List.filter_filter.symm

theorem skipped_eq (t : Tree Layer) : skipped t = skippedBelow [] t := List.filter_filter.symm

/-- The layer that a layer stands in; the root of a tree stands in the parent of the tree. -/
def parentIn (parent : Option Layer) (above : List Layer) : Option Layer := above.head? <|> parent

theorem reachedBelow_of_hidden {above : List Layer} {l : Layer} (mem : l ∈ above)
    (hidden : l.isHidden = true) (t : Tree Layer) : reachedBelow above t = [] := by
  rw [reachedBelow, List.filter_eq_nil_iff]
  intro x hx all
  have mem : l ∈ x.1 := (Tree.suffix_of_mem_subtreesBelow hx).subset mem
  have visible := List.all_eq_true.1 all l mem
  rw [hidden] at visible
  exact Bool.noConfusion visible

section

variable {above : List Layer} (visible : ∀ a ∈ above, a.isHidden = false)

include visible

theorem reachedBelow_node (l : Layer) (cs : List (Tree Layer)) :
    reachedBelow above (.node l cs) =
      (above, .node l cs) ::
        if l.isHidden then [] else cs.flatMap (reachedBelow (l :: above)) := by
  have all : (above.all fun a => !a.isHidden) = true := by simpa using visible
  have below : (cs.flatMap (Tree.subtreesBelow (l :: above))).filter
      (fun x => x.1.all fun a => !a.isHidden) = cs.flatMap (reachedBelow (l :: above)) :=
    List.filter_flatMap
  rw [reachedBelow, Tree.subtreesBelow_node, List.filter_cons, below, if_pos all]
  split_ifs with hidden
  · have none : cs.flatMap (reachedBelow (l :: above)) = [] := by
      rw [List.flatMap_eq_nil_iff]
      exact fun c _ => reachedBelow_of_hidden List.mem_cons_self hidden c
    rw [none]
  · rfl

theorem shownBelow_node (l : Layer) (cs : List (Tree Layer)) :
    shownBelow above (.node l cs) =
      if l.isHidden then [] else (above, .node l cs) :: cs.flatMap (shownBelow (l :: above)) := by
  rw [shownBelow, reachedBelow_node visible]
  split_ifs with hidden
  · exact List.filter_cons_of_neg (by simpa [Tree.value] using hidden)
  · rw [List.filter_cons_of_pos (by simpa [Tree.value] using hidden), List.filter_flatMap]
    rfl

theorem skippedBelow_node (l : Layer) (cs : List (Tree Layer)) :
    skippedBelow above (.node l cs) =
      if l.isHidden then [(above, .node l cs)] else cs.flatMap (skippedBelow (l :: above)) := by
  rw [skippedBelow, reachedBelow_node visible]
  split_ifs with hidden
  · exact List.filter_cons_of_pos hidden
  · rw [List.filter_cons_of_neg (by exact hidden), List.filter_flatMap]
    rfl

theorem visible_cons {l : Layer} (shown : ¬ l.isHidden = true) :
    ∀ a ∈ l :: above, a.isHidden = false :=
  List.forall_mem_cons.2 ⟨by simpa using shown, visible⟩

end

end Layer

/-! ### Counts -/

namespace Survey

/-- Counts a layer, skipping it if it is hidden. -/
def meet (parent : Option Layer) (s : Survey) (x : List Layer × Tree Layer) : Survey :=
  if x.2.value.isHidden then s.skip
  else s.note x.2.value (Layer.parentIn parent x.1) (x.1.length + 1)

theorem meet_node (parent : Option Layer) (s : Survey) (above : List Layer) (l : Layer)
    (cs : List (Tree Layer)) :
    s.meet parent (above, .node l cs) =
      if l.isHidden then s.skip else s.note l (Layer.parentIn parent above) (above.length + 1) := rfl

mutual

theorem surveyFrom_eq_foldl (parent : Option Layer) (above : List Layer)
    (visible : ∀ a ∈ above, a.isHidden = false) (s : Survey) :
    ∀ t : Tree Layer, (surveyFrom (Layer.parentIn parent above) (above.length + 1) s t).2 =
      (Layer.reachedBelow above t).foldl (meet parent) s
  | .node l cs => by
    rw [surveyFrom, Layer.reachedBelow_node visible, List.foldl_cons, meet_node]
    split_ifs with hidden
    · rfl
    · exact surveyAll_eq_foldl parent l above (Layer.visible_cons visible hidden) _ cs

theorem surveyAll_eq_foldl (parent : Option Layer) (l : Layer) (above : List Layer)
    (visible : ∀ a ∈ l :: above, a.isHidden = false) (s : Survey) :
    ∀ ts : List (Tree Layer), (surveyAll l (above.length + 2) s ts).2 =
      (ts.flatMap (Layer.reachedBelow (l :: above))).foldl (meet parent) s
  | [] => by rw [surveyAll, List.flatMap_nil, List.foldl_nil]
  | t :: ts => by
    have first := surveyFrom_eq_foldl parent (l :: above) visible s t
    rw [surveyAll, List.flatMap_cons, List.foldl_append, ← first]
    exact surveyAll_eq_foldl parent l above visible _ ts

end

/-- A survey counts the reached layers one after the other. -/
theorem survey_eq_foldl (t : Tree Layer) (parent : Option Layer) :
    (survey t parent).2 = (Layer.reachedBelow [] t).foldl (meet parent) {} :=
  surveyFrom_eq_foldl parent [] (by simp) {} t

end Survey

/-! ### Nodes -/

/-- What a node has in common with its layer. -/
def Node.tag (n : Node) : String × String × Kind := (n.id, n.name, n.kind)

@[simp] theorem Node.tag_ofLayer (l : Layer) (parent : Option Layer) :
    (Node.ofLayer l parent).tag = l.tag := rfl

/-- A node below the tags of the nodes above it. -/
def Node.placed (x : List Node × Tree Node) : List (String × String × Kind) × Node :=
  (x.1.map Node.tag, x.2.value)

/-- The node of a layer below the tags of the layers above it. -/
def Layer.placed (parent : Option Layer) (x : List Layer × Tree Layer) :
    List (String × String × Kind) × Node :=
  (x.1.map Layer.tag, Node.ofLayer x.2.value (Layer.parentIn parent x.1))

mutual

theorem placed_surveyFrom (parent : Option Layer) (above : List Layer)
    (visible : ∀ a ∈ above, a.isHidden = false) (nodes : List Node)
    (same : nodes.map Node.tag = above.map Layer.tag) (depth : Nat) (s : Survey) :
    ∀ t : Tree Layer,
      ((surveyFrom (Layer.parentIn parent above) depth s t).1.elim []
        (Tree.subtreesBelow nodes)).map Node.placed =
      (Layer.shownBelow above t).map (Layer.placed parent)
  | .node l cs => by
    rw [surveyFrom, Layer.shownBelow_node visible]
    split_ifs with hidden
    · rfl
    · have below := placed_surveyAll parent l above (Layer.visible_cons visible hidden)
        (Node.ofLayer l (Layer.parentIn parent above) :: nodes) (by simpa using same) (depth + 1)
        (s.note l (Layer.parentIn parent above) depth) cs
      rw [Option.elim_some, Tree.subtreesBelow_node, List.map_cons, List.map_cons, below]
      congr 1
      exact Prod.ext same rfl

theorem placed_surveyAll (parent : Option Layer) (l : Layer) (above : List Layer)
    (visible : ∀ a ∈ l :: above, a.isHidden = false) (nodes : List Node)
    (same : nodes.map Node.tag = (l :: above).map Layer.tag) (depth : Nat) (s : Survey) :
    ∀ ts : List (Tree Layer),
      ((surveyAll l depth s ts).1.flatMap (Tree.subtreesBelow nodes)).map Node.placed =
      (ts.flatMap (Layer.shownBelow (l :: above))).map (Layer.placed parent)
  | [] => by rw [surveyAll]; rfl
  | t :: ts => by
    have first := placed_surveyFrom parent (l :: above) visible nodes same depth s t
    have rest := placed_surveyAll parent l above visible nodes same depth
      (surveyFrom (some l) depth s t).2 ts
    rw [surveyAll, List.flatMap_append, List.map_append, List.flatMap_cons, List.map_append, rest,
      ← first]
    congr 2
    show _ = Option.elim (surveyFrom (some l) depth s t).1 [] _
    cases (surveyFrom (some l) depth s t).1 with
    | none => rfl
    | some n => exact List.flatMap_singleton ..

end

/-- The nodes of a survey are those of the shown layers, each below the nodes of the layers above it. -/
theorem placed_survey (t : Tree Layer) (parent : Option Layer) :
    ((survey t parent).1.elim [] Tree.subtrees).map Node.placed =
      (Layer.shown t).map (Layer.placed parent) := by
  rw [Layer.shown_eq]
  exact placed_surveyFrom parent [] (by simp) [] rfl 1 {} t

theorem preorder_survey (t : Tree Layer) (parent : Option Layer) :
    (survey t parent).1.elim [] Tree.preorder =
      (Layer.shown t).map fun x => Node.ofLayer x.2.value (Layer.parentIn parent x.1) := by
  have placed := congrArg (List.map Prod.snd) (placed_survey t parent)
  rw [List.map_map, List.map_map] at placed
  rw [show (fun x => Node.ofLayer x.2.value (Layer.parentIn parent x.1)) =
    Prod.snd ∘ Layer.placed parent from rfl, ← placed]
  cases (survey t parent).1 with
  | none => rfl
  | some root => exact (Tree.map_value_subtreesBelow [] root).symm

end DesignCode
