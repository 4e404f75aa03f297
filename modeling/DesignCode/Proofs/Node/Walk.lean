import DesignCode.Command.Run
import DesignCode.Proofs.Node.Shown

/-!
# Walks over the visible part of a document

A survey leaves a tree of nodes with one node for each shown layer, in the same order and one below the other
as the layers are (`survey_shows`).  The report of styles has an entry for the same layers.
-/

namespace DesignCode

/-! ### The report of styles -/

/-- The items of an array. -/
def Json.items : Json → List Json
  | array items => items
  | _ => []

theorem visibleLayers_node (l : Layer) (cs : List (Tree Layer)) :
    visibleLayers (.node l cs) = if l.isHidden then [] else l :: cs.flatMap visibleLayers := by
  rw [visibleLayers, Tree.fold_node, List.flatMap_def]
  rfl

theorem visibleLayers_eq (t : Tree Layer) (above : List Layer)
    (visible : ∀ a ∈ above, a.isHidden = false) :
    visibleLayers t = (Layer.shownBelow above t).map (·.2.value) := by
  induction t using Tree.induct generalizing above with
  | node l cs ih =>
    rw [visibleLayers_node, Layer.shownBelow_node visible]
    split_ifs with hidden
    · rfl
    · rw [List.map_cons, List.map_flatMap]
      congr 1
      exact List.flatMap_congr fun c hc => ih c hc _ (Layer.visible_cons visible hidden)

/-- The members of the entry of a layer that say which layer it is. -/
theorem map_items_styleReport (t : Tree Layer) :
    (styleReport t).items.map (fun j => (j.member? "id", j.member? "name")) =
      (Layer.shown t).map fun x =>
        (some (.string x.2.value.id), some (.string x.2.value.name)) := by
  rw [styleReport, Json.items, visibleLayers_eq t [] (by simp), ← Layer.shown_eq, List.map_map,
    List.map_map]
  rfl

/-! ### The nodes of a survey -/

theorem survey_eq_none_iff (t : Tree Layer) (parent : Option Layer) :
    (survey t parent).1 = none ↔ t.value.isHidden = true := by
  cases t with
  | node l cs =>
    rw [survey, surveyFrom]
    split_ifs with hidden
    · simpa [Tree.value] using hidden
    · simpa [Tree.value] using hidden

theorem length_preorder_elim (nodes : Option (Tree Node)) :
    (nodes.elim [] Tree.preorder).length = nodes.elim 0 Tree.size := by
  cases nodes with
  | none => rfl
  | some root => exact Tree.length_preorder root

/-- A survey leaves no tree of nodes exactly if the root is hidden.  Otherwise its nodes are, in preorder, those
of the layers that are visible and have no hidden layer above them; each has the id, the name and the kind of
its layer and stands below the nodes of the layers above it.  Their count is the length of the walk, and the
report of styles lists the same layers. -/
theorem survey_shows (t : Tree Layer) (parent : Option Layer) :
    let nodes := (survey t parent).1
    let walk := nodes.elim [] Tree.preorder
    (nodes = none ↔ t.value.isHidden = true) ∧
      walk.map Node.tag = (Layer.shown t).map (fun x => x.2.value.tag) ∧
      (nodes.elim [] Tree.subtrees).map (fun x => (x.1.map Node.tag, x.2.value.tag)) =
        (Layer.shown t).map (fun x => (x.1.map Layer.tag, x.2.value.tag)) ∧
      nodes.elim 0 Tree.size = walk.length ∧
      (styleReport t).items.map (fun j => (j.member? "id", j.member? "name")) =
        walk.map fun n => (some (.string n.id), some (.string n.name)) := by
  intro nodes walk
  have walk_eq : walk = _ := preorder_survey t parent
  have placed := congrArg (List.map fun p => (p.1, p.2.tag)) (placed_survey t parent)
  rw [List.map_map, List.map_map] at placed
  refine ⟨survey_eq_none_iff t parent, ?_, placed, ?_, ?_⟩
  · rw [walk_eq, List.map_map]
    rfl
  · exact (length_preorder_elim nodes).symm
  · rw [map_items_styleReport, walk_eq, List.map_map]
    rfl

end DesignCode
