import Mathlib.Order.Nat
import DesignCode.Proofs.Node.Walk

/-!
# What a survey counts

The counts of a survey are those of the shown and the skipped layers (`foldl_meet`), and no layer is lost
between them: a tree has as many layers as it has nodes and layers in skipped subtrees (`size_eq`).  The
diagnostics are those of the shown layers one after the other.
-/

namespace DesignCode

/-! ### Diagnostics -/

/-- What there is to say about a visible layer: that its kind is not known, and that it has no box or else that
the layer in which it is to be placed has none. -/
def Layer.diagnostics (l : Layer) (parent : Option Layer) : List Diagnostic :=
  (if l.kind = .unknown then [.unsupportedKind l.id l.name] else []) ++
    if l.box.isNone then [.missingBox l.id l.name l.kind]
    else match parent with
      | none => []
      | some p =>
        if p.isAutoLayout = false ∧ p.box.isNone then
          [.missingParentBox l.id l.name p.id p.name]
        else []

theorem findings_eq (l : Layer) (parent : Option Layer) :
    Survey.findings l parent = l.diagnostics parent := by
  have unknown : l.kind.isUnknown = decide (l.kind = .unknown) := rfl
  unfold Survey.findings Layer.diagnostics Layer.place
  rw [unknown]
  congr 1
  · simp
  · cases l.box with
    | none => rfl
    | some b =>
      cases parent with
      | none => rfl
      | some p =>
        dsimp only
        cases p.isAutoLayout with
        | true => rfl
        | false => cases p.box <;> rfl

/-! ### Counts -/

/-- Meeting layers adds up what the shown and the skipped ones among them count for. -/
theorem Survey.foldl_meet (parent : Option Layer) (xs : List (List Layer × Tree Layer)) (s : Survey) :
    let shown := xs.filter fun x => !x.2.value.isHidden
    let skipped := xs.filter fun x => x.2.value.isHidden
    xs.foldl (meet parent) s =
      { diagnostics := s.diagnostics ++
          shown.flatMap fun x => findings x.2.value (Layer.parentIn parent x.1)
        nodeCount := s.nodeCount + shown.length
        skippedCount := s.skippedCount + skipped.length
        unsupportedCount := s.unsupportedCount + shown.countP fun x => x.2.value.kind.isUnknown
        maxDepth := (shown.map fun x => x.1.length + 1).foldl max s.maxDepth } := by
  induction xs generalizing s with
  | nil => simp
  | cons x xs ih =>
    intro shown skipped
    rw [List.foldl_cons, ih]
    by_cases hidden : x.2.value.isHidden = true
    · simp [shown, skipped, meet, hidden, skip]
      omega
    · simp [shown, skipped, meet, hidden, note, List.countP_cons]
      omega

/-- What the trees of a list have, listed one after the other, adds up. -/
theorem sum_size_eq {cs : List (Tree Layer)} {shown skipped : Tree Layer → List (List Layer × Tree Layer)}
    (each : ∀ c ∈ cs, c.size = (shown c).length + ((skipped c).map (·.2.size)).sum) :
    (cs.map Tree.size).sum =
      (cs.flatMap shown).length + ((cs.flatMap skipped).map (·.2.size)).sum := by
  induction cs with
  | nil => rfl
  | cons c cs ih =>
    rw [List.forall_mem_cons] at each
    rw [List.map_cons, List.sum_cons, each.1, ih each.2, List.flatMap_cons, List.flatMap_cons,
      List.length_append, List.map_append, List.sum_append]
    omega

/-- Every layer of a tree is shown by a node or lies in a skipped subtree. -/
theorem Layer.size_eq (t : Tree Layer) (above : List Layer)
    (visible : ∀ a ∈ above, a.isHidden = false) :
    t.size = (shownBelow above t).length + ((skippedBelow above t).map (·.2.size)).sum := by
  induction t using Tree.induct generalizing above with
  | node l cs ih =>
    rw [shownBelow_node visible, skippedBelow_node visible]
    split_ifs with hidden
    · simp
    · have sizes := sum_size_eq fun c hc => ih c hc (l :: above) (visible_cons visible hidden)
      rw [Tree.size_node, sizes, List.length_cons]
      omega

/-! ### The counts of a survey -/

section

variable (t : Tree Layer) (parent : Option Layer)

theorem survey_eq : (survey t parent).2 =
    { diagnostics := (Layer.shown t).flatMap fun x =>
        x.2.value.diagnostics (Layer.parentIn parent x.1)
      nodeCount := (Layer.shown t).length
      skippedCount := (Layer.skipped t).length
      unsupportedCount := (Layer.shown t).countP fun x => x.2.value.kind.isUnknown
      maxDepth := ((Layer.shown t).map fun x => x.1.length + 1).foldl max 0 } := by
  rw [Survey.survey_eq_foldl, Survey.foldl_meet, Layer.shown_eq, Layer.skipped_eq]
  simp only [findings_eq, List.nil_append, Nat.zero_add]
  rfl

theorem length_shown : (Layer.shown t).length = (survey t parent).1.elim 0 Tree.size := by
  rw [← length_preorder_elim, preorder_survey, List.length_map]

theorem countP_shown : (Layer.shown t).countP (fun x => x.2.value.kind.isUnknown) =
    ((survey t parent).1.elim [] Tree.preorder).countP fun n => n.kind = .unknown := by
  rw [preorder_survey, List.countP_map]
  rfl

/-- The nodes stand as deep as the layers that they show. -/
theorem depth_shown : ((Layer.shown t).map fun x => x.1.length + 1).foldl max 0 =
    (survey t parent).1.elim 0 Tree.height := by
  have lengths := congrArg (List.map fun p => p.1.length + 1) (placed_survey t parent)
  simp only [List.map_map, Function.comp_def, Node.placed, Layer.placed, List.length_map] at lengths
  rw [← lengths]
  cases (survey t parent).1 with
  | none => rfl
  | some root =>
    refine eq_of_forall_ge_iff fun k => ?_
    rw [Tree.foldl_max_le_iff, List.forall_mem_map, Option.elim_some, Option.elim_some,
      Tree.height_le_iff [], List.length_nil, Nat.zero_add, and_iff_right (Nat.zero_le k)]
    rfl

end

/-- What a survey says about a tree: it counts the nodes, the hidden layers all of whose ancestors are visible,
the nodes of unknown kind and the levels of nodes.  Every layer has a node or lies in the subtree of one of the
hidden layers that were counted.  The diagnostics are those of the layers that have nodes, in the order of the
nodes. -/
theorem survey_counts (t : Tree Layer) (parent : Option Layer) :
    let nodes := (survey t parent).1
    let s := (survey t parent).2
    let walk := nodes.elim [] Tree.preorder
    s.nodeCount = nodes.elim 0 Tree.size ∧
      s.skippedCount = (Layer.skipped t).length ∧
      s.unsupportedCount = walk.countP (fun n => n.kind = .unknown) ∧
      s.maxDepth = nodes.elim 0 Tree.height ∧
      t.size = s.nodeCount + ((Layer.skipped t).map (·.2.size)).sum ∧
      walk = (Layer.shown t).map
        (fun x => Node.ofLayer x.2.value (Layer.parentIn parent x.1)) ∧
      s.diagnostics = (Layer.shown t).flatMap
        fun x => x.2.value.diagnostics (Layer.parentIn parent x.1) := by
  intro nodes s walk
  have counts : s = _ := survey_eq t parent
  rw [counts]
  refine ⟨length_shown t parent, rfl, countP_shown t parent, depth_shown t parent, ?_,
    preorder_survey t parent, rfl⟩
  rw [Layer.shown_eq, Layer.skipped_eq]
  exact Layer.size_eq t [] (by simp)

end DesignCode
