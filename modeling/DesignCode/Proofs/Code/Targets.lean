import DesignCode.Code.Generation
import DesignCode.Proofs.Node.Walk

/-!
# Runs for different targets

The target of the options says only which code is kept: a run for one target is the run for both
without the other code and its samples (`TargetsAgree`).  The expression for a document is that of its
run, and a run has one sample if it writes an expression for visible layers (`entries_agree`).
-/

namespace DesignCode

/-- The same options for another target. -/
def Options.withTarget (o : Options) (target : Target) : Options := { o with target }

/-- What is written for nodes if there are any, and else the error marker. -/
def codeOr (write : Tree Node → String) (nodes : Option (Tree Node)) : String :=
  (nodes.map write).getD errorMarker

section

variable (o : Options) (layers : Tree Layer)

/-- Nodes and counts do not depend on the options, and code and samples not on the other code. -/
theorem ofLayers_withTarget (target : Target) :
    Generation.ofLayers (o.withTarget target) layers =
      { root := (survey layers none).1
        survey := (survey layers none).2
        expression :=
          if target.wantsExpression then some (codeOr (expressionCode o) (survey layers none).1)
          else none
        component :=
          if target.wantsComponent then some (codeOr (componentCode o) (survey layers none).1)
          else none
        samples := fun ms =>
          if target.wantsExpression then (survey layers none).1.toList.map (expressionSample ms)
          else [] } := by
  unfold Generation.ofLayers
  generalize survey layers none = surveyed
  obtain ⟨root, seen⟩ := surveyed
  cases root <;> cases target <;> rfl

theorem expression_ofLayers :
    (Generation.ofLayers o layers).expression =
      if o.target.wantsExpression then some (codeOr (expressionCode o) (survey layers none).1)
      else none :=
  congrArg Generation.expression (ofLayers_withTarget o layers o.target)

theorem length_nodes :
    (survey layers none).1.toList.length = if layers.value.isHidden then 0 else 1 := by
  by_cases hidden : layers.value.isHidden = true
  · rw [if_pos hidden, (survey_eq_none_iff layers none).2 hidden]
    rfl
  · have shown := mt (survey_eq_none_iff layers none).1 hidden
    obtain ⟨t, nodes⟩ := Option.ne_none_iff_exists'.1 shown
    rw [if_neg hidden, nodes]
    rfl

theorem length_samples (target : Target) (ms : Float) :
    ((Generation.ofLayers (o.withTarget target) layers).samples ms).length =
      if target.wantsExpression ∧ ¬ layers.value.isHidden then 1 else 0 := by
  rw [ofLayers_withTarget]
  by_cases wanted : target.wantsExpression = true
  · dsimp only
    rw [if_pos wanted, List.length_map, length_nodes]
    by_cases hidden : layers.value.isHidden = true <;> simp [wanted, hidden]
  · simp [wanted]

end

/-- How the runs for the targets relate on the same layers. -/
structure TargetsAgree (o : Options) (layers : Tree Layer) : Prop where
  /-- The run for both codes has the expression of the nodes, or the error marker. -/
  expression : (Generation.ofLayers (o.withTarget .both) layers).expression =
    some (codeOr (expressionCode o) (survey layers none).1)
  /-- It has the component of the nodes, or the error marker. -/
  component : (Generation.ofLayers (o.withTarget .both) layers).component =
    some (codeOr (componentCode o) (survey layers none).1)
  /-- The run for the expression differs from it in the component only, which is absent. -/
  onlyExpression : Generation.ofLayers (o.withTarget .expression) layers =
    { Generation.ofLayers (o.withTarget .both) layers with component := none }
  /-- The run for the component has neither the expression nor its sample. -/
  onlyComponent : Generation.ofLayers (o.withTarget .component) layers =
    { Generation.ofLayers (o.withTarget .both) layers with
      expression := none
      samples := fun _ => [] }
  /-- The logs differ in the time only. -/
  sessionLog : ∀ target ms ms',
    { (Generation.ofLayers (o.withTarget target) layers).sessionLog ms with durationMs := ms' } =
      (Generation.ofLayers (o.withTarget .both) layers).sessionLog ms'
  /-- There is one sample if an expression is written for visible layers, and none otherwise. -/
  samples : ∀ target ms, ((Generation.ofLayers (o.withTarget target) layers).samples ms).length =
    if target.wantsExpression ∧ ¬ layers.value.isHidden then 1 else 0

theorem targetsAgree (o : Options) (layers : Tree Layer) : TargetsAgree o layers where
  expression := by rw [ofLayers_withTarget]; rfl
  component := by rw [ofLayers_withTarget]; rfl
  onlyExpression := by rw [ofLayers_withTarget, ofLayers_withTarget]; rfl
  onlyComponent := by rw [ofLayers_withTarget, ofLayers_withTarget]; rfl
  sessionLog target ms ms' := by rw [ofLayers_withTarget, ofLayers_withTarget]; rfl
  samples := length_samples o layers

/-- How the ways to generate code agree. -/
structure EntriesAgree (o : Options) : Prop where
  /-- If there is no run for a document, the expression for it is the error marker. -/
  noRun : ∀ d, Generation.ofDocument o d = none → documentCode o d = errorMarker
  /-- The run for a document has the expression for it, if one is wanted. -/
  run : ∀ d g, Generation.ofDocument o d = some g →
    g.expression = if o.target.wantsExpression then some (documentCode o d) else none
  /-- The target only says which code is kept. -/
  targets : ∀ layers, TargetsAgree o layers

/-- The expression for a document is that of its run, and the runs for the targets agree. -/
theorem entries_agree (o : Options) : EntriesAgree o where
  noRun d absent := by
    rw [Generation.ofDocument, Option.map_eq_none_iff] at absent
    rw [documentCode, absent]
    rfl
  run d g made := by
    obtain ⟨layers, root, rfl⟩ := Option.map_eq_some_iff.1 made
    rw [expression_ofLayers, documentCode, root]
    rfl
  targets := targetsAgree o

end DesignCode
