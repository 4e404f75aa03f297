import DesignCode.Proofs.Code.Expression
import DesignCode.Proofs.Node.Walk

/-!
# Documents that are reported as empty

The error marker stands for code exactly if the tree that code is generated from is missing or hidden
(`documentCode_eq_errorMarker_iff`).  That tree is not looked for in the whole design once nodes were
requested, so a visible design beside requested nodes without a tree is reported as empty
(`marker_iff`).
-/

namespace DesignCode

namespace Document

/-- The tree of the first requested node. -/
def requested? (d : Document) : Option (Tree Layer) :=
  d.nodes.bind fun nodes => nodes.values.head?.join

/-- The tree of the first requested node if there is one, or else the whole design. -/
def drawable? (d : Document) : Option (Tree Layer) := d.requested?.or d.document

/-- Neither a requested node nor the whole design is there to be drawn. -/
def IsBlank (d : Document) : Prop := ∀ t ∈ d.drawable?, t.value.isHidden = true

/-- Nodes were requested, the first one has no tree, and the whole design is there and visible. -/
structure IsPassedOver (d : Document) : Prop where
  nodes : d.nodes.isSome = true
  requested : d.requested? = none
  document : ∃ t ∈ d.document, t.value.isHidden = false

theorem root?_of_requested {d : Document} (h : d.nodes.isSome = true) : d.root? = d.requested? := by
  obtain ⟨nodes, found⟩ := Option.isSome_iff_exists.1 h
  rw [root?, requested?, found]
  rfl

/-- Code is generated from the tree to be drawn, unless requested nodes without a tree stand before the
whole design. -/
theorem root?_eq_drawable? {d : Document} (h : ¬ (d.nodes.isSome = true ∧ d.requested? = none)) :
    d.root? = d.drawable? := by
  by_cases nodes : d.nodes.isSome = true
  · obtain ⟨t, found⟩ := Option.ne_none_iff_exists'.1 fun none => h ⟨nodes, none⟩
    rw [root?_of_requested nodes, drawable?, found, Option.some_or]
  · rw [Option.not_isSome_iff_eq_none] at nodes
    rw [root?, drawable?, requested?, nodes, Option.bind_none, Option.none_or]

end Document

/-- No expression is the error marker. -/
theorem expressionCode_ne_errorMarker (o : Options) (t : Tree Node) :
    expressionCode o t ≠ errorMarker := by
  intro same
  have first : (expressionCode o t).toList.head? = some '(' := by
    rw [toList_expressionCode]
    rfl
  rw [same] at first
  exact absurd first (by decide)

theorem getD_expressionCode_eq_errorMarker_iff (o : Options) (nodes : Option (Tree Node)) :
    (nodes.map (expressionCode o)).getD errorMarker = errorMarker ↔ nodes = none := by
  cases nodes with
  | none => simp
  | some t => simpa using expressionCode_ne_errorMarker o t

/-- The error marker stands for a document without a tree and for one whose tree is hidden. -/
theorem documentCode_eq_errorMarker_iff (o : Options) (d : Document) :
    documentCode o d = errorMarker ↔ ∀ t ∈ d.root?, t.value.isHidden = true := by
  rw [documentCode, getD_expressionCode_eq_errorMarker_iff]
  cases d.root? with
  | none => simp
  | some t => simpa using survey_eq_none_iff t none

/-- The error marker stands for exactly the documents in which neither a requested node nor the whole
design is visible, unless a visible design is passed over for the sake of requested nodes without a
tree.  A text gives the marker if it is read as a document that does. -/
theorem marker_iff (o : Options) :
    (∀ d, (documentCode o d = errorMarker ↔ d.IsBlank) ↔ ¬ d.IsPassedOver) ∧
      ∀ s, textCode o s = .ok errorMarker ↔
        ∃ d, Document.parse s = .ok d ∧ documentCode o d = errorMarker := by
  refine ⟨fun d => ?_, fun s => ?_⟩
  · rw [documentCode_eq_errorMarker_iff]
    by_cases missing : d.nodes.isSome = true ∧ d.requested? = none
    · obtain ⟨nodes, requested⟩ := missing
      have marked : ∀ t ∈ d.root?, t.value.isHidden = true := by
        rw [Document.root?_of_requested nodes, requested]
        simp
      rw [iff_true_left marked, Document.IsBlank, Document.drawable?, requested, Option.none_or]
      constructor
      · rintro hidden ⟨-, -, t, mem, visible⟩
        rw [hidden t mem] at visible
        cases visible
      · intro kept t mem
        rw [← Bool.not_eq_false]
        exact fun visible => kept ⟨nodes, requested, t, mem, visible⟩
    · rw [Document.root?_eq_drawable? missing]
      exact iff_of_true Iff.rfl fun passedOver => missing ⟨passedOver.nodes, passedOver.requested⟩
  · rw [textCode]
    cases Document.parse s with
    | error fault => simp [Except.map]
    | ok d => simp [Except.map]

/-- A visible design is reported as empty if an empty map of requested nodes stands beside it. -/
theorem designBesideNoNodes_marked :
    ¬ ∀ o d, documentCode o d = errorMarker ↔ Document.IsBlank d := by
  intro marked
  let page : Tree Layer := .node { id := "1", name := "Card", kind := .frame } []
  let d : Document := { nodes := some .empty, document := some page }
  have blank : d.IsBlank := (marked {} d).1 rfl
  exact absurd (blank page rfl) (by decide)

end DesignCode
