import Mathlib.Data.List.Forall2
import DesignCode.Code.Generation
import DesignCode.Proofs.Layer.Hidden

/-!
# Hidden material in runs

Two trees of layers differ in hidden material only (`SameVisible`) if hidden subtrees stand in the same places,
whatever is in them, and the other layers are the same apart from hidden strokes, hidden effects and hidden
fills other than images.  A survey cannot tell such trees apart (`surveyFrom_eq`), so a run makes the same of
them.
-/

namespace DesignCode

/-- Whether two trees are the same apart from what is hidden in both. -/
inductive SameVisible : Tree Layer → Tree Layer → Prop
  /-- Anything may stand in place of a hidden subtree that is hidden too. -/
  | hidden {t u : Tree Layer} (ht : t.value.isHidden = true) (hu : u.value.isHidden = true) :
      SameVisible t u
  /-- Hidden strokes, effects and fills other than images may come, go and change. -/
  | node {l l' : Layer} {cs cs' : List (Tree Layer)} (same : l.withoutHidden = l'.withoutHidden)
      (below : List.Forall₂ SameVisible cs cs') : SameVisible (.node l cs) (.node l' cs')

/-! ### Surveys -/

theorem surveyFrom_of_hidden {t : Tree Layer} (h : t.value.isHidden = true)
    (parent : Option Layer) (depth : Nat) (s : Survey) :
    surveyFrom parent depth s t = (none, s.skip) := by
  cases t with
  | node l cs =>
    rw [surveyFrom]
    exact if_pos h

section

variable {l l' : Layer} (same : l.withoutHidden = l'.withoutHidden)

include same

theorem isHidden_eq : l.isHidden = l'.isHidden := by
  rw [← l.isHidden_withoutHidden, same, l'.isHidden_withoutHidden]

variable {parent parent' : Option Layer}
variable (parents : parent.map Layer.withoutHidden = parent'.map Layer.withoutHidden)

include parents

theorem ofLayer_eq : Node.ofLayer l parent = Node.ofLayer l' parent' := by
  rw [← l.ofLayer_withoutHidden, same, parents, l'.ofLayer_withoutHidden]

theorem note_eq (s : Survey) (depth : Nat) : s.note l parent depth = s.note l' parent' depth := by
  rw [← l.note_withoutHidden, same, parents, l'.note_withoutHidden]

end

mutual

/-- A survey makes the same of trees that differ in hidden material only. -/
theorem surveyFrom_eq {parent parent' : Option Layer}
    (parents : parent.map Layer.withoutHidden = parent'.map Layer.withoutHidden) (depth : Nat)
    (s : Survey) : ∀ t u : Tree Layer, SameVisible t u →
      surveyFrom parent depth s t = surveyFrom parent' depth s u
  | _, _, .hidden ht hu => by rw [surveyFrom_of_hidden ht, surveyFrom_of_hidden hu]
  | .node l cs, .node l' cs', .node same below => by
    rw [surveyFrom, surveyFrom, isHidden_eq same, ofLayer_eq same parents, note_eq same parents,
      surveyAll_eq same (depth + 1) _ cs cs' below]

theorem surveyAll_eq {l l' : Layer} (same : l.withoutHidden = l'.withoutHidden) (depth : Nat)
    (s : Survey) : ∀ ts us : List (Tree Layer), List.Forall₂ SameVisible ts us →
      surveyAll l depth s ts = surveyAll l' depth s us
  | [], [], .nil => by rw [surveyAll, surveyAll]
  | t :: ts, u :: us, .cons first rest => by
    have within : (some l).map Layer.withoutHidden = (some l').map Layer.withoutHidden :=
      congrArg some same
    rw [surveyAll, surveyAll, surveyFrom_eq within depth s t u first]
    dsimp only
    rw [surveyAll_eq same depth _ ts us rest]

end

/-! ### Runs -/

/-- What is hidden in both of two trees of layers has no influence on a run: the nodes, the counts and the
diagnostics, the code and the log of the session apart from the time are the same. -/
theorem ofLayers_sameVisible (o : Options) {t u : Tree Layer} (h : SameVisible t u) :
    let g := Generation.ofLayers o t
    let g' := Generation.ofLayers o u
    g.root = g'.root ∧ g.survey = g'.survey ∧ g.expression = g'.expression ∧
      g.component = g'.component ∧
      ∀ ms ms', { g.sessionLog ms with durationMs := 0 } =
        { g'.sessionLog ms' with durationMs := 0 } := by
  intro g g'
  have surveys : survey t none = survey u none := surveyFrom_eq rfl 1 {} t u h
  have runs : g = g' := by
    show Generation.ofLayers o t = Generation.ofLayers o u
    rw [Generation.ofLayers, surveys]
    rfl
  rw [runs]
  exact ⟨rfl, rfl, rfl, rfl, fun _ _ => rfl⟩

/-- A card with a border, a note that is hidden and a title. -/
def card : Tree Layer :=
  .node { id := "1", name := "Card", kind := .frame, fills := some [], strokeWeight := some 1
          strokes := some [.solid ⟨0, 0, 0, 1⟩] }
    [.node { id := "2", name := "Note", kind := .text, visible := some false } [],
     .node { id := "3", name := "Title", kind := .text, characters := some "Hello" } []]

/-- The card with another hidden subtree in place of the note, a hidden fill and a hidden stroke. -/
def editedCard : Tree Layer :=
  .node { id := "1", name := "Card", kind := .frame, fills := some [Paint.hidden (.solid ⟨1, 0, 0, 1⟩)]
          strokeWeight := some 1
          strokes := some [Paint.hidden (.image "ref"), .solid ⟨0, 0, 0, 1⟩] }
    [.node { id := "7", name := "Draft", kind := .frame, visible := some false }
       [.node { id := "8", name := "Sketch", kind := .vector } []],
     .node { id := "3", name := "Title", kind := .text, characters := some "Hello" } []]

theorem ofLayers_editedCard :
    SameVisible card editedCard ∧
      let g := Generation.ofLayers {} card
      let g' := Generation.ofLayers {} editedCard
      g.root = g'.root ∧ g.survey = g'.survey ∧ g.expression = g'.expression ∧
        g.component = g'.component ∧
        ∀ ms ms', { g.sessionLog ms with durationMs := 0 } =
          { g'.sessionLog ms' with durationMs := 0 } := by
  have title : SameVisible (.node { id := "3", name := "Title", kind := .text
                                    characters := some "Hello" } [])
      (.node { id := "3", name := "Title", kind := .text, characters := some "Hello" } []) :=
    .node rfl .nil
  have same : SameVisible card editedCard := .node rfl (.cons (.hidden rfl rfl) (.cons title .nil))
  exact ⟨same, ofLayers_sameVisible {} same⟩

end DesignCode
