import DesignCode.Node.OfLayer
import DesignCode.Proofs.Code.Style
import DesignCode.Proofs.Node.Survey

/-!
# How the records of a node fit together

The position of a node is chosen by whether the layer that it stands in arranges its children
(`Layer.isAutoLayout`), the flex box by the direction of its own layer.  `Node.isCoherent_survey` says that
these agree at each node of the tree that a survey makes, and with them what the node displays.
-/

namespace DesignCode

namespace Node

/-- How the records of the root of a tree fit together, with each other and with the positions of its
children. -/
structure IsCoherent (above : List Node) (t : Tree Node) : Prop where
  height : t.value.height = none ↔ t.value.width = none
  position : t.value.position = none ↔ t.value.width = none
  /-- Only a node that stands in no other one is a root, and it is one if it has a box. -/
  root : t.value.position = some .root ↔ above = [] ∧ t.value.width ≠ none
  arranged : t.value.flex ≠ none →
    ∀ c ∈ t.children, c.value.position = some .flexItem ∨ c.value.position = none
  offset : t.value.flex = none →
    ∀ c ∈ t.children, (∃ p, c.value.position = some (.absolute p)) ∨ c.value.position = none
  holds : t.value.flex ≠ none → hasAbsoluteChild t = false
  /-- What arranges its children is no frame for children with an offset. -/
  display : ∀ p i, ¬ ((style p i t).display? "display" = some "flex" ∧
    (style p i t).display? "position" = some "relative")
  visual : t.value.visual ≠ none
  effects : ∀ e, t.value.effects = some e → e.isEmpty = false
  text : ∀ c, t.value.text = some c → t.value.kind = .text ∧ c.characters ≠ ""

/-! ### Records of one layer -/

section

variable (l : Layer) (parent : Option Layer)

theorem width_ofLayer_eq_none : (ofLayer l parent).width = none ↔ l.box = none := by
  simp [ofLayer, Layer.size]

theorem height_ofLayer_eq_none : (ofLayer l parent).height = none ↔ l.box = none := by
  simp [ofLayer, Layer.size]

/-- A layer arranges its children exactly if its node has a flex box. -/
theorem isSome_flex_ofLayer : (ofLayer l parent).flex.isSome = l.isAutoLayout := by
  show l.flexBox.isSome = l.isAutoLayout
  rw [Layer.flexBox, Option.isSome_map, Layer.direction, Layer.isAutoLayout]
  cases l.layoutMode with
  | none => rfl
  | some mode => cases mode <;> rfl

theorem isEmpty_effects_ofLayer {e : Effects} (h : (ofLayer l parent).effects = some e) :
    e.isEmpty = false := by
  change l.effectsRecord = some e at h
  rw [Layer.effectsRecord] at h
  split_ifs at h with empty
  obtain rfl := Option.some_inj.1 h
  simpa [Shading.isEmpty, Effects.isEmpty] using empty

theorem text_ofLayer {c : TextContent} (h : (ofLayer l parent).text = some c) :
    (ofLayer l parent).kind = .text ∧ c.characters ≠ "" := by
  change l.textContent = some c at h
  rw [Layer.textContent] at h
  split_ifs at h with text
  obtain ⟨characters, given, rfl⟩ := Option.map_eq_some_iff.1 h
  obtain ⟨-, nonempty⟩ := Option.filter_eq_some_iff.1 given
  exact ⟨of_decide_eq_true text, of_decide_eq_true nonempty⟩

end

/-! ### Positions -/

/-- Where a layer stands that has a box with a given corner. -/
def positionAt (corner : Point) : Option Layer → Position
  | none => .root
  | some p =>
    if p.isAutoLayout then .flexItem else .absolute (corner - (p.box.map Rect.origin).getD Point.zero)

theorem position_ofLayer (l : Layer) (parent : Option Layer) :
    (ofLayer l parent).position = l.box.map fun b => positionAt b.origin parent := by
  show (l.place parent).1 = _
  unfold Layer.place
  cases l.box with
  | none => rfl
  | some b =>
    cases parent with
    | none => rfl
    | some p =>
      dsimp only [Option.map_some, positionAt]
      split_ifs
      · rfl
      · cases p.box <;> rfl

theorem position_ofLayer_eq_none (l : Layer) (parent : Option Layer) :
    (ofLayer l parent).position = none ↔ l.box = none := by
  rw [position_ofLayer, Option.map_eq_none_iff]

theorem positionAt_eq_root_iff (corner : Point) (parent : Option Layer) :
    positionAt corner parent = .root ↔ parent = none := by
  cases parent with
  | none => simp [positionAt]
  | some p =>
    rw [positionAt]
    split_ifs <;> simp

theorem position_ofLayer_eq_root (l : Layer) (parent : Option Layer) :
    (ofLayer l parent).position = some .root ↔ parent = none ∧ l.box ≠ none := by
  rw [position_ofLayer]
  cases l.box with
  | none => simp
  | some b => simp [positionAt_eq_root_iff]

theorem position_ofLayer_arranged (l : Layer) {p : Layer} (arranges : p.isAutoLayout = true) :
    (ofLayer l (some p)).position = some .flexItem ∨ (ofLayer l (some p)).position = none := by
  rw [position_ofLayer]
  cases l.box with
  | none => exact .inr rfl
  | some b => exact .inl (congrArg some (if_pos arranges))

theorem position_ofLayer_offset (l : Layer) {p : Layer} (free : ¬ p.isAutoLayout = true) :
    (∃ q, (ofLayer l (some p)).position = some (.absolute q)) ∨
      (ofLayer l (some p)).position = none := by
  rw [position_ofLayer]
  cases l.box with
  | none => exact .inr rfl
  | some b => exact .inl ⟨_, congrArg some (if_neg free)⟩

/-! ### What is displayed -/

section

variable (p : Palette) (i : Inherited) (t : Tree Node)

/-- Only a flex box displays its node as one. -/
theorem flex_of_display {v : String} (h : (style p i t).display? "display" = some v) :
    t.value.flex ≠ none := by
  rw [display?_style p i t .flex (by decide)] at h
  intro none
  rw [partStyle, none] at h
  cases h

/-- Only a node with a child at an offset is placed to be a frame for it. -/
theorem hasAbsoluteChild_of_display (h : (style p i t).display? "position" = some "relative") :
    hasAbsoluteChild t = true := by
  rw [display?_style p i t .place (by decide), partStyle, placeStyle] at h
  split at h
  · exact absurd (Option.some.inj h) (by decide)
  · split_ifs at h with holds
    · exact holds
    · cases h

end

/-! ### Trees of nodes -/

/-- In a tree of nodes of layers the children of a flex box stand at no offset. -/
theorem IsTreeOf.isCoherent {parent : Option Layer} {t : Tree Node} (h : IsTreeOf parent t)
    {above : List Node} (outer : parent = none ↔ above = []) : IsCoherent above t := by
  obtain ⟨l, cs, below⟩ := h
  have arranged : l.isAutoLayout = true →
      ∀ c ∈ cs, c.value.position = some .flexItem ∨ c.value.position = none := by
    intro arranges c hc
    obtain ⟨lc, value⟩ := (below c hc).value
    exact value ▸ position_ofLayer_arranged lc arranges
  have holds : l.isAutoLayout = true → hasAbsoluteChild (.node (ofLayer l parent) cs) = false := by
    intro arranges
    refine List.any_eq_false.2 ?_
    intro c hc
    rcases arranged arranges c hc with item | none
    · simp [isAbsolute, item, Position.isAbsolute]
    · simp [isAbsolute, none]
  have flex : (ofLayer l parent).flex ≠ none ↔ l.isAutoLayout = true := by
    rw [← isSome_flex_ofLayer l parent, Option.isSome_iff_ne_none]
  exact
    { height := (height_ofLayer_eq_none l parent).trans (width_ofLayer_eq_none l parent).symm
      position := (position_ofLayer_eq_none l parent).trans (width_ofLayer_eq_none l parent).symm
      root := by
        show (ofLayer l parent).position = _ ↔ _ ∧ (ofLayer l parent).width ≠ none
        rw [position_ofLayer_eq_root, outer, Ne, Ne, width_ofLayer_eq_none]
      arranged := fun given => arranged (flex.1 given)
      offset := by
        intro none c hc
        obtain ⟨lc, value⟩ := (below c hc).value
        exact value ▸ position_ofLayer_offset lc fun arranges => flex.2 arranges none
      holds := fun given => holds (flex.1 given)
      display := by
        rintro p i ⟨display, position⟩
        have given := flex_of_display p i _ display
        have frame := hasAbsoluteChild_of_display p i _ position
        rw [holds (flex.1 given)] at frame
        cases frame
      visual := nofun
      effects := fun _ => isEmpty_effects_ofLayer l parent
      text := fun _ => text_ofLayer l parent }

/-- The records of each node of a survey fit together with those of its children and of the nodes above. -/
theorem isCoherent_survey (layers : Tree Layer) :
    ∀ x ∈ (survey layers none).1.elim [] Tree.subtrees, IsCoherent x.1 x.2 := by
  cases h : (survey layers none).1 with
  | none => nofun
  | some t =>
    intro x hx
    obtain ⟨p, top, made⟩ := (isTreeOf_survey h).of_mem (by simp) x hx
    exact made.isCoherent top

/-- A row with a box. -/
def toolbar : Layer := { kind := .frame, layoutMode := some .horizontal, box := some ⟨0, 0, 320, 48⟩ }

/-- A text in the row. -/
def toolbarTitle : Layer :=
  { kind := .text, opacity := some 0.5, characters := some "Title", box := some ⟨8, 16, 100, 16⟩ }

theorem isCoherent_toolbarTitle :
    let x := ([ofLayer toolbar none], Tree.node (ofLayer toolbarTitle (some toolbar)) [])
    x ∈ (survey (.node toolbar [.node toolbarTitle []]) none).1.elim [] Tree.subtrees ∧
      IsCoherent x.1 x.2 := by
  intro x
  have mem : x ∈ (survey (.node toolbar [.node toolbarTitle []]) none).1.elim [] Tree.subtrees :=
    List.mem_cons_of_mem _ List.mem_cons_self
  exact ⟨mem, isCoherent_survey _ x mem⟩

end Node

end DesignCode
