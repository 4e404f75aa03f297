import DesignCode.Proofs.Code.Position

/-!
# Labels and roles in generated code

Both kinds of code attach a label and a role to the elements of placeholders and of glyphs.  They attach
the same ones to a node exactly if it is even (`Outlines.sameLabels_iff`): a square or an item with a
placeholder spoils it, and so does a line feed in a label, which moves with the markup around it.
-/

namespace DesignCode

open Script (Term)
open Text (moved)

/-- What the two kinds of code have to say alike about a node: label and role are the same, there is
either none of them or both, and there are both if the node has a placeholder. -/
structure SameLabels (n : Node) (u v : Shown) : Prop where
  label : u.label = v.label
  role : u.role = v.role
  paired : u.label.isSome = u.role.isSome ∧ v.label.isSome = v.role.isSome
  kept : n.placeholder.isSome = true → u.label.isSome = true ∧ v.label.isSome = true

/-- Label and role of a placeholder have one line each. -/
def Placeholder.IsOneLine (p : Placeholder) : Prop := '\n' ∉ p.label.toList ∧ '\n' ∉ p.role.toList

/-- A node about whose label and role both kinds of code agree: a square has no placeholder; what is
shown of another node has one line, and a text with a placeholder is no item.  A text that is shown with
a glyph, which no document has, needs a placeholder that is like the glyph. -/
def Node.IsEven (icon : Option Icon) (isItem : Prop) (n : Node) : Prop :=
  match icon with
  | some (.svg _ _ _) => n.placeholder = none
  | some (.glyph label) =>
    if n.isText then
      ¬ isItem ∧ ∃ q, n.placeholder = some q ∧ moved 4 q.label.toList = label.toList ∧
        moved 4 q.role.toList = "img".toList
    else '\n' ∉ label.toList
  | none => ∀ q, n.placeholder = some q → q.IsOneLine ∧ (n.isText = true → ¬ isItem)

/-! ### One node -/

/-- The outline `u` has the label and the role of `a`, and `v` those of `b`, moved.  They agree if both
are those of placeholders that differ by moving only, or if there are none. -/
theorem sameLabels_iff_of {n : Node} {u v : Shown} {a b : Option Placeholder}
    (ul : u.label = a.map (.text ·.label.toList)) (ur : u.role = a.map (.text ·.role.toList))
    (vl : v.label = b.map fun p => .text (moved 4 p.label.toList))
    (vr : v.role = b.map fun p => .text (moved 4 p.role.toList)) :
    SameLabels n u v ↔ a = none ∧ b = none ∧ n.placeholder = none ∨
      ∃ q r, a = some q ∧ b = some r ∧ moved 4 r.label.toList = q.label.toList ∧
        moved 4 r.role.toList = q.role.toList := by
  constructor
  · rintro ⟨label, role, -, kept⟩
    rw [ul, vl] at label kept
    rw [ur, vr] at role
    cases a with
    | none =>
      cases b with
      | none =>
        refine .inl ⟨rfl, rfl, ?_⟩
        by_contra some_
        exact absurd (kept (Option.isSome_iff_ne_none.2 some_)).1 (by simp)
      | some r => exact absurd label (by simp)
    | some q =>
      cases b with
      | none => exact absurd label (by simp)
      | some r =>
        have labels := Term.text.inj (Option.some.inj label)
        have roles := Term.text.inj (Option.some.inj role)
        exact .inr ⟨q, r, rfl, rfl, labels.symm, roles.symm⟩
  · rintro (⟨rfl, rfl, none_⟩ | ⟨q, r, rfl, rfl, labels, roles⟩)
    · refine ⟨by rw [ul, vl]; rfl, by rw [ur, vr]; rfl, by rw [ul, ur, vl, vr]; simp, ?_⟩
      rw [none_]
      exact fun h => absurd h (by simp)
    · have label : u.label = v.label := by rw [ul, vl, Option.map_some, Option.map_some, labels]
      have role : u.role = v.role := by rw [ur, vr, Option.map_some, Option.map_some, roles]
      refine ⟨label, role, by rw [ul, ur, vl, vr]; simp, fun _ => ?_⟩
      rw [ul, vl]
      simp

theorem moved_iff (cs : List Char) : moved 4 cs = cs ↔ '\n' ∉ cs :=
  Text.moved_eq_self_iff (by decide)

theorem sameLabels_glyph {s s' : Styled} (p : Place) {label : String} (icon : s.icon = some (.glyph label)) :
    SameLabels s.node (Shown.ofCall s) (Shown.ofPlaced 4 (p, s')) ↔
      ∃ r, s'.placeholderAt p = some r ∧ moved 4 r.label.toList = label.toList ∧
        moved 4 r.role.toList = "img".toList := by
  have ul : (Shown.ofCall s).label =
      (some (Placeholder.mk "img" label)).map (.text ·.label.toList) := by
    simp [Shown.ofCall, Call.label?, icon]
  have ur : (Shown.ofCall s).role =
      (some (Placeholder.mk "img" label)).map (.text ·.role.toList) := by
    simp [Shown.ofCall, Call.role?, icon]
  rw [sameLabels_iff_of ul ur rfl rfl]
  constructor
  · rintro (⟨none_, -⟩ | ⟨q, r, same, placed, labels, roles⟩)
    · exact absurd none_ (by simp)
    · rw [← Option.some.inj same] at labels roles
      exact ⟨r, placed, labels, roles⟩
  · rintro ⟨r, placed, labels, roles⟩
    exact .inr ⟨_, r, rfl, placed, labels, roles⟩

section

variable {s s' : Styled} (hn : s'.node = s.node) (hi : s'.icon = s.icon) (p : Place)

include hn hi

/-- The label of a square has no role beside it in a call. -/
theorem sameLabels_svg {width height label : String} (icon : s.icon = some (.svg width height label)) :
    SameLabels s.node (Shown.ofCall s) (Shown.ofPlaced 4 (p, s')) ↔ s.node.placeholder = none := by
  have ul : (Shown.ofCall s).label = s.node.placeholder.map (.text ·.label.toList) := by
    simp [Shown.ofCall, Call.label?, icon, Function.comp_def]
  have ur : (Shown.ofCall s).role = none := by
    simp [Shown.ofCall, Call.role?, icon]
  constructor
  · rintro ⟨-, -, ⟨paired, -⟩, -⟩
    rw [ul, ur] at paired
    cases hp : s.node.placeholder with
    | none => rfl
    | some q => rw [hp] at paired; exact absurd paired (by simp)
  · intro none_
    have placed : s'.placeholderAt p = none := by
      unfold Styled.placeholderAt
      rw [hn, hi, icon, none_]
      cases s.node.text <;> simp
    have vl : (Shown.ofPlaced 4 (p, s')).label = none := by
      simp [Shown.ofPlaced, Shown.ofMarkup, placed]
    have vr : (Shown.ofPlaced 4 (p, s')).role = none := by
      simp [Shown.ofPlaced, Shown.ofMarkup, placed]
    rw [none_] at ul
    refine ⟨by rw [ul, vl]; rfl, by rw [ur, vr], by rw [ul, ur, vl, vr]; simp, ?_⟩
    rw [none_]
    exact fun h => absurd h (by simp)

theorem sameLabels_plain (icon : s.icon = none) :
    SameLabels s.node (Shown.ofCall s) (Shown.ofPlaced 4 (p, s')) ↔
      ∀ q, s.node.placeholder = some q → q.IsOneLine ∧ (s.node.isText = true → p ≠ .item) := by
  have ul : (Shown.ofCall s).label = s.node.placeholder.map (.text ·.label.toList) := by
    simp [Shown.ofCall, Call.label?, icon, Function.comp_def]
  have ur : (Shown.ofCall s).role = s.node.placeholder.map (.text ·.role.toList) := by
    simp [Shown.ofCall, Call.role?, icon, Function.comp_def]
  have placed : s'.placeholderAt p =
      if s.node.isText = true ∧ p = .item then none else s.node.placeholder := by
    unfold Styled.placeholderAt
    rw [hn, hi, icon]
    cases ht : s.node.text <;> simp [Node.isText, ht]
  rw [sameLabels_iff_of ul ur rfl rfl, placed]
  cases hp : s.node.placeholder with
  | none => simp
  | some q =>
    by_cases hidden : s.node.isText = true ∧ p = .item
    · rw [if_pos hidden]
      simp [hidden.1, hidden.2]
    · rw [if_neg hidden]
      have shown : s.node.isText = true → p ≠ .item := fun text item => hidden ⟨text, item⟩
      simp only [reduceCtorEq, false_and, false_or, Option.some.injEq]
      constructor
      · rintro ⟨_, _, rfl, rfl, labels, roles⟩ q rfl
        exact ⟨⟨(moved_iff _).1 labels, (moved_iff _).1 roles⟩, shown⟩
      · intro even
        obtain ⟨⟨label, role⟩, -⟩ := even q rfl
        exact ⟨q, q, rfl, rfl, (moved_iff _).2 label, (moved_iff _).2 role⟩

/-- What makes the two kinds of code agree about a node. -/
theorem sameLabels_iff :
    SameLabels s.node (Shown.ofCall s) (Shown.ofPlaced 4 (p, s')) ↔
      s.node.IsEven s.icon (p = .item) := by
  unfold Node.IsEven
  split
  · next icon => exact sameLabels_svg hn hi p icon
  · next label icon =>
    rw [sameLabels_glyph p icon]
    have placed : s'.placeholderAt p =
        if s.node.isText then (if p = .item then none else s.node.placeholder)
        else some ⟨"img", label⟩ := by
      unfold Styled.placeholderAt
      rw [hn, hi, icon]
      cases ht : s.node.text <;> simp [Node.isText, ht]
    rw [placed]
    split_ifs with text item
    · simp [item]
    · simp [item]
    · simp [moved_iff]
  · next icon => exact sameLabels_plain hn hi p icon

end

theorem sameLabels_ofNode (o : Options) (tokens : TokenRegistry) (i j : Inherited) (n : Tree Node)
    (p : Place) :
    SameLabels n.value (Shown.ofCall (Styled.ofNode o tokens i n))
        (Shown.ofPlaced 4 (p, Styled.ofNode o tokens j n)) ↔
      n.value.IsEven (Styled.iconOf o n.value) (p = .item) :=
  have node : (Styled.ofNode o tokens j n).node = (Styled.ofNode o tokens i n).node := rfl
  have icon : (Styled.ofNode o tokens j n).icon = (Styled.ofNode o tokens i n).icon := rfl
  sameLabels_iff node icon p

/-- A call has a label without a role exactly if it shows a square for a placeholder. -/
theorem paired_ofCall (s : Styled) :
    (Shown.ofCall s).label.isSome = (Shown.ofCall s).role.isSome ↔
      ((∃ width height label, s.icon = some (.svg width height label)) →
        s.node.placeholder = none) := by
  cases hi : s.icon with
  | none => simp [Shown.ofCall, Call.label?, Call.role?, hi]
  | some icon =>
    cases icon with
    | svg width height label => simp [Shown.ofCall, Call.label?, Call.role?, hi]
    | glyph label => simp [Shown.ofCall, Call.label?, Call.role?, hi]

/-! ### All nodes -/

section

variable {o : Options} {t : Tree Node} {x y : Tree Shown}

theorem Outlines.sameLabels_iff (h : Outlines o t x y) {p : List Nat} {n : Tree Node}
    (hn : t.at? p = some n) (uncovered : ¬ IsCovered o t p) :
    (∀ u v, x.at? p = some u → y.at? p = some v → SameLabels n.value u.value v.value) ↔
      n.value.IsEven (Styled.iconOf o n.value) (IsItem t p) := by
  obtain ⟨i, u, hu, call⟩ := h.at?_expression hn
  obtain ⟨j, place, v, hv, item, placed⟩ := (h.at?_component hn).2 uncovered
  rw [← propext item, ← sameLabels_ofNode o (Styled.registry o t) i j n place, ← call, ← placed]
  constructor
  · exact fun same => same u v hu hv
  · intro same u' v' hu' hv'
    obtain rfl := Option.some.inj (hu.symm.trans hu')
    obtain rfl := Option.some.inj (hv.symm.trans hv')
    exact same

/-- In the expression a label has a role beside it, unless it is that of a square. -/
theorem Outlines.paired_iff (h : Outlines o t x y) :
    (∀ p u, x.at? p = some u → u.value.label.isSome = u.value.role.isSome) ↔
      ∀ p n, t.at? p = some n → n.value.IsSquare o → n.value.placeholder = none := by
  constructor
  · intro paired p n hn
    obtain ⟨i, u, hu, call⟩ := h.at?_expression hn
    have both := paired p u hu
    rw [call] at both
    exact (paired_ofCall _).1 both
  · intro square p u hu
    have at_p := hu
    rw [h.eq.1, Tree.at?_map] at at_p
    obtain ⟨v, hv, -⟩ := Option.map_eq_some_iff.1 at_p
    obtain ⟨i, found⟩ := Styled.at?_ofTree o t p
    rw [found] at hv
    obtain ⟨n, hn, -⟩ := Option.map_eq_some_iff.1 hv
    obtain ⟨i, u', hu', call⟩ := h.at?_expression hn
    obtain rfl := Option.some.inj (hu.symm.trans hu')
    rw [call]
    exact (paired_ofCall _).2 (square p n hn)

end

/-- Both kinds of code are read as trees of elements with the nodes at their positions.  They attach the
same labels and roles to all nodes that both have elements for, and no label without a role, exactly if
no square has a placeholder and all nodes that both have elements for are even. -/
theorem labels_agree_iff (o : Options) (t : Tree Node) :
    ∃ x y, Outlines o t x y ∧
      ((∀ p n u v, t.at? p = some n → x.at? p = some u → y.at? p = some v →
          SameLabels n.value u.value v.value) ∧
        (∀ p u, x.at? p = some u → u.value.label.isSome = u.value.role.isSome) ↔
        ∀ p n, t.at? p = some n →
          (n.value.IsSquare o → n.value.placeholder = none) ∧
            (¬ IsCovered o t p → n.value.IsEven (Styled.iconOf o n.value) (IsItem t p))) := by
  have h := outlines_ofTree o t
  refine ⟨_, _, h, ?_⟩
  rw [h.paired_iff]
  constructor
  · rintro ⟨same, paired⟩ p n hn
    refine ⟨paired p n hn, fun uncovered => ?_⟩
    exact (h.sameLabels_iff hn uncovered).1 fun u v => same p n u v hn
  · intro even
    refine ⟨?_, fun p n hn => (even p n hn).1⟩
    intro p n u v hn hu hv
    have uncovered : ¬ IsCovered o t p := by
      intro covered
      rw [(h.at?_component hn).1 covered] at hv
      exact absurd hv (by simp)
    exact (h.sameLabels_iff hn uncovered).2 ((even p n hn).2 uncovered) u v hu hv

/-- An ellipse that an image fills, as photos in circles are drawn. -/
def imageInEllipse : Tree Node :=
  .node { id := "1", name := "Photo", kind := .ellipse
          placeholder := some ⟨"img", "Photo placeholder"⟩ } []

/-- The two kinds of code do not agree about an ellipse that an image fills: in the expression it has a
label and no role. -/
theorem imageInEllipse_labels_differ :
    ¬ ∃ x y, Outlines {} imageInEllipse x y ∧
      ∀ p n u v, imageInEllipse.at? p = some n → x.at? p = some u → y.at? p = some v →
        SameLabels n.value u.value v.value := by
  rintro ⟨x, y, h, same⟩
  have root : imageInEllipse.at? [] = some imageInEllipse := rfl
  have even := (h.sameLabels_iff root (not_isCovered_nil {} _)).1 fun u v => same [] _ u v root
  have icon : Styled.iconOf {} imageInEllipse.value = some (.svg "24" "24" "Photo icon") := rfl
  rw [icon] at even
  exact absurd even (by simp [Node.IsEven, imageInEllipse, Tree.value])

end DesignCode
