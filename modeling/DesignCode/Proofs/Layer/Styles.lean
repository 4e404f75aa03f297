import DesignCode.Node.OfLayer
import DesignCode.Proofs.Css.StyleMap

/-!
# What the style map of a layer displays

Each property of a layer belongs to one part, and the style map displays it as that part has it
(`display?_styles`).  The records of a node are made of the same facts: they have the same background and
the same border, but the map has no color for a text without a type style (`styles_agree_visual_text`).
-/

namespace DesignCode

namespace Layer

/-! ### Parts -/

/-- The properties that a part may have. -/
def Part.keys : Part → List String
  | .layout => FlexBox.keys
  | .box => ["width", "height", "overflow", "opacity"]
  | .fill => ["background"]
  | .stroke => ["border", "border-radius"]
  | .text =>
    ["font-family", "font-size", "font-weight", "letter-spacing", "line-height", "text-align",
     "text-decoration", "text-transform", "white-space", "color", "word-break"]
  | .effects => ["filter", "backdrop-filter", "box-shadow"]

theorem Part.mem_all (p : Part) : p ∈ Part.all := by
  cases p <;> decide

theorem keys_partStyle (l : Layer) (p : Part) :
    ((l.partStyle p).map Prod.fst).Sublist p.keys := by
  cases p with
  | layout => exact StyleMap.keys_flexBox l.flexBox
  | text =>
    show (((l.typography.map (·.style)).getD []).map Prod.fst).Sublist _
    cases l.typography with
    | none => exact List.nil_sublist _
    | some t => exact StyleMap.keys_given _
  | box => exact StyleMap.keys_given _
  | fill => exact StyleMap.keys_given _
  | stroke => exact StyleMap.keys_given _
  | effects => exact StyleMap.keys_given _

theorem isDivided_partStyle (l : Layer) : OrderedMap.IsDivided Part.all Part.keys l.partStyle where
  own p _ := l.keys_partStyle p
  distinct := by decide

theorem styles_eq (l : Layer) :
    l.styles = (OrderedMap.ofList (Part.all.flatMap l.partStyle)).sortKeys :=
  congrArg OrderedMap.sortKeys (OrderedMap.foldl_insertAll _ Part.all l.partStyle)

/-- The map displays a property as the part has it that the property belongs to. -/
theorem display?_styles (l : Layer) (p : Part) {key : String} (h : key ∈ p.keys) :
    l.styles.display? key = ((l.partStyle p).lookup key).map StyleValue.display := by
  rw [styles_eq, StyleMap.display?_of_isDivided l.isDivided_partStyle p.mem_all h]

theorem display?_given (l : Layer) (p : Part) {es : List (String × Option String)}
    (written : l.partStyle p = StyleMap.given es) (names : es.map Prod.fst = p.keys) {key : String}
    (h : key ∈ p.keys) : l.styles.display? key = (es.lookup key).join := by
  rw [styles_eq, StyleMap.display?_of_given l.isDivided_partStyle p.mem_all written names h]

/-! ### Background, border and color of text -/

theorem display?_background (l : Layer) : l.styles.display? "background" = l.background :=
  l.display?_given .fill rfl rfl (by decide)

theorem display?_border (l : Layer) : l.styles.display? "border" = l.border.map Css.border :=
  l.display?_given .stroke rfl rfl (by decide)

theorem display?_color (l : Layer) :
    l.styles.display? "color" = l.typography.bind Typography.color := by
  rw [l.display?_styles .text (by decide), partStyle]
  cases l.typography with
  | none => rfl
  | some t =>
    show (t.style.lookup "color").map StyleValue.display = t.color
    have nodup : Part.text.keys.Nodup := l.isDivided_partStyle.nodup_keys (Part.mem_all .text)
    rw [Typography.style, StyleMap.display_lookup_given (by exact nodup)]
    rfl

/-- The record of a text always has the color of its first visible solid fill. -/
theorem color_of_textContent {l : Layer} {t : TextContent} (h : l.textContent = some t) :
    l.kind.isText = true ∧ t.color = l.textColor := by
  rw [textContent] at h
  split_ifs at h with text
  obtain ⟨characters, -, rfl⟩ := Option.map_eq_some_iff.1 h
  refine ⟨text, ?_⟩
  -- the color of the typography, if there is one, is that of the fills as well
  rw [typography, if_pos text]
  cases l.style with
  | none => rfl
  | some s =>
    show (l.textColor <|> l.textColor) = l.textColor
    cases l.textColor <;> rfl

/-- Only with a type style does the map have the color of the text. -/
theorem display?_color_of_textContent {l : Layer} {t : TextContent} (h : l.textContent = some t) :
    l.styles.display? "color" = if l.style.isSome then t.color else none := by
  obtain ⟨text, color⟩ := color_of_textContent h
  rw [display?_color, typography, if_pos text, color]
  cases l.style <;> rfl

/-- The map and the records have the same background and the same border.  They agree on the color of a
text exactly if the layer has a type style, or there is no color. -/
theorem styles_agree_visual_text (l : Layer) :
    l.styles.display? "background" = l.visual.background ∧
      l.styles.display? "border" =
        l.visual.border.map (fun b => Css.px b.weight ++ " solid " ++ b.color) ∧
      ∀ t, l.textContent = some t →
        (l.styles.display? "color" = t.color ↔ l.style.isSome = true ∨ t.color = none) := by
  refine ⟨l.display?_background, l.display?_border, ?_⟩
  intro t ht
  rw [display?_color_of_textContent ht]
  split_ifs with style
  · simp [style]
  · simp [style, eq_comm]

/-- A black text without a type style. -/
def unstyledText : Layer :=
  { id := "1", name := "Greeting", kind := .text, characters := some "Hi"
    fills := some [.solid ⟨0, 0, 0, 1⟩] }

/-- The record of a text without a type style has a color that the map does not have. -/
theorem unstyledText_color_missing :
    ∃ t, unstyledText.textContent = some t ∧ t.color.isSome = true ∧
      unstyledText.styles.display? "color" ≠ t.color := by
  refine ⟨_, rfl, rfl, ?_⟩
  rw [display?_color_of_textContent rfl]
  exact Option.some_ne_none _ ∘ Eq.symm

end Layer

end DesignCode
