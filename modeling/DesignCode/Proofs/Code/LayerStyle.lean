import DesignCode.Proofs.Code.Style
import DesignCode.Proofs.Css.Values
import DesignCode.Proofs.Node.Survey

/-!
# The style of a layer and of its node

A layer has a style map of its own, and its node gets one for the generated code.  Both display the same
sizes, the same arrangement of children, the same border, corners, shadows and fonts (`SameStyle`).  They
differ on purpose in the blurs, of which the node has only the last one, and in the background of texts
and images.
-/

namespace DesignCode

namespace Typography

/-- The properties of a font and of the flow of its text. -/
def fontKeys : List String :=
  ["font-family", "font-size", "font-weight", "letter-spacing", "line-height", "text-align",
   "text-decoration", "text-transform", "white-space", "word-break"]

theorem fontKeys_subset : fontKeys ⊆ Layer.Part.keys .text := by
  decide

/-- The record of a text that is set like this. -/
def content (t : Typography) (characters : String) (color : Option String) : TextContent where
  characters := characters
  fontFamily := t.fontFamily
  fontSize := t.fontSize
  fontWeight := t.fontWeight
  color := color
  lineHeight := t.lineHeight
  letterSpacing := t.letterSpacing
  paragraphSpacing := t.paragraphSpacing
  textAlign := t.textAlign
  textDecoration := t.textDecoration
  textTransform := t.textTransform

/-- In whatever color a text is written, its font is that of its type style. -/
theorem display_content (t : Typography) (characters : String) (own : Option String) (color : String)
    {key : String} (h : key ∈ fontKeys) :
    (((t.content characters own).fontStyle color ++ (t.content characters own).flowStyle).lookup
        key).map StyleValue.display =
      (t.style.lookup key).map StyleValue.display := by
  rw [TextContent.fontStyle, TextContent.flowStyle, ← StyleMap.given_append, style,
    StyleMap.display_lookup_given (by simp), StyleMap.display_lookup_given (by simp)]
  simp only [fontKeys, List.mem_cons, List.not_mem_nil, or_false] at h
  rcases h with rfl | rfl | rfl | rfl | rfl | rfl | rfl | rfl | rfl | rfl
  all_goals rfl

end Typography

/-- What the style `m` of a layer and the style `s` of its node have in common. -/
structure SameStyle (l : Layer) (m s : StyleMap) : Prop where
  size : ∀ key ∈ ["width", "height"], s.display? key = m.display? key
  arrangement : ∀ key ∈ FlexBox.keys, s.display? key = m.display? key
  border : s.display? "border" = m.display? "border"
  shadow : s.display? "box-shadow" = m.display? "box-shadow"
  /-- Both have rounded corners or none has; the lengths of the four corners are the same. -/
  corners : Option.Rel Css.SameCorners (m.display? "border-radius") (s.display? "border-radius")
  background : l.textContent = none → l.hasImageFill = false →
    s.display? "background" = m.display? "background"
  blur : Option.Rel Css.IsLastBlur (m.display? "filter") (s.display? "filter")
  backdrop : Option.Rel Css.IsLastBlur (m.display? "backdrop-filter") (s.display? "backdrop-filter")
  font : l.kind.isText = true → l.style.isSome = true → l.hasCharacters = true →
    ∀ key ∈ Typography.fontKeys, s.display? key = m.display? key

section

variable (l : Layer) (parent : Option Layer) (nodes : List (Tree Node)) (p : Palette) (i : Inherited)

/-- The style of the node of a layer. -/
def Layer.nodeStyle : StyleMap := Node.style p i (.node (Node.ofLayer l parent) nodes)

namespace Layer

theorem nodeStyle_size : ∀ key ∈ ["width", "height"],
    (l.nodeStyle parent nodes p i).display? key = l.styles.display? key := by
  intro key hk
  have box : key ∈ Part.keys .box := List.mem_append_left ["overflow", "opacity"] hk
  rw [nodeStyle, Node.display?_given p i _ .size rfl rfl hk, l.display?_given .box rfl rfl box]
  simp only [List.mem_cons, List.not_mem_nil, or_false] at hk
  rcases hk with rfl | rfl
  · exact Option.map_map ..
  · exact Option.map_map ..

theorem nodeStyle_arrangement : ∀ key ∈ FlexBox.keys,
    (l.nodeStyle parent nodes p i).display? key = l.styles.display? key := by
  intro key hk
  rw [nodeStyle, Node.display?_style p i _ .flex hk, l.display?_styles .layout hk]
  rfl

/-! ### Background, border and corners -/

theorem nodeStyle_border :
    (l.nodeStyle parent nodes p i).display? "border" = l.styles.display? "border" := by
  rw [nodeStyle, Node.display?_given p i _ .visual rfl rfl (by decide), l.display?_border]
  rfl

theorem nodeStyle_corners :
    Option.Rel Css.SameCorners (l.styles.display? "border-radius")
      ((l.nodeStyle parent nodes p i).display? "border-radius") := by
  rw [nodeStyle, Node.display?_given p i _ .visual rfl rfl (by decide),
    l.display?_given .stroke rfl rfl (by decide)]
  show Option.Rel _ (l.corners.map Corners.css) ((l.corners.map Corners.radii).map Css.radii)
  -- the layer writes its radii as it has them, the node writes one for all if they agree
  cases l.corners with
  | none => exact .none
  | some corners =>
    cases corners with
    | uniform r => exact .some ⟨_, Css.cornerLengths?_px r, Css.cornerLengths?_radii _⟩
    | each q => exact .some ⟨_, Css.cornerLengths?_quadPx q, Css.cornerLengths?_radii q⟩

theorem nodeStyle_background (noText : l.textContent = none) (noImage : l.hasImageFill = false) :
    (l.nodeStyle parent nodes p i).display? "background" = l.styles.display? "background" := by
  rw [nodeStyle, Node.display?_given p i _ .visual rfl rfl (by decide), l.display?_background]
  show (Node.ofLayer l parent).background = l.background
  -- a text has no background, and only a placeholder has one besides that of its fills
  have text : (Node.ofLayer l parent).isText = false := by
    show l.textContent.isSome = false
    rw [noText]
    rfl
  have placeholder : (Node.ofLayer l parent).placeholder = none := by
    show l.placeholder = none
    rw [Layer.placeholder, noImage]
    rfl
  rw [Node.background, text, placeholder]
  show (l.background <|> none) = l.background
  cases l.background <;> rfl

/-! ### Shadows and blurs -/

/-- The record of effects is left out only if nothing would be read off it. -/
theorem effectsRecord_bind {β : Type} (f : Effects → Option β) (none : f {} = none) :
    l.effectsRecord.bind f =
      f { shadows := l.shading.shadows, blur := l.shading.layerBlurs.getLast?
          backdropBlur := l.shading.backgroundBlurs.getLast? } := by
  unfold effectsRecord
  dsimp only
  split_ifs with empty
  · simp only [Shading.isEmpty, List.isEmpty_iff, decide_eq_true_eq] at empty
    rw [empty.1, empty.2.1, empty.2.2]
    exact none.symm
  · rfl

theorem nodeStyle_shadow :
    (l.nodeStyle parent nodes p i).display? "box-shadow" = l.styles.display? "box-shadow" := by
  rw [nodeStyle, Node.display?_given p i _ .effects rfl rfl (by decide),
    l.display?_given .effects rfl rfl (by decide)]
  exact l.effectsRecord_bind (fun e => Css.shadows e.shadows) rfl

theorem nodeStyle_blur :
    Option.Rel Css.IsLastBlur (l.styles.display? "filter")
      ((l.nodeStyle parent nodes p i).display? "filter") := by
  rw [nodeStyle, Node.display?_given p i _ .effects rfl rfl (by decide),
    l.display?_given .effects rfl rfl (by decide)]
  have last := l.effectsRecord_bind (fun e => Css.blurs e.blur.toList) rfl
  exact last ▸ Css.isLastBlur_blurs l.shading.layerBlurs

theorem nodeStyle_backdrop :
    Option.Rel Css.IsLastBlur (l.styles.display? "backdrop-filter")
      ((l.nodeStyle parent nodes p i).display? "backdrop-filter") := by
  rw [nodeStyle, Node.display?_given p i _ .effects rfl rfl (by decide),
    l.display?_given .effects rfl rfl (by decide)]
  have last := l.effectsRecord_bind (fun e => Css.blurs e.backdropBlur.toList) rfl
  exact last ▸ Css.isLastBlur_blurs l.shading.backgroundBlurs

/-! ### Fonts -/

theorem textContent_of_typography {l : Layer} {t : Typography} {characters : String}
    (text : l.kind.isText = true) (set : l.typography = some t) (given : l.characters = some characters)
    (ne : characters ≠ "") :
    l.textContent = some (t.content characters (t.color <|> l.textColor)) := by
  rw [textContent, if_pos text, given, set, Option.filter_some_pos (by simpa using ne)]
  rfl

theorem nodeStyle_font (text : l.kind.isText = true) (style : l.style.isSome = true)
    (characters : l.hasCharacters = true) :
    ∀ key ∈ Typography.fontKeys,
      (l.nodeStyle parent nodes p i).display? key = l.styles.display? key := by
  intro key hk
  obtain ⟨s, hs⟩ := Option.isSome_iff_exists.1 style
  obtain ⟨c, hc, ne⟩ : ∃ c, l.characters = some c ∧ c ≠ "" := by
    simpa [hasCharacters, Option.any_eq_true] using characters
  have set : l.typography = some (typographyOf s l.textColor) := by
    rw [typography, if_pos text, hs]
    rfl
  have content : (Node.ofLayer l parent).text = _ := textContent_of_typography text set hc ne
  have own : key ∈ Part.keys .text := Typography.fontKeys_subset hk
  have shared : key ∈ Node.Part.keys .text := List.mem_cons_of_mem _ hk
  rw [nodeStyle, Node.display?_style p i _ .text shared, l.display?_styles .text own, partStyle, set]
  show ((Node.textStyle (Node.ofLayer l parent) p i).lookup key).map _ = _
  rw [Node.textStyle, content]
  exact Typography.display_content _ _ _ _ hk

end Layer

end

/-- The style that a layer has and the style that its node gets, whatever the parent, the palette and the
inherited values are. -/
theorem sameStyle_survey (t : Tree Layer) (parent : Option Layer) (p : Palette) (i : Inherited)
    (visible : t.value.isHidden = false) :
    ∃ n, (survey t parent).1 = some n ∧ SameStyle t.value t.value.styles (Node.style p i n) := by
  obtain ⟨l, cs⟩ := t
  refine ⟨_, survey_of_visible visible parent cs, ?_⟩
  exact
    { size := l.nodeStyle_size parent _ p i
      arrangement := l.nodeStyle_arrangement parent _ p i
      border := l.nodeStyle_border parent _ p i
      shadow := l.nodeStyle_shadow parent _ p i
      corners := l.nodeStyle_corners parent _ p i
      background := l.nodeStyle_background parent _ p i
      blur := l.nodeStyle_blur parent _ p i
      backdrop := l.nodeStyle_backdrop parent _ p i
      font := l.nodeStyle_font parent _ p i }

/-- A text in a font of its own, with round corners and two blurs. -/
def blurredText : Layer :=
  { id := "1", name := "Title", kind := .text, characters := some "Hello", cornerRadius := some 8
    effects := some [.layerBlur 2, .layerBlur 4]
    style := some { fontFamily := some "Inter", textAlign := some "CENTER" } }

theorem sameStyle_blurredText :
    blurredText.isHidden = false ∧
      ∃ n, (survey (.node blurredText []) none).1 = some n ∧
        SameStyle blurredText blurredText.styles (Node.style {} {} n) :=
  ⟨rfl, sameStyle_survey (.node blurredText []) none {} {} rfl⟩

end DesignCode
