import DesignCode.Code.Style
import DesignCode.Proofs.Layer.Styles

/-!
# What the style map of a node displays

Each property of a node belongs to one part of its style, and the style map displays it as that part has
it (`display?_style`).
-/

namespace DesignCode.Node

/-- The parts of which the style of a node is made. -/
inductive Part where
  | size
  | place
  | flex
  | visual
  | effects
  | text
  | opacity
deriving DecidableEq

namespace Part

/-- The parts in the order in which they are written. -/
def all : List Part := [size, place, flex, visual, effects, text, opacity]

/-- The properties that a part may have. -/
def keys : Part → List String
  | size => ["width", "height"]
  | place => ["position", "left", "top"]
  | flex => FlexBox.keys
  | visual => ["background", "border", "border-radius"]
  | effects => ["box-shadow", "filter", "backdrop-filter"]
  | text =>
    ["color", "font-family", "font-size", "font-weight", "letter-spacing", "line-height", "text-align",
     "text-decoration", "text-transform", "white-space", "word-break"]
  | opacity => ["opacity"]

theorem mem_all (part : Part) : part ∈ all := by
  cases part <;> decide

end Part

section

variable (p : Palette) (i : Inherited) (t : Tree Node)

/-- The properties of a part of the style of the root of a tree. -/
def partStyle : Part → List (String × StyleValue)
  | .size => t.value.sizeStyle
  | .place => t.value.placeStyle (hasAbsoluteChild t)
  | .flex => (t.value.flex.map (·.style)).getD []
  | .visual => t.value.visualStyle
  | .effects => t.value.effectsStyle
  | .text => t.value.textStyle p i
  | .opacity => t.value.opacityStyle i

theorem properties_eq_flatMap : properties p i t = Part.all.flatMap (partStyle p i t) := by
  simp [properties, Part.all, partStyle]

theorem keys_placeStyle (n : Node) (holdsAbsolute : Bool) :
    ((n.placeStyle holdsAbsolute).map Prod.fst).Sublist (Part.keys .place) := by
  have position : ["position"].Sublist (Part.keys .place) := List.singleton_sublist.2 (by decide)
  unfold placeStyle
  split
  · exact StyleMap.keys_given _
  · exact (StyleMap.keys_given _).trans position

theorem keys_partStyle (part : Part) :
    ((partStyle p i t part).map Prod.fst).Sublist part.keys := by
  cases part with
  | size => exact StyleMap.keys_given _
  | place => exact keys_placeStyle _ _
  | flex => exact StyleMap.keys_flexBox t.value.flex
  | visual => exact StyleMap.keys_given _
  | effects => exact StyleMap.keys_given _
  | text =>
    show ((t.value.textStyle p i).map Prod.fst).Sublist _
    unfold textStyle
    cases t.value.text with
    | none => exact List.nil_sublist _
    | some c =>
      rw [Option.map_some, Option.getD_some, TextContent.fontStyle, TextContent.flowStyle,
        ← StyleMap.given_append]
      exact StyleMap.keys_given _
  | opacity =>
    show ((t.value.opacityStyle i).map Prod.fst).Sublist _
    unfold opacityStyle
    dsimp only
    split_ifs
    · exact .refl _
    · exact List.nil_sublist _

theorem isDivided_partStyle : OrderedMap.IsDivided Part.all Part.keys (partStyle p i t) where
  own part _ := keys_partStyle p i t part
  distinct := by decide

theorem style_eq :
    style p i t = (OrderedMap.ofList (Part.all.flatMap (partStyle p i t))).sortKeys := by
  rw [style, properties_eq_flatMap]

/-- The map has a property as the part has it that the property belongs to. -/
theorem get?_style (part : Part) {key : String} (h : key ∈ part.keys) :
    (style p i t).get? key = (partStyle p i t part).lookup key := by
  rw [style_eq, OrderedMap.get?_sortKeys, (isDivided_partStyle p i t).get?_ofList part.mem_all h]

theorem display?_style (part : Part) {key : String} (h : key ∈ part.keys) :
    (style p i t).display? key = ((partStyle p i t part).lookup key).map StyleValue.display := by
  rw [StyleMap.display?, get?_style p i t part h]

theorem display?_given (part : Part) {es : List (String × Option String)}
    (written : partStyle p i t part = StyleMap.given es) (names : es.map Prod.fst = part.keys)
    {key : String} (h : key ∈ part.keys) : (style p i t).display? key = (es.lookup key).join := by
  rw [style_eq, StyleMap.display?_of_given (isDivided_partStyle p i t) part.mem_all written names h]

end

end DesignCode.Node
