import DesignCode.Proofs.Code.Element
import DesignCode.Proofs.Code.Writer
import DesignCode.Proofs.Script.StyleObject
import DesignCode.Proofs.Template.Fill

/-!
# What a component says

The source of a component is a fixed frame around markup that is indented by four columns.  That
markup is read back as the element of the tree of nodes, with the lines of its attributes moved by
these columns (`componentCode_reads`).
-/

namespace DesignCode

open Markup (Content IsName)
open Text (isBreak)

/-! ### The frame -/

/-- The line that exports the memoized alias of a component. -/
def memoLine (name : List Char) : List Char :=
  "export const ".toList ++ name ++ "Memo = React.memo(".toList ++ name ++ ");\n".toList

/-- The list of the rules of the text classes. -/
def rulesList (name : List Char) (rules : List (List Char)) : List Char :=
  "export const ".toList ++ name ++ "TextStyles = [\n".toList ++
    rules.flatMap (fun rule => "  ".toList ++ rule ++ ",\n".toList) ++ "].join('\\n');\n".toList

/-- The source of a component around its name and its markup. -/
def componentFrame (name : List Char) (memo : Bool) (rules : List (List Char))
    (markup : List Char) : List Char :=
  "import React from 'react';\n\nexport interface ".toList ++ name ++
    "Props \x7b\n  className?: string;\n\x7d\n\nexport const ".toList ++ name ++
    ": React.FC<".toList ++ name ++ "Props> = (\x7b className \x7d) => \x7b\n  return (\n".toList ++
    markup ++ "\n  );\n\x7d;\n".toList ++ (if memo then memoLine name else []) ++
    (if rules.isEmpty then [] else rulesList name rules) ++ "export default ".toList ++ name ++
    ";\n".toList

/-- What a component is filled with. -/
def componentData (name body : String) (memo : Bool) (rules : List String) : Json :=
  .object [("name", .string name), ("body", .string body), ("memo", .bool memo),
    ("text_styles", .strings rules)]

section Parts

variable {data : Json} {name : String}

theorem fill_memoLine (hn : Template.lookup ["name"] data = some (.string name)) :
    Template.fill data [.text "export const ", .value ["name"], .text "Memo = React.memo(",
      .value ["name"], .text ");\n"] = memoLine name.toList := by
  simp only [Template.fill_text, Template.fill_value, Template.fill_nil, hn, Option.map_some,
    Option.getD_some, Template.display]
  unfold memoLine
  simp only [List.append_assoc, List.append_nil]

/-- The rules are written one a line, each as it is given. -/
theorem fill_rulesList (hn : Template.lookup ["name"] data = some (.string name))
    {rule : String} {rules : List String}
    (hr : Operand.value data (.path ["text_styles"]) = some (.strings (rule :: rules))) :
    Template.fill data [.text "export const ", .value ["name"], .text "TextStyles = [\n",
      .each (.path ["text_styles"]) [.text "  ", .value [], .text ",\n"] [],
      .text "].join('\\n');\n"] = rulesList name.toList ((rule :: rules).map String.toList) := by
  have line (s : String) : Template.fill (.string s) [.text "  ", .value [], .text ",\n"] =
      "  ".toList ++ s.toList ++ ",\n".toList := by
    simp only [Template.fill_text, Template.fill_value, Template.fill_nil, Template.lookup_nil,
      Option.map_some, Option.getD_some, Template.display]
    simp only [List.append_assoc, List.append_nil]
  simp only [Template.fill_text, Template.fill_value, Template.fill_each_strings data hr,
    Template.fill_nil, hn, Option.map_some, Option.getD_some, Template.display, line]
  unfold rulesList
  simp only [List.append_assoc, List.append_nil, List.flatMap_map]

theorem fill_memoPart (hn : Template.lookup ["name"] data = some (.string name)) (memo : Bool) :
    Template.fill data (if memo then
        [.text "export const ", .value ["name"], .text "Memo = React.memo(", .value ["name"],
          .text ");\n"] else []) = if memo then memoLine name.toList else [] := by
  cases memo with
  | true => exact fill_memoLine hn
  | false => exact Template.fill_nil data

theorem fill_rulesPart (hn : Template.lookup ["name"] data = some (.string name))
    {rules : List String}
    (hr : Operand.value data (.path ["text_styles"]) = some (.strings rules)) :
    Template.fill data (if Template.isTruthy (.strings rules) then
        [.text "export const ", .value ["name"], .text "TextStyles = [\n",
          .each (.path ["text_styles"]) [.text "  ", .value [], .text ",\n"] [],
          .text "].join('\\n');\n"] else []) =
      if rules.isEmpty then [] else rulesList name.toList (rules.map String.toList) := by
  cases rules with
  | nil => exact Template.fill_nil data
  | cons rule rules => exact fill_rulesList hn hr

end Parts

theorem fill_component (name body : String) (memo : Bool) (rules : List String) :
    Template.component.fill (componentData name body memo rules) =
      componentFrame name.toList memo (rules.map String.toList) (Text.indent 4 body.toList) := by
  have first (j k l m : Json) :
      [("name", j), ("body", k), ("memo", l), ("text_styles", m)].lookup "name" = some j := rfl
  have second (j k l m : Json) :
      [("name", j), ("body", k), ("memo", l), ("text_styles", m)].lookup "body" = some k := rfl
  have third (j k l m : Json) :
      [("name", j), ("body", k), ("memo", l), ("text_styles", m)].lookup "memo" = some l := rfl
  have fourth (j k l m : Json) :
      [("name", j), ("body", k), ("memo", l), ("text_styles", m)].lookup "text_styles" = some m := rfl
  have named : Template.lookup ["name"] (componentData name body memo rules) =
      some (.string name) := by
    rw [componentData, Template.lookup_singleton, first]
  have bodied : Template.indented (componentData name body memo rules)
      [.path ["body"], .literal (.int 4)] = Text.indent 4 body.toList := by
    rw [componentData]
    simp [Template.indented, Operand.value, second]
  have flagged : Operand.value (componentData name body memo rules) (.path ["memo"]) =
      some (.bool memo) := by
    rw [componentData, Operand.value, Template.lookup_singleton, third]
  have ruled : Operand.value (componentData name body memo rules) (.path ["text_styles"]) =
      some (.strings rules) := by
    rw [componentData, Operand.value, Template.lookup_singleton, fourth]
  have truthy : Template.isTruthy (.bool memo) = memo := rfl
  have memoPart := fill_memoPart named memo
  have rulesPart := fill_rulesPart named ruled
  rw [Template.component]
  simp only [Template.fill_text, Template.fill_value, Template.fill_indent, Template.fill_when,
    Template.fill_nil, named, bodied, flagged, ruled, Option.map_some, Option.getD_some,
    Template.display, truthy, memoPart, rulesPart]
  unfold componentFrame
  simp only [List.append_assoc, List.append_nil, List.isEmpty_map]

theorem toList_componentCode (o : Options) (t : Tree Node) :
    (componentCode o t).toList =
      componentFrame o.identifier.toList o.memo ((componentRules o t).map String.toList)
        (Text.indent 4 (componentBody o t)) := by
  have filled := fill_component o.identifier (String.ofList (componentBody o t)) o.memo
    (componentRules o t)
  rw [String.toList_ofList] at filled
  rw [componentCode, String.toList_ofList, ← filled, componentData]

/-! ### Names of elements -/

namespace Element

theorem isNamed_attributesOf {cls : Option Attribute} (h : ∀ a ∈ cls, a.IsNamed)
    (label : Option Placeholder) (css : StyleMap) :
    ∀ a ∈ attributesOf cls label css, a.IsNamed := by
  have ariaLabel : IsName "aria-label".toList := by decide
  have role : IsName "role".toList := by decide
  intro a ha
  simp only [attributesOf, List.mem_append, Option.mem_toList, Option.map_eq_some_iff] at ha
  rcases ha with ((⟨p, -, rfl⟩ | ha) | ⟨p, -, rfl⟩) | ha
  · exact ariaLabel
  · exact h a ha
  · exact role
  · split_ifs at ha
    · exact absurd ha List.not_mem_nil
    · rw [List.mem_singleton.1 ha]
      trivial

theorem isNamed_classOf (isRoot : Bool) (s : Styled) : ∀ a ∈ classOf isRoot s, a.IsNamed := by
  have className : IsName "className".toList := by decide
  intro a ha
  unfold classOf at ha
  split_ifs at ha
  · rw [← Option.some.inj ha]
    trivial
  · obtain ⟨token, -, rfl⟩ := Option.map_eq_some_iff.1 ha
    exact className

/-- The tags of blocks that are no lists. -/
def containerTags : List String := "div" :: Landmark.all.map Landmark.tag

theorem blockTag_of_isList {s : Styled} {children : List (Tree Styled)}
    (h : isList s children = true) : blockTag s children = "ul" := if_pos h

theorem blockTag_mem {s : Styled} {children : List (Tree Styled)}
    (h : isList s children = false) : blockTag s children ∈ containerTags := by
  rw [blockTag, if_neg (by simp [h])]
  cases Landmark.ofName? s.node.name with
  | none => decide
  | some l => cases l <;> decide

theorem isName_blockTag (s : Styled) (children : List (Tree Styled)) :
    IsName (blockTag s children).toList := by
  cases list : isList s children with
  | true =>
    rw [blockTag_of_isList list]
    decide
  | false => exact (by decide : ∀ tag ∈ containerTags, IsName tag.toList) _ (blockTag_mem list)

end Element

/-- The edges of the icon of a node are written on one line. -/
def Styled.IsDrawn (s : Styled) : Prop :=
  ∀ width height label, s.icon = some (.svg width height label) →
    (∀ c ∈ width.toList, isBreak c = false) ∧ ∀ c ∈ height.toList, isBreak c = false

theorem Icon.edges_ofSource {source : IconSource} {width height label : String}
    (h : ofSource source = svg width height label) :
    ∃ w v : Float, width = Css.number w ∧ height = Css.number v ∧ label = source.label := by
  unfold ofSource at h
  dsimp only at h
  split_ifs at h
  obtain ⟨rfl, rfl, rfl⟩ := Icon.svg.inj h
  exact ⟨_, _, rfl, rfl, rfl⟩

theorem Styled.isDrawn_ofNode (o : Options) (tokens : TokenRegistry) (i : Inherited) (t : Tree Node) :
    (ofNode o tokens i t).IsDrawn := by
  intro width height label h
  have icon : iconOf o t.value = some (.svg width height label) := h
  unfold iconOf at icon
  dsimp only at icon
  split_ifs at icon
  obtain ⟨w, v, rfl, rfl, -⟩ := Icon.edges_ofSource (Option.some.inj icon)
  exact ⟨Script.noBreak_of_isWord (Css.isWord_number w), Script.noBreak_of_isWord (Css.isWord_number v)⟩

theorem Styled.isDrawn_ofTree (o : Options) (t : Tree Node) :
    ∀ s ∈ (ofTree o t).preorder, s.IsDrawn :=
  Tree.forall_mem_preorder_inherit _ (isDrawn_ofNode o (registry o t)) t {}

namespace Element

theorem isMarkup_textItem (s : Styled) (t : TextContent) : IsMarkup (textItem s t) := by
  have li : IsName "li".toList := by decide
  refine .inline li (isNamed_attributesOf (isNamed_classOf false s) none s.style) ?_
  split <;> trivial

/-- The element of a node is on one line, or it is a block for a node that is neither a text nor an icon. -/
theorem ofTree_cases {motive : Element → Prop} {isRoot : Bool} {s : Styled}
    {children : List (Tree Styled)}
    (inline : ∀ tag label c, tag = "span" ∨ tag = "div" → (s.IsDrawn → c.IsDrawn) →
      motive (.inline tag (attributesOf (classOf isRoot s) label s.style) c))
    (block : s.node.text = none → s.icon = none →
      motive (.block (blockTag s children)
        (attributesOf (classOf isRoot s) s.node.placeholder (blockStyle s children))
        (children.map (if isList s children then item else ofTree false)))) :
    motive (ofTree isRoot (.node s children)) := by
  cases ht : s.node.text with
  | some t =>
    rw [ofTree_text isRoot children ht]
    exact inline _ _ _ (.inl rfl) fun _ => trivial
  | none =>
    cases hi : s.icon with
    | none =>
      rw [ofTree_block isRoot children ht hi]
      exact block ht hi
    | some icon =>
      cases icon with
      | svg width height label =>
        rw [ofTree_svg isRoot children ht hi]
        exact inline _ _ _ (.inr rfl) fun drawn => drawn width height label hi
      | glyph label =>
        rw [ofTree_glyph isRoot children ht hi]
        exact inline _ _ _ (.inl rfl) fun _ => trivial

/-- The element of a node can be read if the elements and the items of what is below can. -/
theorem isMarkup_node {s : Styled} (drawn : s.IsDrawn) {children : List (Tree Styled)}
    (below : ∀ c ∈ children, IsMarkup (ofTree false c) ∧ IsMarkup (item c)) (isRoot : Bool) :
    IsMarkup (ofTree isRoot (.node s children)) := by
  have named (label : Option Placeholder) (css : StyleMap) :=
    isNamed_attributesOf (isNamed_classOf isRoot s) label css
  refine ofTree_cases (fun tag label c tags isDrawn => ?_) fun _ _ => ?_
  · refine .inline ?_ (named _ _) (isDrawn drawn)
    rcases tags with rfl | rfl <;> decide
  · refine .block (isName_blockTag s children) (named _ _) ?_
    rw [List.forall_mem_map]
    intro c hc
    split_ifs
    · exact (below c hc).2
    · exact (below c hc).1

/-- The element of a tree of nodes, as part of a block or as an item of a list, can be read. -/
theorem isMarkup_ofTree {t : Tree Styled} (h : ∀ s ∈ t.preorder, s.IsDrawn) :
    (∀ isRoot, IsMarkup (ofTree isRoot t)) ∧ IsMarkup (item t) := by
  induction t using Tree.induct with
  | node s children ih =>
    rw [Tree.preorder_node, List.forall_mem_cons] at h
    have below (c : Tree Styled) (hc : c ∈ children) :
        IsMarkup (ofTree false c) ∧ IsMarkup (item c) := by
      obtain ⟨element, item⟩ := ih c hc fun b hb => h.2 b (List.mem_flatMap.2 ⟨c, hc, hb⟩)
      exact ⟨element false, item⟩
    refine ⟨isMarkup_node h.1 below, ?_⟩
    cases ht : s.node.text with
    | some t =>
      rw [item_text children ht]
      exact isMarkup_textItem s t
    | none =>
      rw [item_none children ht]
      refine .block (by decide) (by simp) ?_
      rw [List.forall_mem_singleton]
      exact isMarkup_node h.1 below false

end Element

/-! ### The whole component -/

/-- The element that the markup of a component is read as. -/
def componentElement (o : Options) (t : Tree Node) : Element :=
  (Element.ofTree true (Styled.ofTree o t)).moved 4

/-- The source of a component is the fixed frame around markup that is read as the element of the tree
of nodes, except that line feeds in the texts of attributes are moved together with the markup. -/
theorem componentCode_reads (o : Options) (t : Tree Node) :
    (componentCode o t).toList =
        componentFrame o.identifier.toList o.memo ((componentRules o t).map String.toList)
          (Text.indent 4 (componentBody o t)) ∧
      Content.read? (Text.indent 4 (componentBody o t)) = some (componentElement o t).content :=
  ⟨toList_componentCode o t, by
    rw [componentBody_eq]
    exact Element.read?_indent_render 4
      ((Element.isMarkup_ofTree (Styled.isDrawn_ofTree o t)).1 true)⟩

end DesignCode
