import DesignCode.Proofs.Code.Signature
import DesignCode.Proofs.Code.Style
import DesignCode.Proofs.Code.Token
import DesignCode.Proofs.Node.Shown

/-!
# Texts that share a class

The texts of layers are such that their signatures tell their looks apart (`isProper_survey`): no empty name of
a font is kept, no spacing of zero, and no color that is written has a bar.  So texts that share a class
have the same declarations, and the rule of the class fits all of them (`classes_keep_looks`).
-/

namespace DesignCode

/-! ### Colors -/

namespace Css

/-- The characters of which colors are written. -/
def isColorChar (c : Char) : Bool := Script.isWordChar c || "(), ".toList.contains c

theorem not_mem_number {d : Char} (other : isColorChar d = false) (v : Float) :
    d ∉ (number v).toList := by
  intro mem
  rw [isColorChar, (isWord_number v).2 d mem] at other
  cases other

theorem not_mem_color {d : Char} (other : isColorChar d = false) (c : Color) :
    d ∉ (color c).toList := by
  have apart : d ≠ 'r' ∧ d ≠ 'g' ∧ d ≠ 'b' ∧ d ≠ 'a' ∧ d ≠ '(' ∧ d ≠ ')' ∧ d ≠ ',' ∧ d ≠ ' ' := by
    refine ⟨?_, ?_, ?_, ?_, ?_, ?_, ?_, ?_⟩ <;> rintro rfl <;> exact absurd other (by decide)
  have digits (n : Nat) : d ∉ Decimal.digitChars n := by
    intro mem
    have digit : d.isDigit = true := Nat.isDigit_of_mem_toDigits (by decide) (by decide) mem
    simp [isColorChar, Script.isWordChar, digit] at other
  have inner : d ∉ (channels c).toList := by simp [channels, digits, apart]
  unfold color
  split_ifs
  · simp [inner, apart]
  · simp [rgba, inner, not_mem_number other, apart]

theorem bar_not_mem_color (c : Color) : '|' ∉ (color c).toList := not_mem_color (by decide) c

end Css

namespace Palette

/-- All colors of a palette. -/
def colors (p : Palette) : List String := p.brand ++ [p.neutral, p.placeholder]

theorem bar_not_mem_textColor {p : Palette} (bars : ∀ c ∈ p.colors, '|' ∉ c.toList) :
    '|' ∉ p.textColor.toList := by
  show '|' ∉ ((p.colors.find? (· ≠ "")).getD "#999999").toList
  cases found : p.colors.find? (· ≠ "") with
  | none => decide
  | some c => exact bars c (List.mem_of_find?_eq_some found)

end Palette

namespace Inherited

/-- An inherited color is that of a text above. -/
theorem mem_of_color_ofAbove {above : List Node} {c : String} (h : (ofAbove above).color = some c) :
    ∃ n ∈ above, n.text.bind TextContent.color = some c := by
  induction above with
  | nil => cases h
  | cons n above ih =>
    replace h : (n.text.bind TextContent.color <|> (ofAbove above).color) = some c := h
    cases own : n.text.bind TextContent.color with
    | none =>
      rw [own] at h
      obtain ⟨m, hm, color⟩ := ih h
      exact ⟨m, List.mem_cons_of_mem _ hm, color⟩
    | some d =>
      rw [own] at h
      exact ⟨n, List.mem_cons_self, own.trans h⟩

theorem textColor_cases (i : Inherited) (p : Palette) (t : TextContent) :
    t.color = some (i.textColor p t) ∨ i.color = some (i.textColor p t) ∨
      i.textColor p t = p.textColor := by
  rw [textColor]
  cases t.color with
  | some c => exact .inl rfl
  | none =>
    cases i.color with
    | some c => exact .inr (.inl rfl)
    | none => exact .inr (.inr rfl)

end Inherited

/-! ### Texts of layers -/

namespace Layer

/-- Whether the spacing of paragraphs of a layer is a finite number, if there is one. -/
def HasFiniteSpacing (l : Layer) : Prop :=
  ∀ s ∈ l.style, ∀ v ∈ s.paragraphSpacing, v.isFinite = true

theorem textContent_facts {l : Layer} {c : TextContent} (h : l.textContent = some c) :
    c.fontFamily = l.style.bind (fun s => s.fontFamily.filter (· ≠ "")) ∧
      c.color = l.textColor ∧
      c.paragraphSpacing = l.style.bind fun s => s.paragraphSpacing.filter (· != 0) := by
  unfold textContent at h
  split_ifs at h with kind
  obtain ⟨characters, -, rfl⟩ := Option.map_eq_some_iff.1 h
  rw [typography, if_pos kind]
  cases l.style with
  | none => exact ⟨rfl, rfl, rfl⟩
  | some s =>
    refine ⟨rfl, ?_, rfl⟩
    show (l.textColor <|> l.textColor) = l.textColor
    cases l.textColor <;> rfl

theorem isProper_textContent {l : Layer} (finite : l.HasFiniteSpacing) {c : TextContent}
    (h : l.textContent = some c) : c.IsProper := by
  obtain ⟨family, color, spacing⟩ := textContent_facts h
  refine ⟨?_, ?_, ?_⟩
  · rw [family]
    intro empty
    obtain ⟨s, -, given⟩ := Option.bind_eq_some_iff.1 empty
    exact absurd (Option.filter_eq_some_iff.1 given).2 (by simp)
  · rw [color]
    intro d hd
    obtain ⟨fill, -, rfl⟩ := Option.map_eq_some_iff.1 hd
    exact Css.bar_not_mem_color fill
  · rw [spacing]
    intro v hv
    obtain ⟨s, style, given⟩ := Option.bind_eq_some_iff.1 hv
    obtain ⟨given, nonzero⟩ := Option.filter_eq_some_iff.1 given
    exact ⟨finite s style v given, by simpa [bne] using nonzero⟩

end Layer

/-- The texts of the nodes of a survey are those of its layers. -/
theorem exists_textContent_of_survey {layers : Tree Layer} {parent : Option Layer} {root : Tree Node}
    (built : (survey layers parent).1 = some root) {n : Node} (hn : n ∈ root.preorder) {c : TextContent}
    (hc : n.text = some c) : ∃ l ∈ layers.preorder, l.textContent = some c := by
  have nodes := preorder_survey layers parent
  rw [built, Option.elim_some] at nodes
  rw [nodes] at hn
  obtain ⟨x, hx, rfl⟩ := List.mem_map.1 hn
  refine ⟨x.2.value, ?_, hc⟩
  rw [← Tree.map_value_subtreesBelow []]
  exact List.mem_map_of_mem (List.mem_of_mem_filter hx)

/-- They are proper if the spacing of paragraphs is finite in the layers. -/
theorem isProper_survey {layers : Tree Layer} {parent : Option Layer} {root : Tree Node}
    (built : (survey layers parent).1 = some root)
    (finite : ∀ l ∈ layers.preorder, l.HasFiniteSpacing) :
    ∀ n ∈ root.preorder, ∀ c ∈ n.text, c.IsProper := by
  intro n hn c hc
  obtain ⟨l, mem, text⟩ := exists_textContent_of_survey built hn hc
  exact Layer.isProper_textContent (finite l mem) text

/-! ### Looks -/

namespace Node

variable {p : Palette} {root : Tree Node} {x : TextContent × String}

theorem exists_text_of_mem_looks (hx : x ∈ looks p root) : ∃ n ∈ root.preorder, n.text = some x.1 := by
  obtain ⟨y, hy, look⟩ := List.mem_filterMap.1 hx
  obtain ⟨c, text, rfl⟩ := Option.map_eq_some_iff.1 look
  refine ⟨y.2.value, ?_, text⟩
  rw [← Tree.map_value_subtreesBelow []]
  exact List.mem_map_of_mem hy

theorem exists_mem_looks (p : Palette) {n : Node} (hn : n ∈ root.preorder) {c : TextContent}
    (text : n.text = some c) : ∃ color, (c, color) ∈ looks p root := by
  rw [← Tree.map_value_subtreesBelow []] at hn
  obtain ⟨y, hy, rfl⟩ := List.mem_map.1 hn
  exact ⟨_, List.mem_filterMap.2 ⟨y, hy, by rw [text]; rfl⟩⟩

/-- The color of a look is that of a text of the tree or that of the palette. -/
theorem color_of_mem_looks (hx : x ∈ looks p root) :
    (∃ n ∈ root.preorder, ∃ c, n.text = some c ∧ c.color = some x.2) ∨ x.2 = p.textColor := by
  obtain ⟨n, hn, text⟩ := exists_text_of_mem_looks hx
  obtain ⟨y, hy, look⟩ := List.mem_filterMap.1 hx
  obtain ⟨c, -, rfl⟩ := Option.map_eq_some_iff.1 look
  rcases (Inherited.ofAbove y.1).textColor_cases p c with own | inherited | given
  · exact .inl ⟨n, hn, c, text, own⟩
  · obtain ⟨m, hm, color⟩ := Inherited.mem_of_color_ofAbove inherited
    obtain ⟨d, text, color⟩ := Option.bind_eq_some_iff.1 color
    exact .inl ⟨m, (Tree.mem_of_mem_above hy hm).resolve_right (by simp), d, text, color⟩
  · exact .inr given

end Node

/-! ### Styles -/

namespace TextContent

/-- The properties that the class of a text and its style have in common. -/
def lookKeys : List String :=
  ["color", "font-family", "font-size", "font-weight", "letter-spacing", "line-height"]

variable (c : TextContent) (color : String)

/-- Properties of other names do not matter to a look. -/
theorem lookup_fontStyle_append {es : List (String × Option String)} {names : List String}
    (named : es.map Prod.fst = names) (apart : ∀ key ∈ lookKeys, key ∉ names) {key : String}
    (h : key ∈ lookKeys) :
    (c.fontStyle color ++ StyleMap.given es).lookup key = (c.fontStyle color).lookup key := by
  have absent : key ∉ (StyleMap.given es).map Prod.fst :=
    fun mem => apart key h (named ▸ (StyleMap.keys_given es).subset mem)
  rw [List.lookup_append, OrderedMap.lookup_eq_none_of_not_mem absent, Option.or_none]

/-- The properties of the class of a text. -/
def classProperties : List (String × Option String) :=
  [("color", some color),
   ("font-family", c.fontFamily),
   ("font-size", c.fontSize.map Css.px),
   ("font-weight", c.fontWeight.map Css.number),
   ("letter-spacing", c.letterSpacing.map Css.px),
   ("line-height", c.lineHeight.map Css.px),
   ("margin-bottom", (c.paragraphSpacing.filter (0 < ·)).map Css.px)]

theorem given_classProperties :
    StyleMap.given (c.classProperties color) =
      c.fontStyle color ++ StyleMap.given
        [("margin-bottom", (c.paragraphSpacing.filter (0 < ·)).map Css.px)] := by
  rw [fontStyle, ← StyleMap.given_append]
  rfl

theorem nodup_classProperties : ((StyleMap.given (c.classProperties color)).map Prod.fst).Nodup :=
  List.Nodup.sublist (StyleMap.keys_given _) (by simp [classProperties])

/-- A declaration of a class is looked up among its properties. -/
theorem get?_declarations_eq_lookup (key : String) :
    (c.declarations color).get? key = (StyleMap.given (c.classProperties color)).lookup key := by
  rw [declarations, ← given_classProperties, OrderedMap.get?_sortKeys,
    OrderedMap.get?_ofList (c.nodup_classProperties color)]

theorem get?_declarations {key : String} (h : key ∈ lookKeys) :
    (c.declarations color).get? key = (c.fontStyle color).lookup key := by
  have apart : ∀ key ∈ lookKeys, key ∉ ["margin-bottom"] := by decide
  rw [get?_declarations_eq_lookup, given_classProperties]
  refine c.lookup_fontStyle_append color ?_ apart h
  rfl

end TextContent

theorem Node.get?_style_look (p : Palette) (i : Inherited) (u : Tree Node) {c : TextContent}
    (text : u.value.text = some c) {key : String} (h : key ∈ TextContent.lookKeys) :
    (Node.style p i u).get? key = (c.fontStyle (i.textColor p c)).lookup key := by
  have own : key ∈ Node.Part.keys .text :=
    (by decide : TextContent.lookKeys ⊆ Node.Part.keys .text) h
  have apart : ∀ key ∈ TextContent.lookKeys,
      key ∉ ["text-align", "text-decoration", "text-transform", "white-space", "word-break"] := by
    decide
  rw [Node.style_eq, OrderedMap.get?_sortKeys,
    (Node.isDivided_partStyle p i u).get?_ofList (Node.Part.mem_all .text) own]
  show (u.value.textStyle p i).lookup key = _
  rw [Node.textStyle, text, Option.map_some, Option.getD_some]
  refine c.lookup_fontStyle_append _ ?_ apart h
  rfl

/-! ### Classes -/

section

variable {p : Palette} (bars : ∀ c ∈ p.colors, '|' ∉ c.toList)
variable {root : Tree Node} (proper : ∀ n ∈ root.preorder, ∀ c ∈ n.text, c.IsProper)

include bars proper

theorem isProper_looks : ∀ x ∈ Node.looks p root, x.1.IsProper ∧ '|' ∉ x.2.toList := by
  intro x hx
  obtain ⟨n, hn, text⟩ := Node.exists_text_of_mem_looks hx
  refine ⟨proper n hn x.1 text, ?_⟩
  rcases Node.color_of_mem_looks hx with ⟨m, hm, c, text, color⟩ | given
  · exact (proper m hm c text).color x.2 color
  · rw [given]
    exact Palette.bar_not_mem_textColor bars

/-- The rule of the class of a text has the declarations of that very text, whichever text has been registered
with its signature. -/
theorem get?_rules_ofTree {x : List Node × Tree Node} (hx : x ∈ root.subtrees) {c : TextContent}
    (text : x.2.value.text = some c) :
    ∃ token,
      (x.2.value.signature? p (.ofAbove x.1)).bind (TokenRegistry.ofTree p root).get? = some token ∧
        (TokenRegistry.ofTree p root).rules.get? token =
          some (c.declarations ((Inherited.ofAbove x.1).textColor p c)) := by
  have defines := TokenRegistry.defines_ofTree p root
  have look : (c, (Inherited.ofAbove x.1).textColor p c) ∈ Node.looks p root :=
    List.mem_filterMap.2 ⟨x, hx, by rw [text]; rfl⟩
  obtain ⟨token, given⟩ := defines.seen _ look
  obtain ⟨y, hy, same, rule⟩ := defines.rule _ token given
  have first := isProper_looks bars proper y hy
  have this := isProper_looks bars proper _ look
  have declarations := TextContent.declarations_eq_of_signature_eq first.1 this.1 first.2 this.2 same
  refine ⟨token, ?_, by rw [rule, declarations]⟩
  rw [Node.signature?, text]
  exact given

end

/-- Sharing a class never changes how a text looks.  In the nodes of layers with finite spacing, in a palette
without bars in its colors, each text has a class.  The rule of that class stands in the stylesheet and has the
declarations of that very text, which are those of its own style. -/
theorem classes_keep_looks {layers : Tree Layer} {parent : Option Layer} {root : Tree Node}
    (built : (survey layers parent).1 = some root)
    (finite : ∀ l ∈ layers.preorder, l.HasFiniteSpacing) {p : Palette}
    (bars : ∀ color ∈ p.colors, '|' ∉ color.toList) :
    ∀ x ∈ root.subtrees, ∀ c, x.2.value.text = some c →
      let i := Inherited.ofAbove x.1
      let tokens := TokenRegistry.ofTree p root
      let declarations := c.declarations (i.textColor p c)
      ∃ token, (x.2.value.signature? p i).bind tokens.get? = some token ∧
        tokens.rules.get? token = some declarations ∧
        TokenRegistry.rule (token, declarations) ∈ tokens.ruleTexts ∧
        ∀ key ∈ TextContent.lookKeys, declarations.get? key = (Node.style p i x.2).get? key := by
  intro x hx c text i tokens declarations
  obtain ⟨token, given, rule⟩ := get?_rules_ofTree bars (isProper_survey built finite) hx text
  refine ⟨token, given, rule, List.mem_map_of_mem (tokens.rules.get?_eq_some_iff.1 rule), ?_⟩
  intro key hk
  rw [c.get?_declarations _ hk, Node.get?_style_look p i x.2 text hk]

/-- A type style whose font family has a bar in its name. -/
def bodyStyle : TypeStyle :=
  { fontFamily := some "Inter|Serif", fontSize := some 16, paragraphSpacing := some 8 }

def article : Layer := { id := "1", name := "Article", kind := .frame }

def paragraph (id characters : String) : Layer :=
  { id, name := "Paragraph", kind := .text, characters := some characters, style := some bodyStyle }

/-- Two paragraphs that share a class. -/
def paragraphs : Tree Layer :=
  .node article [.node (paragraph "2" "First") [], .node (paragraph "3" "Second") []]

def articleNode : Node := .ofLayer article none

def paragraphNode (id characters : String) : Tree Node :=
  .node (.ofLayer (paragraph id characters) (some article)) []

def paragraphNodes : Tree Node :=
  .node articleNode [paragraphNode "2" "First", paragraphNode "3" "Second"]

def secondText : TextContent :=
  { characters := "Second", fontFamily := some "Inter|Serif", fontSize := some 16
    paragraphSpacing := some 8 }

/-- The second paragraph comes after one with the same look, and the rule of its class fits it. -/
theorem classes_keep_secondText :
    (survey paragraphs none).1 = some paragraphNodes ∧
      (∀ l ∈ paragraphs.preorder, l.HasFiniteSpacing) ∧
      (∀ color ∈ ({} : Palette).colors, '|' ∉ color.toList) ∧
      ([articleNode], paragraphNode "3" "Second") ∈ paragraphNodes.subtrees ∧
      (paragraphNode "3" "Second").value.text = some secondText ∧
      let i := Inherited.ofAbove [articleNode]
      let tokens := TokenRegistry.ofTree {} paragraphNodes
      let declarations := secondText.declarations (i.textColor {} secondText)
      ∃ token,
        ((paragraphNode "3" "Second").value.signature? {} i).bind tokens.get? = some token ∧
        tokens.rules.get? token = some declarations ∧
        TokenRegistry.rule (token, declarations) ∈ tokens.ruleTexts ∧
        ∀ key ∈ TextContent.lookKeys,
          declarations.get? key = (Node.style {} i (paragraphNode "3" "Second")).get? key := by
  have built : (survey paragraphs none).1 = some paragraphNodes := rfl
  have spacing (id characters : String) : (paragraph id characters).HasFiniteSpacing := by
    rintro s ⟨⟩ v ⟨⟩
    rfl
  have finite : ∀ l ∈ paragraphs.preorder, l.HasFiniteSpacing := by
    rintro l (_ | ⟨_, _ | ⟨_, _ | ⟨_, ⟨⟩⟩⟩⟩)
    · rintro s ⟨⟩
    · exact spacing _ _
    · exact spacing _ _
  have bars : ∀ color ∈ ({} : Palette).colors, '|' ∉ color.toList := by decide
  have second : ([articleNode], paragraphNode "3" "Second") ∈ paragraphNodes.subtrees := by
    rw [Tree.subtrees, paragraphNodes, Tree.subtreesBelow_node]
    simp [paragraphNode, Tree.subtreesBelow_node]
  have text : (paragraphNode "3" "Second").value.text = some secondText := rfl
  exact ⟨built, finite, bars, second, text,
    classes_keep_looks built finite bars _ second secondText text⟩

end DesignCode
