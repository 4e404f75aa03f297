import DesignCode.Proofs.Code.Nesting
import DesignCode.Proofs.Code.Position

/-!
# The elements of a component

The lines of the markup of a component are one element (`component_isOneElement`).  It stands for the tree of nodes
(`StandsFor`): a list has one item for each child of its node, in the order of the children.  Only the root has the
class that the component is given.  A line is what the writer is told to write at once; the value of an attribute may
hold line feeds, which begin no lines.
-/

namespace DesignCode

open Markup (Content Nest textContents)
open Script (Term)

/-! ### Contents -/

namespace Markup.Content

/-- The tag of an element. -/
def tag? : Content → Option (List Char)
  | text _ => none
  | element tag _ _ => some tag

def attributes : Content → List (List Char × Term)
  | text _ => []
  | element _ attributes _ => attributes

def contents : Content → List Content
  | text _ => []
  | element _ _ contents => contents

mutual

/-- A content, and what is in it at any depth. -/
def all : Content → List Content
  | text cs => [text cs]
  | element tag attributes contents => element tag attributes contents :: allWithin contents

def allWithin : List Content → List Content
  | [] => []
  | c :: cs => all c ++ allWithin cs

end

theorem allWithin_eq (cs : List Content) : allWithin cs = cs.flatMap all := by
  induction cs with
  | nil => rfl
  | cons c cs ih => rw [allWithin, ih, List.flatMap_cons]

theorem forall_mem_allWithin {P : Content → Prop} {cs : List Content} :
    (∀ x ∈ allWithin cs, P x) ↔ ∀ c ∈ cs, ∀ x ∈ c.all, P x := by
  rw [allWithin_eq]
  simp only [List.mem_flatMap]
  constructor
  · exact fun h c hc x hx => h x ⟨c, hc, hx⟩
  · rintro h x ⟨c, hc, hx⟩
    exact h c hc x hx

theorem forall_mem_all_element {P : Content → Prop} {tag : List Char}
    {as : List (List Char × Term)} {cs : List Content} :
    (∀ x ∈ (element tag as cs).all, P x) ↔ P (element tag as cs) ∧ ∀ x ∈ allWithin cs, P x := by
  rw [all, List.forall_mem_cons]

end Markup.Content

/-! ### Lists -/

/-- What is in an item for a text: a heading if the name of the node speaks of one. -/
def itemContent (n : Node) (c : TextContent) : InlineContent :=
  match headingLevel? n.name with
  | some level => .heading level Element.headingStyle c.characters
  | none => .text c.characters

/-- The content stands for the tree of nodes, as an item of a list or as an element of its own.  The contents of an
element are for the children of its node, in their order.  They are items of a list exactly if the node is a column
with texts. -/
inductive StandsFor (o : Options) : (isItem : Bool) → Content → Tree Node → Prop where
  | text {n : Node} {children : List (Tree Node)} {c : TextContent} {as : List (List Char × Term)}
      (text : n.text = some c) :
      StandsFor o false (.element "span".toList as (textContents c.characters.toList))
        (.node n children)
  | icon {n : Node} {children : List (Tree Node)} {c : Content} (noText : n.text = none)
      (icon : (Styled.iconOf o n).isSome) (noList : ∀ x ∈ c.all, x.tag? ≠ some "ul".toList) :
      StandsFor o false c (.node n children)
  | list {n : Node} {children : List (Tree Node)} {as : List (List Char × Term)}
      {contents : List Content} (shows : n.covers o = false)
      (list : Node.isList (.node n children) = true)
      (below : List.Forall₂ (StandsFor o true) contents children) :
      StandsFor o false (.element "ul".toList as contents) (.node n children)
  | block {n : Node} {children : List (Tree Node)} {tag : List Char}
      {as : List (List Char × Term)} {contents : List Content} (shows : n.covers o = false)
      (noList : Node.isList (.node n children) = false) (other : tag ≠ "ul".toList)
      (below : List.Forall₂ (StandsFor o false) contents children) :
      StandsFor o false (.element tag as contents) (.node n children)
  | textItem {n : Node} {children : List (Tree Node)} {c : TextContent}
      {as : List (List Char × Term)} (text : n.text = some c) :
      StandsFor o true (.element "li".toList as (itemContent n c).contents) (.node n children)
  | item {t : Tree Node} {c : Content} (noText : t.value.text = none) (inside : StandsFor o false c t) :
      StandsFor o true (.element "li".toList [] [c]) t

/-- Every element in a list is an item. -/
def IsListed (c : Content) : Prop :=
  ∀ x ∈ c.all, x.tag? = some "ul".toList → ∀ y ∈ x.contents, y.tag? = some "li".toList

theorem isListed_of_noList {c : Content} (h : ∀ x ∈ c.all, x.tag? ≠ some "ul".toList) : IsListed c :=
  fun x hx ul => absurd ul (h x hx)

theorem isListed_element {tag : List Char} {as : List (List Char × Term)} {cs : List Content} :
    IsListed (.element tag as cs) ↔
      (tag = "ul".toList → ∀ c ∈ cs, c.tag? = some "li".toList) ∧ ∀ c ∈ cs, IsListed c := by
  unfold IsListed
  rw [Content.forall_mem_all_element, Content.forall_mem_allWithin, Content.tag?, Option.some.injEq]
  rfl

theorem headingTag_ne_ul (level : Nat) : (Element.headingTag level).toList ≠ "ul".toList := by
  rw [Element.toList_headingTag]
  exact fun same => absurd (List.cons.inj same).1 (by decide)

/-- An element on one line is no list and has none in it. -/
theorem noList_inline {tag : List Char} (h : tag ≠ "ul".toList) (as : List (List Char × Term))
    (c : InlineContent) :
    ∀ x ∈ (Content.element tag as c.contents).all, x.tag? ≠ some "ul".toList := by
  have texts (s : String) : ∀ x ∈ Content.allWithin (textContents s.toList),
      x.tag? ≠ some "ul".toList := by
    unfold textContents
    split_ifs <;> simp [Content.all, Content.allWithin, Content.tag?]
  have element {tag : List Char} {as : List (List Char × Term)} {cs : List Content}
      (h : tag ≠ "ul".toList) (hcs : ∀ x ∈ Content.allWithin cs, x.tag? ≠ some "ul".toList) :
      ∀ x ∈ (Content.element tag as cs).all, x.tag? ≠ some "ul".toList :=
    Content.forall_mem_all_element.2 ⟨fun same => h (Option.some.inj same), hcs⟩
  have single {d : Content} (hd : ∀ x ∈ d.all, x.tag? ≠ some "ul".toList) :
      ∀ x ∈ Content.allWithin [d], x.tag? ≠ some "ul".toList :=
    Content.forall_mem_allWithin.2 (List.forall_mem_singleton.2 hd)
  refine element h ?_
  cases c with
  | text s => exact texts s
  | heading level css s => exact single (element (headingTag_ne_ul level) (texts s))
  | svg width height label =>
    exact single (element (by decide) (single (element (by decide) (by simp [Content.allWithin]))))

/-- What stands for a node as an item is an item. -/
theorem StandsFor.tag_item {o : Options} {c : Content} {t : Tree Node} (h : StandsFor o true c t) :
    c.tag? = some "li".toList := by
  cases h <;> rfl

theorem exists_mem_of_forall₂ {α β : Type} {R : α → β → Prop} {as : List α} {bs : List β}
    (h : List.Forall₂ R as bs) : ∀ a ∈ as, ∃ b ∈ bs, R a b := by
  induction h with
  | nil => simp
  | cons first _ ih =>
    rw [List.forall_mem_cons]
    refine ⟨⟨_, List.mem_cons_self, first⟩, ?_⟩
    intro a ha
    obtain ⟨b, hb, related⟩ := ih a ha
    exact ⟨b, List.mem_cons_of_mem _ hb, related⟩

/-- In what stands for a tree of nodes, every element in a list is an item. -/
theorem StandsFor.isListed {o : Options} {t : Tree Node} {isItem : Bool} {c : Content}
    (h : StandsFor o isItem c t) : IsListed c := by
  induction t using Tree.induct generalizing isItem c with
  | node n children ih =>
    have li : "li".toList ≠ "ul".toList := by decide
    have own {c : Content} (h : StandsFor o false c (.node n children)) : IsListed c := by
      cases h with
      | @text _ _ c as text => exact isListed_of_noList (noList_inline (by decide) as (.text c.characters))
      | icon noText icon noList => exact isListed_of_noList noList
      | list shows list below =>
        refine isListed_element.2 ⟨fun _ c hc => ?_, fun c hc => ?_⟩
        · obtain ⟨t, -, stands⟩ := exists_mem_of_forall₂ below c hc
          exact stands.tag_item
        · obtain ⟨t, ht, stands⟩ := exists_mem_of_forall₂ below c hc
          exact ih t ht stands
      | block shows noList other below =>
        refine isListed_element.2 ⟨fun ul => absurd ul other, fun c hc => ?_⟩
        obtain ⟨t, ht, stands⟩ := exists_mem_of_forall₂ below c hc
        exact ih t ht stands
    cases isItem with
    | false => exact own h
    | true =>
      cases h with
      | textItem text => exact isListed_of_noList (noList_inline li _ _)
      | item noText inside =>
        exact isListed_element.2 ⟨fun ul => absurd ul li, List.forall_mem_singleton.2 (own inside)⟩

namespace Element

theorem blockTag_ne_ul {s : Styled} {children : List (Tree Styled)}
    (h : isList s children = false) : (blockTag s children).toList ≠ "ul".toList :=
  (by decide : ∀ tag ∈ containerTags, tag.toList ≠ "ul".toList) _ (blockTag_mem h)

section Node

variable {o : Options} {s : Styled} {n : Node} {children : List (Tree Node)}
  {below : List (Tree Styled)}

/-- The element of a node stands for it if the elements of its children, as items and as elements of their own, stand
for them. -/
theorem standsFor_node (node : s.node = n) (icon : s.icon = Styled.iconOf o n)
    (list : isList s below = Node.isList (.node n children))
    (items : List.Forall₂ (StandsFor o true) (below.map fun c => (item c).content) children)
    (blocks : List.Forall₂ (StandsFor o false) (below.map fun c => (ofTree false c).content) children)
    (isRoot : Bool) : StandsFor o false (ofTree isRoot (.node s below)).content (.node n children) := by
  subst node
  cases ht : s.node.text with
  | some c =>
    rw [ofTree_text isRoot _ ht]
    exact .text ht
  | none =>
    cases hi : s.icon with
    | some drawn =>
      refine .icon ht (by rw [← icon, hi]; rfl) ?_
      cases drawn with
      | svg width height label =>
        rw [ofTree_svg isRoot _ ht hi]
        exact noList_inline (by decide) _ _
      | glyph label =>
        rw [ofTree_glyph isRoot _ ht hi]
        exact noList_inline (by decide) _ _
    | none =>
      have shows : s.node.covers o = false := by simp [Node.covers, Node.isText, ht, ← icon, hi]
      rw [ofTree_block isRoot _ ht hi, content_block, List.map_map]
      cases isList : Node.isList (.node s.node children) with
      | true =>
        rw [isList] at list
        rw [blockTag_of_isList list, if_pos list]
        exact .list shows isList items
      | false =>
        rw [isList] at list
        rw [if_neg (by simp [list])]
        exact .block shows isList (blockTag_ne_ul list) blocks

theorem standsFor_item (node : s.node = n)
    (own : StandsFor o false (ofTree false (.node s below)).content (.node n children)) :
    StandsFor o true (item (.node s below)).content (.node n children) := by
  subst node
  cases ht : s.node.text with
  | some c =>
    rw [item_text _ ht]
    exact .textItem ht
  | none =>
    rw [item_none _ ht]
    exact .item ht own

end Node

/-- The elements of a tree of nodes stand for it, whatever has been inherited. -/
theorem standsFor_treeBelow (o : Options) (tokens : TokenRegistry) (t : Tree Node) (i : Inherited) :
    (∀ isRoot, StandsFor o false (ofTree isRoot (Styled.treeBelow o tokens i t)).content t) ∧
      StandsFor o true (item (Styled.treeBelow o tokens i t)).content t := by
  induction t using Tree.induct generalizing i with
  | node n children ih =>
    have list := Styled.isList_treeBelow o tokens i n children
    have contents {isItem : Bool} {f : Tree Styled → Content}
        (h : ∀ c ∈ children, StandsFor o isItem (f (Styled.treeBelow o tokens (i.below n) c)) c) :
        List.Forall₂ (StandsFor o isItem)
          ((children.map (Styled.treeBelow o tokens (i.below n))).map f) children := by
      rw [List.map_map, List.forall₂_map_left_iff]
      exact List.forall₂_same.2 h
    have own := standsFor_node (o := o) rfl rfl list (contents fun c hc => (ih c hc _).2)
      (contents fun c hc => (ih c hc _).1 false)
    rw [Styled.treeBelow_node]
    exact ⟨own, standsFor_item rfl (own false)⟩

end Element

/-! ### The class that the component is given -/

/-- Whether an attribute sets the class to the one that the component is given. -/
def isGivenClass : List Char × Term → Bool
  | (name, .word w) => name = "className".toList ∧ w = "className".toList
  | _ => false

/-- Whether an attribute is the class that the component is given. -/
def Attribute.isGiven : Attribute → Bool
  | givenClass => true
  | _ => false

/-- The element has the class that the component is given `k` times, and no element in it has that class. -/
def HasGivenClass (k : Nat) (c : Content) : Prop :=
  c.attributes.countP isGivenClass = k ∧
    ∀ x ∈ Content.allWithin c.contents, x.attributes.countP isGivenClass = 0

theorem hasGivenClass_text (cs : List Char) : HasGivenClass 0 (.text cs) :=
  ⟨rfl, by simp [Content.contents, Content.allWithin]⟩

/-- An element has the class as often as its attributes, if what is in it does not have it. -/
theorem hasGivenClass_element {as : List (List Char × Term)} {k : Nat}
    (h : as.countP isGivenClass = k) (tag : List Char) {cs : List Content}
    (hcs : ∀ c ∈ cs, HasGivenClass 0 c) : HasGivenClass k (.element tag as cs) := by
  refine ⟨h, ?_⟩
  rw [Content.contents, Content.forall_mem_allWithin]
  intro c hc
  obtain ⟨own, within⟩ := hcs c hc
  cases c with
  | text cs => rwa [Content.all, List.forall_mem_singleton]
  | element tag as cs => exact Content.forall_mem_all_element.2 ⟨own, within⟩

theorem countP_term (as : List Attribute) :
    (as.map Attribute.term).countP isGivenClass = as.countP Attribute.isGiven := by
  rw [List.countP_map]
  congr 1
  funext a
  cases a with
  | text name value => rfl
  | givenClass => decide
  | style css => rfl

namespace InlineContent

theorem hasGivenClass_contents (c : InlineContent) : ∀ d ∈ c.contents, HasGivenClass 0 d := by
  have texts (s : String) : ∀ d ∈ textContents s.toList, HasGivenClass 0 d := by
    unfold textContents
    split_ifs
    · simp
    · exact List.forall_mem_singleton.2 (hasGivenClass_text _)
  cases c with
  | text s => exact texts s
  | heading level css s =>
    exact List.forall_mem_singleton.2 (hasGivenClass_element (countP_term [.style css]) _ (texts s))
  | svg width height label =>
    have rect : HasGivenClass 0 (.element "rect".toList
        ((Icon.rectAttributes width height).map Attribute.term) []) :=
      hasGivenClass_element (countP_term _) _ (by simp)
    exact List.forall_mem_singleton.2
      (hasGivenClass_element (countP_term _) _ (List.forall_mem_singleton.2 rect))

end InlineContent

namespace Element

theorem countP_attributesOf (isRoot : Bool) (s : Styled) (label : Option Placeholder)
    (css : StyleMap) :
    ((attributesOf (classOf isRoot s) label css).map Attribute.term).countP isGivenClass =
      if isRoot then 1 else 0 := by
  have cls : (classOf isRoot s).toList.countP Attribute.isGiven = if isRoot then 1 else 0 := by
    unfold classOf
    split_ifs
    · rfl
    · cases s.token <;> rfl
  rw [countP_term, ← cls]
  unfold attributesOf
  cases label <;> split_ifs <;> simp [Attribute.isGiven]

/-- Only the root has the class that the component is given. -/
theorem hasGivenClass_ofTree (t : Tree Styled) :
    (∀ isRoot : Bool, HasGivenClass (if isRoot then 1 else 0) (ofTree isRoot t).content) ∧
      HasGivenClass 0 (item t).content := by
  induction t using Tree.induct with
  | node s children ih =>
    have own (isRoot : Bool) :
        HasGivenClass (if isRoot then 1 else 0) (ofTree isRoot (.node s children)).content := by
      refine ofTree_cases
        (motive := fun e => HasGivenClass (if isRoot then 1 else 0) e.content)
        (fun tag label c _ _ => ?_) fun _ _ => ?_
      · exact hasGivenClass_element (countP_attributesOf isRoot s _ _) _ c.hasGivenClass_contents
      · rw [content_block]
        refine hasGivenClass_element (countP_attributesOf isRoot s _ _) _ ?_
        rw [List.map_map, List.forall_mem_map]
        intro c hc
        rw [Function.comp_apply]
        split_ifs
        · exact (ih c hc).2
        · exact (ih c hc).1 false
    refine ⟨own, ?_⟩
    cases ht : s.node.text with
    | some c =>
      rw [item_text _ ht]
      exact hasGivenClass_element (countP_attributesOf false s _ _) _
        (InlineContent.hasGivenClass_contents _)
    | none =>
      rw [item_none _ ht, content_block]
      exact hasGivenClass_element rfl _ (List.forall_mem_singleton.2 (own false))

end Element

/-! ### The whole component -/

/-- The lines of the markup for a tree of nodes are one element. -/
structure IsOneElement (o : Options) (t : Tree Node) (e : Element) : Prop where
  /-- The text of the markup is made of these lines. -/
  text : componentBody o t = Text.joined ['\n'] (e.lines 0)
  /-- The lines are read as one element, with two columns of margin for each element around a line, and nothing is
  left open. -/
  read : Nest.empty.readLines? (e.lines 0) = some ⟨[], [e.content]⟩
  /-- What a writer is told for the tree gives the lines, and its depth ends where it began. -/
  written : ∀ w : Writer, w.run (componentCommands o t) = ⟨w.lines ++ e.lines w.depth, w.depth⟩
  /-- A block is left only where the depth is greater than at the beginning. -/
  left : ∀ (w : Writer) (before : List Writer.Command) (cs : List Char)
    (after : List Writer.Command),
    componentCommands o t = before ++ .leave cs :: after → w.depth < (w.run before).depth
  /-- The element stands for the tree of nodes, with an item for each child of a list. -/
  stands : StandsFor o false e.content t
  /-- Every element in a list is an item. -/
  lists : IsListed e.content
  /-- The root has the class that the component is given once, and no other element has it. -/
  given : HasGivenClass 1 e.content

/-- Whatever the names, the labels and the texts of a tree of nodes are, its markup is one element. -/
theorem component_isOneElement (o : Options) (t : Tree Node) :
    IsOneElement o t (Element.ofTree true (Styled.ofTree o t)) where
  text := componentBody_eq o t
  read := Element.readLines?_lines
    ((Element.isMarkup_ofTree (Styled.isDrawn_ofTree o t)).1 true) Nest.empty
  written := ((Element.writes_ofTree (Styled.ofTree o t)).1 true).run
  left := ((Element.writes_ofTree (Styled.ofTree o t)).1 true).left
  stands := (Element.standsFor_treeBelow o (Styled.registry o t) t {}).1 true
  lists := ((Element.standsFor_treeBelow o (Styled.registry o t) t {}).1 true).isListed
  given := (Element.hasGivenClass_ofTree (Styled.ofTree o t)).1 true

end DesignCode
