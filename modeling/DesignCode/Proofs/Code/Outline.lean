import DesignCode.Proofs.Code.Expression
import DesignCode.Proofs.Markup.Content

/-!
# Outlines of generated code

Both kinds of generated code are read as trees of elements.  `Term.elements` takes them from calls, one
element a call.  `Content.elements` takes them from markup, where the markup of a square belongs to the element
around it, the text of a heading to the item around it, and an item around another element is no element
of its own.  An outline keeps of each element what it shows (`Shown`): label, class, role and texts.
-/

namespace DesignCode

open Markup (Content)
open Script (Term)

/-- What an element shows: the values of some of its properties, and the texts directly in it. -/
structure Shown where
  label : Option Term
  cls : Option Term
  role : Option Term
  texts : List (List Char)

/-- What an element with the given properties and texts shows. -/
def Shown.ofMembers (members : List (List Char × Term)) (texts : List (List Char)) : Shown where
  label := members.lookup "aria-label".toList
  cls := members.lookup "className".toList
  role := members.lookup "role".toList
  texts := texts

/-- An element as it is read: its attributes, and the texts directly in it. -/
structure ReadElement where
  members : List (List Char × Term)
  texts : List (List Char)

namespace ReadElement

def shown (e : ReadElement) : Shown := .ofMembers e.members e.texts

/-- The style of the element. -/
def style? (e : ReadElement) : Option Term := e.members.lookup "style".toList

end ReadElement

/-! ### Reading outlines -/

namespace Script.Term

/-- The members of an object; other terms have none. -/
def members : Term → List (List Char × Term)
  | object members => members
  | _ => []

/-- The text of a string literal. -/
def text? : Term → Option (List Char)
  | text cs => some cs
  | _ => none

mutual

/-- The elements that a call makes, with those of its arguments below: its second argument has the
properties, the others are texts and calls. -/
def elements : Term → List (Tree ReadElement)
  | call _ (_ :: properties :: arguments) =>
    [.node ⟨properties.members, arguments.filterMap text?⟩ (elementsAll arguments)]
  | _ => []

/-- The elements of several terms. -/
def elementsAll : List Term → List (Tree ReadElement)
  | [] => []
  | t :: ts => elements t ++ elementsAll ts

end

theorem elementsAll_eq (ts : List Term) : elementsAll ts = ts.flatMap elements := by
  induction ts with
  | nil => rfl
  | cons t ts ih => rw [elementsAll, ih, List.flatMap_cons]

/-- The outline of a call says of its elements what they show. -/
def outline (t : Term) : List (Tree Shown) := t.elements.map (Tree.map ReadElement.shown)

end Script.Term

namespace Markup

/-- Whether a tag is that of a heading: `h` with a number. -/
def isHeading : List Char → Bool
  | 'h' :: level => level ≠ [] ∧ level.all Char.isDigit
  | _ => false

namespace Content

/-- The text of a content that is no element. -/
def text? : Content → Option (List Char)
  | text cs => some cs
  | element _ _ _ => none

/-- The texts that a content is for the element around it; those of a heading count. -/
def texts : Content → List (List Char)
  | text cs => [cs]
  | element tag _ below => if isHeading tag then below.filterMap text? else []

mutual

/-- The elements of a content. -/
def elements : Content → List (Tree ReadElement)
  | text _ => []
  | element tag attributes contents =>
    if tag = "svg".toList ∨ isHeading tag then []
    else if tag = "li".toList ∧ ¬ (elementsAll contents).isEmpty then elementsAll contents
    else [.node ⟨attributes, contents.flatMap texts⟩ (elementsAll contents)]

/-- The elements of several contents. -/
def elementsAll : List Content → List (Tree ReadElement)
  | [] => []
  | c :: cs => elements c ++ elementsAll cs

end

theorem elementsAll_eq (cs : List Content) : elementsAll cs = cs.flatMap elements := by
  induction cs with
  | nil => rfl
  | cons c cs ih => rw [elementsAll, ih, List.flatMap_cons]

/-- The outline of a content says of its elements what they show. -/
def outline (c : Content) : List (Tree Shown) := c.elements.map (Tree.map ReadElement.shown)

end Content

end Markup

/-! ### The expression -/

/-- Where a tree has a node, the tree with styles has it too, given what it inherits. -/
theorem Styled.at?_ofTree (o : Options) (t : Tree Node) (p : List Nat) :
    ∃ i, (Styled.ofTree o t).at? p =
      (t.at? p).map fun u => u.inherit (Styled.ofNode o (Styled.registry o t)) Inherited.below i :=
  Tree.at?_inherit (Styled.ofNode o (Styled.registry o t)) Inherited.below {} t p

/-- The node is shown as a square. -/
def Node.IsSquare (o : Options) (n : Node) : Prop :=
  ∃ width height label, Styled.iconOf o n = some (.svg width height label)

/-- The role of the call for a node: a square has none. -/
def Call.role? (s : Styled) : Option String :=
  match s.icon with
  | some (.svg _ _ _) => none
  | some (.glyph _) => some "img"
  | none => s.node.placeholder.map Placeholder.role

/-- What the call for a node shows. -/
def Shown.ofCall (s : Styled) : Shown where
  label := (Call.label? s).map (.text ·.toList)
  cls := s.token.map (.text ·.toList)
  role := (Call.role? s).map (.text ·.toList)
  texts := (Call.ofStyled s).texts.map String.toList

/-- The term of a style that is written; a style without properties is left out. -/
def StyleMap.term? (css : StyleMap) : Option Term := if css.isEmpty then none else some css.term

/-- The element of the call for a node. -/
def ReadElement.ofCall (s : Styled) : ReadElement where
  members := (Call.ofStyled s).propertiesTerm.members
  texts := (Call.ofStyled s).texts.map String.toList

/-- A member that may be there is found under its name and no other. -/
theorem lookup_option {β : Type} (key name : String) (a : Option β) (f : β → Term) :
    (a.map fun b => (name.toList, f b)).toList.lookup key.toList =
      if key = name then a.map f else none := by
  cases a with
  | none => split_ifs <;> rfl
  | some b =>
    by_cases h : key = name
    · subst h
      simp
    · have differ : (key.toList == name.toList) = false := by
        rw [beq_eq_false_iff_ne]
        exact fun e => h (String.toList_inj.1 e)
      simp [List.lookup_cons, differ, h]

namespace Call

theorem members_propertiesTerm (c : Call) :
    c.propertiesTerm.members = c.properties.map fun p => (p.1.toList, p.2.term) := by
  unfold propertiesTerm
  split_ifs with empty
  · rw [List.isEmpty_iff.1 empty]
    rfl
  · rfl

theorem lookup_content (s : Styled) {key : String} (h : key ≠ "dangerouslySetInnerHTML") :
    ((content? s).toList.map fun p => (p.1.toList, p.2.term)).lookup key.toList =
      if key = "role" then (role? s).map (.text ·.toList) else none := by
  have single (name : String) (v : Term) :
      [(name.toList, v)].lookup key.toList = if key = name then some v else none :=
    lookup_option key name (some v) id
  unfold content? role?
  cases s.icon with
  | none =>
    cases s.node.placeholder with
    | none => simp
    | some p => exact single "role" _
  | some icon =>
    cases icon with
    | svg width height label =>
      refine (single "dangerouslySetInnerHTML" _).trans ?_
      rw [if_neg h]
      simp
    | glyph label => exact single "role" _

theorem lookup_text (key name : String) (a : Option String) :
    ((a.map fun b => (name, Property.text b)).toList.map fun p => (p.1.toList, p.2.term)).lookup
      key.toList = if key = name then a.map (.text ·.toList) else none := by
  rw [← lookup_option]
  cases a <;> rfl

theorem lookup_style (css : StyleMap) (key : String) :
    ((if css.isEmpty then [] else [("style", Property.style css)]).map
      fun p => (p.1.toList, p.2.term)).lookup key.toList = if key = "style" then css.term? else none := by
  unfold StyleMap.term?
  split_ifs with empty style style
  · rfl
  · rfl
  · exact (lookup_option key "style" (some css.term) id).trans (if_pos style)
  · exact (lookup_option key "style" (some css.term) id).trans (if_neg style)

theorem lookup_properties (s : Styled) (key : String) (hd : key ≠ "dangerouslySetInnerHTML") :
    ((ofStyled s).properties.map fun p => (p.1.toList, p.2.term)).lookup key.toList =
      (((if key = "aria-label" then (label? s).map (.text ·.toList) else none).or
        (if key = "className" then s.token.map (.text ·.toList) else none)).or
        (if key = "role" then (role? s).map (.text ·.toList) else none)).or
        (if key = "style" then s.style.term? else none) := by
  simp only [ofStyled, List.map_append, List.lookup_append]
  rw [lookup_text, lookup_text, lookup_content s hd, lookup_style s.style]

theorem shown_ofCall (s : Styled) : (ReadElement.ofCall s).shown = .ofCall s := by
  have label := lookup_properties s "aria-label" (by decide)
  have cls := lookup_properties s "className" (by decide)
  have role := lookup_properties s "role" (by decide)
  unfold ReadElement.shown ReadElement.ofCall
  rw [members_propertiesTerm]
  unfold Shown.ofMembers Shown.ofCall
  rw [label, cls, role]
  simp

/-- The element of the call for a node has the style of the node. -/
theorem style?_ofCall (s : Styled) : (ReadElement.ofCall s).style? = s.style.term? := by
  unfold ReadElement.style? ReadElement.ofCall
  rw [members_propertiesTerm, lookup_properties s "style" (by decide)]
  simp

theorem term_ofTree (s : Styled) (children : List (Tree Styled)) :
    term (ofTree (.node s children)) =
      .call "createElement".toList
        (.text "div".toList :: (ofStyled s).propertiesTerm ::
          ((ofStyled s).texts.map (.text ·.toList) ++ children.map fun c => term (ofTree c))) := by
  rw [ofTree, Tree.fold_node, term, Tree.fold_node, List.map_map]
  rfl

theorem text?_term (t : Tree Call) : (term t).text? = none := by
  cases t with
  | node c calls =>
    rw [term, Tree.fold_node]
    rfl

/-- The calls for a tree of nodes make one element for each node. -/
theorem elements_term (t : Tree Styled) : (term (ofTree t)).elements = [t.map ReadElement.ofCall] := by
  induction t using Tree.induct with
  | node s children ih =>
    have below : (children.map fun c => term (ofTree c)).flatMap Term.elements =
        children.map (Tree.map ReadElement.ofCall) := by
      rw [List.flatMap_map, List.flatMap_congr ih, ← List.map_eq_flatMap]
    have noTexts : (children.map fun c => term (ofTree c)).filterMap Term.text? = [] := by
      rw [List.filterMap_map, List.filterMap_eq_nil_iff]
      exact fun c _ => text?_term _
    have texts : ((ofStyled s).texts.map (Term.text ·.toList)).filterMap Term.text? =
        (ofStyled s).texts.map String.toList := by
      rw [List.filterMap_map, ← List.filterMap_eq_map]
      rfl
    have literals : ((ofStyled s).texts.map (Term.text ·.toList)).flatMap Term.elements = [] := by
      rw [List.flatMap_map]
      simp [Term.elements]
    rw [term_ofTree, Term.elements, Term.elementsAll_eq, List.flatMap_append, literals, below,
      List.filterMap_append, texts, noTexts, List.append_nil, Tree.map_node]
    rfl

end Call

end DesignCode
