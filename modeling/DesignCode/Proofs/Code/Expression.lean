import DesignCode.Code.Generation
import DesignCode.Proofs.Code.Call
import DesignCode.Proofs.Template.Fill

/-!
# What an expression says

The expression for a tree of nodes is a fixed frame around the text of a tree of calls, and that text
is read as one call for each node.  `Depicts` is the relation between a tree of nodes and such a call.
-/

namespace DesignCode

open Script (Term)

/-! ### The frame -/

/-- The text of an expression around the name of the component and the tree of calls. -/
def expressionFrame (name tree : List Char) : List Char :=
  "(function(createElement) \x7b\n  function ".toList ++ name ++ "() \x7b\n    return ".toList ++
    tree ++ ";\n  \x7d\n  return ".toList ++ name ++ ";\n\x7d)".toList

theorem fill_expression (name tree : String) :
    Template.expression.fill (.object [("name", .string name), ("tree", .string tree)]) =
      expressionFrame name.toList tree.toList := by
  have first (j k : Json) : [("name", j), ("tree", k)].lookup "name" = some j := rfl
  have second (j k : Json) : [("name", j), ("tree", k)].lookup "tree" = some k := rfl
  rw [Template.expression]
  simp only [Template.fill_text, Template.fill_value, Template.fill_nil, Template.lookup_singleton,
    first, second, Option.map_some, Option.getD_some, Template.display]
  unfold expressionFrame
  simp only [List.append_assoc, List.append_nil]

theorem toList_expressionCode (o : Options) (t : Tree Node) :
    (expressionCode o t).toList = expressionFrame o.identifier.toList (expressionTree o t) := by
  rw [expressionCode, String.toList_ofList, fill_expression, String.toList_ofList]

theorem Options.isNameChar_cases {c : Char} (h : isNameChar c = true) :
    Script.startsIdentifier c = true ∨ c.isDigit = true := by
  simp only [isNameChar, Char.isAlphanum, Bool.or_eq_true, decide_eq_true_eq] at h
  rcases h with (alpha | digit) | underscore
  · simp [Script.startsIdentifier, alpha]
  · exact .inr digit
  · simp [Script.startsIdentifier, underscore]

/-- A name is what is left of the words of the given name, behind a further word if a digit comes first; if
nothing is left, it is the common one. -/
theorem Options.identifier_cases (o : Options) :
    (Text.pascal o.componentName.toList).filter isNameChar = [] ∧ o.identifier = defaultName ∨
      ∃ c rest, (Text.pascal o.componentName.toList).filter isNameChar = c :: rest ∧
        o.identifier.toList = if c.isDigit then "Figma".toList ++ c :: rest else c :: rest := by
  unfold identifier
  split
  · next left => exact .inl ⟨left, rfl⟩
  · next c rest left =>
    refine .inr ⟨c, rest, left, ?_⟩
    split_ifs
    · rw [String.toList_append, String.toList_ofList (l := c :: rest)]
    · rw [String.toList_ofList]

open scoped Text.ByMember in
/-- The name in the frame is an identifier, whatever the component is to be called. -/
theorem Options.isIdentifier_identifier (o : Options) :
    Script.isIdentifier o.identifier.toList = true := by
  rcases o.identifier_cases with ⟨-, name⟩ | ⟨c, rest, left, name⟩
  · rw [name]
    decide
  · have chars : ∀ d ∈ c :: rest, Script.startsIdentifier d = true ∨ d.isDigit = true := fun d hd =>
      isNameChar_cases (List.mem_filter.1 (left ▸ hd)).2
    rw [name]
    split_ifs with digit
    · have tail : ∀ d ∈ "igma".toList ++ c :: rest, Script.startsIdentifier d = true ∨ d.isDigit = true :=
        List.forall_mem_append.2 ⟨by decide, chars⟩
      simpa [Script.isIdentifier, show Script.startsIdentifier 'F' = true by decide] using tail
    · obtain ⟨head, tail⟩ := List.forall_mem_cons.1 chars
      simpa [Script.isIdentifier, head.resolve_right digit] using tail

/-! ### Calls for nodes -/

/-- The names of the properties of elements, in the order in which they are written. -/
def propertyNames : List String :=
  ["aria-label", "className", "dangerouslySetInnerHTML", "role", "style"]

/-- The value of a property: a text, or an object of texts and words.  There is no call in it. -/
inductive IsValue : Term → Prop where
  | text (cs : List Char) : IsValue (.text cs)
  | object {members : List (List Char × Term)}
      (plain : ∀ m ∈ members, ∃ cs, m.2 = .text cs ∨ m.2 = .word cs) : IsValue (.object members)

/-- Some of the properties in their order, or `null` for none. -/
inductive IsProperties : Term → Prop where
  | null : IsProperties (.word "null".toList)
  | object {members : List (List Char × Term)}
      (keys : (members.map Prod.fst).Sublist (propertyNames.map String.toList))
      (values : ∀ m ∈ members, IsValue m.2) :
      IsProperties (.object members)

namespace Node

/-- The glyph of a node whose icon cannot be drawn. -/
def glyph? (o : Options) (n : Node) : Option String :=
  match Styled.iconOf o n with
  | some (.glyph _) => some Icon.fallbackGlyph
  | _ => none

/-- The characters of a text node. -/
def characters? (n : Node) : Option String := n.text.map TextContent.characters

end Node

/-- The term is a call for the root of the tree: with the properties, with the glyph and the
characters of the node as far as it has them, and with such calls for the children in their order. -/
inductive Depicts (o : Options) : Tree Node → Term → Prop where
  | call {n : Node} {children : List (Tree Node)} {properties : Term} {calls : List Term}
      (isProperties : IsProperties properties)
      (below : List.Forall₂ (Depicts o) children calls) :
      Depicts o (.node n children)
        (.call "createElement".toList
          (.text "div".toList :: properties ::
            (((n.glyph? o).toList ++ n.characters?.toList).map (.text ·.toList) ++ calls)))

theorem option_keys_sublist {β : Type} (a : Option β) (key : String) (f : β → Property) :
    ((a.map fun b => (key, f b)).toList.map Prod.fst).Sublist [key] := by
  cases a <;> simp

theorem content_keys_sublist (s : Styled) :
    ((Call.content? s).toList.map Prod.fst).Sublist ["dangerouslySetInnerHTML", "role"] := by
  unfold Call.content?
  split
  · simp
  · simp
  · exact (option_keys_sublist _ "role" _).trans (by simp)

theorem keys_sublist (s : Styled) :
    ((Call.ofStyled s).properties.map Prod.fst).Sublist propertyNames := by
  have style : ((if s.style.isEmpty then [] else [("style", Property.style s.style)]).map
      Prod.fst).Sublist ["style"] := by
    split_ifs <;> simp
  simp only [Call.ofStyled, List.map_append]
  exact (((option_keys_sublist _ "aria-label" _).append
    (option_keys_sublist _ "className" _)).append (content_keys_sublist s)).append style

theorem StyleValue.isPlain_term (v : StyleValue) : ∃ cs, v.term = .text cs ∨ v.term = .word cs := by
  unfold term
  split_ifs
  · exact ⟨_, .inr rfl⟩
  · exact ⟨_, .inl rfl⟩

theorem isValue_term (p : Property) : IsValue p.term := by
  cases p with
  | text s => exact .text _
  | inner markup =>
    refine .object ?_
    rw [List.forall_mem_singleton]
    exact ⟨markup, .inl rfl⟩
  | style css =>
    refine .object ?_
    rw [List.forall_mem_map]
    exact fun e _ => e.2.isPlain_term

theorem isProperties_propertiesTerm (s : Styled) :
    IsProperties (Call.ofStyled s).propertiesTerm := by
  unfold Call.propertiesTerm
  split_ifs
  · exact .null
  · have keys := (keys_sublist s).map String.toList
    rw [List.map_map] at keys
    refine .object (by rwa [List.map_map]) ?_
    rw [List.forall_mem_map]
    exact fun p _ => isValue_term p.2

/-- The term of the calls of a tree of nodes depicts the tree, whatever its nodes inherit and whatever
classes they are given. -/
theorem depicts_term (o : Options) (tokens : TokenRegistry) (t : Tree Node) (i : Inherited) :
    Depicts o t (Call.term (Call.ofTree (t.inherit (Styled.ofNode o tokens) Inherited.below i))) := by
  induction t using Tree.induct generalizing i with
  | node n children ih =>
    rw [Tree.inherit_node, Call.ofTree, Tree.fold_node, Call.term, Tree.fold_node]
    refine .call (isProperties_propertiesTerm _) ?_
    simp only [List.map_map]
    exact List.forall₂_map_right_iff.2 (List.forall₂_same.2 fun c hc => ih c hc _)

/-! ### The whole expression -/

/-- An expression is the fixed frame, with an identifier as the name of the component, around a text
that is read as one call for each node, nested as the nodes are and with the children in their order.
No text or name of a node can end a literal or a bracket. -/
theorem expressionCode_reads (o : Options) (t : Tree Node) :
    (expressionCode o t).toList = expressionFrame o.identifier.toList (expressionTree o t) ∧
      Script.isIdentifier o.identifier.toList = true ∧
      ∃ e, Term.read? (expressionTree o t) = some e ∧ Depicts o t e :=
  ⟨toList_expressionCode o t, o.isIdentifier_identifier,
    _, (Call.reads_render _ 4).read?, depicts_term o (Styled.registry o t) t {}⟩

end DesignCode
