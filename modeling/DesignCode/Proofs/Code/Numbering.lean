import DesignCode.Proofs.Code.Position
import DesignCode.Proofs.Code.Registration
import Mathlib.Data.List.Perm.Subperm

/-!
# Numbers of text classes

The signatures of the texts of a tree, each once and in the order of their first appearance, are numbered.  Both
kinds of generated code give a text the class with the number of its signature, and no class to other nodes; the
rules that a component exports are those of all these classes, one each and in their order
(`classes_numbered`).
-/

namespace DesignCode

open Script (Term)

/-! ### Numbered signatures -/

namespace Node

/-- The signatures of the texts of a tree, each once, in the order in which they come first in preorder. -/
def signatures (p : Palette) (t : Tree Node) : List String :=
  ((looks p t).map fun x => x.1.signature x.2).eraseDups

/-- The class of the node at a position, which has the rank of its signature; a node that is no text has none. -/
def class? (p : Palette) (t : Tree Node) (path : List Nat) (n : Node) : Option String :=
  (n.signature? p (.ofAbove (t.above path))).map fun s =>
    TokenRegistry.classAfter ((signatures p t).idxOf s)

theorem mem_signatures {p : Palette} {t u : Tree Node} {path : List Nat} (hu : t.at? path = some u)
    {s : String} (hs : u.value.signature? p (.ofAbove (t.above path)) = some s) :
    s ∈ signatures p t := by
  obtain ⟨c, text, rfl⟩ := Option.map_eq_some_iff.1 hs
  have look : (c, (Inherited.ofAbove (t.above path)).textColor p c) ∈ looks p t :=
    List.mem_filterMap.2 ⟨_, Tree.mem_subtreesBelow_of_at? hu, by rw [text]; rfl⟩
  exact List.mem_eraseDups.2 (List.mem_map.2 ⟨_, look, rfl⟩)

end Node

namespace TokenRegistry

/-! ### The classes of a tree -/

/-- The classes of looks that are registered one after the other. -/
def ofLooks (looks : List (TextContent × String)) : TokenRegistry :=
  looks.foldl (fun r x => (r.registerText x.1 x.2).2) empty

theorem hasSeen_ofLooks (looks : List (TextContent × String)) :
    (ofLooks looks).HasSeen (looks.map fun x => x.1.signature x.2) := by
  have calls : ofLooks looks = after (looks.map fun x => .text x.1 x.2) := by
    rw [after, List.foldl_map]
    rfl
  have seen := hasSeen_after (looks.map fun x => .text x.1 x.2)
  rw [List.map_map] at seen
  exact calls ▸ seen

section

variable (p : Palette) (t : Tree Node)

theorem hasSeen_ofTree :
    (ofTree p t).HasSeen ((Node.looks p t).map fun x => x.1.signature x.2) :=
  ofTree_eq_foldl p t ▸ hasSeen_ofLooks (Node.looks p t)

/-- Each class has a rule, and the rules come in the order of the classes. -/
theorem keys_rules_ofTree : (ofTree p t).rules.keys = (ofTree p t).tokens.values := by
  have h := hasSeen_ofTree p t
  have distinct : (ofTree p t).tokens.values.Nodup := by
    rw [h.values]
    exact List.nodup_range.map classAfter_injective
  have ruled : (ofTree p t).tokens.values ⊆ (ofTree p t).rules.keys := by
    intro token mem
    obtain ⟨e, he, rfl⟩ := List.mem_map.1 mem
    obtain ⟨x, -, -, rule⟩ :=
      (defines_ofTree p t).rule e.1 e.2 ((ofTree p t).tokens.get?_eq_some_iff.2 he)
    exact (OrderedMap.mem_keys_iff _ _).2 ⟨_, rule⟩
  exact h.ruled.eq_of_length_le (distinct.subperm ruled).length_le

theorem values_ofTree :
    (ofTree p t).tokens.values = (List.range (Node.signatures p t).length).map classAfter :=
  (hasSeen_ofTree p t).values

variable {p t}

/-- The signature of rank `k` has the class with the number of the rank. -/
theorem get?_ofTree {k : Nat} {s : String} (h : (Node.signatures p t)[k]? = some s) :
    (ofTree p t).get? s = some (classAfter k) :=
  (hasSeen_ofTree p t).get?_of_getElem? h

theorem get?_ofTree_of_mem {s : String} (h : s ∈ Node.signatures p t) :
    (ofTree p t).get? s = some (classAfter ((Node.signatures p t).idxOf s)) :=
  get?_ofTree (List.getElem?_idxOf h)

/-- The rule of rank `k` is that of the class of rank `k`, with the declarations of a text of that class. -/
theorem getElem?_rules_ofTree {k : Nat} {s : String} (h : (Node.signatures p t)[k]? = some s) :
    ∃ x ∈ Node.looks p t, x.1.signature x.2 = s ∧
      (ofTree p t).rules.entries[k]? = some (classAfter k, x.1.declarations x.2) := by
  obtain ⟨x, hx, same, rule⟩ := (defines_ofTree p t).rule s _ (get?_ofTree h)
  refine ⟨x, hx, same, (ofTree p t).rules.getElem?_entries ?_ rule⟩
  have inside : k < (Node.signatures p t).length := (List.getElem?_eq_some_iff.1 h).1
  rw [keys_rules_ofTree, values_ofTree, List.getElem?_map, List.getElem?_range inside]
  rfl

theorem length_rules_ofTree : (ofTree p t).rules.entries.length = (Node.signatures p t).length := by
  have keys := congrArg List.length (keys_rules_ofTree p t)
  rw [values_ofTree, List.length_map, List.length_range, OrderedMap.keys, List.length_map] at keys
  exact keys

end

end TokenRegistry

/-- Moving the lines of markup leaves classes as they are. -/
theorem Node.moved_class? (p : Palette) (t : Tree Node) (path : List Nat) (n : Node) :
    ((n.class? p t path).map fun c => Term.text (Text.moved 4 c.toList)) =
      (n.class? p t path).map (.text ·.toList) := by
  rw [class?, Option.map_map, Option.map_map]
  refine congrArg (Option.map · _) ?_
  funext s
  exact congrArg Term.text ((Text.moved_eq_self_iff (by decide)).2
    (TokenRegistry.not_mem_classAfter (by decide) _))

/-! ### Classes in generated code -/

section

variable {o : Options} (on : o.textTokens = true) {t u : Tree Node} {path : List Nat}

include on

theorem Styled.registry_eq : Styled.registry o t = .ofTree o.palette t := if_pos on

/-- The token of the node at a position is its class. -/
theorem Styled.token_ofNode (hu : t.at? path = some u) :
    (ofNode o (registry o t) (.ofAbove (t.above path)) u).token =
      u.value.class? o.palette t path := by
  show (u.value.signature? o.palette _).bind (registry o t).get? = _
  rw [registry_eq on, Node.class?]
  cases signature : u.value.signature? o.palette (.ofAbove (t.above path)) with
  | none => rfl
  | some s => exact TokenRegistry.get?_ofTree_of_mem (Node.mem_signatures hu signature)

/-- A component exports as many rules as there are signatures. -/
theorem length_componentRules :
    (componentRules o t).length = (Node.signatures o.palette t).length := by
  rw [componentRules, List.length_map, TokenRegistry.ruleTexts, List.length_map,
    Styled.registry_eq on, TokenRegistry.length_rules_ofTree]

/-- The rule of rank `k` is a literal of the rule of the class with the number of the rank. -/
theorem getElem?_componentRules {k : Nat} {s : String}
    (h : (Node.signatures o.palette t)[k]? = some s) :
    ∃ c ∈ Node.looks o.palette t, c.1.signature c.2 = s ∧
      (componentRules o t)[k]? = some (String.ofList (Script.literal
        (TokenRegistry.rule (TokenRegistry.classAfter k, c.1.declarations c.2)).toList)) := by
  obtain ⟨c, hc, same, rule⟩ := TokenRegistry.getElem?_rules_ofTree h
  refine ⟨c, hc, same, ?_⟩
  rw [componentRules, Styled.registry_eq on, List.getElem?_map, TokenRegistry.ruleTexts,
    List.getElem?_map, rule]
  rfl

end

/-- The two kinds of code, read with the outlines `x` and `y`, and the rules that the component exports agree on
the numbers of the classes. -/
structure NumbersClasses (o : Options) (t : Tree Node) (x y : Tree Shown) : Prop where
  /-- The expression gives each node its class: a text the one of its number, another node none. -/
  expression : ∀ path, (x.at? path).map (·.value.cls) =
    (t.at? path).map fun u => (u.value.class? o.palette t path).map (.text ·.toList)
  /-- So does the component with each node that it has an element for, apart from the root. -/
  component : ∀ path v, path ≠ [] → y.at? path = some v → ∃ u, t.at? path = some u ∧
    v.value.cls = (u.value.class? o.palette t path).map (.text ·.toList)
  /-- There are as many rules as signatures. -/
  length_rules : (componentRules o t).length = (Node.signatures o.palette t).length
  /-- The rule at each place is a literal of the rule of the class with that number, and has the declarations
  of a text with the signature of that number. -/
  rule : ∀ k s, (Node.signatures o.palette t)[k]? = some s →
    ∃ literal, (componentRules o t)[k]? = some literal ∧
      ∃ c ∈ Node.looks o.palette t, c.1.signature c.2 = s ∧
        Term.read? literal.toList = some (.text
          (TokenRegistry.rule (TokenRegistry.classAfter k, c.1.declarations c.2)).toList)

/-- Both kinds of code give each text the class with the number of its signature, counted in preorder, and give
no class to other nodes.  The component exports one rule for each of these classes, in their order, and no rules
if there are no texts. -/
theorem classes_numbered (o : Options) (on : o.textTokens = true) (t : Tree Node) :
    ∃ x y, Outlines o t x y ∧ NumbersClasses o t x y := by
  have h := outlines_ofTree o t
  refine ⟨_, _, h, ?_, ?_, ?_, ?_⟩
  · intro path
    have shown := congrArg (Option.map Shown.cls) (h.value_expression path)
    rw [Option.map_map, Option.map_map] at shown
    refine shown.trans ?_
    cases hu : t.at? path with
    | none => rfl
    | some u =>
      have token := Styled.token_ofNode on hu
      exact congrArg (fun c : Option String => some (c.map (Term.text ·.toList))) token
  · intro path v below hv
    obtain ⟨place, u, hu, inside, value⟩ := h.value_component hv
    refine ⟨u, hu, ?_⟩
    rw [value]
    show Styled.classAt 4 place _ = _
    rw [Styled.classAt, if_neg (inside below), Styled.token_ofNode on hu]
    exact Node.moved_class? o.palette t path u.value
  · exact length_componentRules on
  · intro k s hs
    obtain ⟨c, hc, same, rule⟩ := getElem?_componentRules on hs
    refine ⟨_, rule, c, hc, same, ?_⟩
    rw [String.toList_ofList]
    exact (Script.reads_literal _).read?

/-- A text of a menu. -/
def menuItem (id family : String) : Tree Node :=
  .node { id, name := "Item", kind := .text
          text := some { characters := id, fontFamily := some family } } []

/-- A menu whose last item looks like its first one. -/
def menu : Tree Node :=
  .node { id := "0", name := "Menu", kind := .frame }
    [menuItem "1" "Inter", menuItem "2" "Lora", menuItem "3" "Inter"]

/-- The last item of the menu has the first class, and the second item the second one. -/
theorem classes_numbered_menu :
    ({} : Options).textTokens = true ∧
      (∃ x y, Outlines {} menu x y ∧ NumbersClasses {} menu x y) ∧
      (menuItem "2" "Lora").value.class? {} menu [1] = some "ts-2" ∧
      (menuItem "3" "Inter").value.class? {} menu [2] = some "ts-1" :=
  ⟨rfl, classes_numbered {} rfl menu, by decide +kernel, by decide +kernel⟩

end DesignCode
