import DesignCode.Code.Token
import DesignCode.Proofs.OrderedMap
import DesignCode.Proofs.Tree.Subtrees

/-!
# Classes of looks

A registry numbers the signatures in the order in which they come (`IsNumbered`), so that a new class is never
one that is there already.  Hence the rule of a class stays the one that it was given with: once looks have
been registered, each of them has a class, and the rule of a class is that of a look with its signature
(`Defines`).  The looks of the texts of a tree are registered in preorder (`ofTree_eq_foldl`).
-/

namespace DesignCode

/-- What the nodes above a node leave for it, the nearest one first. -/
def Inherited.ofAbove (above : List Node) : Inherited := above.foldr (fun n i => i.below n) {}

/-- The texts of a tree with their colors, in preorder. -/
def Node.looks (p : Palette) (t : Tree Node) : List (TextContent × String) :=
  t.subtrees.filterMap fun x =>
    x.2.value.text.map fun c => (c, (Inherited.ofAbove x.1).textColor p c)

namespace TokenRegistry

/-! ### Numbers of classes -/

/-- The class that comes after `k` others. -/
def classAfter (k : Nat) : String := "ts-" ++ String.ofList (Decimal.digitChars (k + 1))

theorem next_eq (r : TokenRegistry) : r.next = classAfter r.tokens.size := rfl

theorem classAfter_injective : Function.Injective classAfter := by
  intro k k' same
  have digits : Nat.toDigits 10 (k + 1) = Nat.toDigits 10 (k' + 1) :=
    String.ofList_injective ((String.append_right_inj _).1 same)
  have number := congrArg (fun ds => Nat.ofDigitChars 10 ds 0) digits
  simp only [Nat.ofDigitChars_ten_toDigits] at number
  omega

/-- A class is named by its beginning and digits. -/
theorem not_mem_classAfter {c : Char} (h : c ∉ "ts-".toList ∧ c.isDigit = false) (k : Nat) :
    c ∉ (classAfter k).toList := by
  have digits : c ∉ Decimal.digitChars (k + 1) := fun mem =>
    absurd (h.2.symm.trans (Nat.isDigit_of_mem_toDigits (by decide) (by decide) mem)) (by decide)
  rw [classAfter, String.toList_append, List.mem_append, not_or]
  exact ⟨h.1, by rwa [String.toList_ofList]⟩

/-- Whether the classes are numbered in the order of their signatures. -/
def IsNumbered (r : TokenRegistry) : Prop :=
  r.tokens.values = (List.range r.tokens.size).map classAfter

theorem isNumbered_empty : empty.IsNumbered := rfl

theorem IsNumbered.insert {r : TokenRegistry} (h : r.IsNumbered) {signature : String}
    (new : r.get? signature = none) (rules : OrderedMap StyleMap) :
    IsNumbered ⟨r.tokens.insert signature r.next, rules⟩ := by
  have entries := OrderedMap.entries_insert_of_get?_eq_none new r.next
  have size : (r.tokens.insert signature r.next).size = r.tokens.size + 1 := by
    rw [OrderedMap.size, entries, List.length_append]
    rfl
  show OrderedMap.values _ = (List.range (OrderedMap.size _)).map classAfter
  rw [size, OrderedMap.values, entries, List.map_append, List.range_succ, List.map_append, ← h]
  rfl

/-- The next class is none of those that have been given. -/
theorem IsNumbered.ne_next {r : TokenRegistry} (h : r.IsNumbered) {signature token : String}
    (given : r.get? signature = some token) : token ≠ r.next := by
  have mem : token ∈ r.tokens.values :=
    List.mem_map_of_mem (r.tokens.get?_eq_some_iff.1 given)
  rw [h] at mem
  obtain ⟨k, hk, rfl⟩ := List.mem_map.1 mem
  rw [List.mem_range] at hk
  rw [next_eq]
  intro same
  have number : k = r.tokens.size := classAfter_injective same
  omega

/-! ### Registering one look -/

section

variable (r : TokenRegistry) (t : TextContent) (color : String)

/-- The look has the class that is returned, and the other signatures have theirs as before. -/
theorem get?_registerText (signature : String) :
    (r.registerText t color).2.get? signature =
      if signature = t.signature color then some (r.registerText t color).1
      else r.get? signature := by
  unfold registerText
  split
  · next token old =>
    split_ifs with same
    · rw [same, old]
    · rfl
  · exact OrderedMap.get?_insert ..

/-- A signature keeps its class. -/
theorem get?_registerText_of_some {signature token : String}
    (given : r.get? signature = some token) :
    (r.registerText t color).2.get? signature = some token := by
  unfold registerText
  split
  · exact given
  · next new =>
    have other : signature ≠ t.signature color := by
      rintro rfl
      exact absurd (new.symm.trans given) (by simp)
    show (r.tokens.insert _ _).get? signature = _
    rw [OrderedMap.get?_insert, if_neg other]
    exact given

/-- A class keeps its rule. -/
theorem get?_rules_registerText {signature token : String} (numbered : r.IsNumbered)
    (given : r.get? signature = some token) :
    (r.registerText t color).2.rules.get? token = r.rules.get? token := by
  unfold registerText
  split
  · rfl
  · show (r.rules.insert r.next _).get? token = _
    rw [OrderedMap.get?_insert, if_neg (numbered.ne_next given)]

/-- A look without a class gets one with the look's own declarations. -/
theorem get?_rules_registerText_of_none (new : r.get? (t.signature color) = none) :
    (r.registerText t color).2.rules.get? (r.registerText t color).1 =
      some (t.declarations color) := by
  unfold registerText
  split
  · next token old => exact absurd (new.symm.trans old) (by simp)
  · show (r.rules.insert r.next _).get? r.next = _
    rw [OrderedMap.get?_insert, if_pos rfl]

theorem IsNumbered.registerText {r : TokenRegistry} (h : r.IsNumbered) :
    (r.registerText t color).2.IsNumbered := by
  unfold TokenRegistry.registerText
  split
  · exact h
  · next new => exact h.insert new _

end

/-! ### Rules of classes -/

/-- Whether looks have classes with rules of their own. -/
structure Defines (r : TokenRegistry) (looks : List (TextContent × String)) : Prop where
  numbered : r.IsNumbered
  /-- Each look has a class. -/
  seen : ∀ x ∈ looks, ∃ token, r.get? (x.1.signature x.2) = some token
  /-- The rule of a class is that of a look with its signature. -/
  rule : ∀ signature token, r.get? signature = some token →
    ∃ x ∈ looks, x.1.signature x.2 = signature ∧ r.rules.get? token = some (x.1.declarations x.2)

theorem defines_empty : empty.Defines [] where
  numbered := isNumbered_empty
  seen := by simp
  rule _ _ h := by cases h

/-- A look is registered beside others. -/
theorem Defines.registerText {r : TokenRegistry} {looks : List (TextContent × String)}
    (h : r.Defines looks) (t : TextContent) (color : String) :
    (r.registerText t color).2.Defines (looks ++ [(t, color)]) := by
  refine ⟨h.numbered.registerText t color, ?_, ?_⟩
  · intro x hx
    rw [get?_registerText]
    split_ifs with same
    · exact ⟨_, rfl⟩
    · rcases List.mem_append.1 hx with hx | hx
      · exact h.seen x hx
      · exact absurd (by rw [List.mem_singleton.1 hx]) same
  · intro signature token given
    cases old : r.get? signature with
    | some first =>
      have kept : first = token :=
        Option.some.inj ((get?_registerText_of_some r t color old).symm.trans given)
      subst kept
      obtain ⟨x, hx, sign, rule⟩ := h.rule signature first old
      exact ⟨x, List.mem_append_left _ hx, sign,
        (get?_rules_registerText r t color h.numbered old).trans rule⟩
    | none =>
      rw [get?_registerText] at given
      split_ifs at given with same
      · obtain rfl := Option.some.inj given
        have rule := get?_rules_registerText_of_none r t color (same ▸ old)
        exact ⟨(t, color), by simp, same.symm, rule⟩
      · exact absurd (old.symm.trans given) (by simp)

/-- So are further looks, one after the other. -/
theorem Defines.foldl {r : TokenRegistry} {looks : List (TextContent × String)} (h : r.Defines looks)
    (more : List (TextContent × String)) :
    (more.foldl (fun r x => (r.registerText x.1 x.2).2) r).Defines (looks ++ more) := by
  induction more generalizing r looks with
  | nil => rwa [List.append_nil]
  | cons x more ih =>
    have further := ih (h.registerText x.1 x.2)
    rwa [List.append_assoc] at further

/-! ### Trees -/

theorem ofTree_eq_foldl (p : Palette) (t : Tree Node) :
    ofTree p t = (Node.looks p t).foldl (fun r x => (r.registerText x.1 x.2).2) empty := by
  have context := Tree.preorder_inherit (fun i (s : Tree Node) => (i, s.value)) Inherited.below {} t []
  rw [List.foldr_nil] at context
  rw [ofTree, context, List.foldl_map, Node.looks, List.foldl_filterMap]
  congr 1
  funext r x
  rw [registerNode]
  cases text : x.2.value.text with
  | none => rfl
  | some c => rfl

/-- The looks of the texts of a tree have classes with rules of their own. -/
theorem defines_ofTree (p : Palette) (t : Tree Node) : (ofTree p t).Defines (Node.looks p t) :=
  ofTree_eq_foldl p t ▸ defines_empty.foldl _

end TokenRegistry

end DesignCode
