import DesignCode.Tree
import Mathlib.Tactic.Common

/-!
# Induction over rose trees

`Tree.induct` proves a statement about all trees from what holds below a node.  The lemmas after it
say what the walks over a tree do at a node, in terms of the same walks over its children.  A subtree
is found by its position (`at?`): the list of the numbers of the children on the way to it.
-/

namespace DesignCode.Tree

variable {α β γ : Type}

/-- A statement that a node takes over from its children holds of all trees. -/
@[elab_as_elim]
theorem induct {motive : Tree α → Prop}
    (node : ∀ v cs, (∀ c ∈ cs, motive c) → motive (.node v cs)) : ∀ t, motive t
  | .node v cs => node v cs fun c _ => induct node c

@[simp] theorem fold_node (f : α → List β → β) (v : α) (cs : List (Tree α)) :
    fold f (.node v cs) = f v (cs.map (fold f)) := by
  rw [fold, foldAll_eq_map]

@[simp] theorem inherit_node (here : γ → Tree α → β) (below : γ → α → γ) (c : γ) (v : α)
    (cs : List (Tree α)) :
    inherit here below c (.node v cs) =
      .node (here c (.node v cs)) (cs.map (inherit here below (below c v))) := by
  rw [inherit, inheritAll_eq_map]

theorem preorder_node (v : α) (cs : List (Tree α)) :
    preorder (.node v cs) = v :: cs.flatMap preorder := by
  rw [preorder, fold_node, List.flatMap_def]
  rfl

/-- What holds of all results of a walk from the root down holds of all values that it leaves. -/
theorem forall_mem_preorder_inherit {P : β → Prop} {here : γ → Tree α → β} (below : γ → α → γ)
    (h : ∀ c t, P (here c t)) (t : Tree α) (c : γ) :
    ∀ b ∈ (t.inherit here below c).preorder, P b := by
  induction t using Tree.induct generalizing c with
  | node v cs ih =>
    rw [inherit_node, preorder_node, List.flatMap_map]
    refine List.forall_mem_cons.2 ⟨h c _, ?_⟩
    intro b hb
    obtain ⟨t, ht, hb⟩ := List.mem_flatMap.1 hb
    exact ih t ht _ b hb

/-! ### Values -/

/-- Changes all values. -/
def map (f : α → β) (t : Tree α) : Tree β := t.fold fun v cs => .node (f v) cs

theorem map_node (f : α → β) (v : α) (cs : List (Tree α)) :
    map f (.node v cs) = .node (f v) (cs.map (map f)) := by
  rw [map, fold_node]
  rfl

@[simp] theorem value_map (f : α → β) (t : Tree α) : (t.map f).value = f t.value := by
  cases t with
  | node v cs => rw [map_node]; rfl

theorem map_map (g : β → γ) (f : α → β) (t : Tree α) : (t.map f).map g = t.map (g ∘ f) := by
  induction t using induct with
  | node v cs ih =>
    rw [map_node, map_node, map_node, List.map_map]
    exact congrArg (node (g (f v))) (List.map_congr_left ih)

/-! ### Positions -/

/-- The subtree at a position. -/
def at? : Tree α → List Nat → Option (Tree α)
  | t, [] => some t
  | t, i :: p => t.children[i]?.bind fun c => c.at? p

@[simp] theorem at?_nil (t : Tree α) : t.at? [] = some t := rfl

theorem at?_cons (t : Tree α) (i : Nat) (p : List Nat) :
    t.at? (i :: p) = t.children[i]?.bind fun c => c.at? p := rfl

theorem at?_map (f : α → β) (t : Tree α) (p : List Nat) : (t.map f).at? p = (t.at? p).map (map f) := by
  induction p generalizing t with
  | nil => rfl
  | cons i p ih =>
    cases t with
    | node v cs =>
      rw [map_node, at?_cons, at?_cons, children, children, List.getElem?_map]
      cases cs[i]? with
      | none => rfl
      | some c => exact ih c

theorem mem_preorder_of_at? {t u : Tree α} {p : List Nat} (h : t.at? p = some u) :
    u.value ∈ t.preorder := by
  induction p generalizing t with
  | nil =>
    obtain rfl : t = u := by simpa using h
    cases t with
    | node v cs => rw [preorder_node]; exact List.mem_cons_self
  | cons i p ih =>
    cases t with
    | node v cs =>
      rw [at?_cons, children] at h
      obtain ⟨c, hc, at_p⟩ := Option.bind_eq_some_iff.1 h
      rw [preorder_node]
      exact List.mem_cons_of_mem _
        (List.mem_flatMap.2 ⟨c, List.mem_of_getElem? hc, ih at_p⟩)

/-- What holds of all subtrees holds of the tree and of all subtrees of its children. -/
theorem forall_at?_node {Q : Tree α → Prop} (v : α) (cs : List (Tree α)) :
    (∀ p u, (node v cs).at? p = some u → Q u) ↔
      Q (node v cs) ∧ ∀ c ∈ cs, ∀ p u, c.at? p = some u → Q u := by
  constructor
  · intro h
    refine ⟨h [] _ rfl, ?_⟩
    intro c hc p u hu
    obtain ⟨i, hi⟩ := List.mem_iff_getElem?.1 hc
    refine h (i :: p) u ?_
    rw [at?_cons, children, hi]
    exact hu
  · rintro ⟨root, below⟩ p u hu
    cases p with
    | nil =>
      obtain rfl : node v cs = u := by simpa using hu
      exact root
    | cons i p =>
      rw [at?_cons, children] at hu
      obtain ⟨c, hc, at_p⟩ := Option.bind_eq_some_iff.1 hu
      exact below c (List.mem_of_getElem? hc) p u at_p

/-- At a position below the root something has been inherited, which does not matter for what is
there. -/
theorem at?_inherit (here : γ → Tree α → β) (below : γ → α → γ) (c : γ) (t : Tree α) (p : List Nat) :
    ∃ d, (t.inherit here below c).at? p = (t.at? p).map fun u => u.inherit here below d := by
  induction p generalizing t c with
  | nil => exact ⟨c, rfl⟩
  | cons i p ih =>
    cases t with
    | node v cs =>
      rw [inherit_node, at?_cons, at?_cons, children, children, List.getElem?_map]
      cases cs[i]? with
      | none => exact ⟨c, rfl⟩
      | some u => exact ih (below c v) u

end DesignCode.Tree
