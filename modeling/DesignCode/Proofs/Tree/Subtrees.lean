import Mathlib.Algebra.GroupWithZero.Nat
import Mathlib.Data.List.Basic
import DesignCode.Proofs.Tree

/-!
# Subtrees and what stands above them

`Tree.subtrees` lists the subtrees of a tree in preorder, each with the values above it.  What a walk from
the root down hands to a subtree is computed from these values (`preorder_inherit`, and `at?_inherit_aboveAt` for
the subtree at a position), and the height of the tree is read off their number (`height_le_iff`).
-/

namespace DesignCode.Tree

variable {α β γ : Type}

/-- The subtrees of a tree that stands below some values, each before those below it.  The values above a
subtree are listed with the nearest first. -/
def subtreesBelow (above : List α) (t : Tree α) : List (List α × Tree α) :=
  (t.inherit Prod.mk (fun above v => v :: above) above).preorder

/-- The subtrees of a tree with the values above them. -/
def subtrees (t : Tree α) : List (List α × Tree α) := t.subtreesBelow []

theorem subtreesBelow_node (above : List α) (v : α) (cs : List (Tree α)) :
    (node v cs).subtreesBelow above =
      (above, node v cs) :: cs.flatMap (subtreesBelow (v :: above)) := by
  rw [subtreesBelow, inherit_node, preorder_node, List.flatMap_map]
  rfl

/-- Whatever stands above the whole tree stands above its subtrees. -/
theorem suffix_of_mem_subtreesBelow {above : List α} {t : Tree α} {x : List α × Tree α}
    (h : x ∈ t.subtreesBelow above) : above <:+ x.1 := by
  induction t using induct generalizing above with
  | node v cs ih =>
    rw [subtreesBelow_node] at h
    rcases List.mem_cons.1 h with rfl | h
    · exact List.suffix_rfl
    · obtain ⟨c, hc, hx⟩ := List.mem_flatMap.1 h
      exact (List.suffix_cons v above).trans (ih c hc hx)

/-- What stands above a subtree is a value of the tree or stands above the whole tree. -/
theorem mem_of_mem_above {above : List α} {t : Tree α} {x : List α × Tree α}
    (h : x ∈ t.subtreesBelow above) {v : α} (hv : v ∈ x.1) : v ∈ t.preorder ∨ v ∈ above := by
  induction t using induct generalizing above with
  | node w cs ih =>
    rw [subtreesBelow_node] at h
    rw [preorder_node]
    rcases List.mem_cons.1 h with rfl | h
    · exact .inr hv
    · obtain ⟨c, hc, hx⟩ := List.mem_flatMap.1 h
      rcases ih c hc hx with mem | mem
      · exact .inl (List.mem_cons_of_mem _ (List.mem_flatMap.2 ⟨c, hc, mem⟩))
      · rcases List.mem_cons.1 mem with rfl | mem
        · exact .inl List.mem_cons_self
        · exact .inr mem

theorem map_value_subtreesBelow (above : List α) (t : Tree α) :
    (t.subtreesBelow above).map (·.2.value) = t.preorder := by
  induction t using induct generalizing above with
  | node v cs ih =>
    rw [subtreesBelow_node, preorder_node, List.map_cons, List.map_flatMap]
    congr 1
    exact List.flatMap_congr fun c hc => ih c hc (v :: above)

/-- A walk from the root down makes each subtree from it and from what the values above leave for it. -/
theorem preorder_inherit (here : γ → Tree α → β) (below : γ → α → γ) (c : γ) (t : Tree α)
    (above : List α) :
    (t.inherit here below (above.foldr (fun v c => below c v) c)).preorder =
      (t.subtreesBelow above).map fun x => here (x.1.foldr (fun v c => below c v) c) x.2 := by
  induction t using induct generalizing above with
  | node v cs ih =>
    rw [subtreesBelow_node, inherit_node, preorder_node, List.map_cons, List.map_flatMap,
      List.flatMap_map]
    congr 1
    exact List.flatMap_congr fun c hc => ih c hc (v :: above)

/-! ### Positions -/

/-- The values above a position in a tree that stands below some values, the nearest one first. -/
def aboveAt (outer : List α) : Tree α → List Nat → List α
  | _, [] => outer
  | t, i :: p => t.children[i]?.elim [] fun c => c.aboveAt (t.value :: outer) p

/-- The values above a position, the nearest one first. -/
def above (t : Tree α) (p : List Nat) : List α := t.aboveAt [] p

theorem aboveAt_cons (outer : List α) {t c : Tree α} {i : Nat} (h : t.children[i]? = some c)
    (p : List Nat) : t.aboveAt outer (i :: p) = c.aboveAt (t.value :: outer) p := by
  rw [aboveAt, h]
  rfl

/-- What a walk from the root down makes of a subtree comes from the values above its position. -/
theorem at?_inherit_aboveAt (here : γ → Tree α → β) (below : γ → α → γ) (c : γ) (outer : List α)
    (t : Tree α) (p : List Nat) :
    (t.inherit here below (outer.foldr (fun v c => below c v) c)).at? p =
      (t.at? p).map fun u =>
        u.inherit here below ((t.aboveAt outer p).foldr (fun v c => below c v) c) := by
  induction p generalizing t outer with
  | nil => rfl
  | cons i p ih =>
    cases t with
    | node v cs =>
      rw [inherit_node, at?_cons, at?_cons, children, children, List.getElem?_map]
      cases hu : cs[i]? with
      | none => rfl
      | some u =>
        have child : (node v cs).children[i]? = some u := hu
        rw [aboveAt_cons outer child]
        exact ih (v :: outer) u

theorem mem_subtreesBelow_of_at? {outer : List α} {t u : Tree α} {p : List Nat}
    (h : t.at? p = some u) : (t.aboveAt outer p, u) ∈ t.subtreesBelow outer := by
  induction p generalizing t outer with
  | nil =>
    obtain rfl : t = u := by simpa using h
    cases t with
    | node v cs =>
      rw [subtreesBelow_node]
      exact List.mem_cons_self
  | cons i p ih =>
    cases t with
    | node v cs =>
      rw [at?_cons] at h
      obtain ⟨c, hc, at_p⟩ := Option.bind_eq_some_iff.1 h
      rw [aboveAt_cons outer hc, subtreesBelow_node]
      exact List.mem_cons_of_mem _
        (List.mem_flatMap.2 ⟨c, List.mem_of_getElem? hc, ih at_p⟩)

/-! ### Size and height -/

theorem size_node (v : α) (cs : List (Tree α)) : size (node v cs) = 1 + (cs.map size).sum := by
  rw [size, fold_node]
  rfl

theorem length_preorder (t : Tree α) : t.preorder.length = t.size := by
  induction t using induct with
  | node v cs ih =>
    have children : cs.map (fun c => c.preorder.length) = cs.map size := List.map_congr_left ih
    rw [preorder_node, size_node, List.length_cons, List.length_flatMap, children]
    omega

theorem foldl_max_le_iff (ns : List Nat) (m k : Nat) :
    ns.foldl max m ≤ k ↔ m ≤ k ∧ ∀ n ∈ ns, n ≤ k := by
  induction ns generalizing m with
  | nil => simp
  | cons n ns ih => rw [List.foldl_cons, ih, Nat.max_le, List.forall_mem_cons, and_assoc]

theorem height_node (v : α) (cs : List (Tree α)) :
    height (node v cs) = 1 + (cs.map height).foldl max 0 := by
  rw [height, fold_node]
  rfl

theorem height_node_le_iff (v : α) (cs : List (Tree α)) (k : Nat) :
    height (node v cs) ≤ k + 1 ↔ ∀ c ∈ cs, c.height ≤ k := by
  rw [height_node, Nat.add_comm, Nat.add_le_add_iff_right, foldl_max_le_iff]
  simp

/-- The height bounds how many values stand above a subtree, and no smaller number does. -/
theorem height_le_iff (above : List α) (t : Tree α) (k : Nat) :
    t.height ≤ k ↔ ∀ x ∈ t.subtreesBelow above, x.1.length < above.length + k := by
  induction t using induct generalizing above k with
  | node v cs ih =>
    rw [subtreesBelow_node, List.forall_mem_cons]
    cases k with
    | zero =>
      have pos : 0 < height (node v cs) := by
        rw [height_node]
        omega
      have root : ¬ above.length < above.length + 0 := by omega
      exact ⟨fun h => absurd h (by omega), fun h => absurd h.1 root⟩
    | succ k =>
      have root : above.length < above.length + (k + 1) := by omega
      have depth : (v :: above).length + k = above.length + (k + 1) := by
        rw [List.length_cons]
        omega
      rw [height_node_le_iff]
      constructor
      · intro h
        refine ⟨root, ?_⟩
        intro x hx
        obtain ⟨c, hc, hx⟩ := List.mem_flatMap.1 hx
        exact depth ▸ (ih c hc (v :: above) k).1 (h c hc) x hx
      · intro h c hc
        refine (ih c hc (v :: above) k).2 ?_
        intro x hx
        exact depth ▸ h.2 x (List.mem_flatMap.2 ⟨c, hc, hx⟩)

end DesignCode.Tree
