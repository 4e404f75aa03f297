import DesignCode.Code.Generation
import DesignCode.Proofs.Code.NodeElement
import DesignCode.Proofs.Tree

/-!
# What a writer is told

`Writes` says of commands which lines a writer adds for them, that its depth ends where it began, and
that it leaves no block that it has not entered.  The commands for a tree of nodes write the lines of
its element (`writes_ofTree`), and so the markup of a component is the text of that element
(`componentBody_eq`).
-/

namespace DesignCode

namespace Writer

@[simp] theorem run_nil (w : Writer) : w.run [] = w := rfl

@[simp] theorem run_cons (w : Writer) (c : Command) (cs : List Command) :
    w.run (c :: cs) = (w.step c).run cs := rfl

theorem run_append (w : Writer) (cs ds : List Command) : w.run (cs ++ ds) = (w.run cs).run ds :=
  List.foldl_append

/-! ### Leaving blocks -/

/-- Wherever a block is left, the depth is more than that at the beginning less `k`. -/
def LeavesAbove (k : Nat) (commands : List Command) : Prop :=
  ∀ (w : Writer) (before : List Command) (cs : List Char) (after : List Command),
    commands = before ++ .leave cs :: after → w.depth < (w.run before).depth + k

theorem leavesAbove_nil (k : Nat) : LeavesAbove k [] :=
  fun _ _ _ _ same => absurd same.symm (by simp)

theorem leavesAbove_write (cs : List Char) : LeavesAbove 0 [.write cs] := by
  intro w before ds after same
  cases before <;> simp at same

theorem leavesAbove_leave (cs : List Char) : LeavesAbove 1 [.leave cs] := by
  intro w before ds after same
  cases before with
  | nil => simp
  | cons c before => simp at same

theorem LeavesAbove.mono {k l : Nat} {cs : List Command} (h : LeavesAbove k cs) (hkl : k ≤ l) :
    LeavesAbove l cs := by
  intro w before c after same
  have deeper := h w before c after same
  omega

/-- Commands that leave the depth as it was may be followed by others. -/
theorem LeavesAbove.append {k : Nat} {cs ds : List Command} (hc : LeavesAbove k cs)
    (kept : ∀ w : Writer, (w.run cs).depth = w.depth) (hd : LeavesAbove k ds) :
    LeavesAbove k (cs ++ ds) := by
  intro w before c after same
  have behind (more : List Command) (inside : ds = more ++ .leave c :: after) :
      w.depth < (w.run (cs ++ more)).depth + k := by
    have deeper := hd (w.run cs) more c after inside
    rwa [kept, ← run_append] at deeper
  rcases List.append_eq_append_iff.1 same with ⟨more, rfl, inside⟩ | ⟨more, inside, rest⟩
  · exact behind more inside
  · cases more with
    | nil =>
      have deeper := behind [] rest.symm
      rwa [List.append_nil, inside, List.append_nil] at deeper
    | cons d more =>
      obtain ⟨rfl, -⟩ := List.cons.inj rest
      exact hc w before c more inside

/-- Inside of a block that is entered, one block more may be left. -/
theorem LeavesAbove.enter {cs : List Command} (h : LeavesAbove 1 cs) (tag : List Char) :
    LeavesAbove 0 (.enter tag :: cs) := by
  intro w before ds after same
  cases before with
  | nil => simp at same
  | cons c before =>
    obtain ⟨rfl, rest⟩ := List.cons.inj same
    have deeper := h (w.step (.enter tag)) before ds after rest
    exact Nat.lt_of_succ_lt_succ deeper

end Writer

/-! ### Writing lines -/

/-- The commands write the lines for the depth of the writer and bring it back to that depth, and they
leave no block that they have not entered. -/
structure Writes (commands : List Writer.Command) (lines : Nat → List (List Char)) : Prop where
  run : ∀ w : Writer, w.run commands = ⟨w.lines ++ lines w.depth, w.depth⟩
  left : Writer.LeavesAbove 0 commands

theorem writes_nil : Writes [] fun _ => [] where
  run w := by simp
  left := Writer.leavesAbove_nil 0

theorem writes_write (cs : List Char) : Writes [.write cs] fun depth => [Writer.line depth cs] where
  run _ := rfl
  left := Writer.leavesAbove_write cs

namespace Writes

variable {cs ds : List Writer.Command} {ls ms : Nat → List (List Char)}

theorem append (h : Writes cs ls) (h' : Writes ds ms) :
    Writes (cs ++ ds) fun depth => ls depth ++ ms depth where
  run w := by
    rw [Writer.run_append, h.run, h'.run, List.append_assoc]
  left := h.left.append (fun w => by rw [h.run]) h'.left

/-- What is written inside of an element stands between its tags, one level deeper. -/
theorem around (h : Writes cs ls) (tag : String) (attributes : List Attribute) :
    Writes (Element.around tag attributes cs) fun depth =>
      Writer.line depth (Element.opening tag attributes ++ ['>']) ::
        (ls (depth + 1) ++ [Writer.line depth (Element.closing tag)]) where
  run w := by
    rw [Element.around, Writer.run_cons, Writer.run_append, h.run]
    simp [Writer.step, Writer.add]
  left := by
    have inside := (h.left.mono (Nat.zero_le 1)).append (fun w => by rw [h.run])
      (Writer.leavesAbove_leave (Element.closing tag))
    exact inside.enter _

end Writes

theorem writes_flatMap {α : Type} {as : List α} {commands : α → List Writer.Command}
    {lines : α → Nat → List (List Char)} (h : ∀ a ∈ as, Writes (commands a) (lines a)) :
    Writes (as.flatMap commands) fun depth => as.flatMap (lines · depth) := by
  induction as with
  | nil => exact writes_nil
  | cons a as ih =>
    obtain ⟨first, others⟩ := List.forall_mem_cons.1 h
    exact first.append (ih others)

/-! ### Elements of nodes -/

namespace Element

/-- What the writer is told for a tree of nodes as an item of a list. -/
def itemCommandsOf : Tree Styled → List Writer.Command
  | .node s children =>
    match s.node.text with
    | some t => [.write (textItemLine s t)]
    | none => around "li" [] (commands false (.node s children))

theorem childCommands_eq (ts : List (Tree Styled)) :
    childCommands ts = ts.flatMap (commands false) := by
  induction ts with
  | nil => rfl
  | cons t ts ih => rw [childCommands, ih, List.flatMap_cons]

theorem itemCommands_eq (ts : List (Tree Styled)) :
    itemCommands ts = ts.flatMap itemCommandsOf := by
  induction ts with
  | nil => rfl
  | cons t ts ih =>
    cases t with
    | node s children =>
      rw [itemCommands, ih, List.flatMap_cons]
      congr 1

theorem isList_nil (s : Styled) : isList s [] = false := by
  simp [isList]

/-- A block without children closes itself, and any other is written around its children. -/
theorem commands_block {s : Styled} (isRoot : Bool) (children : List (Tree Styled))
    (ht : s.node.text = none) (hi : s.icon = none) :
    commands isRoot (.node s children) =
      let attributes := attributesOf (classOf isRoot s) s.node.placeholder (blockStyle s children)
      if children.isEmpty then
        [.write (opening (blockTag s children) attributes ++ [' ', '/', '>'])]
      else
        around (blockTag s children) attributes
          (children.flatMap (if isList s children then itemCommandsOf else commands false)) := by
  rw [commands]
  simp only [ht, hi, blockTag, blockStyle, itemCommands_eq, childCommands_eq]
  by_cases list : isList s children = true
  · -- a list has a text in it
    have some : children ≠ [] := by
      rintro rfl
      rw [isList_nil] at list
      contradiction
    simp [list, some]
  · simp [list]

/-- Elements with something in them are written between their tags. -/
theorem writes_block {t : Tree Styled} {ts : List (Tree Styled)}
    {told : Tree Styled → List Writer.Command} {element : Tree Styled → Element}
    (h : ∀ c ∈ t :: ts, Writes (told c) fun depth => (element c).lines depth) (tag : String)
    (attributes : List Attribute) :
    Writes (around tag attributes ((t :: ts).flatMap told)) fun depth =>
      (Element.block tag attributes ((t :: ts).map element)).lines depth := by
  have written := (writes_flatMap h).around tag attributes
  simp only [List.map_cons, lines_block]
  simpa only [List.flatMap_cons, List.flatMap_map] using written

theorem writes_textItem (s : Styled) (t : TextContent) :
    Writes [.write (textItemLine s t)] fun depth => (textItem s t).lines depth := by
  unfold textItemLine textItem
  cases headingLevel? s.node.name <;> exact writes_write _

/-- The commands for a node write its element if those for its children write theirs, as items and as
elements of their own. -/
theorem writes_node {s : Styled} {children : List (Tree Styled)}
    (below : ∀ c ∈ children, Writes (commands false c) (fun depth => (ofTree false c).lines depth) ∧
      Writes (itemCommandsOf c) fun depth => (item c).lines depth) (isRoot : Bool) :
    Writes (commands isRoot (.node s children)) fun depth =>
      (ofTree isRoot (.node s children)).lines depth := by
  cases ht : s.node.text with
  | some t =>
    rw [ofTree_text isRoot children ht, commands]
    simp only [ht]
    exact writes_write _
  | none =>
    cases hi : s.icon with
    | some icon =>
      cases icon with
      | svg width height label =>
        rw [ofTree_svg isRoot children ht hi, commands]
        simp only [ht, hi]
        exact writes_write _
      | glyph label =>
        rw [ofTree_glyph isRoot children ht hi, commands]
        simp only [ht, hi]
        exact writes_write _
    | none =>
      rw [ofTree_block isRoot children ht hi, commands_block isRoot children ht hi]
      cases children with
      | nil => exact writes_write _
      | cons c cs =>
        refine writes_block (fun d hd => ?_) _ _
        split_ifs
        · exact (below d hd).2
        · exact (below d hd).1

/-- The commands for a tree of nodes write the lines of its element, and those for an item the lines of
the item. -/
theorem writes_ofTree (t : Tree Styled) :
    (∀ isRoot, Writes (commands isRoot t) fun depth => (ofTree isRoot t).lines depth) ∧
      Writes (itemCommandsOf t) fun depth => (item t).lines depth := by
  induction t using Tree.induct with
  | node s children ih =>
    have own := writes_node (s := s) fun c hc => ⟨(ih c hc).1 false, (ih c hc).2⟩
    refine ⟨own, ?_⟩
    rw [itemCommandsOf]
    cases ht : s.node.text with
    | some t =>
      rw [item_text children ht]
      exact writes_textItem s t
    | none =>
      rw [item_none children ht]
      simpa only [lines_block, List.flatMap_singleton] using (own false).around "li" []

end Element

/-- The markup of a component is the text of the element of the tree of nodes. -/
theorem componentBody_eq (o : Options) (t : Tree Node) :
    componentBody o t = (Element.ofTree true (Styled.ofTree o t)).render := by
  have written := ((Element.writes_ofTree (Styled.ofTree o t)).1 true).run {}
  rw [componentBody, componentCommands, written]
  rfl

end DesignCode
