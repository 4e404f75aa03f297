import DesignCode.Code.Call
import DesignCode.Proofs.Script.StyleObject
import DesignCode.Proofs.Tree
import Mathlib.Data.List.Forall2

/-!
# Reading trees of calls

`Call.term` is the term that a tree of calls stands for.  The text of the tree is read as that term,
at whatever column it begins (`Call.reads_render`): however many properties, texts and children a call
has, each of its arguments is read back in its place.
-/

namespace DesignCode

open Script (Term Reads ReadsArguments isSpace)

/-! ### Terms of calls -/

/-- The term of the value of a property. -/
def Property.term : Property → Term
  | text s => .text s.toList
  | inner markup => .object [("__html".toList, .text markup)]
  | style css => css.term

theorem Property.reads_render (p : Property) : Reads p.render p.term := by
  cases p with
  | text s => exact Script.reads_literal _
  | inner markup =>
    have key : Script.key "__html".toList = "__html".toList := if_pos (by decide)
    have opening : "\x7b __html: ".toList = ['\x7b', ' '] ++ ("__html".toList ++ [':', ' ']) := by
      decide
    have written : (inner markup).render =
        Script.object ([markup].map fun m => ("__html".toList, Script.literal m)) := by
      unfold render
      -- a list for the key keeps the characters of the string out of the comparison
      generalize "__html".toList = html at key opening ⊢
      rw [opening]
      simp [Script.object, key]
    rw [written]
    exact Script.reads_object (k := fun _ => "__html".toList) (t := .text) [markup]
      fun m _ => Script.reads_literal m
  | style css => exact css.reads_styleObject

namespace Call

/-- The term of the properties of a call. -/
def propertiesTerm (c : Call) : Term :=
  if c.properties.isEmpty then .word "null".toList
  else .object (c.properties.map fun p => (p.1.toList, p.2.term))

/-- The term of a tree of calls: a call with the kind of element, the properties, the texts, and the
calls of the children as its arguments. -/
def term (t : Tree Call) : Term :=
  t.fold fun c calls =>
    .call "createElement".toList
      (.text "div".toList :: c.propertiesTerm :: (c.texts.map (.text ·.toList) ++ calls))

theorem reads_renderProperties (c : Call) : Reads c.renderProperties c.propertiesTerm := by
  unfold renderProperties propertiesTerm
  split_ifs with h
  · exact Script.reads_word (by decide)
  · exact Script.reads_object (k := fun p : String × Property => p.1.toList) c.properties
      fun p _ => p.2.reads_render

/-! ### The written form -/

theorem nextArgument_append (column : Nat) (w rest : List Char) :
    nextArgument column (w ++ rest) = nextArgument column w ++ rest := by
  simp [nextArgument]

theorem writeTexts_eq (column : Nat) (texts : List String) (rest : List Char) :
    writeTexts column texts rest =
      texts.flatMap (fun s => nextArgument column (Script.literal s.toList)) ++ rest := by
  induction texts with
  | nil => rfl
  | cons s texts ih =>
    rw [writeTexts, List.foldr_cons, ← writeTexts, ih, nextArgument_append, List.flatMap_cons,
      List.append_assoc]

theorem closing_eq (indent : Nat) (hasLines : Bool) (rest : List Char) :
    closing indent hasLines rest = closing indent hasLines [] ++ rest := by
  cases hasLines <;> simp [closing]

mutual

theorem write_eq (indent : Nat) : ∀ (t : Tree Call) (rest : List Char),
    write indent t rest = render indent t ++ rest
  | .node c calls, rest => by
    rw [render, write, write, writeTexts_eq, writeTexts_eq, writeAll_eq, writeAll_eq, closing_eq]
    simp only [List.append_assoc]

theorem writeAll_eq (column : Nat) : ∀ (ts : List (Tree Call)) (rest : List Char),
    writeAll column ts rest = ts.flatMap (fun t => nextArgument column (render column t)) ++ rest
  | [], rest => rfl
  | t :: ts, rest => by
    rw [writeAll, write_eq, writeAll_eq, nextArgument_append, List.flatMap_cons, List.append_assoc]

end

/-- A call is written with its texts and the calls of its children as arguments of one list. -/
theorem render_node (indent : Nat) (c : Call) (calls : List (Tree Call)) :
    render indent (.node c calls) =
      c.opening ++
        ((c.texts.map (Script.literal ·.toList) ++ calls.map (render (indent + 2))).flatMap
            (nextArgument (indent + 2)) ++
          closing indent (c.texts ≠ [] ∨ ¬ calls.isEmpty) []) := by
  rw [render, write, writeTexts_eq, writeAll_eq, List.flatMap_append, List.flatMap_map,
    List.flatMap_map, List.append_assoc]

/-! ### Reading -/

theorem isSpace_replicate (n : Nat) : ∀ c ∈ List.replicate n ' ', isSpace c = true := by
  intro c hc
  rw [List.eq_of_mem_replicate hc]
  decide

theorem isSpace_lineBreak (n : Nat) : ∀ c ∈ '\n' :: List.replicate n ' ', isSpace c = true := by
  intro c hc
  rcases List.mem_cons.1 hc with rfl | hc
  · decide
  · exact isSpace_replicate n c hc

/-- An argument with others on lines of their own behind it; the last bracket may have a line of its
own, too. -/
theorem readsArguments_lines {w : List Char} {t : Term} (h : Reads w t) (column indent : Nat)
    (hasLines : Bool) {ws : List (List Char)} {ts : List Term} (hs : List.Forall₂ Reads ws ts) :
    ReadsArguments (w ++ (ws.flatMap (nextArgument column) ++ closing indent hasLines []))
      (t :: ts) := by
  induction hs generalizing w t with
  | nil =>
    cases hasLines with
    | false => exact h.lastArgument (isSpace_replicate 0)
    | true => simpa [closing] using h.lastArgument (isSpace_lineBreak indent)
  | cons hw _ ih =>
    have more := (ih hw).spaces (isSpace_lineBreak column)
    simpa [nextArgument] using h.consArgument more

theorem reads_div : Reads "'div'".toList (.text "div".toList) := Script.reads_literal "div".toList

/-- The text of a tree of calls is read as the term of the tree, wherever it begins. -/
theorem reads_render (t : Tree Call) (indent : Nat) : Reads (render indent t) (term t) := by
  induction t using Tree.induct generalizing indent with
  | node c calls ih =>
    have items : List.Forall₂ Reads
        (c.texts.map (Script.literal ·.toList) ++ calls.map (render (indent + 2)))
        (c.texts.map (.text ·.toList) ++ calls.map term) := by
      have texts : List.Forall₂ Reads (c.texts.map (Script.literal ·.toList))
          (c.texts.map (.text ·.toList)) :=
        List.forall₂_map_left_iff.2 (List.forall₂_map_right_iff.2
          (List.forall₂_same.2 fun s _ => Script.reads_literal _))
      have children : List.Forall₂ Reads (calls.map (render (indent + 2))) (calls.map term) :=
        List.forall₂_map_left_iff.2 (List.forall₂_map_right_iff.2
          (List.forall₂_same.2 fun t ht => ih t ht _))
      exact List.rel_append texts children
    have arguments := reads_div.consArgument
      ((readsArguments_lines c.reads_renderProperties (indent + 2) indent
        (c.texts ≠ [] ∨ ¬ calls.isEmpty) items).spaces (isSpace_replicate 1))
    rw [render_node, term, Tree.fold_node]
    exact Script.reads_call (f := "createElement".toList) (by decide) arguments

end Call

end DesignCode
