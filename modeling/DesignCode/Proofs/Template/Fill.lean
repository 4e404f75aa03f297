import DesignCode.Template.Standard
import Mathlib.Tactic.Common

/-!
# Filling templates that cannot fail

What `Template.fill` writes for each part of a template, in front of what it writes for the others.
-/

namespace DesignCode.Template

variable (data : Json)

theorem render_eq_fill (t : Template Empty) : render data t = .ok (fill data t) := by
  unfold fill
  split
  · next cs h => exact h
  · next e _ => exact e.elim

@[simp] theorem fill_nil : fill data [] = [] := by
  simp [fill, render]

theorem fill_cons {part : TemplatePart Empty} {cs : List Char} (h : renderPart data part = .ok cs)
    (rest : Template Empty) : fill data (part :: rest) = cs ++ fill data rest := by
  have h : render data (part :: rest) = .ok (cs ++ fill data rest) := by
    rw [render, h, render_eq_fill]
    rfl
  rw [fill, h]

@[simp] theorem fill_text (s : String) (rest : Template Empty) :
    fill data (.text s :: rest) = s.toList ++ fill data rest := fill_cons data rfl rest

@[simp] theorem fill_value (keys : List String) (rest : Template Empty) :
    fill data (.value keys :: rest) =
      ((lookup keys data).map display).getD [] ++ fill data rest :=
  fill_cons data rfl rest

@[simp] theorem fill_indent (operands : List Operand) (rest : Template Empty) :
    fill data (.indent operands :: rest) = indented data operands ++ fill data rest :=
  fill_cons data rfl rest

@[simp] theorem fill_when (condition : Operand) (body otherwise rest : Template Empty) :
    fill data (.when condition body otherwise :: rest) =
      fill data (if ((condition.value data).map isTruthy).getD false then body else otherwise) ++
        fill data rest := by
  refine fill_cons data ?_ rest
  rw [renderPart]
  split_ifs <;> exact render_eq_fill data _

theorem mapM_render (js : List Json) (body : Template Empty) :
    (js.mapM fun j => render j body) = .ok (js.map fun j => fill j body) := by
  induction js with
  | nil => rfl
  | cons j js ih =>
    rw [List.mapM_cons, render_eq_fill, ih]
    rfl

theorem fill_each (items : Operand) (body otherwise rest : Template Empty) :
    fill data (.each items body otherwise :: rest) =
      (match ((items.value data).map elements).getD [] with
        | [] => fill data otherwise
        | js => js.flatMap fun j => fill j body) ++ fill data rest := by
  refine fill_cons data ?_ rest
  rw [renderPart]
  cases ((items.value data).map elements).getD [] with
  | nil => exact render_eq_fill data otherwise
  | cons j js =>
    simp only [mapM_render, List.flatMap_def]
    rfl

/-- A block that is repeated for strings of which there are some. -/
theorem fill_each_strings {items : Operand} {s : String} {ss : List String}
    (h : items.value data = some (.strings (s :: ss))) (body otherwise rest : Template Empty) :
    fill data (.each items body otherwise :: rest) =
      (s :: ss).flatMap (fun s => fill (.string s) body) ++ fill data rest := by
  rw [fill_each, h, Option.map_some, Option.getD_some, Json.strings, elements, List.map_cons]
  simp only [List.flatMap_cons, List.flatMap_map]

/-- The value of a key of an object. -/
@[simp] theorem lookup_singleton (key : String) (ms : List (String × Json)) :
    lookup [key] (.object ms) = ms.lookup key := by
  cases h : ms.lookup key <;> simp [lookup, step, h]

@[simp] theorem lookup_nil (j : Json) : lookup [] j = some j := rfl

end DesignCode.Template
