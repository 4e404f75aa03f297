import DesignCode.Css.FlexBox
import DesignCode.Proofs.OrderedMap

/-!
# Properties of style maps

`StyleMap.given` keeps the order of the properties that it is given (`keys_given`), and its entries
show the texts that it is given (`display_lookup_given`).  A style map that is written part by part
displays a property as the part has it that the property belongs to (`display?_of_isDivided`).
-/

namespace DesignCode

/-- The properties that a flex box may have. -/
def FlexBox.keys : List String :=
  ["display", "flex-direction", "justify-content", "align-items", "gap", "padding"]

namespace StyleMap

/-! ### Given properties -/

theorem keys_given (es : List (String × Option String)) :
    ((given es).map Prod.fst).Sublist (es.map Prod.fst) := by
  induction es with
  | nil => exact .refl _
  | cons e es ih =>
    obtain ⟨key, text⟩ := e
    cases text with
    | none => exact ih.cons key
    | some text => exact ih.cons_cons key

theorem given_append (es es' : List (String × Option String)) :
    given (es ++ es') = given es ++ given es' := List.filterMap_append

theorem mem_given {es : List (String × Option String)} {e : String × StyleValue} :
    e ∈ given es ↔ ∃ key s, (key, some s) ∈ es ∧ (key, .text s) = e := by
  simp only [given, List.mem_filterMap, Option.map_eq_some_iff, Prod.exists]
  constructor
  · rintro ⟨key, _, mem, s, rfl, same⟩
    exact ⟨key, s, mem, same⟩
  · rintro ⟨key, s, mem, same⟩
    exact ⟨key, _, mem, s, rfl, same⟩

/-- A property has the text that it is given, if its name is not given twice. -/
theorem lookup_given {es : List (String × Option String)} (h : (es.map Prod.fst).Nodup)
    (key : String) : (given es).lookup key = (es.lookup key).join.map .text := by
  induction es with
  | nil => rfl
  | cons e es ih =>
    obtain ⟨k, text⟩ := e
    rw [List.map_cons, List.nodup_cons] at h
    rw [OrderedMap.lookup_cons]
    cases text with
    | none =>
      split_ifs with same
      · have absent : key ∉ (given es).map Prod.fst :=
          fun hk => h.1 (same ▸ (keys_given es).subset hk)
        exact OrderedMap.lookup_eq_none_of_not_mem absent
      · exact ih h.2
    | some text =>
      show ((k, StyleValue.text text) :: given es).lookup key = _
      rw [OrderedMap.lookup_cons]
      split_ifs with same
      · rfl
      · exact ih h.2

theorem display_lookup_given {es : List (String × Option String)} (h : (es.map Prod.fst).Nodup)
    (key : String) : ((given es).lookup key).map StyleValue.display = (es.lookup key).join := by
  rw [lookup_given h, Option.map_map]
  exact Option.map_id'

theorem keys_flexBox (b : Option FlexBox) :
    (((b.map (·.style)).getD []).map Prod.fst).Sublist FlexBox.keys := by
  cases b with
  | none => exact List.nil_sublist _
  | some b => exact keys_given _

/-! ### Maps in parts -/

section

variable {ι : Type} {parts : List ι} {keys : ι → List String}
variable {entries : ι → List (String × StyleValue)}

theorem display?_of_isDivided (h : OrderedMap.IsDivided parts keys entries) {p : ι} (hp : p ∈ parts)
    {key : String} (hk : key ∈ keys p) :
    display? (OrderedMap.ofList (parts.flatMap entries)).sortKeys key =
      ((entries p).lookup key).map StyleValue.display := by
  rw [display?, OrderedMap.get?_sortKeys, h.get?_ofList hp hk]

theorem display?_of_given (h : OrderedMap.IsDivided parts keys entries) {p : ι} (hp : p ∈ parts)
    {es : List (String × Option String)} (written : entries p = given es)
    (names : es.map Prod.fst = keys p) {key : String} (hk : key ∈ keys p) :
    display? (OrderedMap.ofList (parts.flatMap entries)).sortKeys key = (es.lookup key).join := by
  rw [display?_of_isDivided h hp hk, written, display_lookup_given (names ▸ h.nodup_keys hp)]

end

end StyleMap

end DesignCode
