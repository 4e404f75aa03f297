import Mathlib
import DesignCode.Css.Effects
import DesignCode.Proofs.Script.StyleObject

/-!
# Reading values of properties

Some values are lists with spaces between their items.  `cornerLengths?` reads the lengths of the four
corners off a value of `border-radius`, whether it has one length or four; `blurItems` lists the blurs of a
value of `filter`.  Mathlib is imported whole for `Float.beq_iff_ne_nan_and_eq`, which no part of it brings.
-/

namespace DesignCode.Css

/-! ### Numbers -/

/-- Doubles that are equal as numbers are written alike, a zero with a sign like one without. -/
theorem number_eq_of_beq {v w : Float} (h : v == w) : number v = number w := by
  obtain ⟨-, -, rfl | ⟨rfl, rfl⟩ | ⟨rfl, rfl⟩⟩ := Float.beq_iff_ne_nan_and_eq.1 h
  · rfl
  · decide
  · decide

/-! ### Items -/

/-- The items of a value. -/
def items (value : String) : List (List Char) := value.toList.splitOn ' '

theorem space_not_mem_px (v : Float) : ' ' ∉ (px v).toList := by
  have unit : ' ' ∉ "px".toList := by decide
  rw [px, String.toList_append, List.mem_append]
  rintro (h | h)
  · exact absurd ((isWord_number v).2 ' ' h) (by decide)
  · exact unit h

/-- Values without spaces are the items of what they are joined to. -/
theorem items_intercalate {values : List String} (ne : values ≠ [])
    (h : ∀ v ∈ values, ' ' ∉ v.toList) :
    items (" ".intercalate values) = values.map String.toList := by
  rw [items, String.toList_intercalate]
  refine List.splitOn_intercalate ' ' ?_ (by simpa using ne)
  simpa using h

theorem items_of_not_mem {value : String} (h : ' ' ∉ value.toList) : items value = [value.toList] := by
  have alone : ∀ v ∈ [value], ' ' ∉ v.toList := by simpa using h
  have joined := items_intercalate (List.cons_ne_nil value []) alone
  rwa [String.intercalate_singleton] at joined

/-! ### Corners -/

/-- The lengths of the four corners: one for all, one for each pair of opposite corners, one for a pair
between two others, or four. -/
def cornerLengths? (value : String) : Option (Quad (List Char)) :=
  match items value with
  | [a] => some (.replicate a)
  | [a, b] => some ⟨a, b, a, b⟩
  | [a, b, c] => some ⟨a, b, c, b⟩
  | [a, b, c, d] => some ⟨a, b, c, d⟩
  | _ => none

/-- Whether two values give the four corners the same lengths. -/
def SameCorners (value value' : String) : Prop :=
  ∃ q, cornerLengths? value = some q ∧ cornerLengths? value' = some q

/-- How the four corners of the given radii stand in CSS. -/
def lengths (q : Quad Float) : Quad (List Char) := q.map fun v => (px v).toList

theorem cornerLengths?_px (v : Float) : cornerLengths? (px v) = some (lengths (.replicate v)) := by
  rw [cornerLengths?, items_of_not_mem (space_not_mem_px v)]
  rfl

theorem cornerLengths?_quadPx (q : Quad Float) : cornerLengths? (quadPx q) = some (lengths q) := by
  have spaces : ∀ v ∈ q.toList.map px, ' ' ∉ v.toList := by
    intro v hv
    obtain ⟨r, -, rfl⟩ := List.mem_map.1 hv
    exact space_not_mem_px r
  rw [cornerLengths?, quadPx, items_intercalate (by simp [Quad.toList]) spaces]
  rfl

theorem cornerLengths?_radii (q : Quad Float) : cornerLengths? (radii q) = some (lengths q) := by
  unfold radii
  split_ifs with all
  · have same : ∀ v ∈ q.toList, px v = px q.first := by
      intro v hv
      rw [px, px, number_eq_of_beq (List.all_eq_true.1 all v hv)]
    obtain ⟨first, second, third, fourth⟩ := q
    rw [cornerLengths?_px]
    simp only [Quad.toList, List.forall_mem_cons] at same
    simp [lengths, Quad.map, Quad.replicate, same]
  · exact cornerLengths?_quadPx q

/-! ### Blurs -/

/-- Whether an item of a value is a blur. -/
def isBlur (item : List Char) : Bool := "blur(".toList <+: item ∧ item.getLast? = some ')'

/-- The blurs of a value, in their order. -/
def blurItems (value : String) : List (List Char) := (items value).filter isBlur

/-- Whether one value is the last blur of another. -/
def IsLastBlur (value last : String) : Prop := (blurItems value).getLast? = some last.toList

/-- A blur of the given radius. -/
def blur (v : Float) : String := "blur(" ++ px v ++ ")"

theorem toList_blur (v : Float) : (blur v).toList = "blur(".toList ++ (px v).toList ++ [')'] := by
  rw [blur, String.toList_append, String.toList_append]
  rfl

theorem isBlur_blur (v : Float) : isBlur (blur v).toList = true := by
  rw [isBlur, toList_blur, List.getLast?_concat, List.append_assoc]
  simp

theorem space_not_mem_blur (v : Float) : ' ' ∉ (blur v).toList := by
  rw [toList_blur]
  simp [space_not_mem_px]

theorem blurs_of_ne_nil {radii : List Float} (ne : radii ≠ []) :
    blurs radii = some (" ".intercalate (radii.map blur)) := by
  rw [blurs, if_neg (by simpa using ne)]
  rfl

theorem blurItems_intercalate {radii : List Float} (ne : radii ≠ []) :
    blurItems (" ".intercalate (radii.map blur)) = radii.map fun v => (blur v).toList := by
  have spaces : ∀ s ∈ radii.map blur, ' ' ∉ s.toList := by
    intro s hs
    obtain ⟨v, -, rfl⟩ := List.mem_map.1 hs
    exact space_not_mem_blur v
  rw [blurItems, items_intercalate (by simpa using ne) spaces, List.map_map]
  refine List.filter_eq_self.2 ?_
  intro item hi
  obtain ⟨v, -, rfl⟩ := List.mem_map.1 hi
  exact isBlur_blur v

/-- The last one of several blurs alone is the last blur of their value; without blurs there is none. -/
theorem isLastBlur_blurs (radii : List Float) :
    Option.Rel IsLastBlur (blurs radii) (blurs radii.getLast?.toList) := by
  rcases List.eq_nil_or_concat radii with rfl | ⟨init, v, rfl⟩
  · exact .none
  · have ne : init.concat v ≠ [] := by simp
    have last : (init.concat v).getLast?.toList = [v] := by simp
    rw [last, blurs_of_ne_nil ne, blurs_of_ne_nil (List.cons_ne_nil v [])]
    refine .some ?_
    rw [IsLastBlur, blurItems_intercalate ne, List.map_singleton, String.intercalate_singleton]
    simp

end DesignCode.Css
