import DesignCode.Proofs.Layer.Styles
import DesignCode.Proofs.Text.ByteOrder

/-!
# The order of the parts of a style

No two parts of a layer have a property in common (`disjoint_partStyle`), so that none overwrites what another
has set.  Hence parts may be set in any order, and again and again: with all of them the style map is the same
once it is sorted, and its keys are in the order of their bytes (`setsStyle_of_forall_mem`).
-/

namespace DesignCode.Layer

variable (l : Layer)

/-- Parts that are set in any order, some of them again, all have their properties. -/
theorem get?_setParts_iff (parts : List Part) {key : String} {value : StyleValue} :
    (parts.foldl l.setPart .empty).get? key = some value ↔
      ∃ p ∈ parts, (l.partStyle p).lookup key = some value :=
  l.isDivided_partStyle.get?_foldl_insertAll_iff fun p _ => p.mem_all

/-- Two parts have no property in common. -/
theorem disjoint_partStyle {p q : Part} (other : p ≠ q) :
    ((l.partStyle p).map Prod.fst).Disjoint ((l.partStyle q).map Prod.fst) := by
  intro key hp hq
  exact other (l.isDivided_partStyle.eq_of_mem_keys p.mem_all q.mem_all
    ((l.keys_partStyle p).subset hp) ((l.keys_partStyle q).subset hq))

/-- The order in which parts are set, and how often, does not matter to the sorted map. -/
theorem sortKeys_setParts {parts parts' : List Part} (same : ∀ p, p ∈ parts ↔ p ∈ parts') :
    (parts.foldl l.setPart .empty).sortKeys = (parts'.foldl l.setPart .empty).sortKeys := by
  refine OrderedMap.sortKeys_eq_of_get?_eq fun key => Option.ext fun value => ?_
  rw [get?_setParts_iff, get?_setParts_iff]
  exact exists_congr fun p => and_congr_left fun _ => same p

/-- What setting parts one after the other comes to. -/
structure SetsStyle (parts : List Part) : Prop where
  /-- Sorted, the map is the style of the layer. -/
  sorted : (parts.foldl l.setPart .empty).sortKeys = l.styles
  /-- The keys of the style are strictly increasing in the order of their bytes. -/
  increasing : l.styles.keys.Pairwise fun k k' =>
    Link.encodeUtf8 k.toList < Link.encodeUtf8 k'.toList
  /-- Two parts have no property in common. -/
  apart : ∀ p q, p ≠ q →
    ((l.partStyle p).map Prod.fst).Disjoint ((l.partStyle q).map Prod.fst)
  /-- What a part has set is in the map at the end. -/
  kept : ∀ p, ∀ e ∈ l.partStyle p, (parts.foldl l.setPart .empty).get? e.1 = some e.2

/-- Setting all parts in any order, some of them again, makes the style of the layer, and no part overwrites a
property of another. -/
theorem setsStyle_of_forall_mem {parts : List Part} (all : ∀ p, p ∈ parts) : l.SetsStyle parts where
  sorted := l.sortKeys_setParts fun p => ⟨fun _ => p.mem_all, fun _ => all p⟩
  increasing :=
    (OrderedMap.pairwise_keys_sortKeys _).imp fun lt => (Text.lt_iff_encodeUtf8_lt _ _).1 lt
  apart _ _ := l.disjoint_partStyle
  kept p e he := by
    have nodup : ((l.partStyle p).map Prod.fst).Nodup :=
      (l.isDivided_partStyle.nodup_keys p.mem_all).sublist (l.keys_partStyle p)
    exact (l.get?_setParts_iff parts).2
      ⟨p, all p, (OrderedMap.lookup_eq_some_iff_mem nodup).2 he⟩

/-- A faded text with a size, a font and a shadow. -/
def caption : Layer :=
  { id := "1", name := "Caption", kind := .text, characters := some "Hello", opacity := some 0.5
    box := some ⟨0, 0, 100, 24⟩, style := some { fontFamily := some "Inter" }
    effects := some [.dropShadow ⟨0, 4⟩ 8 ⟨0, 0, 0, 0.5⟩] }

/-- The parts from the last to the first, and the text once more. -/
def backwards : List Part := Part.all.reverse ++ [.text]

theorem setsStyle_backwards : (∀ p, p ∈ backwards) ∧ caption.SetsStyle backwards := by
  have all : ∀ p, p ∈ backwards := fun p =>
    List.mem_append_left _ (List.mem_reverse.2 p.mem_all)
  exact ⟨all, caption.setsStyle_of_forall_mem all⟩

end DesignCode.Layer
