import Mathlib.Data.List.Induction
import Mathlib.Data.List.Nodup
import Mathlib.Data.List.Pairwise
import Mathlib.Tactic.SplitIfs
import DesignCode.OrderedMap
import DesignCode.Proofs.Distinct

/-!
# Values of ordered maps

What a map gives for a key after entries have been written into it (`get?_insert`, `get?_insertAll`).
The order of the entries does not matter to it (`get?_sortKeys`): a value is found exactly if its entry
is there (`get?_eq_some_iff`).  A map written part by part is looked up in the part that has the key
(`IsDivided.get?_ofList`).  Other values under the same keys are written in the same places
(`mapValues_insert`).
-/

namespace DesignCode.OrderedMap

variable {α : Type} {es es' : List (String × α)}

/-! ### Lists of entries -/

theorem lookup_cons (key : String) (e : String × α) (es : List (String × α)) :
    (e :: es).lookup key = if key = e.1 then some e.2 else es.lookup key := by
  obtain ⟨name, value⟩ := e
  by_cases same : key = name
  · rw [if_pos same, same, List.lookup_cons_self]
  · have other : (key == name) = false := by simpa using same
    rw [if_neg same, List.lookup_cons, other]

theorem lookup_eq_none_of_not_mem {key : String} (h : key ∉ es.map Prod.fst) :
    es.lookup key = none := by
  rw [List.lookup_eq_none_iff]
  intro e he
  have other : key ≠ e.1 := fun same => h (same ▸ List.mem_map_of_mem he)
  simpa using other

/-- If no key stands twice, a value is found exactly if its entry is there. -/
theorem lookup_eq_some_iff_mem (h : (es.map Prod.fst).Nodup) {key : String} {value : α} :
    es.lookup key = some value ↔ (key, value) ∈ es := by
  induction es with
  | nil => simp
  | cons e es ih =>
    rw [List.map_cons, List.nodup_cons] at h
    rw [lookup_cons, List.mem_cons, ← ih h.2]
    split_ifs with same
    · subst same
      simp [lookup_eq_none_of_not_mem h.1, Prod.ext_iff, eq_comm]
    · simp [same, Prod.ext_iff]

theorem lookup_eq_of_perm (h : es.Perm es') (nodup : (es.map Prod.fst).Nodup) (key : String) :
    es.lookup key = es'.lookup key := by
  have nodup' : (es'.map Prod.fst).Nodup := (h.map Prod.fst).nodup_iff.1 nodup
  ext value
  rw [lookup_eq_some_iff_mem nodup, lookup_eq_some_iff_mem nodup', h.mem_iff]

/-- If no key stands twice, the entries of a key are the one that is looked up. -/
theorem filter_key_eq (h : (es.map Prod.fst).Nodup) (key : String) :
    es.filter (fun e => e.1 = key) = (es.lookup key).toList.map fun value => (key, value) := by
  induction es with
  | nil => rfl
  | cons e es ih =>
    rw [List.map_cons, List.nodup_cons] at h
    rw [lookup_cons, List.filter_cons]
    by_cases same : key = e.1
    · subst same
      rw [if_pos rfl, if_pos (by simp), ih h.2, lookup_eq_none_of_not_mem h.1]
      rfl
    · rw [if_neg same, if_neg (by simpa using Ne.symm same), ih h.2]

theorem lookup_put (key key' : String) (value : α) (es : List (String × α)) :
    (put key value es).lookup key' = if key' = key then some value else es.lookup key' := by
  induction es with
  | nil => exact lookup_cons key' (key, value) []
  | cons e es ih =>
    rw [put]
    split_ifs with here same same
    · rw [lookup_cons, if_pos same]
    · rw [lookup_cons, lookup_cons, if_neg same, here, if_neg same]
    · rw [lookup_cons, if_neg fun h => here (h.symm.trans same), ih, if_pos same]
    · rw [lookup_cons, lookup_cons, ih, if_neg same]

/-- A new key gets an entry at the end. -/
theorem put_of_lookup_eq_none {key : String} (h : es.lookup key = none) (value : α) :
    put key value es = es ++ [(key, value)] := by
  induction es with
  | nil => rfl
  | cons e es ih =>
    rw [lookup_cons] at h
    split_ifs at h with same
    rw [put, if_neg (Ne.symm same), ih h, List.cons_append]

/-- The value of a key that is there is replaced in its place. -/
theorem put_of_mem {key : String} (h : (es.map Prod.fst).Nodup) (mem : key ∈ es.map Prod.fst)
    (value : α) : put key value es = es.map fun e => if e.1 = key then (key, value) else e := by
  induction es with
  | nil => cases mem
  | cons e es ih =>
    rw [List.map_cons, List.nodup_cons] at h
    rw [List.map_cons, List.mem_cons] at mem
    rw [put, List.map_cons]
    split_ifs with here
    · have others : ∀ a ∈ es, (if a.1 = key then (key, value) else a) = a := by
        refine fun a ha => if_neg fun same => h.1 ?_
        rw [here, ← same]
        exact List.mem_map_of_mem ha
      rw [List.map_congr_left others, List.map_id']
    · rw [ih h.2 (mem.resolve_left (Ne.symm here))]

/-! ### Operations -/

theorem ext {m m' : OrderedMap α} (h : m.entries = m'.entries) : m = m' := by
  cases m
  cases m'
  cases h
  rfl

theorem entries_insert_of_get?_eq_none {m : OrderedMap α} {key : String} (h : m.get? key = none)
    (value : α) : (m.insert key value).entries = m.entries ++ [(key, value)] :=
  put_of_lookup_eq_none h value

theorem get?_insert (m : OrderedMap α) (key key' : String) (value : α) :
    (m.insert key value).get? key' = if key' = key then some value else m.get? key' :=
  lookup_put key key' value m.entries

theorem get?_insertAll (m : OrderedMap α) (h : (es.map Prod.fst).Nodup) (key : String) :
    (m.insertAll es).get? key = (es.lookup key).or (m.get? key) := by
  induction es generalizing m with
  | nil => rfl
  | cons e es ih =>
    rw [List.map_cons, List.nodup_cons] at h
    show ((m.insert e.1 e.2).insertAll es).get? key = _
    rw [ih _ h.2, get?_insert, lookup_cons]
    split_ifs with same
    · rw [lookup_eq_none_of_not_mem (same ▸ h.1)]
      rfl
    · rfl

theorem get?_ofList (h : (es.map Prod.fst).Nodup) (key : String) :
    (ofList es).get? key = es.lookup key := by
  rw [ofList, get?_insertAll _ h]
  exact Option.or_none

theorem ofList_concat (es : List (String × α)) (e : String × α) :
    ofList (es ++ [e]) = (ofList es).insert e.1 e.2 := List.foldl_append

/-- A list that is written into an empty map leaves the last value of each key. -/
theorem get?_ofList_eq_last (es : List (String × α)) (key : String) :
    (ofList es).get? key = es.reverse.lookup key := by
  induction es using List.reverseRecOn with
  | nil => rfl
  | append_singleton es e ih =>
    rw [ofList_concat, get?_insert, ih, List.reverse_concat, lookup_cons]

/-- It has the keys of the list, each at the place of its first entry. -/
theorem keys_ofList (es : List (String × α)) : (ofList es).keys = (es.map Prod.fst).eraseDups := by
  induction es using List.reverseRecOn with
  | nil => rfl
  | append_singleton es e ih =>
    rw [ofList_concat, keys_insert, ih, List.map_append, List.map_singleton, eraseDups_concat]
    simp only [List.mem_eraseDups]

theorem insertAll_append (m : OrderedMap α) (es es' : List (String × α)) :
    m.insertAll (es ++ es') = (m.insertAll es).insertAll es' := List.foldl_append

theorem get?_eq_some_iff (m : OrderedMap α) {key : String} {value : α} :
    m.get? key = some value ↔ (key, value) ∈ m.entries := lookup_eq_some_iff_mem m.distinct

theorem mem_keys_iff (m : OrderedMap α) (key : String) :
    key ∈ m.keys ↔ ∃ value, m.get? key = some value := by
  constructor
  · intro h
    obtain ⟨⟨name, value⟩, he, rfl⟩ := List.mem_map.1 h
    exact ⟨value, m.get?_eq_some_iff.2 he⟩
  · rintro ⟨value, h⟩
    exact List.mem_map_of_mem (m.get?_eq_some_iff.1 h)

theorem get?_of_getElem? (m : OrderedMap α) {k : Nat} {key : String} {value : α}
    (hk : m.keys[k]? = some key) (hv : m.values[k]? = some value) : m.get? key = some value := by
  rw [keys, List.getElem?_map] at hk
  rw [values, List.getElem?_map] at hv
  obtain ⟨e, he, rfl⟩ := Option.map_eq_some_iff.1 hk
  obtain ⟨e', he', rfl⟩ := Option.map_eq_some_iff.1 hv
  obtain rfl : e = e' := Option.some.inj (he.symm.trans he')
  exact m.get?_eq_some_iff.2 (List.mem_of_getElem? he)

theorem getElem?_entries (m : OrderedMap α) {k : Nat} {key : String} {value : α}
    (hk : m.keys[k]? = some key) (hv : m.get? key = some value) :
    m.entries[k]? = some (key, value) := by
  rw [keys, List.getElem?_map] at hk
  obtain ⟨⟨name, value'⟩, he, rfl⟩ := Option.map_eq_some_iff.1 hk
  have found : m.get? name = some value' := m.get?_eq_some_iff.2 (List.mem_of_getElem? he)
  rw [he, Option.some.inj (hv.symm.trans found)]

@[simp] theorem get?_sortKeys (m : OrderedMap α) (key : String) :
    m.sortKeys.get? key = m.get? key :=
  lookup_eq_of_perm m.sortKeys_perm m.sortKeys.distinct key

/-! ### Order of keys -/

theorem pairwise_place {e : String × α} (h : es.Pairwise fun a b => a.1 < b.1)
    (new : e.1 ∉ es.map Prod.fst) : (place e es).Pairwise fun a b => a.1 < b.1 := by
  induction es with
  | nil => exact List.pairwise_singleton _ _
  | cons e' es ih =>
    rw [List.map_cons, List.mem_cons, not_or] at new
    have later := (List.pairwise_cons.1 h).1
    rw [place]
    split_ifs with before
    · refine List.pairwise_cons.2 ⟨fun a mem => ?_, h⟩
      rcases List.mem_cons.1 mem with rfl | mem
      · exact before
      · exact String.lt_trans before (later a mem)
    · refine List.pairwise_cons.2 ⟨fun a mem => ?_, ih h.of_cons new.2⟩
      rcases List.mem_cons.1 ((place_perm e es).mem_iff.1 mem) with rfl | mem
      · grind
      · exact later a mem

/-- Sorted entries are in the order of their keys, and no two of them have the same key. -/
theorem pairwise_entries_sortKeys (m : OrderedMap α) :
    m.sortKeys.entries.Pairwise fun a b => a.1 < b.1 := by
  obtain ⟨es, distinct⟩ := m
  show (es.foldr place []).Pairwise _
  induction es with
  | nil => exact .nil
  | cons e es ih =>
    rw [List.map_cons, List.nodup_cons] at distinct
    refine pairwise_place (ih distinct.2) fun mem => distinct.1 ?_
    exact ((foldr_place_perm es).map Prod.fst).mem_iff.1 mem

theorem pairwise_keys_sortKeys (m : OrderedMap α) : m.sortKeys.keys.Pairwise (· < ·) :=
  List.pairwise_map.2 m.pairwise_entries_sortKeys

theorem keys_sortKeys (m : OrderedMap α) : m.sortKeys.keys = m.keys.mergeSort := by
  have perm : m.sortKeys.keys.Perm m.keys.mergeSort :=
    (m.sortKeys_perm.map Prod.fst).trans (List.mergeSort_perm _ _).symm
  have sorted : m.keys.mergeSort.Pairwise fun a b => decide (a ≤ b) = true :=
    List.pairwise_mergeSort (by grind) (by grind) m.keys
  have increasing : m.sortKeys.keys.Pairwise fun a b => decide (a ≤ b) = true :=
    m.pairwise_keys_sortKeys.imp fun lt => decide_eq_true (by grind)
  refine perm.eq_of_pairwise (fun a b _ _ le ge => ?_) increasing sorted
  exact String.le_antisymm (of_decide_eq_true le) (of_decide_eq_true ge)

/-- Maps with the same values are the same once they are sorted. -/
theorem sortKeys_eq_of_get?_eq {m m' : OrderedMap α} (h : ∀ key, m.get? key = m'.get? key) :
    m.sortKeys = m'.sortKeys := by
  have nodup (m : OrderedMap α) : m.sortKeys.entries.Nodup := .of_map _ m.sortKeys.distinct
  have perm : m.sortKeys.entries.Perm m'.sortKeys.entries := by
    refine (List.perm_ext_iff_of_nodup (nodup m) (nodup m')).2 fun e => ?_
    rw [← get?_eq_some_iff, ← get?_eq_some_iff, get?_sortKeys, get?_sortKeys, h]
  have same : m.sortKeys.entries = m'.sortKeys.entries := by
    refine perm.eq_of_pairwise (fun a b _ _ lt gt => ?_) m.pairwise_entries_sortKeys
      m'.pairwise_entries_sortKeys
    exact absurd gt (String.lt_asymm lt)
  exact ext same

/-! ### Other values -/

section MapValues

variable {β : Type}

theorem map_put (f : α → β) (key : String) (value : α) (es : List (String × α)) :
    (put key value es).map (Prod.map id f) = put key (f value) (es.map (Prod.map id f)) := by
  induction es with
  | nil => rfl
  | cons e es ih =>
    have first : (Prod.map id f e).1 = e.1 := rfl
    rw [put, List.map_cons, put, first]
    split_ifs with same
    · rfl
    · rw [List.map_cons, ih]

/-- Other values under the same keys. -/
def mapValues (f : α → β) (m : OrderedMap α) : OrderedMap β where
  entries := m.entries.map (Prod.map id f)
  distinct := by
    rw [List.map_map]
    exact m.distinct

theorem mapValues_insert (f : α → β) (m : OrderedMap α) (key : String) (value : α) :
    (m.insert key value).mapValues f = (m.mapValues f).insert key (f value) :=
  ext (map_put f key value m.entries)

end MapValues

/-! ### Entries in parts -/

/-- Entries written part by part are written one after the other. -/
theorem foldl_insertAll {ι : Type} (m : OrderedMap α) (parts : List ι)
    (entries : ι → List (String × α)) :
    parts.foldl (fun m p => m.insertAll (entries p)) m = m.insertAll (parts.flatMap entries) := by
  induction parts generalizing m with
  | nil => rfl
  | cons p parts ih => rw [List.foldl_cons, ih, List.flatMap_cons, insertAll_append]

/-- Lists of entries, one for each part, of which each has keys of its own. -/
structure IsDivided {ι : Type} (parts : List ι) (keys : ι → List String)
    (entries : ι → List (String × α)) : Prop where
  own : ∀ p ∈ parts, ((entries p).map Prod.fst).Sublist (keys p)
  distinct : (parts.flatMap keys).Nodup

namespace IsDivided

variable {ι : Type} {parts : List ι} {keys : ι → List String} {entries : ι → List (String × α)}

theorem nodup (h : IsDivided parts keys entries) :
    ((parts.flatMap entries).map Prod.fst).Nodup := by
  have sub : ((parts.flatMap entries).map Prod.fst).Sublist (parts.flatMap keys) := by
    have own := h.own
    clear h
    induction parts with
    | nil => exact .refl _
    | cons p parts ih =>
      rw [List.forall_mem_cons] at own
      rw [List.flatMap_cons, List.flatMap_cons, List.map_append]
      exact own.1.append (ih own.2)
  exact h.distinct.sublist sub

theorem nodup_keys (h : IsDivided parts keys entries) {p : ι} (hp : p ∈ parts) : (keys p).Nodup :=
  (List.nodup_flatMap.1 h.distinct).1 p hp

/-- A key is one of the keys of only one part. -/
theorem eq_of_mem_keys (h : IsDivided parts keys entries) {p q : ι} (hp : p ∈ parts) (hq : q ∈ parts)
    {key : String} (hk : key ∈ keys p) (hk' : key ∈ keys q) : p = q := by
  by_contra other
  have disjoint := (List.nodup_flatMap.1 h.distinct).2
  have : Std.Symm (Function.onFun List.Disjoint keys) := ⟨fun _ _ apart _ hb ha => apart ha hb⟩
  exact disjoint.forall hp hq other hk hk'

/-- A key is looked up in its own part. -/
theorem lookup_flatMap (h : IsDivided parts keys entries) {p : ι} (hp : p ∈ parts) {key : String}
    (hk : key ∈ keys p) : (parts.flatMap entries).lookup key = (entries p).lookup key := by
  have nodup : ((entries p).map Prod.fst).Nodup := (h.nodup_keys hp).sublist (h.own p hp)
  ext value
  rw [lookup_eq_some_iff_mem h.nodup, lookup_eq_some_iff_mem nodup, List.mem_flatMap]
  constructor
  · rintro ⟨q, hq, hv⟩
    have hk' : key ∈ keys q := (h.own q hq).subset (List.mem_map_of_mem hv)
    exact h.eq_of_mem_keys hp hq hk hk' ▸ hv
  · exact fun hv => ⟨p, hp, hv⟩

/-- Parts that are written in any order, some of them again, have their entries in the map. -/
theorem get?_foldl_insertAll_iff (h : IsDivided parts keys entries) {written : List ι}
    (known : written ⊆ parts) {key : String} {value : α} :
    (written.foldl (fun m p => m.insertAll (entries p)) empty).get? key = some value ↔
      ∃ p ∈ written, (entries p).lookup key = some value := by
  have named {p : ι} (hp : p ∈ parts) {value : α} (found : (entries p).lookup key = some value) :
      key ∈ keys p := by
    refine (h.own p hp).subset ?_
    by_contra absent
    rw [lookup_eq_none_of_not_mem absent] at found
    cases found
  induction written using List.reverseRecOn with
  | nil => simp [empty, get?]
  | append_singleton written p ih =>
    have hp : p ∈ parts := known (by simp)
    have nodup : ((entries p).map Prod.fst).Nodup := (h.nodup_keys hp).sublist (h.own p hp)
    have earlier := ih fun q hq => known (List.mem_append_left _ hq)
    rw [List.foldl_append, List.foldl_cons, List.foldl_nil, get?_insertAll _ nodup,
      Option.or_eq_some_iff]
    constructor
    · rintro (found | ⟨-, found⟩)
      · exact ⟨p, by simp, found⟩
      · obtain ⟨q, hq, found⟩ := earlier.1 found
        exact ⟨q, by simp [hq], found⟩
    · rintro ⟨q, hq, found⟩
      cases own : (entries p).lookup key with
      | none =>
        refine .inr ⟨rfl, earlier.2 ⟨q, (List.mem_append.1 hq).resolve_right fun last => ?_, found⟩⟩
        rw [List.mem_singleton.1 last, own] at found
        cases found
      | some value' =>
        obtain rfl := h.eq_of_mem_keys hp (known hq) (named hp own) (named (known hq) found)
        exact .inl (own.symm.trans found)

theorem get?_ofList (h : IsDivided parts keys entries) {p : ι} (hp : p ∈ parts) {key : String}
    (hk : key ∈ keys p) : (ofList (parts.flatMap entries)).get? key = (entries p).lookup key := by
  rw [OrderedMap.get?_ofList h.nodup, h.lookup_flatMap hp hk]

end IsDivided

end DesignCode.OrderedMap
