import DesignCode.Proofs.Css.StyleMap
import DesignCode.Proofs.Distinct
import DesignCode.Proofs.Json.Lawful
import DesignCode.Proofs.Text.ByteOrder

/-!
# Histories of style maps

A style map is edited in steps: values are set, entries are collected into a new map, the keys are sorted,
and a text is read in place of the map.  Reading a text writes its members into an empty map, in the order
of the text (`Codec.parse_map`).  Whatever the history, the map gives the last value written for a key and
has its keys in the order of their first writing, or sorted (`isOrdered_after`), and what is
written for the map is read back as the same entries.
-/

namespace DesignCode

/-! ### Reading the members of an object -/

namespace Json

/-- Reads all members as a list, in which a key may stand several times. -/
def Members.listAll {α : Type} (read : Draft → Except Fault α) :
    Members → Except Fault (List (String × α))
  | .closed => .ok []
  | .member key value rest => do
    let key ← key.value
    let value ← read value
    return (key, value) :: (← rest.listAll read)
  | .noColon key fault => do
    let _ ← key.value
    .error fault
  | .badKey _ => .error .keyNotString
  | .comma => .error .trailingComma
  | .stray => .error .noObjectEnd
  | .ended => .error .endsInObject
  | .endedAfterComma => .error .endsInValue

/-- The members of an object in the order of the text. -/
def Codec.members {α : Type} (c : Codec α) : Codec (List (String × α)) where
  read levels
    | .object members => enter levels fun n => members.listAll (c.read n)
    | d => d.mismatch "a map"
  write es := .object (es.map fun e => (e.1, c.write e.2))

/-- Reading members into a map is writing their list into it. -/
theorem Members.readAll_eq {α : Type} (read : Draft → Except Fault α) (ms : Members)
    (m : OrderedMap α) : ms.readAll read m = (ms.listAll read).map m.insertAll := by
  match ms with
  | .closed | .badKey _ | .comma | .stray | .ended | .endedAfterComma => rfl
  | .noColon key fault =>
    rw [readAll, listAll]
    cases key.value <;> rfl
  | .member key value rest =>
    rw [readAll, listAll]
    cases key.value with
    | error fault => rfl
    | ok k =>
      cases read value with
      | error fault => rfl
      | ok v =>
        show rest.readAll read (m.insert k v) =
          ((rest.listAll read).bind fun es => .ok ((k, v) :: es)).map m.insertAll
        rw [readAll_eq read rest]
        cases rest.listAll read <;> rfl

/-- Reading a text as a map is reading its members and writing them into an empty map. -/
theorem Codec.parse_map {α : Type} (c : Codec α) (s : String) :
    c.map.parse s = (c.members.parse s).map .ofList := by
  have draft (d : Draft) :
      c.map.read standardLevels d = (c.members.read standardLevels d).map .ofList := by
    cases d with
    | object ms => exact Members.readAll_eq (c.read 126) ms .empty
    | number n =>
      show (n.value.bind _) = ((n.value.bind _).map _)
      cases n.value with
      | error fault => rfl
      | ok i => cases i <;> rfl
    | string s =>
      show (s.value.bind _) = ((s.value.bind _).map _)
      cases s.value <;> rfl
    | null => rfl
    | bool b => rfl
    | array items => rfl
    | brokenNull fault => rfl
    | brokenBool fault => rfl
    | stray => rfl
    | ended => rfl
  rw [parse, parse, parseWithin, parseWithin, draft]
  cases c.members.read standardLevels (Source.ofText s.toList).draft with
  | error fault => rfl
  | ok es =>
    show (if _ then _ else _) = Except.map _ (if _ then _ else _)
    split_ifs <;> rfl

end Json

/-! ### Values -/

namespace StyleValue

/-- Whether the value is no number or a finite one. -/
def isFinite : StyleValue → Bool
  | number v => v.isFinite
  | text _ => true

/-- A number is read back as a number and a text as a text, whatever it looks like. -/
theorem isLawful_codec : codec.IsLawful := by
  intro v levels readable
  cases v with
  | number x =>
    show ((Json.Draft.printed (.float x)).toJson levels).bind _ = _
    rw [Json.toJson_float readable.finite]
    rfl
  | text s => rfl

end StyleValue

namespace StyleMap

/-- What is written for a map is read back as that map if its numbers are finite. -/
theorem parse_text {m : StyleMap} (finite : ∀ e ∈ m.entries, e.2.isFinite = true) :
    codec.parse (codec.text m) = .ok m := by
  refine StyleValue.isLawful_codec.map.lawful.parse_text ?_ ?_
  · refine (Json.membersFinite_iff _).2 (List.forall_mem_map.2 fun e he => ?_)
    have own := finite e he
    obtain ⟨key, v⟩ := e
    cases v with
    | number x => exact own
    | text s => rfl
  · have flat : Json.depthMembers (m.entries.map fun e => (e.1, StyleValue.codec.write e.2)) ≤ 0 := by
      refine (Json.depthMembers_le_iff _ 0).2 (List.forall_mem_map.2 fun e _ => ?_)
      obtain ⟨key, v⟩ := e
      cases v <;> rfl
    exact (Nat.succ_le_succ flat).trans (by decide)

/-! ### Histories -/

/-- A step in the history of a style map. -/
inductive Edit where
  | insert (key : String) (value : StyleValue)
  /-- A new map is made of entries. -/
  | collect (es : List (String × StyleValue))
  | sort
  /-- A text is read in place of the map; one that cannot be read leaves the map as it is. -/
  | parse (s : String)

/-- Reads the entries that a text lists, in the order of the text. -/
def listed (s : String) : Except Json.Fault (List (String × StyleValue)) :=
  StyleValue.codec.members.parse s

namespace Edit

def apply (m : StyleMap) : Edit → StyleMap
  | insert key value => OrderedMap.insert m key value
  | collect es => .ofList es
  | sort => m.sortKeys
  | parse s =>
    match codec.parse s with
    | .ok m' => m'
    | .error _ => m

/-- The entries that have been written since the map was replaced the last time. -/
def write (written : List (String × StyleValue)) : Edit → List (String × StyleValue)
  | insert key value => written ++ [(key, value)]
  | collect es => es
  | sort => written
  | parse s =>
    match listed s with
    | .ok es => es
    | .error _ => written

/-- The order of the keys: a key that is there keeps its place, a new one comes last, and sorting orders them. -/
def arrange (keys : List String) : Edit → List String
  | insert key _ => if key ∈ keys then keys else keys ++ [key]
  | collect es => (es.map Prod.fst).eraseDups
  | sort => keys.mergeSort
  | parse s =>
    match listed s with
    | .ok es => (es.map Prod.fst).eraseDups
    | .error _ => keys

/-- A text that can be read stands for a new map of the entries that it lists. -/
theorem apply_parse (m : StyleMap) (s : String) :
    apply m (parse s) =
      match listed s with
      | .ok es => .ofList es
      | .error _ => m := by
  have read : codec.parse s = (listed s).map .ofList := Json.Codec.parse_map _ s
  rw [apply, read]
  cases listed s <;> rfl

end Edit

/-- The map after edits, one after the other. -/
def after (edits : List Edit) : StyleMap := edits.foldl Edit.apply .empty

/-- What edits have written since the last one that replaced the map. -/
def written (edits : List Edit) : List (String × StyleValue) := edits.foldl Edit.write []

/-- The order in which the keys stand after edits. -/
def order (edits : List Edit) : List String := edits.foldl Edit.arrange []

/-- One edit: the map goes on giving the last value that was written. -/
theorem get?_apply {m : StyleMap} {es : List (String × StyleValue)}
    (h : ∀ key, m.get? key = es.reverse.lookup key) (e : Edit) (key : String) :
    (e.apply m).get? key = (e.write es).reverse.lookup key := by
  cases e with
  | insert k value =>
    rw [Edit.apply, Edit.write, OrderedMap.get?_insert, List.reverse_concat, OrderedMap.lookup_cons, h]
  | collect es => exact OrderedMap.get?_ofList_eq_last es key
  | sort => exact (OrderedMap.get?_sortKeys m key).trans (h key)
  | parse s =>
    rw [Edit.apply_parse, Edit.write]
    cases listed s with
    | error fault => exact h key
    | ok es => exact OrderedMap.get?_ofList_eq_last es key

/-- One edit: the keys stay in their order. -/
theorem keys_apply {m : StyleMap} {keys : List String} (h : m.keys = keys) (e : Edit) :
    (e.apply m).keys = e.arrange keys := by
  subst h
  cases e with
  | insert key value => exact OrderedMap.keys_insert m key value
  | collect es => exact OrderedMap.keys_ofList es
  | sort => exact OrderedMap.keys_sortKeys m
  | parse s =>
    rw [Edit.apply_parse, Edit.arrange]
    cases listed s with
    | error fault => rfl
    | ok es => exact OrderedMap.keys_ofList es

theorem get?_after (edits : List Edit) (key : String) :
    (after edits).get? key = (written edits).reverse.lookup key := by
  induction edits using List.reverseRecOn generalizing key with
  | nil => rfl
  | append_singleton edits e ih =>
    rw [after, written, List.foldl_append, List.foldl_append]
    exact get?_apply ih e key

theorem keys_after (edits : List Edit) : (after edits).keys = order edits := by
  induction edits using List.reverseRecOn with
  | nil => rfl
  | append_singleton edits e ih =>
    rw [after, order, List.foldl_append, List.foldl_append]
    exact keys_apply ih e

/-- What a style map is after edits. -/
structure IsOrdered (edits : List Edit) : Prop where
  /-- The keys stand in the order in which they came first, or sorted. -/
  keys : (after edits).keys = order edits
  /-- No key stands twice. -/
  distinct : (after edits).keys.Nodup
  /-- A key has the last value that was written for it since the map was replaced. -/
  get? : ∀ key, (after edits).get? key = (written edits).reverse.lookup key
  /-- Setting a key again replaces its value in its place. -/
  replaced : ∀ key ∈ (after edits).keys, ∀ value,
    ((after edits).insert key value).entries =
      (after edits).entries.map fun e => if e.1 = key then (key, value) else e
  /-- Sorting keeps the entries. -/
  sorted_perm : (after edits).sortKeys.entries.Perm (after edits).entries
  /-- Sorting keeps the value of each key. -/
  sorted_get? : ∀ key, (after edits).sortKeys.get? key = (after edits).get? key
  /-- Sorted keys are strictly increasing in the order of their bytes. -/
  increasing : (after edits).sortKeys.keys.Pairwise fun k k' =>
    Link.encodeUtf8 k.toList < Link.encodeUtf8 k'.toList
  /-- If the numbers are finite, the text of the map is read back as the same entries in the same order. -/
  reload : (∀ e ∈ (after edits).entries, e.2.isFinite = true) →
    codec.parse (codec.text (after edits)) = .ok (after edits)

/-- Whatever edits a style map has had, it is a map that keeps the order of its keys, and what is written for it
is read back. -/
theorem isOrdered_after (edits : List Edit) : IsOrdered edits where
  keys := keys_after edits
  distinct := (after edits).distinct
  get? := get?_after edits
  replaced _ mem value := OrderedMap.put_of_mem (after edits).distinct mem value
  sorted_perm := (after edits).sortKeys_perm
  sorted_get? := (after edits).get?_sortKeys
  increasing :=
    (after edits).pairwise_keys_sortKeys.imp fun lt => (Text.lt_iff_encodeUtf8_lt _ _).1 lt
  reload := parse_text

/-- A key that is set again keeps its place. -/
example :
    order [.insert "width" (.number 1), .insert "color" (.text "1.5"), .insert "width" (.text "2")] =
      ["width", "color"] := by
  decide

end StyleMap

end DesignCode
