/-!
# Maps that keep the order of their keys

An `OrderedMap` lists its entries in the order in which their keys came first.  Writing a key again
replaces the value in its place (`keys_insert`), and no key stands twice, which the type records.
`sortKeys` brings the entries into the order of their keys.
-/

namespace DesignCode

/-- A map from strings whose entries keep the order in which their keys came first. -/
structure OrderedMap (α : Type) where
  entries : List (String × α)
  distinct : (entries.map Prod.fst).Nodup := by simp

namespace OrderedMap

variable {α : Type}

/-! ### Lists of entries -/

/-- Replaces the value of `key` in its place, or adds an entry at the end. -/
def put (key : String) (value : α) : List (String × α) → List (String × α)
  | [] => [(key, value)]
  | e :: rest => if e.1 = key then (key, value) :: rest else e :: put key value rest

/-- Puts an entry before the first one with a larger key. -/
def place (e : String × α) : List (String × α) → List (String × α)
  | [] => [e]
  | e' :: rest => if e.1 < e'.1 then e :: e' :: rest else e' :: place e rest

theorem keys_put (key : String) (value : α) (es : List (String × α)) :
    (put key value es).map Prod.fst =
      if key ∈ es.map Prod.fst then es.map Prod.fst else es.map Prod.fst ++ [key] := by
  induction es with
  | nil => simp [put]
  | cons e rest ih => by_cases h : e.1 = key <;> grind [put]

theorem nodup_keys_put (key : String) (value : α) {es : List (String × α)}
    (h : (es.map Prod.fst).Nodup) : ((put key value es).map Prod.fst).Nodup := by
  rw [keys_put]
  split
  · exact h
  · next hk =>
    exact List.nodup_append.2 ⟨h, by simp, fun a ha b hb => by
      rw [List.mem_singleton] at hb
      exact fun hab => hk (hb ▸ hab ▸ ha)⟩

theorem place_perm (e : String × α) (es : List (String × α)) : (place e es).Perm (e :: es) := by
  induction es with
  | nil => exact .refl _
  | cons e' rest ih =>
    rw [place]
    split
    · exact .refl _
    · exact (ih.cons e').trans (.swap e e' rest)

theorem foldr_place_perm (es : List (String × α)) : (es.foldr place []).Perm es := by
  induction es with
  | nil => exact .refl _
  | cons e rest ih => exact (place_perm e _).trans (ih.cons e)

/-! ### Operations -/

def empty : OrderedMap α := ⟨[], by simp⟩

instance : EmptyCollection (OrderedMap α) := ⟨empty⟩

instance : Inhabited (OrderedMap α) := ⟨empty⟩

/-- Writes a value; a key that is there already keeps its place. -/
def insert (m : OrderedMap α) (key : String) (value : α) : OrderedMap α :=
  ⟨put key value m.entries, nodup_keys_put key value m.distinct⟩

def get? (m : OrderedMap α) (key : String) : Option α := m.entries.lookup key

/-- Whether the key has a value. -/
def contains (m : OrderedMap α) (key : String) : Bool := (m.get? key).isSome

def keys (m : OrderedMap α) : List String := m.entries.map Prod.fst

/-- The values in the order of their keys. -/
def values (m : OrderedMap α) : List α := m.entries.map Prod.snd

def size (m : OrderedMap α) : Nat := m.entries.length

def isEmpty (m : OrderedMap α) : Bool := m.entries.isEmpty

/-- Writes entries one after the other. -/
def insertAll (m : OrderedMap α) (es : List (String × α)) : OrderedMap α :=
  es.foldl (fun m e => m.insert e.1 e.2) m

/-- Writes entries one after the other into an empty map. -/
def ofList (es : List (String × α)) : OrderedMap α := empty.insertAll es

/-- The same entries in the order of their keys. -/
def sortKeys (m : OrderedMap α) : OrderedMap α :=
  ⟨m.entries.foldr place [],
    ((foldr_place_perm m.entries).map Prod.fst).nodup_iff.2 m.distinct⟩

theorem keys_insert (m : OrderedMap α) (key : String) (value : α) :
    (m.insert key value).keys = if key ∈ m.keys then m.keys else m.keys ++ [key] :=
  keys_put key value m.entries

theorem sortKeys_perm (m : OrderedMap α) : m.sortKeys.entries.Perm m.entries :=
  foldr_place_perm m.entries

end OrderedMap

end DesignCode
