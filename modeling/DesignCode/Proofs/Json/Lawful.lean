import DesignCode.Json.Record
import DesignCode.Quad
import DesignCode.Proofs.Json.Number
import DesignCode.Proofs.OrderedMap

/-!
# Lawful codecs

A lawful codec reads every value back from what it writes (`Codec.IsLawful`), if the numbers in it are finite and
the reader may enter as many arrays and objects inside each other as it has.  Lists, maps, options and quadruples of
lawful codecs are lawful.  A text that a lawful codec wrote is read back with the standard number of levels
if it needs no more (`Codec.IsLawful.parse_text`), and by a reader of any depth always
(`Codec.IsLawful.parseDeep_text`).
-/

namespace DesignCode.Json

/-! ### Levels and numbers of a value -/

mutual

/-- The greatest number of arrays and objects inside each other. -/
def depth : Json → Nat
  | array items => depthItems items + 1
  | object members => depthMembers members + 1
  | _ => 0

/-- `depth` for the items of an array. -/
def depthItems : List Json → Nat
  | [] => 0
  | j :: rest => max (depth j) (depthItems rest)

/-- `depth` for the members of an object. -/
def depthMembers : List (String × Json) → Nat
  | [] => 0
  | (_, j) :: rest => max (depth j) (depthMembers rest)

end

mutual

/-- Whether all numbers in a value are finite. -/
def isFinite : Json → Bool
  | float x => x.isFinite
  | array items => areFinite items
  | object members => membersFinite members
  | _ => true

/-- `isFinite` for the items of an array. -/
def areFinite : List Json → Bool
  | [] => true
  | j :: rest => isFinite j && areFinite rest

/-- `isFinite` for the members of an object. -/
def membersFinite : List (String × Json) → Bool
  | [] => true
  | (_, j) :: rest => isFinite j && membersFinite rest

end

theorem depthItems_le_iff (js : List Json) (n : Nat) :
    depthItems js ≤ n ↔ ∀ j ∈ js, j.depth ≤ n := by
  induction js with
  | nil => simp [depthItems]
  | cons j js ih => rw [depthItems, Nat.max_le, ih, List.forall_mem_cons]

theorem depthMembers_le_iff (ms : List (String × Json)) (n : Nat) :
    depthMembers ms ≤ n ↔ ∀ m ∈ ms, m.2.depth ≤ n := by
  induction ms with
  | nil => simp [depthMembers]
  | cons m ms ih => rw [depthMembers, Nat.max_le, ih, List.forall_mem_cons]

theorem areFinite_iff (js : List Json) : areFinite js = true ↔ ∀ j ∈ js, j.isFinite = true := by
  induction js with
  | nil => simp [areFinite]
  | cons j js ih => rw [areFinite, Bool.and_eq_true, ih, List.forall_mem_cons]

theorem membersFinite_iff (ms : List (String × Json)) :
    membersFinite ms = true ↔ ∀ m ∈ ms, m.2.isFinite = true := by
  induction ms with
  | nil => simp [membersFinite]
  | cons m ms ih => rw [membersFinite, Bool.and_eq_true, ih, List.forall_mem_cons]

/-- The numbers of a value are finite, and at most `levels` arrays and objects are inside each other. -/
structure Readable (levels : Nat) (j : Json) : Prop where
  finite : j.isFinite = true
  depth : j.depth ≤ levels

theorem Readable.items {levels : Nat} {js : List Json} (h : Readable levels (.array js)) :
    ∃ n, levels = n + 1 ∧ ∀ j ∈ js, Readable n j := by
  obtain ⟨finite, depth⟩ := h
  rw [isFinite, areFinite_iff] at finite
  rw [Json.depth] at depth
  obtain ⟨n, rfl⟩ : ∃ n, levels = n + 1 := ⟨levels - 1, by omega⟩
  have shallow := (depthItems_le_iff js n).1 (by omega)
  exact ⟨n, rfl, fun j mem => ⟨finite j mem, shallow j mem⟩⟩

theorem Readable.members {levels : Nat} {ms : List (String × Json)}
    (h : Readable levels (.object ms)) : ∃ n, levels = n + 1 ∧ ∀ m ∈ ms, Readable n m.2 := by
  obtain ⟨finite, depth⟩ := h
  rw [isFinite, membersFinite_iff] at finite
  rw [Json.depth] at depth
  obtain ⟨n, rfl⟩ : ∃ n, levels = n + 1 := ⟨levels - 1, by omega⟩
  have shallow := (depthMembers_le_iff ms n).1 (by omega)
  exact ⟨n, rfl, fun m mem => ⟨finite m mem, shallow m mem⟩⟩

mutual

/-- Each level has a bracket of its own in the text. -/
theorem depth_le_length (j : Json) : j.depth ≤ (render j).length := by
  match j with
  | .null | .bool _ | .int _ | .float _ | .string _ => exact Nat.zero_le _
  | .array [] | .object [] => simp [Json.depth, depthItems, depthMembers, render]
  | .array (j :: js) =>
    have first := depth_le_length j
    have others := depthItems_le_length js
    simp only [Json.depth, depthItems, render, List.length_cons, List.length_append]
    omega
  | .object ((k, j) :: ms) =>
    have first := depth_le_length j
    have others := depthMembers_le_length ms
    simp only [Json.depth, depthMembers, render, List.length_cons, List.length_append]
    omega

theorem depthItems_le_length (js : List Json) : depthItems js ≤ (renderItems js).length := by
  match js with
  | [] => exact Nat.zero_le _
  | j :: js =>
    have first := depth_le_length j
    have others := depthItems_le_length js
    simp only [depthItems, renderItems, List.length_cons, List.length_append]
    omega

theorem depthMembers_le_length (ms : List (String × Json)) :
    depthMembers ms ≤ (renderMembers ms).length := by
  match ms with
  | [] => exact Nat.zero_le _
  | (k, j) :: ms =>
    have first := depth_le_length j
    have others := depthMembers_le_length ms
    simp only [depthMembers, renderMembers, List.length_cons, List.length_append]
    omega

end

/-- Among elements with different marks each is found by its mark. -/
theorem find?_eq_some_of_nodup {α β : Type} [DecidableEq β] {mark : α → β} {as : List α}
    (distinct : (as.map mark).Nodup) {a : α} (mem : a ∈ as) :
    as.find? (fun b => mark b = mark a) = some a := by
  induction as with
  | nil => cases mem
  | cons b as ih =>
    rw [List.map_cons, List.nodup_cons] at distinct
    rcases List.mem_cons.1 mem with rfl | mem
    · exact List.find?_cons_of_pos (by simp)
    · have other : mark b ≠ mark a := fun same => distinct.1 (same ▸ List.mem_map_of_mem mem)
      rw [List.find?_cons_of_neg (by simpa using other), ih distinct.2 mem]

/-! ### Codecs -/

theorem Draft.printed_ne_null {j : Json} (ne : j ≠ .null) (finite : j.isFinite = true) :
    Draft.printed j ≠ .null := by
  cases j with
  | null => exact absurd rfl ne
  | float x =>
    rw [isFinite] at finite
    rw [Draft.printed, if_pos finite]
    nofun
  | bool b => nofun
  | int i => nofun
  | string s => nofun
  | array items => nofun
  | object members => nofun

theorem Draft.printed_ne_brokenNull (j : Json) (fault : Fault) :
    Draft.printed j ≠ .brokenNull fault := by
  cases j with
  | float x =>
    rw [Draft.printed]
    split_ifs <;> nofun
  | null => nofun
  | bool b => nofun
  | int i => nofun
  | string s => nofun
  | array items => nofun
  | object members => nofun

namespace Codec

variable {α : Type} {c : Codec α}

/-- Every value is read back from what is written for it, if that can be read at all. -/
def IsLawful (c : Codec α) : Prop :=
  ∀ a levels, Readable levels (c.write a) → c.read levels (Draft.printed (c.write a)) = .ok a

theorem isLawful_string : string.IsLawful := fun _ _ _ => rfl

theorem isLawful_bool : bool.IsLawful := fun _ _ _ => rfl

theorem isLawful_float : float.IsLawful := fun _ levels readable => read_float readable.finite levels

/-- A lawful codec that writes something else than null for every value, so that null is free for none. -/
structure IsStrict (c : Codec α) : Prop where
  lawful : c.IsLawful
  values : ∀ a, c.write a ≠ .null

theorem isStrict_string : string.IsStrict := ⟨isLawful_string, fun _ => nofun⟩

theorem isStrict_bool : bool.IsStrict := ⟨isLawful_bool, fun _ => nofun⟩

theorem isStrict_float : float.IsStrict := ⟨isLawful_float, fun _ => nofun⟩

theorem IsStrict.option (strict : c.IsStrict) : c.option.IsLawful := by
  intro o levels readable
  cases o with
  | none => rfl
  | some a =>
    have read := strict.lawful a levels readable
    have given := Draft.printed_ne_null (strict.values a) readable.finite
    have whole := Draft.printed_ne_brokenNull (c.write a)
    show c.option.read levels (Draft.printed (c.write a)) = _
    generalize Draft.printed (c.write a) = d at *
    unfold Codec.option
    dsimp only
    split
    · exact absurd rfl given
    · exact absurd rfl (whole _)
    · rw [read]
      rfl

theorem readAll_printed {read : Draft → Except Fault α} {write : α → Json} {xs : List α}
    (each : ∀ x ∈ xs, read (Draft.printed (write x)) = .ok x) :
    (Items.printed (xs.map write)).readAll read = .ok xs := by
  induction xs with
  | nil => rfl
  | cons x xs ih =>
    rw [List.forall_mem_cons] at each
    rw [List.map_cons, Items.printed, Items.readAll, each.1, ih each.2]
    rfl

theorem IsLawful.list (lawful : c.IsLawful) : c.list.IsStrict where
  lawful xs levels readable := by
    obtain ⟨n, rfl, items⟩ := readable.items
    rw [List.forall_mem_map] at items
    exact readAll_printed fun x mem => lawful x n (items x mem)
  values _ := nofun

theorem readAll_members (lawful : c.IsLawful) {levels : Nat} (es : List (String × α))
    (readable : ∀ e ∈ es, Readable levels (c.write e.2)) (m : OrderedMap α)
    (fresh : ((m.entries ++ es).map Prod.fst).Nodup) :
    ∃ m', (Members.printed (es.map fun e => (e.1, c.write e.2))).readAll (c.read levels) m = .ok m' ∧
      m'.entries = m.entries ++ es := by
  induction es generalizing m with
  | nil => exact ⟨m, rfl, (List.append_nil _).symm⟩
  | cons e es ih =>
    obtain ⟨key, a⟩ := e
    rw [List.forall_mem_cons] at readable
    have new : m.get? key = none := by
      refine OrderedMap.lookup_eq_none_of_not_mem fun mem => ?_
      rw [List.map_append, List.nodup_append] at fresh
      exact fresh.2.2 key mem key (by simp) rfl
    have entries := OrderedMap.entries_insert_of_get?_eq_none new a
    obtain ⟨m', read, same⟩ := ih readable.2 (m.insert key a) (by simpa [entries] using fresh)
    refine ⟨m', ?_, by rw [same, entries, List.append_assoc, List.singleton_append]⟩
    rw [← read, List.map_cons, Members.printed, Members.readAll]
    show ((c.read levels (Draft.printed (c.write a))).bind fun value =>
      (Members.printed _).readAll (c.read levels) (m.insert key value)) = _
    rw [lawful a levels readable.1]
    rfl

theorem IsLawful.map (lawful : c.IsLawful) : c.map.IsStrict where
  lawful m levels readable := by
    obtain ⟨n, rfl, members⟩ := readable.members
    rw [List.forall_mem_map] at members
    obtain ⟨m', read, same⟩ := readAll_members lawful m.entries members .empty m.distinct
    have equal : m' = m := by
      obtain ⟨entries, distinct⟩ := m
      obtain ⟨entries', distinct'⟩ := m'
      obtain rfl : entries' = entries := same
      rfl
    rw [← equal]
    exact equal ▸ read
  values _ := nofun

theorem takeItem_printed (lawful : c.IsLawful) {levels : Nat} {a : α}
    (readable : Readable levels (c.write a)) (index : Nat) (rest : Items) :
    Quad.takeItem (c.read levels) index (.cons (Draft.printed (c.write a)) rest) = .ok (a, rest) := by
  rw [Quad.takeItem, lawful a levels readable]
  rfl

theorem IsLawful.quad (lawful : c.IsLawful) : (Quad.codec c).IsStrict where
  lawful q levels readable := by
    obtain ⟨n, rfl, items⟩ := readable.items
    obtain ⟨x, y, z, w⟩ := q
    simp only [Quad.toList, List.map_cons, List.map_nil, List.forall_mem_cons] at items
    obtain ⟨hx, hy, hz, hw, -⟩ := items
    show (Quad.takeItem (c.read n) 0 (.cons (Draft.printed (c.write x)) _)).bind _ = _
    rw [takeItem_printed lawful hx]
    show (Quad.takeItem (c.read n) 1 (.cons (Draft.printed (c.write y)) _)).bind _ = _
    rw [takeItem_printed lawful hy]
    show (Quad.takeItem (c.read n) 2 (.cons (Draft.printed (c.write z)) _)).bind _ = _
    rw [takeItem_printed lawful hz]
    show (Quad.takeItem (c.read n) 3 (.cons (Draft.printed (c.write w)) .closed)).bind _ = _
    rw [takeItem_printed lawful hw]
    rfl
  values _ := nofun

/-- Names tell the values of an enumeration apart, and none is left out. -/
theorem isStrict_names {names : Names α} (distinct : (names.all.map names.name).Nodup)
    (complete : ∀ a, a ∈ names.all) : names.codec.IsStrict where
  lawful a levels _ := by
    show names.ofName (names.name a) = .ok a
    rw [Names.ofName, find?_eq_some_of_nodup distinct (complete a)]
  values _ := nofun

end Codec

/-! ### Bounds on the levels -/

namespace Codec

variable {α : Type} {c : Codec α} {n : Nat}

/-- At most `n` arrays and objects are written inside each other. -/
def WritesWithin (n : Nat) (c : Codec α) : Prop := ∀ a, (c.write a).depth ≤ n

theorem writesWithin_string : string.WritesWithin n := fun _ => Nat.zero_le n

theorem writesWithin_float : float.WritesWithin n := fun _ => Nat.zero_le n

theorem writesWithin_names (names : Names α) : names.codec.WritesWithin n := fun _ => Nat.zero_le n

theorem WritesWithin.option (h : c.WritesWithin n) : c.option.WritesWithin n := by
  intro o
  cases o with
  | none => exact Nat.zero_le n
  | some a => exact h a

theorem WritesWithin.list (h : c.WritesWithin n) : c.list.WritesWithin (n + 1) := by
  intro xs
  refine Nat.add_le_add_right ((depthItems_le_iff _ _).2 ?_) 1
  rw [List.forall_mem_map]
  exact fun x _ => h x

theorem WritesWithin.quad (h : c.WritesWithin n) : (Quad.codec c).WritesWithin (n + 1) := by
  intro q
  refine Nat.add_le_add_right ((depthItems_le_iff _ _).2 ?_) 1
  rw [List.forall_mem_map]
  exact fun x _ => h x

end Codec

/-! ### Whole texts -/

namespace Codec

variable {α : Type} {c : Codec α}

/-- A text is read back if it has no more levels than a reader enters. -/
theorem IsLawful.parse_text (lawful : c.IsLawful) {a : α} (finite : (c.write a).isFinite = true)
    (shallow : (c.write a).depth ≤ standardLevels) : c.parse (c.text a) = .ok a := by
  rw [Codec.text, Codec.parse_text]
  exact lawful a standardLevels ⟨finite, shallow⟩

/-- A text of any depth is read back by a reader without a bound on the levels. -/
theorem IsLawful.parseDeep_text (lawful : c.IsLawful) {a : α}
    (finite : (c.write a).isFinite = true) : c.parseDeep (c.text a) = .ok a := by
  rw [Codec.parseDeep, Codec.text, Json.text, String.toList_ofList, Codec.parseWithin_render]
  exact lawful a _ ⟨finite, depth_le_length _⟩

end Codec

end DesignCode.Json
