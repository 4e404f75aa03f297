import DesignCode.Proofs.Json.Lawful
import DesignCode.Proofs.Tree.Subtrees

/-!
# Lawful records

A record is lawful if its fields have different names and what they write for a structure, read one field after
the other, builds the structure up from the blank one (`Record.IsLawful`).  Each kind of field takes the value of
the structure over, whether it wrote it or left it out (`Field.takes_optional` and the like).  The codec of a
lawful record is lawful, and so is that of trees of such records.
-/

namespace DesignCode.Json

/-! ### Fields -/

namespace Field

variable {σ τ α : Type} {c : Codec α} {x y : σ}

/-- Reading what the field writes for `x` makes `y'` of `y`; what it does not write need not be read. -/
structure Takes (f : Field σ) (x y y' : σ) : Prop where
  written : ∀ j, f.write x = some j → ∀ levels, Readable levels j →
    ∃ set, f.read levels (Draft.printed j) = .ok set ∧ set y = y'
  unwritten : f.write x = none → f.required = false ∧ y' = y

theorem takes_needed (lawful : c.IsLawful) {name : String} {get : σ → α} {set : α → σ → σ} :
    (needed name c get set).Takes x y (set (get x) y) where
  written j h levels readable := by
    obtain rfl := Option.some.inj h
    refine ⟨set (get x), ?_, rfl⟩
    show (c.read levels (Draft.printed (c.write (get x)))).map set = _
    rw [lawful (get x) levels readable]
    rfl
  unwritten h := by nomatch h

theorem takes_defaulted (lawful : c.IsLawful) {name : String} {get : σ → α} {set : α → σ → σ} :
    (defaulted name c get set).Takes x y (set (get x) y) where
  written :=
    have taken : (needed name c get set).Takes x y (set (get x) y) := takes_needed lawful
    taken.written
  unwritten h := by nomatch h

/-- A field that may be left out takes over what was there, so nothing must have been there. -/
theorem takes_optional (strict : c.IsStrict) {name : String} {get : σ → Option α}
    {set : Option α → σ → σ} (blank : set none y = y) :
    (optional name c get set).Takes x y (set (get x) y) where
  written j h levels readable := by
    obtain ⟨a, given, rfl⟩ := Option.map_eq_some_iff.1 h
    refine ⟨set (get x), ?_, rfl⟩
    have read := strict.option (some a) levels readable
    show (c.option.read levels (Draft.printed (c.write a))).map set = _
    rw [given]
    exact congrArg (Except.map set) read
  unwritten h := by
    have none : get x = none := Option.map_eq_none_iff.1 h
    rw [none, blank]
    exact ⟨rfl, rfl⟩

theorem takes_listed (lawful : c.IsLawful) {name : String} {get : σ → List α}
    {set : List α → σ → σ} (blank : set [] y = y) :
    (listed name c get set).Takes x y (set (get x) y) where
  written j h levels readable := by
    refine ⟨set (get x), ?_, rfl⟩
    obtain rfl : c.list.write (get x) = j := by
      simp only [listed] at h
      split_ifs at h
      exact Option.some.inj h
    show (c.list.read levels (Draft.printed (c.list.write (get x)))).map set = _
    rw [lawful.list.lawful (get x) levels readable]
    rfl
  unwritten h := by
    have none : get x = [] := by
      simp only [listed] at h
      split_ifs at h with empty
      exact List.isEmpty_iff.1 empty
    rw [none, blank]
    exact ⟨rfl, rfl⟩

theorem takes_flagged {name : String} {get : σ → Bool} {set : Bool → σ → σ}
    (blank : set false y = y) : (flagged name get set).Takes x y (set (get x) y) where
  written j h levels readable := by
    refine ⟨set (get x), ?_, rfl⟩
    simp only [flagged] at h
    split_ifs at h with on
    obtain rfl := Option.some.inj h
    rw [on]
    rfl
  unwritten h := by
    simp only [flagged] at h
    split_ifs at h with on
    rw [Bool.not_eq_true] at on
    rw [on, blank]
    exact ⟨rfl, rfl⟩

/-- A part of a larger structure is taken over as it is alone. -/
theorem Takes.within {f : Field σ} {y' : σ} (h : f.Takes x y y') {get : τ → σ}
    {set : (σ → σ) → τ → τ} {u v v' : τ} (part : get u = x) (sets : ∀ g, g y = y' → set g v = v')
    (same : y' = y → v' = v) : (f.within get set).Takes u v v' where
  written j hw levels readable := by
    obtain ⟨g, read, taken⟩ := h.written j (part ▸ hw) levels readable
    refine ⟨set g, ?_, sets g taken⟩
    show (f.read levels (Draft.printed j)).map set = _
    rw [read]
    rfl
  unwritten hw := (h.unwritten (part ▸ hw)).imp_right same

end Field

/-! ### Levels of fields -/

namespace Field

variable {σ α : Type} {c : Codec α} {n : Nat} {name : String}

/-- At most `n` arrays and objects are written inside each other. -/
def WritesWithin (n : Nat) (f : Field σ) : Prop := ∀ x j, f.write x = some j → j.depth ≤ n

theorem writesWithin_needed (h : c.WritesWithin n) {get : σ → α} {set : α → σ → σ} :
    (needed name c get set).WritesWithin n := by
  intro x j wrote
  obtain rfl := Option.some.inj wrote
  exact h (get x)

theorem writesWithin_defaulted (h : c.WritesWithin n) {get : σ → α} {set : α → σ → σ} :
    (defaulted name c get set).WritesWithin n := by
  have same : (needed name c get set).WritesWithin n := writesWithin_needed h
  exact same

theorem writesWithin_optional (h : c.WritesWithin n) {get : σ → Option α}
    {set : Option α → σ → σ} : (optional name c get set).WritesWithin n := by
  intro x j wrote
  obtain ⟨a, -, rfl⟩ := Option.map_eq_some_iff.1 wrote
  exact h a

theorem writesWithin_listed (h : c.list.WritesWithin n) {get : σ → List α} {set : List α → σ → σ} :
    (listed name c get set).WritesWithin n := by
  intro x j wrote
  simp only [listed] at wrote
  split_ifs at wrote
  obtain rfl := Option.some.inj wrote
  exact h (get x)

theorem writesWithin_flagged {get : σ → Bool} {set : Bool → σ → σ} :
    (flagged name get set).WritesWithin n := by
  intro x j wrote
  simp only [flagged] at wrote
  split_ifs at wrote
  obtain rfl := Option.some.inj wrote
  exact Nat.zero_le n

end Field

/-! ### Records -/

namespace Record

variable {σ : Type} {r : Record σ} {x y z : σ} {levels : Nat}

/-- Reading what the fields write for `x`, one after the other, makes `z` of `y`. -/
inductive TakesAll (x : σ) : List (Field σ) → σ → σ → Prop
  | nil {y : σ} : TakesAll x [] y y
  | cons {f : Field σ} {fs : List (Field σ)} {y y' z : σ} (first : f.Takes x y y')
      (others : TakesAll x fs y' z) : TakesAll x (f :: fs) y z

/-- The members that fields write for a structure. -/
def written (x : σ) (fs : List (Field σ)) : List (String × Json) :=
  fs.filterMap fun f => (f.write x).map (f.name, ·)

theorem written_cons (x : σ) (f : Field σ) (fs : List (Field σ)) :
    written x (f :: fs) = ((f.write x).map (f.name, ·)).toList ++ written x fs := by
  rw [written, List.filterMap_cons]
  cases f.write x <;> rfl

theorem map_fst_written_subset (x : σ) (fs : List (Field σ)) :
    (written x fs).map Prod.fst ⊆ fs.map Field.name := by
  intro name mem
  obtain ⟨m, hm, rfl⟩ := List.mem_map.1 mem
  obtain ⟨f, hf, wrote⟩ := List.mem_filterMap.1 hm
  obtain ⟨j, -, rfl⟩ := Option.map_eq_some_iff.1 wrote
  exact List.mem_map_of_mem hf

/-- A field that has to be there is written. -/
theorem TakesAll.mem_written {fs : List (Field σ)} (takes : TakesAll x fs y z) {f : Field σ}
    (mem : f ∈ fs) (required : f.required = true) : f.name ∈ (written x fs).map Prod.fst := by
  induction takes with
  | nil => cases mem
  | @cons g fs y y' z first others ih =>
    rw [written_cons, List.map_append, List.mem_append]
    rcases List.mem_cons.1 mem with rfl | mem
    · cases hw : f.write x with
      | none => exact absurd (first.unwritten hw).1 (by simp [required])
      | some j => exact .inl (by simp)
    · exact .inr (ih mem)

theorem readMembers_field {seen : List String} {f : Field σ} {set : σ → σ} {d : Draft} {rest : Members}
    (known : r.field? f.name = some f) (new : f.name ∉ seen) (read : f.read levels d = .ok set) :
    r.readMembers levels seen y (.member (.pure f.name) d rest) =
      r.readMembers levels (f.name :: seen) (set y) rest := by
  have once : r.once seen f.name = .ok () := by simp [Record.once, new]
  simp only [readMembers, Literal.pure, bind, Except.bind, once, known, read]

/-- The members that fields wrote are read one after the other, whatever follows them. -/
theorem readMembers_written {fs : List (Field σ)} (takes : TakesAll x fs y z)
    (known : ∀ f ∈ fs, r.field? f.name = some f) (distinct : (fs.map Field.name).Nodup)
    {seen : List String} (new : ∀ f ∈ fs, f.name ∉ seen)
    (readable : ∀ m ∈ written x fs, Readable levels m.2) (rest : List (String × Json)) :
    r.readMembers levels seen y (Members.printed (written x fs ++ rest)) =
      r.readMembers levels (((written x fs).map Prod.fst).reverse ++ seen) z
        (Members.printed rest) := by
  induction takes generalizing seen with
  | nil => rfl
  | @cons f fs y y' z first others ih =>
    rw [List.forall_mem_cons] at known new
    rw [List.map_cons, List.nodup_cons] at distinct
    rw [written_cons] at readable ⊢
    cases hw : f.write x with
    | none =>
      obtain ⟨-, rfl⟩ := first.unwritten hw
      rw [hw] at readable
      exact ih known.2 distinct.2 new.2 readable
    | some j =>
      rw [hw] at readable
      have ⟨here, below⟩ := List.forall_mem_cons.1 readable
      obtain ⟨set, read, rfl⟩ := first.written j hw levels here
      have later : ∀ g ∈ fs, g.name ∉ f.name :: seen := by
        intro g mem same
        rcases List.mem_cons.1 same with same | old
        · exact distinct.1 (same ▸ List.mem_map_of_mem mem)
        · exact new.2 g mem old
      refine (readMembers_field known.1 new.1 read).trans
        ((ih known.2 distinct.2 later below).trans ?_)
      simp

/-- The fields of a record have different names, and reading what they write for a structure builds it
up from the blank one. -/
structure IsLawful (r : Record σ) : Prop where
  distinct : (r.fields.map Field.name).Nodup
  takes : ∀ x, TakesAll x r.fields r.blank x

theorem IsLawful.field? (lawful : r.IsLawful) : ∀ f ∈ r.fields, r.field? f.name = some f :=
  fun _ mem => find?_eq_some_of_nodup lawful.distinct mem

/-- No field is missing behind the names of those that have to be there. -/
theorem readMembers_closed {seen : List String}
    (all : ∀ f ∈ r.fields, f.required = true → f.name ∈ seen) :
    r.readMembers levels seen y .closed = .ok y := by
  have none : (r.fields.find? fun f => f.required ∧ f.name ∉ seen) = none := by
    rw [List.find?_eq_none]
    intro f mem missing
    rw [decide_eq_true_eq] at missing
    exact missing.2 (all f mem missing.1)
  rw [readMembers, none]

theorem IsLawful.codec (lawful : r.IsLawful) : r.codec.IsStrict where
  lawful x levels readable := by
    obtain ⟨n, rfl, members⟩ := readable.members
    have takes := lawful.takes x
    have run := readMembers_written takes lawful.field? lawful.distinct (fun _ _ => List.not_mem_nil)
      members []
    rw [List.append_nil, List.append_nil] at run
    show r.readMembers n [] r.blank (Members.printed (written x r.fields)) = _
    rw [run]
    refine readMembers_closed fun f mem required => ?_
    exact List.mem_reverse.2 (takes.mem_written mem required)
  values _ := nofun

/-! ### Trees of records -/

/-- The fields of the root of a tree. -/
def rootFields (r : Record σ) : List (Field (Tree σ)) :=
  r.fields.map (·.within Tree.value fun f t => .node (f t.value) t.children)

theorem map_name_rootFields (r : Record σ) :
    r.rootFields.map Field.name = r.fields.map Field.name := List.map_map

/-- The field of the children, which `self` reads. -/
def childrenField (self : Reader (Tree σ)) : Field (Tree σ) where
  name := "children"
  required := false
  read levels d := (Codec.list ⟨self, fun _ => .null⟩).read levels d |>.map fun cs t =>
    .node t.value cs
  write _ := none

theorem fields_withChildren (r : Record σ) (self : Reader (Tree σ)) :
    (r.withChildren self).fields = r.rootFields ++ [childrenField self] := rfl

theorem written_rootFields (x : σ) (cs : List (Tree σ)) (fs : List (Field σ)) :
    written (Tree.node x cs) (fs.map (·.within Tree.value fun f t => .node (f t.value) t.children)) =
      written x fs := by
  rw [written, List.filterMap_map]
  rfl

/-- The root of a tree is built up like the structure in it. -/
theorem TakesAll.root {fs : List (Field σ)} (takes : TakesAll x fs y z) (cs cs' : List (Tree σ)) :
    TakesAll (Tree.node x cs) (fs.map (·.within Tree.value fun f t => .node (f t.value) t.children))
      (.node y cs') (.node z cs') := by
  induction takes with
  | nil => exact .nil
  | cons first others ih =>
    refine .cons (first.within rfl (fun g taken => ?_) fun same => ?_) ih
    · exact congrArg (Tree.node · cs') taken
    · exact congrArg (Tree.node · cs') same

theorem write_treeCodec (r : Record σ) (x : σ) (cs : List (Tree σ)) :
    r.treeCodec.write (.node x cs) = .object (written x r.fields ++
      if cs.isEmpty then [] else [("children", .array (cs.map r.treeCodec.write))]) := by
  simp only [treeCodec, Tree.fold_node, List.isEmpty_map]
  rfl

section

variable (lawful : r.IsLawful) (own : "children" ∉ r.fields.map Field.name)

include lawful own

theorem distinct_withChildren (self : Reader (Tree σ)) :
    ((r.withChildren self).fields.map Field.name).Nodup := by
  rw [fields_withChildren, List.map_append, map_name_rootFields]
  refine List.nodup_append.2 ⟨lawful.distinct, by simp, ?_⟩
  rintro name mem other children rfl
  obtain rfl : name = "children" := List.mem_singleton.1 children
  exact own mem

/-- The root of a tree is read from its members, and its children if they are read from theirs. -/
theorem read_withChildren (self : Reader (Tree σ)) {n : Nat} (cs : List (Tree σ))
    (children : ∀ m, n = m + 1 → ∀ c ∈ cs, Readable m (r.treeCodec.write c) →
      self m (Draft.printed (r.treeCodec.write c)) = .ok c)
    (readable : Readable (n + 1) (r.treeCodec.write (.node x cs))) :
    (r.withChildren self).read (n + 1) (Draft.printed (r.treeCodec.write (.node x cs))) =
      .ok (.node x cs) := by
  have distinct := distinct_withChildren lawful own self
  have known : ∀ f ∈ (r.withChildren self).fields, (r.withChildren self).field? f.name = some f :=
    fun f mem => find?_eq_some_of_nodup distinct mem
  rw [fields_withChildren, List.forall_mem_append, List.forall_mem_singleton] at known
  rw [fields_withChildren, List.map_append, List.nodup_append] at distinct
  have takes := (lawful.takes x).root cs []
  rw [write_treeCodec] at readable ⊢
  obtain ⟨_, ⟨⟩, members⟩ := readable.members
  rw [List.forall_mem_append, ← written_rootFields x cs] at members
  have run := readMembers_written takes known.1 distinct.1 (fun _ _ => List.not_mem_nil) members.1
    (if cs.isEmpty then [] else [("children", .array (cs.map r.treeCodec.write))])
  rw [written_rootFields, List.append_nil] at run
  show (r.withChildren self).readMembers n [] (.node r.blank []) (Members.printed _) = _
  rw [run]
  have all : ∀ f ∈ (r.withChildren self).fields, f.required = true →
      f.name ∈ ((written x r.fields).map Prod.fst).reverse := by
    rw [fields_withChildren, List.forall_mem_append, List.forall_mem_singleton]
    refine ⟨fun f mem required => ?_, nofun⟩
    have wrote := takes.mem_written mem required
    rw [written_rootFields] at wrote
    exact List.mem_reverse.2 wrote
  cases cs with
  | nil => exact readMembers_closed all
  | cons c cs =>
    have new : "children" ∉ ((written x r.fields).map Prod.fst).reverse := fun mem =>
      own (map_fst_written_subset x r.fields (List.mem_reverse.1 mem))
    have here := members.2 ("children", .array ((c :: cs).map r.treeCodec.write)) (by simp)
    obtain ⟨m, rfl, items⟩ := here.items
    rw [List.forall_mem_map] at items
    have read : (childrenField self).read (m + 1)
        (Draft.printed (.array ((c :: cs).map r.treeCodec.write))) =
          .ok fun t => .node t.value (c :: cs) := by
      show ((Items.printed ((c :: cs).map r.treeCodec.write)).readAll (self m)).map _ = _
      rw [Codec.readAll_printed fun c mem => children m rfl c mem (items c mem)]
      rfl
    refine (readMembers_field known.2 new read).trans (readMembers_closed ?_)
    exact fun f mem required => List.mem_cons_of_mem _ (all f mem required)

/-- A tree of lawful records is read back at any depth, as long as there is a reader for every level. -/
theorem fixAt_printed (t : Tree σ) {fuel levels : Nat} (enough : levels ≤ fuel)
    (readable : Readable levels (r.treeCodec.write t)) :
    fixAt (fun self => (r.withChildren self).read) fuel levels (Draft.printed (r.treeCodec.write t)) =
      .ok t := by
  induction t using Tree.induct generalizing fuel levels with
  | node x cs ih =>
    obtain ⟨n, rfl⟩ : ∃ n, levels = n + 1 := by
      have whole := readable
      rw [write_treeCodec] at whole
      obtain ⟨n, rfl, -⟩ := whole.members
      exact ⟨n, rfl⟩
    obtain ⟨fuel, rfl⟩ : ∃ k, fuel = k + 1 := ⟨fuel - 1, by omega⟩
    refine read_withChildren lawful own _ cs ?_ readable
    rintro m rfl c mem below
    exact ih c mem (by omega) below

theorem IsLawful.treeCodec : r.treeCodec.IsStrict where
  lawful t _ readable := fixAt_printed lawful own t le_rfl readable
  values := by
    rintro ⟨x, cs⟩
    rw [write_treeCodec]
    nofun

end

/-! ### Bounds on the levels -/

/-- At most `n` arrays and objects are written inside each other for every field. -/
def WritesWithin (n : Nat) (r : Record σ) : Prop := ∀ f ∈ r.fields, f.WritesWithin n

theorem WritesWithin.members {n : Nat} (h : r.WritesWithin n) (x : σ) :
    ∀ m ∈ written x r.fields, m.2.depth ≤ n := by
  intro m mem
  obtain ⟨f, hf, wrote⟩ := List.mem_filterMap.1 mem
  obtain ⟨j, hj, rfl⟩ := Option.map_eq_some_iff.1 wrote
  exact h f hf x j hj

theorem WritesWithin.codec {n : Nat} (h : r.WritesWithin n) : r.codec.WritesWithin (n + 1) :=
  fun x => Nat.add_le_add_right ((depthMembers_le_iff _ _).2 (h.members x)) 1

/-- Each level of a tree takes two levels of JSON: one for the root, one for the list of its children. -/
theorem WritesWithin.depth_tree {n : Nat} (h : r.WritesWithin n) (t : Tree σ) :
    (r.treeCodec.write t).depth + 1 ≤ 2 * t.height + n := by
  induction t using Tree.induct with
  | node x cs ih =>
    obtain ⟨k, hk⟩ : ∃ k, (Tree.node x cs).height = k + 1 :=
      ⟨_, (Tree.height_node x cs).trans (Nat.add_comm 1 _)⟩
    have below := (Tree.height_node_le_iff x cs k).1 hk.le
    have root : ∀ m ∈ written x r.fields, m.2.depth ≤ 2 * k + n := fun m mem =>
      (h.members x m mem).trans (Nat.le_add_left n (2 * k))
    have children : ∀ m ∈ (if cs.isEmpty then [] else [("children", Json.array (cs.map r.treeCodec.write))]),
        m.2.depth ≤ 2 * k + n := by
      cases cs with
      | nil => nofun
      | cons c cs =>
        have shallow : ∀ u ∈ c :: cs, (r.treeCodec.write u).depth ≤ 2 * k + n - 1 := by
          intro u mem
          have deep := ih u mem
          have height := below u mem
          omega
        have items := (depthItems_le_iff _ _).2 (List.forall_mem_map.2 shallow)
        have first := ih c List.mem_cons_self
        have height := below c List.mem_cons_self
        rintro m mem
        obtain rfl := List.mem_singleton.1 mem
        rw [Json.depth]
        omega
    have all := (depthMembers_le_iff _ _).2 (List.forall_mem_append.2 ⟨root, children⟩)
    rw [write_treeCodec, hk, Json.depth]
    omega

end Record

end DesignCode.Json
