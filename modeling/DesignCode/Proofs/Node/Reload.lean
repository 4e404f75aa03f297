import DesignCode.Node.Basic
import DesignCode.Proofs.Layer.Reload

/-!
# Nodes read back

The records of which nodes are made are lawful, and a position is read back whatever its kind is.  A level of a tree
of nodes takes two levels of its text and a record in a node at most three, so a reader with the standard
number of levels reads back every tree of at most 62 levels (`Node.parse_nodeText`).
-/

namespace DesignCode

open Json Json.Codec Json.Field Json.Record

/-! ### Positions -/

namespace Position

section

variable {levels : Nat} {others : List (String × Json)} {rest : Members}

theorem readTagged_type (tag : Tag) :
    readTagged levels none others (.member (.pure "type") (.string (.pure tag.name)) rest) =
      readTagged levels (some tag) others rest := by
  cases tag <;> rfl

theorem readTagged_other {tag : Option Tag} (key : String) (other : key ≠ "type") {d : Draft} {j : Json}
    (read : d.toJson levels = .ok j) :
    readTagged levels tag others (.member (.pure key) d rest) =
      readTagged levels tag (others ++ [(key, j)]) rest := by
  simp only [readTagged, Literal.pure, bind, Except.bind, if_neg other, read]

end

theorem isLawful_codec : Position.codec.IsLawful := by
  intro p levels readable
  cases p with
  | root =>
    obtain ⟨n, rfl, -⟩ := readable.members
    rfl
  | flexItem =>
    obtain ⟨n, rfl, -⟩ := readable.members
    rfl
  | absolute p =>
    obtain ⟨n, rfl, members⟩ := readable.members
    simp only [List.forall_mem_cons] at members
    obtain ⟨-, ⟨hx, -⟩, ⟨hy, -⟩, -⟩ := members
    show (readTagged n none [] (.member (.pure "type") (.string (.pure Tag.absolute.name))
      (.member (.pure "x") (.printed (.float p.x)) (.member (.pure "y") (.printed (.float p.y)) .closed)))).bind _ = _
    rw [readTagged_type, readTagged_other "x" (by decide) (toJson_float hx n),
      readTagged_other "y" (by decide) (toJson_float hy n)]
    rfl

theorem isStrict_codec : Position.codec.IsStrict where
  lawful := isLawful_codec
  values p := by cases p <;> nofun

theorem writesWithin_codec {n : Nat} : Position.codec.WritesWithin (n + 1) := by
  intro p
  cases p <;> exact Nat.le_add_left 1 n

end Position

/-! ### Enumerations -/

theorem FlexDirection.isStrict_codec : FlexDirection.names.codec.IsStrict :=
  isStrict_names (by decide) fun a => by cases a <;> decide

theorem MainAlign.isStrict_codec : MainAlign.names.codec.IsStrict :=
  isStrict_names (by decide) fun a => by cases a <;> decide

theorem CrossAlign.isStrict_codec : CrossAlign.names.codec.IsStrict :=
  isStrict_names (by decide) fun a => by cases a <;> decide

/-! ### Records in nodes -/

namespace FlexBox

theorem isLawful_record : record.IsLawful where
  distinct := by decide
  takes _ :=
    .cons (takes_needed (FlexDirection.isStrict_codec).lawful) <|
    .cons (takes_optional isStrict_float rfl) <|
    .cons (takes_optional (isLawful_float).quad rfl) <|
    .cons (takes_optional MainAlign.isStrict_codec rfl) <|
    .cons (takes_optional CrossAlign.isStrict_codec rfl) .nil

theorem writesWithin_record {n : Nat} : record.WritesWithin (n + 1) := by
  simp only [Record.WritesWithin, record, List.forall_mem_cons]
  exact ⟨writesWithin_needed (writesWithin_names _), writesWithin_optional writesWithin_float,
    writesWithin_optional (writesWithin_float).quad, writesWithin_optional (writesWithin_names _),
    writesWithin_optional (writesWithin_names _), nofun⟩

end FlexBox

namespace Border

theorem isLawful_record : record.IsLawful where
  distinct := by decide
  takes _ := .cons (takes_needed isLawful_float) <| .cons (takes_needed isLawful_string) .nil

theorem writesWithin_record {n : Nat} : record.WritesWithin n := by
  simp only [Record.WritesWithin, record, List.forall_mem_cons]
  exact ⟨writesWithin_needed writesWithin_float, writesWithin_needed writesWithin_string, nofun⟩

end Border

namespace Visual

theorem isLawful_record : record.IsLawful where
  distinct := by decide
  takes _ :=
    .cons (takes_optional isStrict_string rfl) <|
    .cons (takes_defaulted (Border.isLawful_record).codec.option) <|
    .cons (takes_defaulted (isLawful_float).quad.option) .nil

theorem writesWithin_record {n : Nat} : record.WritesWithin (n + 1) := by
  simp only [Record.WritesWithin, record, List.forall_mem_cons]
  exact ⟨writesWithin_optional writesWithin_string,
    writesWithin_defaulted (Border.writesWithin_record).codec.option,
    writesWithin_defaulted (writesWithin_float).quad.option, nofun⟩

end Visual

namespace Shadow

theorem isLawful_record : record.IsLawful where
  distinct := by decide
  takes _ :=
    .cons (takes_needed isLawful_float) <|
    .cons (takes_needed isLawful_float) <|
    .cons (takes_needed isLawful_float) <|
    .cons (takes_needed isLawful_string) <|
    .cons (takes_flagged rfl) .nil

theorem writesWithin_record {n : Nat} : record.WritesWithin n := by
  simp only [Record.WritesWithin, record, List.forall_mem_cons]
  exact ⟨writesWithin_needed writesWithin_float, writesWithin_needed writesWithin_float,
    writesWithin_needed writesWithin_float, writesWithin_needed writesWithin_string,
    writesWithin_flagged, nofun⟩

end Shadow

namespace Effects

theorem isLawful_record : record.IsLawful where
  distinct := by decide
  takes _ :=
    .cons (takes_listed (Shadow.isLawful_record).codec.lawful rfl) <|
    .cons (takes_optional isStrict_float rfl) <|
    .cons (takes_optional isStrict_float rfl) .nil

theorem writesWithin_record {n : Nat} : record.WritesWithin (n + 2) := by
  simp only [Record.WritesWithin, record, List.forall_mem_cons]
  exact ⟨writesWithin_listed (Shadow.writesWithin_record).codec.list,
    writesWithin_optional writesWithin_float, writesWithin_optional writesWithin_float, nofun⟩

end Effects

namespace TextContent

theorem isLawful_record : record.IsLawful where
  distinct := by decide
  takes _ :=
    .cons (takes_needed isLawful_string) <|
    .cons (takes_optional isStrict_string rfl) <|
    .cons (takes_optional isStrict_float rfl) <|
    .cons (takes_optional isStrict_float rfl) <|
    .cons (takes_optional isStrict_string rfl) <|
    .cons (takes_optional isStrict_float rfl) <|
    .cons (takes_optional isStrict_float rfl) <|
    .cons (takes_optional isStrict_float rfl) <|
    .cons (takes_optional isStrict_string rfl) <|
    .cons (takes_optional isStrict_string rfl) <|
    .cons (takes_optional isStrict_string rfl) .nil

theorem writesWithin_record {n : Nat} : record.WritesWithin n := by
  simp only [Record.WritesWithin, record, List.forall_mem_cons]
  exact ⟨writesWithin_needed writesWithin_string, writesWithin_optional writesWithin_string,
    writesWithin_optional writesWithin_float, writesWithin_optional writesWithin_float,
    writesWithin_optional writesWithin_string, writesWithin_optional writesWithin_float,
    writesWithin_optional writesWithin_float, writesWithin_optional writesWithin_float,
    writesWithin_optional writesWithin_string, writesWithin_optional writesWithin_string,
    writesWithin_optional writesWithin_string, nofun⟩

end TextContent

namespace Placeholder

theorem isLawful_record : record.IsLawful where
  distinct := by decide
  takes _ := .cons (takes_needed isLawful_string) <| .cons (takes_needed isLawful_string) .nil

theorem writesWithin_record {n : Nat} : record.WritesWithin n := by
  simp only [Record.WritesWithin, record, List.forall_mem_cons]
  exact ⟨writesWithin_needed writesWithin_string, writesWithin_needed writesWithin_string, nofun⟩

end Placeholder

/-! ### Nodes -/

namespace Node

theorem isLawful_record : record.IsLawful where
  distinct := by decide
  takes _ :=
    .cons (takes_needed isLawful_string) <|
    .cons (takes_needed isLawful_string) <|
    .cons (takes_needed (Kind.isStrict_codec).lawful) <|
    .cons (takes_optional isStrict_float rfl) <|
    .cons (takes_optional isStrict_float rfl) <|
    .cons (takes_optional isStrict_float rfl) <|
    .cons (takes_optional Position.isStrict_codec rfl) <|
    .cons (takes_optional (FlexBox.isLawful_record).codec rfl) <|
    .cons (takes_optional (Visual.isLawful_record).codec rfl) <|
    .cons (takes_optional (Effects.isLawful_record).codec rfl) <|
    .cons (takes_optional (TextContent.isLawful_record).codec rfl) <|
    .cons (takes_optional (Placeholder.isLawful_record).codec rfl) .nil

theorem writesWithin_record : record.WritesWithin 3 := by
  simp only [Record.WritesWithin, record, List.forall_mem_cons]
  exact ⟨writesWithin_needed writesWithin_string, writesWithin_needed writesWithin_string,
    writesWithin_needed (writesWithin_names _), writesWithin_optional writesWithin_float,
    writesWithin_optional writesWithin_float, writesWithin_optional writesWithin_float,
    writesWithin_optional Position.writesWithin_codec,
    writesWithin_optional (FlexBox.writesWithin_record).codec,
    writesWithin_optional (Visual.writesWithin_record).codec,
    writesWithin_optional (Effects.writesWithin_record).codec,
    writesWithin_optional (TextContent.writesWithin_record).codec,
    writesWithin_optional (Placeholder.writesWithin_record).codec, nofun⟩

theorem isStrict_treeCodec : treeCodec.IsStrict := (isLawful_record).treeCodec (by decide)

/-- The text of a tree of nodes whose numbers are finite is read as the tree, if it has at most 62 levels. -/
theorem parse_nodeText (t : Tree Node) (finite : (treeCodec.write t).isFinite = true)
    (height : t.height ≤ 62) : treeCodec.parse (treeCodec.text t) = .ok t := by
  have depth := writesWithin_record.depth_tree t
  refine isStrict_treeCodec.lawful.parse_text finite ?_
  show (record.treeCodec.write t).depth ≤ 127
  omega

/-- A box placed by an offset with square corners and no border, above a text that its parent arranges. -/
def shadedCard : Tree Node :=
  .node { id := "1:2", name := "Karte \"A\"", kind := .frame, width := some 320, height := some 48.5
          position := some (.absolute ⟨-0.0, 12.125⟩)
          flex := some { direction := .column, padding := some ⟨0, 4, 0, 4⟩, justify := some .spaceBetween }
          visual := some { background := some "#ffffff" }
          effects := some { shadows := [⟨⟨0, 2⟩, 4, "#00000040", false⟩, ⟨⟨0, 1⟩, 0.5, "#000000", true⟩] } }
    [.node { id := "1:3", kind := .text, position := some .flexItem
             text := some { characters := "Größe\n", fontWeight := some 600 } } []]

theorem parse_shadedCard :
    (treeCodec.write shadedCard).isFinite = true ∧ shadedCard.height ≤ 62 ∧
      treeCodec.parse (treeCodec.text shadedCard) = .ok shadedCard :=
  ⟨rfl, by decide, parse_nodeText shadedCard rfl (by decide)⟩

end Node

end DesignCode
