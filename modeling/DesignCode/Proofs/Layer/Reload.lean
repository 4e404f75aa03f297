import DesignCode.Layer.Document
import DesignCode.Proofs.Json.LawfulRecord

/-!
# Documents read back

The records of which layers are made are lawful, so the text of a document is read as the document that it was
written for, at any depth (`Document.parse_documentText`): missing lists stay missing, empty ones stay empty, and the
requested nodes keep their order.
-/

namespace DesignCode

open Json Json.Codec Json.Field Json.Record

/-! ### Enumerations -/

theorem Kind.isStrict_codec : Kind.names.codec.IsStrict :=
  isStrict_names (by decide) fun a => by cases a <;> decide

theorem PaintKind.isStrict_codec : PaintKind.names.codec.IsStrict :=
  isStrict_names (by decide) fun a => by cases a <;> decide

theorem EffectKind.isStrict_codec : EffectKind.names.codec.IsStrict :=
  isStrict_names (by decide) fun a => by cases a <;> decide

theorem TextCase.isStrict_codec : TextCase.names.codec.IsStrict :=
  isStrict_names (by decide) fun a => by cases a <;> decide

theorem LayoutMode.isStrict_codec : LayoutMode.names.codec.IsStrict :=
  isStrict_names (by decide) fun a => by cases a <;> decide

theorem PrimaryAlign.isStrict_codec : PrimaryAlign.names.codec.IsStrict :=
  isStrict_names (by decide) fun a => by cases a <;> decide

theorem CounterAlign.isStrict_codec : CounterAlign.names.codec.IsStrict :=
  isStrict_names (by decide) fun a => by cases a <;> decide

/-! ### Values in layers -/

theorem Color.isLawful_record : Color.record.IsLawful where
  distinct := by decide
  takes _ :=
    .cons (takes_needed isLawful_float) <|
    .cons (takes_needed isLawful_float) <|
    .cons (takes_needed isLawful_float) <|
    .cons (takes_defaulted isLawful_float) .nil

theorem Point.isLawful_record : Point.record.IsLawful where
  distinct := by decide
  takes _ := .cons (takes_needed isLawful_float) <| .cons (takes_needed isLawful_float) .nil

theorem Rect.isLawful_record : Rect.record.IsLawful where
  distinct := by decide
  takes _ :=
    .cons (takes_needed isLawful_float) <|
    .cons (takes_needed isLawful_float) <|
    .cons (takes_needed isLawful_float) <|
    .cons (takes_needed isLawful_float) .nil

theorem ColorStop.isLawful_record : ColorStop.record.IsLawful where
  distinct := by decide
  takes _ :=
    .cons (takes_needed isLawful_float) <|
    .cons (takes_needed (Color.isLawful_record).codec.lawful) .nil

theorem Paint.isLawful_record : Paint.record.IsLawful where
  distinct := by decide
  takes _ :=
    .cons (takes_defaulted (PaintKind.isStrict_codec).lawful) <|
    .cons (takes_optional isStrict_bool rfl) <|
    .cons (takes_optional isStrict_float rfl) <|
    .cons (takes_optional (Color.isLawful_record).codec rfl) <|
    .cons (takes_listed (ColorStop.isLawful_record).codec.lawful rfl) <|
    .cons (takes_listed (Point.isLawful_record).codec.lawful rfl) <|
    .cons (takes_optional isStrict_string rfl) .nil

theorem Effect.isLawful_record : Effect.record.IsLawful where
  distinct := by decide
  takes _ :=
    .cons (takes_defaulted (EffectKind.isStrict_codec).lawful) <|
    .cons (takes_optional isStrict_bool rfl) <|
    .cons (takes_optional isStrict_float rfl) <|
    .cons (takes_optional (Color.isLawful_record).codec rfl) <|
    .cons (takes_optional (Point.isLawful_record).codec rfl) .nil

theorem TypeStyle.isLawful_record : TypeStyle.record.IsLawful where
  distinct := by decide
  takes _ :=
    .cons (takes_optional isStrict_string rfl) <|
    .cons (takes_optional isStrict_float rfl) <|
    .cons (takes_optional isStrict_float rfl) <|
    .cons (takes_optional isStrict_float rfl) <|
    .cons (takes_optional isStrict_float rfl) <|
    .cons (takes_optional isStrict_float rfl) <|
    .cons (takes_optional isStrict_string rfl) <|
    .cons (takes_optional isStrict_string rfl) <|
    .cons (takes_optional TextCase.isStrict_codec rfl) .nil

/-! ### Layers and documents -/

theorem Layer.isLawful_record : Layer.record.IsLawful where
  distinct := by decide
  takes _ :=
    .cons (takes_defaulted isLawful_string) <|
    .cons (takes_defaulted isLawful_string) <|
    .cons (takes_defaulted (Kind.isStrict_codec).lawful) <|
    .cons (takes_optional isStrict_bool rfl) <|
    .cons (takes_optional isStrict_float rfl) <|
    .cons (takes_optional (Rect.isLawful_record).codec rfl) <|
    .cons (takes_optional isStrict_bool rfl) <|
    .cons (takes_optional LayoutMode.isStrict_codec rfl) <|
    .cons (takes_optional isStrict_float rfl) <|
    .cons (takes_optional isStrict_float rfl) <|
    .cons (takes_optional isStrict_float rfl) <|
    .cons (takes_optional isStrict_float rfl) <|
    .cons (takes_optional isStrict_float rfl) <|
    .cons (takes_optional PrimaryAlign.isStrict_codec rfl) <|
    .cons (takes_optional CounterAlign.isStrict_codec rfl) <|
    .cons (takes_optional (Paint.isLawful_record).codec.lawful.list rfl) <|
    .cons (takes_optional (Color.isLawful_record).codec rfl) <|
    .cons (takes_optional (Paint.isLawful_record).codec.lawful.list rfl) <|
    .cons (takes_optional isStrict_float rfl) <|
    .cons (takes_optional isStrict_float rfl) <|
    .cons (takes_optional (isLawful_float).quad rfl) <|
    .cons (takes_optional (Effect.isLawful_record).codec.lawful.list rfl) <|
    .cons (takes_optional isStrict_string rfl) <|
    .cons (takes_optional (TypeStyle.isLawful_record).codec rfl) .nil

theorem Layer.isStrict_treeCodec : Layer.treeCodec.IsStrict :=
  (Layer.isLawful_record).treeCodec (by decide)

namespace Document

theorem isLawful_entryRecord : entryRecord.IsLawful where
  distinct := by decide
  takes _ := .cons (takes_defaulted (Layer.isStrict_treeCodec).option) .nil

theorem isLawful_record : record.IsLawful where
  distinct := by decide
  takes _ :=
    .cons (takes_optional (isLawful_entryRecord).codec.lawful.map rfl) <|
    .cons (takes_optional Layer.isStrict_treeCodec rfl) .nil

/-- The text of a document whose numbers are finite is read as the document, whatever its depth is. -/
theorem parse_documentText (d : Document) (finite : (codec.write d).isFinite = true) :
    parse (codec.text d) = .ok d :=
  isLawful_record.codec.lawful.parseDeep_text finite

/-- A layer with an empty list of fills, above one without a list. -/
def paintedLayer : Tree Layer :=
  .node { id := "2:1", name := "Größe \"A\"", kind := .frame, fills := some [], opacity := some 0.1
          layoutMode := some .free
          strokes := some [{ kind := .linearGradient, stops := [⟨0.25, ⟨1, 0, 0.5, 1⟩⟩] }] }
    [.node { id := "2:2", kind := .text, characters := some "", box := some ⟨-0.0, 0.001, 320, 48⟩ } []]

/-- Requested nodes, not in the order of their ids, one of which was not found. -/
def twoNodes : Document where
  nodes := some (.ofList [("2:1", some paintedLayer), ("1:1", none)])

theorem parse_twoNodes :
    (codec.write twoNodes).isFinite = true ∧ parse (codec.text twoNodes) = .ok twoNodes :=
  ⟨rfl, parse_documentText twoNodes rfl⟩

end Document

end DesignCode
