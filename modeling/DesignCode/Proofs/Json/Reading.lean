import DesignCode.Json.Record
import DesignCode.Proofs.Json.Numeral

/-!
# Reading printed values

The text of a value is read as the draft `Draft.printed` of the value, whatever follows it
(`readValue_render`), so that it denotes something as a whole (`Source.ofText_render`).
-/

namespace DesignCode.Json

/-! ### Strings -/

theorem hexValue_hexDigit : ∀ d < 16, hexValue (hexDigit d) = some d := by
  decide

/-- The escape of a control character stands for it. -/
theorem takePiece_control {c : Char} (control : c.toNat < 0x20) (rest : List Char) :
    takePiece ('\\' :: 'u' :: '0' :: '0' :: hexDigit (c.toNat / 16) :: hexDigit (c.toNat % 16) ::
      rest) = .ok (.char c, rest) := by
  have zero : hexValue '0' = some 0 := rfl
  have high := hexValue_hexDigit (c.toNat / 16) (by omega)
  have low := hexValue_hexDigit (c.toNat % 16) (by omega)
  have number : c.toNat / 16 * 16 + c.toNat % 16 = c.toNat := Nat.div_add_mod' _ _
  have paired : isHighSurrogate c.toNat = false ∧ isLowSurrogate c.toNat = false := by
    simp only [isHighSurrogate, isLowSurrogate, decide_eq_false_iff_not]
    omega
  simp [takePiece, takeHex, zero, high, low, number, paired, bind, Except.bind]

/-- A character is read back from how it is written in a string. -/
theorem takePiece_escapedChar (c : Char) (rest : List Char) :
    takePiece (escapedChar c ++ rest) = .ok (.char c, rest) := by
  unfold escapedChar
  split_ifs with quote backslash feed carriage tab back form control
  · subst quote; rfl
  · subst backslash; rfl
  · subst feed; rfl
  · subst carriage; rfl
  · subst tab; rfl
  · subst back; rfl
  · subst form; rfl
  · exact takePiece_control control rest
  · rw [List.singleton_append, takePiece.eq_def]
    simp [backslash, control]

theorem readString_of_char {found : Except Fault (List Char)} {cs rest : List Char} {c : Char}
    (h : takePiece cs = .ok (.char c, rest)) :
    readString found cs = readString (found.map (c :: ·)) rest := by
  rw [readString]
  split
  · next taken => cases h.symm.trans taken
  · next taken => cases h.symm.trans taken
  · next taken =>
    cases h.symm.trans taken
    rfl
  · next taken => cases h.symm.trans taken

/-- A string is read back up to its closing quote. -/
theorem readString_flatMap (before cs rest : List Char) :
    readString (.ok before) (cs.flatMap escapedChar ++ '"' :: rest) =
      (.pure (String.ofList (before.reverse ++ cs)), some rest) := by
  induction cs generalizing before with
  | nil =>
    rw [List.flatMap_nil, List.nil_append, List.append_nil, readString]
    rfl
  | cons c cs ih =>
    rw [List.flatMap_cons, List.append_assoc, readString_of_char (takePiece_escapedChar c _),
      Except.map, ih, List.reverse_cons, List.append_assoc, List.singleton_append]

theorem readString_toList (s : String) (rest : List Char) :
    readString (.ok []) (s.toList.flatMap escapedChar ++ '"' :: rest) = (.pure s, some rest) := by
  rw [readString_flatMap, List.reverse_nil, List.nil_append, String.ofList_toList]

theorem stringText_append (cs rest : List Char) :
    stringText cs ++ rest = '"' :: (cs.flatMap escapedChar ++ '"' :: rest) := by
  simp [stringText]

/-! ### The drafts of printed values -/

mutual

/-- What a reader makes of the text of a value. -/
def Draft.printed : Json → Draft
  | .null => .null
  | .bool b => .bool b
  | .int i => .number (readNumber (intText i)).1
  | .float x => if x.isFinite then .number (readNumber (floatText x)).1 else .null
  | .string s => .string (.pure s)
  | .array items => .array (Items.printed items)
  | .object members => .object (Members.printed members)

/-- `Draft.printed` for the items of an array. -/
def Items.printed : List Json → Items
  | [] => .closed
  | j :: rest => .cons (Draft.printed j) (Items.printed rest)

/-- `Draft.printed` for the members of an object. -/
def Members.printed : List (String × Json) → Members
  | [] => .closed
  | (k, j) :: rest => .member (.pure k) (Draft.printed j) (Members.printed rest)

end

/-! ### Values -/

theorem EndsNumber.nil : EndsNumber [] := by
  simp [EndsNumber]

theorem endsNumber_renderItems (js : List Json) (rest : List Char) :
    EndsNumber (renderItems js ++ rest) := by
  cases js <;> simp [renderItems, EndsNumber]

theorem endsNumber_renderMembers (ms : List (String × Json)) (rest : List Char) :
    EndsNumber (renderMembers ms ++ rest) := by
  cases ms <;> simp [renderMembers, EndsNumber]

theorem dropSpace_cons {c : Char} (h : isSpace c = false) (cs : List Char) :
    dropSpace (c :: cs) = c :: cs := by
  rw [dropSpace, List.dropWhile_cons, h]
  rfl

open scoped Text.ByMember in
/-- A number begins with no character that begins anything else. -/
theorem number_start {c : Char} (h : c = '-' ∨ c.isDigit = true) :
    isSpace c = false ∧ c ∉ ['n', 't', 'f', '"', '[', ']', '\x7b'] := by
  rcases h with rfl | digit
  · decide
  · refine ⟨?_, ?_⟩
    · cases space : isSpace c with
      | false => rfl
      | true =>
        simp only [isSpace, decide_eq_true_eq] at space
        rcases space with rfl | rfl | rfl | rfl <;> exact absurd digit (by decide)
    · intro mem
      have noDigit : ∀ d ∈ ['n', 't', 'f', '"', '[', ']', '\x7b'], d.isDigit = false := by decide
      rw [noDigit c mem] at digit
      cases digit

theorem readValue_numeral {n : Numeral} (h : n.IsWritten) {rest : List Char}
    (ends : EndsNumber rest) (fuel : Nat) :
    readValue (fuel + 1) (n.text ++ rest) = (.number (readNumber n.text).1, some rest) := by
  have alone := readNumber_text h EndsNumber.nil
  have read := readNumber_text h ends
  obtain ⟨c, cs, text, first⟩ := exists_cons_text h
  obtain ⟨space, start⟩ := number_start first
  simp only [List.mem_cons, List.not_mem_nil, or_false, not_or] at start
  rw [List.append_nil] at alone
  rw [text, List.cons_append] at read
  rw [alone, text, List.cons_append, readValue.eq_def]
  simp [dropSpace_cons space, start, first, read]

/-- No value begins with a space or the end of a list. -/
theorem exists_cons_render (j : Json) :
    ∃ c cs, render j = c :: cs ∧ isSpace c = false ∧ c ≠ ']' := by
  have ofNumeral {n : Numeral} (h : n.IsWritten) :
      ∃ c cs, n.text = c :: cs ∧ isSpace c = false ∧ c ≠ ']' := by
    obtain ⟨c, cs, text, first⟩ := exists_cons_text h
    obtain ⟨space, start⟩ := number_start first
    exact ⟨c, cs, text, space, fun same => start (by simp [same])⟩
  cases j with
  | null => exact ⟨_, _, rfl, by decide⟩
  | bool b => cases b <;> exact ⟨_, _, rfl, by decide⟩
  | int i =>
    rw [render, intText_eq]
    exact ofNumeral (isWritten_int i)
  | float x =>
    by_cases finite : x.isFinite = true
    · obtain ⟨n, written, text⟩ := exists_numeral_floatText finite
      rw [render, ← text]
      exact ofNumeral written
    · rw [render, floatText, if_neg finite]
      exact ⟨_, _, rfl, by decide⟩
  | string s => exact ⟨_, _, rfl, by decide⟩
  | array items => cases items <;> exact ⟨_, _, rfl, by decide⟩
  | object members => cases members <;> exact ⟨_, _, rfl, by decide⟩

theorem readValue_string (fuel : Nat) (cs : List Char) :
    readValue (fuel + 1) ('"' :: cs) =
      (.string (readString (.ok []) cs).1, (readString (.ok []) cs).2) :=
  rfl

theorem readValue_array (fuel : Nat) (cs : List Char) :
    readValue (fuel + 1) ('[' :: cs) = (.array (readFirstItem fuel cs).1, (readFirstItem fuel cs).2) :=
  rfl

theorem readValue_object (fuel : Nat) (cs : List Char) :
    readValue (fuel + 1) ('\x7b' :: cs) =
      (.object (readFirstMember fuel cs).1, (readFirstMember fuel cs).2) :=
  rfl

theorem readFirstItem_of_ne {c : Char} (space : isSpace c = false) (bracket : c ≠ ']')
    (fuel : Nat) (cs : List Char) : readFirstItem (fuel + 1) (c :: cs) = readItem fuel (c :: cs) := by
  rw [readFirstItem, dropSpace_cons space]
  simp [bracket]

theorem readNextItem_of_ne {c : Char} (space : isSpace c = false) (bracket : c ≠ ']')
    (fuel : Nat) (cs : List Char) :
    readNextItem (fuel + 1) (',' :: c :: cs) = readItem fuel (c :: cs) := by
  rw [readNextItem, dropSpace_cons (by decide : isSpace ',' = false)]
  simp [dropSpace_cons space, bracket]

theorem readItem_of {fuel : Nat} {cs rest rest' : List Char} {item : Draft} {items : Items}
    (value : readValue fuel cs = (item, some rest))
    (next : readNextItem fuel rest = (items, some rest')) :
    readItem (fuel + 1) cs = (.cons item items, some rest') := by
  rw [readItem, value]
  simp only [next]

theorem readFirstMember_quote (fuel : Nat) (cs : List Char) :
    readFirstMember (fuel + 1) ('"' :: cs) = readMember fuel ('"' :: cs) :=
  rfl

theorem readNextMember_quote (fuel : Nat) (cs : List Char) :
    readNextMember (fuel + 1) (',' :: '"' :: cs) = readMember fuel ('"' :: cs) :=
  rfl

theorem readMember_of {fuel : Nat} {cs rest rest' : List Char} {value : Draft} {members : Members}
    (read : readValue fuel cs = (value, some rest))
    (next : readNextMember fuel rest = (members, some rest')) (key : String) :
    readMember (fuel + 1) (stringText key.toList ++ ':' :: cs) =
      (.member (.pure key) value members, some rest') := by
  have colon : takeColon (':' :: cs) = .ok cs := rfl
  rw [stringText_append, readMember]
  simp only [readString_toList, colon, read, next]

mutual

/-- A printed value is read back as its draft, whatever follows it. -/
theorem readValue_render (j : Json) {fuel : Nat} {rest : List Char} (ends : EndsNumber rest)
    (enough : 3 * (render j).length ≤ fuel) :
    readValue fuel (render j ++ rest) = (Draft.printed j, some rest) := by
  have pos : 0 < (render j).length := by
    obtain ⟨c, cs, text, -⟩ := exists_cons_render j
    simp [text]
  obtain ⟨fuel, rfl⟩ : ∃ f, fuel = f + 3 := ⟨fuel - 3, by omega⟩
  match j with
  | .null => rfl
  | .bool b => cases b <;> rfl
  | .int i =>
    rw [render, Draft.printed, intText_eq]
    exact readValue_numeral (isWritten_int i) ends _
  | .float x =>
    rw [render, Draft.printed]
    by_cases finite : x.isFinite = true
    · obtain ⟨n, written, text⟩ := exists_numeral_floatText finite
      rw [if_pos finite, ← text]
      exact readValue_numeral written ends _
    · rw [if_neg finite, floatText, if_neg finite]
      rfl
  | .string s =>
    rw [render, stringText_append, Draft.printed]
    rw [readValue_string, readString_toList]
  | .array [] => rfl
  | .array (j :: js) =>
    rw [render, List.length_cons, List.length_append] at enough
    have value := readValue_render j (endsNumber_renderItems js rest)
      (by omega : 3 * (render j).length ≤ fuel)
    have next := readNextItem_render js (by omega : 3 * (renderItems js).length ≤ fuel) rest
    have items := readItem_of value next
    obtain ⟨c, cs, text, space, bracket⟩ := exists_cons_render j
    rw [text, List.cons_append] at items
    rw [render, text, List.cons_append, List.append_assoc, List.cons_append]
    rw [readValue_array, readFirstItem_of_ne space bracket, items]
    rfl
  | .object [] => rfl
  | .object ((k, j) :: ms) =>
    simp only [render, List.length_cons, List.length_append] at enough
    have value := readValue_render j (endsNumber_renderMembers ms rest)
      (by omega : 3 * (render j).length ≤ fuel)
    have next := readNextMember_render ms (by omega : 3 * (renderMembers ms).length ≤ fuel) rest
    have members := readMember_of value next k
    rw [stringText_append] at members
    rw [render, List.cons_append, List.append_assoc, List.cons_append, List.append_assoc,
      stringText_append]
    rw [readValue_object, readFirstMember_quote, members]
    rfl

theorem readNextItem_render (js : List Json) {fuel : Nat}
    (enough : 3 * (renderItems js).length ≤ fuel) (rest : List Char) :
    readNextItem fuel (renderItems js ++ rest) = (Items.printed js, some rest) := by
  match js with
  | [] =>
    obtain ⟨fuel, rfl⟩ : ∃ f, fuel = f + 3 := ⟨fuel - 3, by simp [renderItems] at enough; omega⟩
    rfl
  | j :: js =>
    rw [renderItems, List.length_cons, List.length_append] at enough
    obtain ⟨fuel, rfl⟩ : ∃ f, fuel = f + 3 := ⟨fuel - 3, by omega⟩
    have value := readValue_render j (endsNumber_renderItems js rest)
      (by omega : 3 * (render j).length ≤ fuel + 1)
    have next := readNextItem_render js (by omega : 3 * (renderItems js).length ≤ fuel + 1) rest
    have items := readItem_of value next
    obtain ⟨c, cs, text, space, bracket⟩ := exists_cons_render j
    rw [text, List.cons_append] at items
    rw [renderItems, text, List.cons_append, List.append_assoc, List.cons_append,
      readNextItem_of_ne space bracket, items]
    rfl

theorem readNextMember_render (ms : List (String × Json)) {fuel : Nat}
    (enough : 3 * (renderMembers ms).length ≤ fuel) (rest : List Char) :
    readNextMember fuel (renderMembers ms ++ rest) = (Members.printed ms, some rest) := by
  match ms with
  | [] =>
    obtain ⟨fuel, rfl⟩ : ∃ f, fuel = f + 3 := ⟨fuel - 3, by simp [renderMembers] at enough; omega⟩
    rfl
  | (k, j) :: ms =>
    simp only [renderMembers, List.length_cons, List.length_append] at enough
    obtain ⟨fuel, rfl⟩ : ∃ f, fuel = f + 3 := ⟨fuel - 3, by omega⟩
    have value := readValue_render j (endsNumber_renderMembers ms rest)
      (by omega : 3 * (render j).length ≤ fuel + 1)
    have next := readNextMember_render ms (by omega : 3 * (renderMembers ms).length ≤ fuel + 1) rest
    have members := readMember_of value next k
    rw [stringText_append] at members
    rw [renderMembers, List.cons_append, List.append_assoc, List.cons_append, List.append_assoc,
      stringText_append, readNextMember_quote, members]
    rfl

end

/-- The text of a value denotes it and nothing else. -/
theorem Source.ofText_render (j : Json) : Source.ofText (render j) = ⟨Draft.printed j, false⟩ := by
  have read := readValue_render j EndsNumber.nil (by omega :
    3 * (render j).length ≤ 3 * (render j).length + 3)
  rw [List.append_nil] at read
  rw [Source.ofText, read]
  rfl

/-- Reading the text of a value is reading its draft. -/
theorem Codec.parseWithin_render {α : Type} (c : Codec α) (levels : Nat) (j : Json) :
    c.parseWithin levels (render j) = c.read levels (Draft.printed j) := by
  rw [Codec.parseWithin, Source.ofText_render]
  cases c.read levels (Draft.printed j) <;> rfl

theorem Codec.parse_text {α : Type} (c : Codec α) (j : Json) :
    c.parse j.text = c.read standardLevels (Draft.printed j) := by
  rw [Codec.parse, Json.text, String.toList_ofList, Codec.parseWithin_render]

/-! ### Parts of printed values -/

theorem skipped_numeral {n : Numeral} (h : n.IsWritten) : (readNumber n.text).1.skipped = none := by
  have read := readNumber_text h EndsNumber.nil
  rw [List.append_nil] at read
  rw [read]

mutual

/-- Nothing is wrong with a printed value that nobody asks for. -/
theorem Draft.skip_printed (j : Json) : (Draft.printed j).skip = .ok () := by
  match j with
  | .null => rfl
  | .bool _ => rfl
  | .int i =>
    rw [Draft.printed, Draft.skip, intText_eq, skipped_numeral (isWritten_int i)]
    rfl
  | .float x =>
    rw [Draft.printed]
    by_cases finite : x.isFinite = true
    · obtain ⟨n, written, text⟩ := exists_numeral_floatText finite
      rw [if_pos finite, ← text, Draft.skip, skipped_numeral written]
      rfl
    · rw [if_neg finite]
      rfl
  | .string _ => rfl
  | .array items => exact Items.skip_printed items
  | .object members => exact Members.skip_printed members

theorem Items.skip_printed (js : List Json) : (Items.printed js).skip = .ok () := by
  match js with
  | [] => rfl
  | j :: js =>
    rw [Items.printed, Items.skip, Draft.skip_printed j]
    exact Items.skip_printed js

theorem Members.skip_printed (ms : List (String × Json)) : (Members.printed ms).skip = .ok () := by
  match ms with
  | [] => rfl
  | (k, j) :: ms =>
    rw [Members.printed, Members.skip, Draft.skip_printed j]
    exact Members.skip_printed ms

end

/-- A printed list of texts is read back. -/
theorem read_strings (ss : List String) (levels : Nat) :
    (Codec.list .string).read (levels + 1) (Draft.printed (.strings ss)) = .ok ss := by
  show (Items.printed (ss.map Json.string)).readAll (Codec.string.read levels) = .ok ss
  induction ss with
  | nil => rfl
  | cons s ss ih =>
    have first : Codec.string.read levels (Draft.printed (.string s)) = .ok s := rfl
    rw [List.map_cons, Items.printed, Items.readAll, first, ih]
    rfl

/-! ### Records -/

/-- A reader that goes on behind another succeeds only if that one does. -/
theorem exists_of_bind_eq_ok {α β : Type} {x : Except Fault α} {f : α → Except Fault β} {b : β}
    (h : x.bind f = .ok b) : ∃ a, x = .ok a ∧ f a = .ok b := by
  cases x with
  | error fault => cases h
  | ok a => exact ⟨a, rfl, h⟩

namespace Record

variable {σ α : Type} {r : Record σ} {levels : Nat} {seen : List String} {x : σ} {key : String}
  {rest : Members}

/-- A member with a known key that comes first is read into its field. -/
theorem readMembers_known {f : Field σ} {c : Codec α} {set : α → σ → σ} {d : Draft}
    (known : r.field? key = some f)
    (read : ∀ levels d, f.read levels d = (c.read levels d).map set) (new : key ∉ seen) :
    r.readMembers levels seen x (.member (.pure key) d rest) =
      (c.read levels d).bind fun v => r.readMembers levels (key :: seen) (set v x) rest := by
  have once : r.once seen key = .ok () := by simp [Record.once, new]
  simp only [readMembers, Literal.pure, bind, Except.bind, once, known, read]
  cases c.read levels d <;> rfl

/-- A member with an unknown key is skipped. -/
theorem readMembers_unknown (unknown : r.field? key = none) (j : Json) :
    r.readMembers levels seen x (.member (.pure key) (Draft.printed j) rest) =
      r.readMembers levels seen x rest := by
  have once : r.once seen key = .ok () := by simp [Record.once, unknown]
  simp only [readMembers, Literal.pure, bind, Except.bind, once, unknown, Draft.skip_printed]

end Record

end DesignCode.Json
