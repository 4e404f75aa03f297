import Mathlib.Data.List.Infix
import Mathlib.Tactic.SplitIfs
import DesignCode.Link.Percent

/-!
# What the values of a query stand for

A percent sign with two hexadecimal digits stands for one byte and any other character for its own
bytes: `chunks` cuts a text accordingly (`percentDecode_encodeUtf8`).  Reading the bytes gives at most
one character for each chunk (`length_decodeFrom_chunks_le`), and the characters themselves if no chunk
is a percent sign with digits (`decodeFrom_encodeUtf8`).
-/

namespace DesignCode.Link

/-! ### UTF-8 -/

/-- What a byte makes behind the bytes that have been read. -/
def receive (pending : Option Pending) (b : Nat) : List (Option Char) × Option Pending :=
  match pending with
  | none => startChar b
  | some p => nextChar p b

theorem decodeFrom_cons (pending : Option Pending) (b : UInt8) (rest : List UInt8) :
    decodeFrom pending (b :: rest) =
      (receive pending b.toNat).1 ++ decodeFrom (receive pending b.toNat).2 rest := by
  rw [decodeFrom.eq_def]
  cases pending <;> rfl

/-- Only bytes from `80` to `BF` go on with a character. -/
def IsOpen (pending : Option Pending) : Prop := ∀ p ∈ pending, 0x80 ≤ p.low ∧ p.high ≤ 0xBF

/-- The gap that a character leaves if it is not gone on with. -/
def gap (pending : Option Pending) : List (Option Char) := if pending.isSome then [none] else []

theorem isOpen_none : IsOpen none := by simp [IsOpen]

theorem isOpen_startChar (b : Nat) : IsOpen (startChar b).2 := by
  rintro p mem
  unfold startChar Pending.ofLead at mem
  grind

theorem length_startChar_le (b : Nat) :
    (startChar b).1.length + (gap (startChar b).2).length ≤ 1 := by
  unfold startChar gap
  split
  · simp
  · split <;> simp

theorem nextChar_of_apart {p : Pending} {b : Nat} (apart : ¬ (p.low ≤ b ∧ b ≤ p.high)) :
    nextChar p b = (none :: (startChar b).1, (startChar b).2) := by
  rw [nextChar, if_neg apart]

/-- A byte makes at most one character or gap for itself and one for a character that is begun. -/
theorem receive_bounded {pending : Option Pending} (isOpen : IsOpen pending) (b : Nat) :
    IsOpen (receive pending b).2 ∧
      (receive pending b).1.length + (gap (receive pending b).2).length ≤
        (gap pending).length + 1 := by
  cases pending with
  | none =>
    have started := length_startChar_le b
    exact ⟨isOpen_startChar b, by rw [receive]; omega⟩
  | some p =>
    by_cases within : p.low ≤ b ∧ b ≤ p.high
    · rw [receive, nextChar, if_pos within]
      by_cases last : p.missing = 1
      · simp [last, gap, isOpen_none]
      · simp [last, gap, IsOpen]
    · have started := length_startChar_le b
      have begun : (gap (some p)).length = 1 := rfl
      rw [receive, nextChar_of_apart within, begun]
      refine ⟨isOpen_startChar b, ?_⟩
      dsimp only
      rw [List.length_cons]
      omega

/-- A byte that begins a character leaves a gap behind one that is begun. -/
theorem decodeFrom_of_lead {pending : Option Pending} (isOpen : IsOpen pending) {b : UInt8}
    (lead : b.toNat < 0x80 ∨ 0xBF < b.toNat) (rest : List UInt8) :
    decodeFrom pending (b :: rest) = gap pending ++ decodeFrom none (b :: rest) := by
  cases pending with
  | none => rfl
  | some p =>
    obtain ⟨low, high⟩ := isOpen p rfl
    rw [decodeFrom_cons, receive, nextChar_of_apart (by omega), decodeFrom_cons none]
    rfl

/-! ### The bytes of a character -/

theorem toNat_byte {n : Nat} (h : n < 256) : (UInt8.ofNat n).toNat = n := by
  rw [UInt8.toNat_ofNat']
  omega

theorem decodeFrom_ascii {n : Nat} (h : n < 0x80) (rest : List UInt8) :
    decodeFrom none (UInt8.ofNat n :: rest) = some (Char.ofNat n) :: decodeFrom none rest := by
  rw [decodeFrom_cons, receive, toNat_byte (by omega), startChar, if_pos h]
  rfl

theorem decodeFrom_lead {n : Nat} {p : Pending} (h : 0x80 ≤ n ∧ n < 256)
    (lead : Pending.ofLead n = some p) (rest : List UInt8) :
    decodeFrom none (UInt8.ofNat n :: rest) = decodeFrom (some p) rest := by
  rw [decodeFrom_cons, receive, toNat_byte h.2, startChar, if_neg (by omega), lead]
  rfl

section

variable {bits low high n : Nat} (within : low ≤ n ∧ n ≤ high) (h : n < 256) (rest : List UInt8)

include within h

theorem decodeFrom_last :
    decodeFrom (some ⟨bits, 1, low, high⟩) (UInt8.ofNat n :: rest) =
      some (Char.ofNat (bits * 64 + (n - 0x80))) :: decodeFrom none rest := by
  rw [decodeFrom_cons, receive, toNat_byte h, nextChar, if_pos within]
  rfl

theorem decodeFrom_more (missing : Nat) :
    decodeFrom (some ⟨bits, missing + 2, low, high⟩) (UInt8.ofNat n :: rest) =
      decodeFrom (some ⟨bits * 64 + (n - 0x80), missing + 1, 0x80, 0xBF⟩) rest := by
  rw [decodeFrom_cons, receive, toNat_byte h, nextChar, if_pos within, if_neg (by simp)]
  rfl

end

theorem ofLead_two {k : Nat} (h : 2 ≤ k ∧ k < 32) :
    Pending.ofLead (k + 0xC0) = some ⟨k, 1, 0x80, 0xBF⟩ := by
  rw [Pending.ofLead, if_neg (by omega), if_pos (by omega), Nat.add_sub_cancel]

theorem ofLead_three {k : Nat} (h : k < 16) :
    Pending.ofLead (k + 0xE0) =
      some ⟨k, 2, if k = 0 then 0xA0 else 0x80, if k = 0xD then 0x9F else 0xBF⟩ := by
  rw [Pending.ofLead, if_neg (by omega), if_neg (by omega), if_pos (by omega), Nat.add_sub_cancel]
  simp

theorem ofLead_four {k : Nat} (h : k < 5) :
    Pending.ofLead (k + 0xF0) =
      some ⟨k, 3, if k = 0 then 0x90 else 0x80, if k = 4 then 0x8F else 0xBF⟩ := by
  rw [Pending.ofLead, if_neg (by omega), if_neg (by omega), if_neg (by omega), if_pos (by omega),
    Nat.add_sub_cancel]
  simp

/-- The bytes of a character by the size of its number. -/
theorem utf8EncodeChar_cases (c : Char) :
    c.toNat < 0x80 ∧ String.utf8EncodeChar c = [.ofNat c.toNat] ∨
    (0x80 ≤ c.toNat ∧ c.toNat < 0x800) ∧
      String.utf8EncodeChar c = [.ofNat (c.toNat / 64 + 0xC0), .ofNat (c.toNat % 64 + 0x80)] ∨
    (0x800 ≤ c.toNat ∧ c.toNat < 0x10000 ∧ (c.toNat < 0xD800 ∨ 0xDFFF < c.toNat)) ∧
      String.utf8EncodeChar c =
        [.ofNat (c.toNat / 4096 + 0xE0), .ofNat (c.toNat / 64 % 64 + 0x80),
          .ofNat (c.toNat % 64 + 0x80)] ∨
    (0x10000 ≤ c.toNat ∧ c.toNat < 0x110000) ∧
      String.utf8EncodeChar c =
        [.ofNat (c.toNat / 262144 + 0xF0), .ofNat (c.toNat / 4096 % 64 + 0x80),
          .ofNat (c.toNat / 64 % 64 + 0x80), .ofNat (c.toNat % 64 + 0x80)] := by
  have valid : c.toNat < 0xD800 ∨ 0xDFFF < c.toNat ∧ c.toNat < 0x110000 := c.valid
  have number : c.val.toNat = c.toNat := rfl
  rw [String.utf8EncodeChar, number]
  generalize c.toNat = n at valid
  split_ifs with one two three
  · exact .inl ⟨by omega, rfl⟩
  · have lead : n / 64 % 32 = n / 64 := by omega
    rw [lead]
    exact .inr (.inl ⟨by omega, rfl⟩)
  · have lead : n / 4096 % 16 = n / 4096 := by omega
    rw [lead]
    exact .inr (.inr (.inl ⟨by omega, rfl⟩))
  · have lead : n / 262144 % 8 = n / 262144 := by omega
    rw [lead]
    exact .inr (.inr (.inr ⟨by omega, rfl⟩))

/-- The bytes of a character are read as the character. -/
theorem decodeFrom_char (c : Char) (rest : List UInt8) :
    decodeFrom none (String.utf8EncodeChar c ++ rest) = some c :: decodeFrom none rest := by
  have whole : Char.ofNat c.toNat = c := Char.ofNat_toNat c
  rcases utf8EncodeChar_cases c with ⟨size, bytes⟩ | ⟨size, bytes⟩ | ⟨size, bytes⟩ | ⟨size, bytes⟩
  all_goals
    rw [bytes]
    generalize c.toNat = n at whole size
    simp only [List.cons_append, List.nil_append]
  · rw [decodeFrom_ascii size, whole]
  · have bits : n / 64 * 64 + (n % 64 + 0x80 - 0x80) = n := by omega
    rw [decodeFrom_lead (by omega) (ofLead_two (by omega)), decodeFrom_last (by omega) (by omega),
      bits, whole]
  · have bits : (n / 4096 * 64 + (n / 64 % 64 + 0x80 - 0x80)) * 64 + (n % 64 + 0x80 - 0x80) = n := by
      omega
    have within : (if n / 4096 = 0 then 0xA0 else 0x80) ≤ n / 64 % 64 + 0x80 ∧
        n / 64 % 64 + 0x80 ≤ if n / 4096 = 0xD then 0x9F else 0xBF := by
      split_ifs <;> omega
    rw [decodeFrom_lead (by omega) (ofLead_three (by omega)), decodeFrom_more within (by omega),
      decodeFrom_last (by omega) (by omega), bits, whole]
  · have bits : ((n / 262144 * 64 + (n / 4096 % 64 + 0x80 - 0x80)) * 64 +
        (n / 64 % 64 + 0x80 - 0x80)) * 64 + (n % 64 + 0x80 - 0x80) = n := by
      omega
    have within : (if n / 262144 = 0 then 0x90 else 0x80) ≤ n / 4096 % 64 + 0x80 ∧
        n / 4096 % 64 + 0x80 ≤ if n / 262144 = 4 then 0x8F else 0xBF := by
      split_ifs <;> omega
    rw [decodeFrom_lead (by omega) (ofLead_four (by omega)), decodeFrom_more within (by omega),
      decodeFrom_more (by omega) (by omega), decodeFrom_last (by omega) (by omega), bits, whole]

/-- The first byte of a character does not go on with another one. -/
theorem exists_lead (c : Char) :
    ∃ b bs, String.utf8EncodeChar c = b :: bs ∧ (b.toNat < 0x80 ∨ 0xBF < b.toNat) := by
  rcases utf8EncodeChar_cases c with ⟨size, bytes⟩ | ⟨size, bytes⟩ | ⟨size, bytes⟩ | ⟨size, bytes⟩
  · exact ⟨_, _, bytes, .inl (by rw [toNat_byte] <;> omega)⟩
  · exact ⟨_, _, bytes, .inr (by rw [toNat_byte] <;> omega)⟩
  · exact ⟨_, _, bytes, .inr (by rw [toNat_byte] <;> omega)⟩
  · exact ⟨_, _, bytes, .inr (by rw [toNat_byte] <;> omega)⟩

/-- A character that is begun leaves a gap before the next one. -/
theorem decodeFrom_gap {pending : Option Pending} (isOpen : IsOpen pending) (c : Char)
    (rest : List UInt8) :
    decodeFrom pending (String.utf8EncodeChar c ++ rest) =
      gap pending ++ some c :: decodeFrom none rest := by
  obtain ⟨b, bs, bytes, lead⟩ := exists_lead c
  rw [← decodeFrom_char, bytes, List.cons_append, decodeFrom_of_lead isOpen lead]

/-! ### Percent signs -/

/-- A part of a text that stands for bytes of its own. -/
inductive Chunk where
  | char (c : Char)
  /-- A percent sign with the digits of a byte. -/
  | byte (b : UInt8)

def Chunk.bytes : Chunk → List UInt8
  | char c => String.utf8EncodeChar c
  | byte b => [b]

/-- Whether a text begins with two hexadecimal digits. -/
def StartsHex (cs : List Char) : Prop :=
  ∃ x y rest, cs = x :: y :: rest ∧ (Json.hexValue x).isSome ∧ (Json.hexValue y).isSome

/-- A percent sign with two hexadecimal digits behind it stands in the text. -/
def HasPercent (cs : List Char) : Prop := ∃ rest, '%' :: rest <:+ cs ∧ StartsHex rest

/-- The chunks of a text. -/
def chunks : List Char → List Chunk
  | '%' :: x :: y :: rest =>
    match Json.hexValue x, Json.hexValue y with
    | some a, some b => .byte (.ofNat (a * 16 + b)) :: chunks rest
    | _, _ => .char '%' :: chunks (x :: y :: rest)
  | c :: rest => .char c :: chunks rest
  | [] => []

theorem chunks_escape {x y : Char} {a b : Nat} (hx : Json.hexValue x = some a)
    (hy : Json.hexValue y = some b) (rest : List Char) :
    chunks ('%' :: x :: y :: rest) = .byte (.ofNat (a * 16 + b)) :: chunks rest := by
  rw [chunks, hx, hy]

theorem chunks_plain {c : Char} {cs : List Char} (plain : c = '%' → ¬ StartsHex cs) :
    chunks (c :: cs) = .char c :: chunks cs := by
  by_cases percent : c = '%'
  · subst percent
    match cs with
    | [] => rfl
    | [x] => rfl
    | x :: y :: rest =>
      have some : ¬ ((Json.hexValue x).isSome ∧ (Json.hexValue y).isSome) := fun h =>
        plain rfl ⟨x, y, rest, rfl, h⟩
      rw [chunks]
      split
      · next hx hy => simp [hx, hy] at some
      · rfl
  · rw [chunks.eq_def]
    split
    · next h => exact absurd (List.cons.inj h).1 percent
    · next h => cases h; rfl
    · next h => cases h

/-- A text is read chunk by chunk. -/
theorem chunkInduct {motive : List Char → Prop} (nil : motive [])
    (plain : ∀ c cs, (c = '%' → ¬ StartsHex cs) → motive cs → motive (c :: cs))
    (escape : ∀ x y a b rest, Json.hexValue x = some a → Json.hexValue y = some b →
      motive rest → motive ('%' :: x :: y :: rest)) : ∀ cs, motive cs := by
  intro cs
  induction h : cs.length using Nat.strong_induction_on generalizing cs with
  | _ n ih =>
    subst h
    cases cs with
    | nil => exact nil
    | cons c cs =>
      by_cases hex : c = '%' ∧ StartsHex cs
      · obtain ⟨rfl, x, y, rest, rfl, hx, hy⟩ := hex
        obtain ⟨a, hx⟩ := Option.isSome_iff_exists.1 hx
        obtain ⟨b, hy⟩ := Option.isSome_iff_exists.1 hy
        exact escape x y a b rest hx hy (ih _ (by simp only [List.length_cons]; omega) rest rfl)
      · exact plain c cs (fun percent starts => hex ⟨percent, starts⟩) (ih _ (by simp) cs rfl)

theorem ne_percent_of_mem {c : Char} (h : c ≠ '%') {b : UInt8} (mem : b ∈ String.utf8EncodeChar c) :
    b ≠ 0x25 := by
  have number : c.toNat ≠ 0x25 := fun same => h (Char.toNat_inj.1 same)
  rintro rfl
  have value {n : Nat} (lt : n < 256) (same : (0x25 : UInt8) = .ofNat n) : n = 0x25 := by
    rw [← toNat_byte lt, ← same]
    rfl
  rcases utf8EncodeChar_cases c with ⟨size, bytes⟩ | ⟨size, bytes⟩ | ⟨size, bytes⟩ | ⟨size, bytes⟩
  all_goals
    rw [bytes] at mem
    simp only [List.mem_cons, List.not_mem_nil, or_false] at mem
  · exact number (value (by omega) mem)
  · rcases mem with mem | mem <;> have := value (by omega) mem <;> omega
  · rcases mem with mem | mem | mem <;> have := value (by omega) mem <;> omega
  · rcases mem with mem | mem | mem | mem <;> have := value (by omega) mem <;> omega

theorem percentDecode_cons {b : UInt8} (h : b ≠ 0x25) (rest : List UInt8) :
    percentDecode (b :: rest) = b :: percentDecode rest := by
  rw [percentDecode.eq_def]
  split
  · next same => cases same
  · next same => exact absurd (List.cons.inj same).1 h
  · next same => cases same; rfl

theorem percentDecode_append {bs : List UInt8} (h : ∀ b ∈ bs, b ≠ 0x25) (rest : List UInt8) :
    percentDecode (bs ++ rest) = bs ++ percentDecode rest := by
  induction bs with
  | nil => rfl
  | cons b bs ih =>
    obtain ⟨first, others⟩ := List.forall_mem_cons.1 h
    rw [List.cons_append, percentDecode_cons first, ih others, List.cons_append]

/-- A percent sign without digits behind it stays. -/
theorem percentDecode_percent {bs : List UInt8}
    (h : ∀ a b rest, bs = a :: b :: rest → hexByte? a = none ∨ hexByte? b = none) :
    percentDecode (0x25 :: bs) = 0x25 :: percentDecode bs := by
  match bs with
  | [] => rfl
  | [a] => rfl
  | a :: b :: rest =>
    rw [percentDecode]
    split
    · next ha hb => simp [ha, hb] at h
    · rfl

theorem hexValue_eq_none {c : Char} (h : 0x80 ≤ c.toNat) : Json.hexValue c = none := by
  have above {d : Char} (small : d.toNat < 0x80) : ¬ c ≤ d := by
    intro le
    have le : c.toNat ≤ d.toNat := UInt32.le_iff_toNat_le.1 le
    omega
  have nine := above (d := '9') (by decide)
  have lower := above (d := 'f') (by decide)
  have upper := above (d := 'F') (by decide)
  simp [Json.hexValue, nine, lower, upper]

theorem hexByte?_eq_none {b : UInt8} (h : 0x80 ≤ b.toNat) : hexByte? b = none := by
  apply hexValue_eq_none
  have valid : b.toNat.isValidChar := .inl (by have := b.toNat_lt; omega)
  rwa [Char.ofNat, dif_pos valid]

/-- The first byte of a character is a digit if the character is one, which then has no other byte. -/
theorem exists_hexByte (c : Char) :
    ∃ b bs, String.utf8EncodeChar c = b :: bs ∧ hexByte? b = Json.hexValue c ∧
      ((Json.hexValue c).isSome → bs = []) := by
  rcases utf8EncodeChar_cases c with ⟨size, bytes⟩ | large
  · refine ⟨_, _, bytes, ?_, fun _ => rfl⟩
    rw [hexByte?, toNat_byte (by omega), Char.ofNat_toNat]
  · have none : Json.hexValue c = none := by
      apply hexValue_eq_none
      rcases large with ⟨size, -⟩ | ⟨size, -⟩ | ⟨size, -⟩ <;> omega
    rw [none]
    rcases large with ⟨size, bytes⟩ | ⟨size, bytes⟩ | ⟨size, bytes⟩
    all_goals
      refine ⟨_, _, bytes, hexByte?_eq_none ?_, by simp⟩
      rw [toNat_byte] <;> omega

theorem encodeUtf8_cons (c : Char) (cs : List Char) :
    encodeUtf8 (c :: cs) = String.utf8EncodeChar c ++ encodeUtf8 cs :=
  List.flatMap_cons

/-- Bytes begin with two digits only if the characters do. -/
theorem hexByte?_encodeUtf8 {cs : List Char} (plain : ¬ StartsHex cs) (a b : UInt8)
    (rest : List UInt8) (bytes : encodeUtf8 cs = a :: b :: rest) :
    hexByte? a = none ∨ hexByte? b = none := by
  cases cs with
  | nil => cases bytes
  | cons x cs =>
    obtain ⟨a', as, first, digit, alone⟩ := exists_hexByte x
    rw [encodeUtf8_cons, first, List.cons_append] at bytes
    obtain ⟨rfl, others⟩ := List.cons.inj bytes
    rw [digit]
    cases hx : Json.hexValue x with
    | none => exact .inl rfl
    | some m =>
      right
      rw [hx] at alone
      rw [alone rfl, List.nil_append] at others
      cases cs with
      | nil => cases others
      | cons y cs =>
        obtain ⟨b', bs, second, digit, -⟩ := exists_hexByte y
        rw [encodeUtf8_cons, second, List.cons_append] at others
        obtain ⟨rfl, -⟩ := List.cons.inj others
        rw [digit]
        cases hy : Json.hexValue y with
        | none => rfl
        | some n => exact absurd ⟨x, y, cs, rfl, by simp [hx], by simp [hy]⟩ plain

theorem percentDecode_plain {c : Char} {cs : List Char} (plain : c = '%' → ¬ StartsHex cs) :
    percentDecode (encodeUtf8 (c :: cs)) =
      String.utf8EncodeChar c ++ percentDecode (encodeUtf8 cs) := by
  rw [encodeUtf8_cons]
  by_cases percent : c = '%'
  · subst percent
    exact percentDecode_percent (hexByte?_encodeUtf8 (plain rfl))
  · exact percentDecode_append (fun b mem => ne_percent_of_mem percent mem) _

theorem percentDecode_escape {x y : Char} {a b : Nat} (hx : Json.hexValue x = some a)
    (hy : Json.hexValue y = some b) (rest : List Char) :
    percentDecode (encodeUtf8 ('%' :: x :: y :: rest)) =
      .ofNat (a * 16 + b) :: percentDecode (encodeUtf8 rest) := by
  obtain ⟨x', xs, first, xDigit, xAlone⟩ := exists_hexByte x
  obtain ⟨y', ys, second, yDigit, yAlone⟩ := exists_hexByte y
  rw [hx] at xDigit xAlone
  rw [hy] at yDigit yAlone
  have sign : String.utf8EncodeChar '%' = [0x25] := rfl
  rw [encodeUtf8_cons, encodeUtf8_cons, encodeUtf8_cons, first, second, xAlone rfl, yAlone rfl, sign]
  simp only [List.cons_append, List.nil_append]
  rw [percentDecode, xDigit, yDigit]

/-- Percent signs are decoded chunk by chunk. -/
theorem percentDecode_encodeUtf8 (cs : List Char) :
    percentDecode (encodeUtf8 cs) = (chunks cs).flatMap Chunk.bytes := by
  induction cs using chunkInduct with
  | nil => rfl
  | plain c cs plain ih => rw [percentDecode_plain plain, chunks_plain plain, ih]; rfl
  | escape x y a b rest hx hy ih => rw [percentDecode_escape hx hy, chunks_escape hx hy, ih]; rfl

/-! ### Characters and chunks -/

/-- There are at most as many characters and gaps as chunks, and one for a character that is begun. -/
theorem length_decodeFrom_chunks_le {pending : Option Pending} (isOpen : IsOpen pending)
    (chunks : List Chunk) :
    (decodeFrom pending (chunks.flatMap Chunk.bytes)).length ≤
      (gap pending).length + chunks.length := by
  induction chunks generalizing pending with
  | nil => rw [List.flatMap_nil, decodeFrom.eq_def]; rfl
  | cons chunk chunks ih =>
    rw [List.flatMap_cons, List.length_cons]
    cases chunk with
    | char c =>
      have others := ih isOpen_none
      rw [Chunk.bytes, decodeFrom_gap isOpen, List.length_append, List.length_cons]
      have none : (gap none).length = 0 := rfl
      omega
    | byte b =>
      obtain ⟨isOpen, bound⟩ := receive_bounded isOpen b.toNat
      have others := ih isOpen
      rw [Chunk.bytes, List.singleton_append, decodeFrom_cons, List.length_append]
      omega

/-- The bytes of a text are read as the text. -/
theorem decodeFrom_encodeUtf8 (cs : List Char) : decodeFrom none (encodeUtf8 cs) = cs.map some := by
  induction cs with
  | nil => rfl
  | cons c cs ih => rw [encodeUtf8_cons, decodeFrom_char, ih, List.map_cons]

theorem hasPercent_cons (c : Char) (cs : List Char) :
    HasPercent (c :: cs) ↔ c = '%' ∧ StartsHex cs ∨ HasPercent cs := by
  constructor
  · rintro ⟨rest, suffix, starts⟩
    rcases List.suffix_cons_iff.1 suffix with whole | suffix
    · obtain ⟨rfl, rfl⟩ := List.cons.inj whole
      exact .inl ⟨rfl, starts⟩
    · exact .inr ⟨rest, suffix, starts⟩
  · rintro (⟨rfl, starts⟩ | ⟨rest, suffix, starts⟩)
    · exact ⟨cs, List.suffix_rfl, starts⟩
    · exact ⟨rest, suffix.trans (List.suffix_cons c cs), starts⟩

theorem length_chunks_le (cs : List Char) : (chunks cs).length ≤ cs.length := by
  induction cs using chunkInduct with
  | nil => exact Nat.le_refl 0
  | plain c cs plain ih => rw [chunks_plain plain]; exact Nat.succ_le_succ ih
  | escape x y a b rest hx hy ih =>
    rw [chunks_escape hx hy]
    simp only [List.length_cons]
    omega

/-- Without a percent sign that has digits behind it each character is a chunk, and else there are
fewer chunks than characters. -/
theorem chunks_cases (cs : List Char) :
    ¬ HasPercent cs ∧ chunks cs = cs.map .char ∨
      HasPercent cs ∧ (chunks cs).length < cs.length := by
  induction cs using chunkInduct with
  | nil => exact .inl ⟨by simp [HasPercent], rfl⟩
  | plain c cs plain ih =>
    have same : HasPercent (c :: cs) ↔ HasPercent cs := by
      rw [hasPercent_cons]
      exact or_iff_right fun h => plain h.1 h.2
    rw [same, chunks_plain plain, List.map_cons, List.length_cons, List.length_cons,
      Nat.add_lt_add_iff_right]
    exact ih.imp (And.imp_right (congrArg _)) id
  | escape x y a b rest hx hy ih =>
    right
    have fewer := length_chunks_le rest
    rw [chunks_escape hx hy]
    refine ⟨⟨_, List.suffix_rfl, x, y, rest, rfl, by simp [hx], by simp [hy]⟩, ?_⟩
    simp only [List.length_cons]
    omega

end DesignCode.Link
