import DesignCode.Proofs.Link.Percent

/-!
# Order of bytes

Texts are ordered by their characters.  Written in UTF-8 their bytes have the same order, since the bytes of
a character come before those of a later one, whatever follows them (`lt_iff_encodeUtf8_lt`).
-/

namespace DesignCode.Text

open Link

/-- A byte that is not larger comes first if what follows it does in case of a tie. -/
theorem ofNat_cons_lt {m m' : Nat} (le : m ≤ m') (small : m' < 256) {bs bs' : List UInt8}
    (tie : m = m' → bs < bs') : UInt8.ofNat m :: bs < UInt8.ofNat m' :: bs' := by
  rcases Nat.lt_or_eq_of_le le with lt | rfl
  · refine List.cons_lt_cons_iff.2 (.inl ?_)
    rw [UInt8.lt_iff_toNat_lt, toNat_byte (by omega), toNat_byte small]
    exact lt
  · exact List.cons_lt_cons_iff.2 (.inr ⟨rfl, tie rfl⟩)

/-- The bytes of a character come before those of a later one, whatever follows. -/
theorem utf8EncodeChar_append_lt {c c' : Char} (h : c < c') (rest rest' : List UInt8) :
    String.utf8EncodeChar c ++ rest < String.utf8EncodeChar c' ++ rest' := by
  have numbers : c.toNat < c'.toNat := h
  rcases utf8EncodeChar_cases c with ⟨size, bytes⟩ | ⟨size, bytes⟩ | ⟨size, bytes⟩ | ⟨size, bytes⟩ <;>
  rcases utf8EncodeChar_cases c' with
    ⟨size', bytes'⟩ | ⟨size', bytes'⟩ | ⟨size', bytes'⟩ | ⟨size', bytes'⟩
  all_goals
    rw [bytes, bytes']
    clear bytes bytes'
    generalize c.toNat = n at *
    generalize c'.toNat = n' at *
    simp only [List.cons_append, List.nil_append]
    -- with more bytes the first byte is larger, and of equally many the first one that differs decides
    try refine ofNat_cons_lt (by omega) (by omega) fun first => ?_
    try omega
  · exact ofNat_cons_lt (by omega) (by omega) fun last => by omega
  · refine ofNat_cons_lt (by omega) (by omega) fun second => ?_
    exact ofNat_cons_lt (by omega) (by omega) fun last => by omega
  · refine ofNat_cons_lt (by omega) (by omega) fun second => ?_
    refine ofNat_cons_lt (by omega) (by omega) fun third => ?_
    exact ofNat_cons_lt (by omega) (by omega) fun last => by omega

theorem encodeUtf8_lt {cs cs' : List Char} (h : cs < cs') : encodeUtf8 cs < encodeUtf8 cs' := by
  induction cs generalizing cs' with
  | nil =>
    cases cs' with
    | nil => exact absurd h (List.lt_irrefl _)
    | cons c' cs' =>
      obtain ⟨b, bs, bytes, -⟩ := exists_lead c'
      rw [encodeUtf8_cons, bytes]
      exact List.nil_lt_cons _ _
  | cons c cs ih =>
    cases cs' with
    | nil => exact absurd h (List.not_lt_nil _)
    | cons c' cs' =>
      rw [encodeUtf8_cons, encodeUtf8_cons]
      rcases List.cons_lt_cons_iff.1 h with first | ⟨rfl, later⟩
      · exact utf8EncodeChar_append_lt first _ _
      · exact List.append_left_lt (ih later)

/-- Texts are ordered like their bytes. -/
theorem lt_iff_encodeUtf8_lt (s s' : String) :
    s < s' ↔ encodeUtf8 s.toList < encodeUtf8 s'.toList := by
  refine ⟨encodeUtf8_lt, fun h => ?_⟩
  by_contra not
  obtain later | rfl : s' < s ∨ s' = s := by grind
  · exact List.lt_asymm h (encodeUtf8_lt later)
  · exact List.lt_irrefl _ h

end DesignCode.Text
