import DesignCode.Proofs.Markup.Content
import DesignCode.Proofs.Script.StyleObject

/-!
# Moving markup

What moving the lines of markup does to the texts in it.  A text between tags has no line feed of its
own and stays as it is.  The text of an attribute is written with its line feeds, so that its lines are
moved with the markup around them.
-/

namespace DesignCode.Markup

open Text (isBlank isBreak opensBlank margin moved Moves)

/-! ### Attributes -/

open scoped Text.ByMember in
/-- A character of an attribute is written as itself, or as an entity without blanks. -/
theorem attributeChar_cases (c : Char) :
    attributeChar c = [c] ∨
      isBlank c = false ∧ ∃ d e, attributeChar c = d :: e ∧ ∀ x ∈ d :: e, isBlank x = false := by
  unfold attributeChar
  split_ifs with ampersand quote less greater
  · exact .inr ⟨by subst ampersand; decide, '&', ['a', 'm', 'p', ';'], rfl, by decide⟩
  · exact .inr ⟨by subst quote; decide, '&', ['q', 'u', 'o', 't', ';'], rfl, by decide⟩
  · exact .inr ⟨by subst less; decide, '&', ['l', 't', ';'], rfl, by decide⟩
  · exact .inr ⟨by subst greater; decide, '&', ['g', 't', ';'], rfl, by decide⟩
  · exact .inl rfl

theorem opensBlank_attributeText (cs : List Char) : opensBlank (attributeText cs) = opensBlank cs := by
  induction cs with
  | nil => rfl
  | cons c cs ih =>
    have solid (d : Char) (e : List Char) (h : isBlank d = false) : opensBlank (d :: e) = false :=
      Text.opensBlank_append_cons h [] e
    rw [attributeText, List.flatMap_cons, ← attributeText]
    rcases attributeChar_cases c with same | ⟨hc, d, e, entity, blank⟩
    · rw [same, List.singleton_append]
      by_cases feed : c = '\n'
      · subst feed; rfl
      · rw [Text.opensBlank_cons feed, Text.opensBlank_cons feed, ih]
    · rw [entity, List.cons_append, solid d _ (blank d List.mem_cons_self), solid c _ hc]

theorem attributeText_cons (c : Char) (cs : List Char) :
    attributeText (c :: cs) = attributeChar c ++ attributeText cs := by
  rw [attributeText, List.flatMap_cons, ← attributeText]

theorem attributeText_append (a b : List Char) :
    attributeText (a ++ b) = attributeText a ++ attributeText b := by
  rw [attributeText, List.flatMap_append, ← attributeText, ← attributeText]

theorem attributeText_margin (n : Nat) (cs : List Char) :
    attributeText (margin n cs) = margin n cs := by
  unfold margin
  split_ifs
  · rfl
  · induction n with
    | zero => rfl
    | succ n ih =>
      rw [List.replicate_succ, attributeText_cons, ih]
      rfl

/-- Only a line feed is written as one. -/
theorem attributeText_feed {cs r : List Char} (h : attributeText cs = '\n' :: r) :
    ∃ r', cs = '\n' :: r' := by
  cases cs with
  | nil => exact absurd h (by simp [attributeText])
  | cons c cs =>
    rw [attributeText_cons] at h
    rcases attributeChar_cases c with same | ⟨-, d, e, entity, blank⟩
    · rw [same] at h
      exact ⟨cs, by rw [(List.cons.inj h).1]⟩
    · rw [entity] at h
      have solid := blank d List.mem_cons_self
      rw [(List.cons.inj h).1] at solid
      exact absurd solid (by decide)

/-- The text of an attribute is moved as it would be without entities. -/
theorem moved_attributeText (n : Nat) (cs : List Char) :
    moved n (attributeText cs) = attributeText (moved n cs) := by
  have feed (rest : List Char) (ih : moved n (attributeText rest) = attributeText (moved n rest)) :
      '\n' :: (margin n (attributeText rest) ++ moved n (attributeText rest)) =
        attributeText ('\n' :: (margin n rest ++ moved n rest)) := by
    rw [attributeText_cons, attributeText_append, attributeText_margin, ih, margin,
      opensBlank_attributeText, ← margin]
    rfl
  fun_induction moved n cs with
  | case1 => rfl
  | case2 rest ih => exact feed rest ih
  | case3 rest ih => exact feed rest ih
  | case4 c rest hc ret ih =>
    rw [attributeText_cons, attributeText_cons, ← ih]
    rcases attributeChar_cases c with same | ⟨-, d, e, entity, blank⟩
    · rw [same]
      refine Text.moved_cons n hc ?_
      intro r hr written
      obtain ⟨r', rfl⟩ := attributeText_feed written
      exact ret r' hr rfl
    · rw [entity]
      exact Text.moved_append_of_noBreak n (fun x hx => Text.isBreak_of_solid (blank x hx)) _

theorem noBreak_name {name : List Char} (h : IsName name) : ∀ c ∈ name, isBreak c = false := by
  intro c hc
  by_contra hb
  simp only [isBreak, Bool.not_eq_false, decide_eq_true_eq] at hb
  have char := h.2 c hc
  rcases hb with rfl | rfl <;> exact absurd char (by decide)

/-- An attribute keeps its name and its quotes, and its value is moved. -/
theorem moves_attr {name : String} (h : IsName name.toList) (n : Nat) (value : List Char) :
    Moves n (' ' :: attr name value) (' ' :: attr name (moved n value)) := by
  have before : Moves n (' ' :: name.toList ++ ['=', '"']) (' ' :: name.toList ++ ['=', '"']) := by
    refine Text.moves_of_noBreak ?_
    intro c hc
    simp only [List.cons_append, List.mem_cons, List.mem_append, List.not_mem_nil, or_false] at hc
    rcases hc with rfl | hc | rfl | rfl
    · decide
    · exact noBreak_name h c hc
    · decide
    · decide
  have inside := Text.moves_concat (n := n) (c := '"') (by decide) (attributeText value)
  rw [moved_attributeText] at inside
  simpa [attr] using before.append inside

/-! ### Texts between tags -/

/-- A text between tags holds no character that ends a line of a script. -/
theorem endsLine_childText (cs : List Char) : ∀ c ∈ childText cs, endsLine c = false := by
  unfold childText
  split_ifs with breaks
  · intro c hc
    simp only [List.cons_append, List.mem_cons, List.mem_append, List.not_mem_nil, or_false] at hc
    rcases hc with rfl | hc | rfl
    · decide
    · exact Script.endsLine_literal cs c hc
    · decide
  · exact endsLine_escape (by simpa using breaks)

theorem noBreak_childText (cs : List Char) : ∀ c ∈ childText cs, isBreak c = false := fun c hc =>
  isBreak_of_endsLine (endsLine_childText cs c hc)

end DesignCode.Markup
