import DesignCode.Proofs.Code.Registration

/-!
# Which classes have rules

The first call with a signature decides whether its class has a rule, and further calls leave it at that
(`get?_rules_after`).  So a text that is registered has exactly one rule for its class, unless its signature
came without a text first (`rulesOf_registerText_iff`).
-/

namespace DesignCode

namespace TokenRegistry

/-! ### First calls -/

/-- The first call with a signature. -/
def first? (calls : List Registration) (signature : String) : Option Registration :=
  calls.find? fun x => x.signature = signature

theorem first?_eq_none_iff {calls : List Registration} {signature : String} :
    first? calls signature = none ↔ signature ∉ calls.map Registration.signature := by
  simp [first?]

theorem first?_concat (calls : List Registration) (x : Registration) (signature : String) :
    first? (calls ++ [x]) signature =
      (first? calls signature).or (if x.signature = signature then some x else none) := by
  rw [first?, List.find?_append, List.find?_singleton]
  simp [first?]

theorem signature_of_first? {calls : List Registration} {signature : String} {x : Registration}
    (h : first? calls signature = some x) : x.signature = signature := by
  simpa using List.find?_some h

/-! ### Rules -/

/-- The rules of a class, among the texts of all rules. -/
def rulesOf (r : TokenRegistry) (token : String) : List String :=
  r.ruleTexts.filter fun text => ruledClass text = token

/-- The rules of a class are the one that the registry has for it. -/
theorem HasSeen.rulesOf_eq {r : TokenRegistry} {seen : List String} (h : r.HasSeen seen)
    (token : String) :
    r.rulesOf token = (r.rules.get? token).toList.map fun css => rule (token, css) := by
  have classes : ∀ e ∈ r.rules.entries, ruledClass (rule e) = e.1 := by
    have named := h.map_ruledClass
    rw [ruleTexts, List.map_map, OrderedMap.keys] at named
    exact List.map_inj_left.1 named
  calc r.rulesOf token
      = (r.rules.entries.filter fun e => ruledClass (rule e) = token).map rule := by
        rw [rulesOf, ruleTexts, List.filter_map, Function.comp_def]
    _ = (r.rules.entries.filter fun e => e.1 = token).map rule := by
        exact congrArg (List.map rule) (List.filter_congr fun e he => by rw [classes e he])
    _ = (r.rules.get? token).toList.map fun css => rule (token, css) := by
        rw [OrderedMap.filter_key_eq r.rules.distinct, List.map_map, OrderedMap.get?]
        rfl

/-- The rule of a class is the one that came with the first call of its signature. -/
theorem get?_rules_after (calls : List Registration) {signature token : String}
    (given : (after calls).get? signature = some token) :
    (after calls).rules.get? token =
      (first? calls signature).bind Registration.declarations? := by
  induction calls using List.reverseRecOn generalizing signature token with
  | nil => cases given
  | append_singleton calls x ih =>
    have h := hasSeen_after calls
    have old {token : String} (given : (after calls).get? signature = some token) :
        first? calls signature ≠ none := by
      rw [Ne, first?_eq_none_iff, ← h.get?_eq_none_iff, given]
      simp
    rw [after_concat] at given ⊢
    rw [first?_concat]
    cases found : (after calls).get? x.signature with
    | some token' =>
      rw [Registration.apply_of_get?_eq_some found] at given ⊢
      obtain ⟨first, hf⟩ := Option.ne_none_iff_exists'.1 (old given)
      rw [hf, Option.some_or, ← hf]
      exact ih given
    | none =>
      rw [Registration.apply_of_get?_eq_none found] at given ⊢
      replace given : ((after calls).tokens.insert x.signature (after calls).next).get? signature =
        some token := given
      show (x.declarations?.elim (after calls).rules _).get? token = _
      rw [OrderedMap.get?_insert] at given
      split_ifs at given with same
      · obtain rfl := Option.some.inj given
        subst same
        rw [first?_eq_none_iff.2 (h.get?_eq_none_iff.1 found), if_pos rfl, Option.none_or,
          Option.bind_some]
        cases x.declarations? with
        | none => exact h.get?_rules_next
        | some css => rw [Option.elim_some, OrderedMap.get?_insert, if_pos rfl]
      · obtain ⟨first, hf⟩ := Option.ne_none_iff_exists'.1 (old given)
        rw [hf, Option.some_or, ← hf, ← ih given]
        cases x.declarations? with
        | none => rfl
        | some css =>
          rw [Option.elim_some, OrderedMap.get?_insert, if_neg (h.numbered.ne_next given)]

/-- The rules of the class that a text gets are the one that came with the first call of its signature. -/
theorem rulesOf_registerText (calls : List Registration) (t : TextContent) (color : String) :
    let call := (after calls).registerText t color
    call.2.rulesOf call.1 =
      ((first? (calls ++ [.text t color]) (t.signature color)).bind
        Registration.declarations?).toList.map fun css => rule (call.1, css) := by
  intro call
  have state : after (calls ++ [.text t color]) = call.2 := after_concat calls _
  have given : (after (calls ++ [.text t color])).get? (t.signature color) = some call.1 := by
    rw [state, get?_registerText, if_pos rfl]
  rw [← get?_rules_after _ given, ← (hasSeen_after _).rulesOf_eq, state]

/-- Once a text is registered, its class has exactly one rule, with the declarations of a text with its
signature, exactly if the signature has not been registered without a text before any with one. -/
theorem rulesOf_registerText_iff (calls : List Registration) (t : TextContent) (color : String) :
    let call := (after calls).registerText t color
    (∃ (t' : TextContent) (color' : String), t'.signature color' = t.signature color ∧
        call.2.rulesOf call.1 = [rule (call.1, t'.declarations color')]) ↔
      first? calls (t.signature color) ≠ some (.bare (t.signature color)) := by
  intro call
  rw [rulesOf_registerText, first?_concat]
  cases first : first? calls (t.signature color) with
  | none =>
    refine ⟨fun _ => by simp, fun _ => ⟨t, color, rfl, ?_⟩⟩
    have own : (Registration.text t color).signature = t.signature color := rfl
    rw [Option.none_or, if_pos own]
    rfl
  | some x =>
    have same := signature_of_first? first
    cases x with
    | bare signature =>
      replace same : signature = t.signature color := same
      subst same
      simp [Registration.declarations?]
    | text t' color' =>
      exact ⟨fun _ => by simp, fun _ => ⟨t', color', same, rfl⟩⟩

/-- A black text. -/
def greeting : TextContent := { characters := "Hi" }

/-- Once its signature has been registered alone, a text gets a class without a rule. -/
theorem greeting_undefined :
    let r := after [.bare (greeting.signature "#000000")]
    (r.registerText greeting "#000000").1 = "ts-1" ∧
      (r.registerText greeting "#000000").2.rulesOf "ts-1" = [] := by
  decide +kernel

end TokenRegistry

end DesignCode
