import DesignCode.Proofs.Code.Token
import DesignCode.Proofs.Distinct

/-!
# Histories of a registry

A registry is called with signatures alone and with texts, in any order.  A call finds the class of its
signature, or gives it the next one (`Registration.apply_cases`).  Hence what a registry holds follows from the
signatures of its calls, and further calls only add to it (`registrations_consistent`).
-/

namespace DesignCode

/-- A call of a registry. -/
inductive Registration where
  /-- A signature alone. -/
  | bare (signature : String)
  /-- A text in a color. -/
  | text (t : TextContent) (color : String)

namespace Registration

def signature : Registration → String
  | bare signature => signature
  | text t color => t.signature color

/-- The class that the call gets, and the registry after it. -/
def apply (x : Registration) (r : TokenRegistry) : String × TokenRegistry :=
  match x with
  | bare signature => r.register signature
  | text t color => r.registerText t color

/-- The declarations that come with a call. -/
def declarations? : Registration → Option StyleMap
  | bare _ => none
  | text t color => some (t.declarations color)

theorem apply_of_get?_eq_some {x : Registration} {r : TokenRegistry} {token : String}
    (found : r.get? x.signature = some token) : x.apply r = (token, r) := by
  cases x with
  | bare signature =>
    have found : r.get? signature = some token := found
    simp only [apply, TokenRegistry.register, found]
  | text t color =>
    have found : r.get? (t.signature color) = some token := found
    simp only [apply, TokenRegistry.registerText, found]

/-- A signature without class gets the next one, with a rule if declarations come with the call. -/
theorem apply_of_get?_eq_none {x : Registration} {r : TokenRegistry}
    (new : r.get? x.signature = none) :
    x.apply r = (r.next, ⟨r.tokens.insert x.signature r.next,
      x.declarations?.elim r.rules (r.rules.insert r.next)⟩) := by
  cases x with
  | bare signature =>
    have new : r.get? signature = none := new
    simp only [apply, TokenRegistry.register, new, Registration.signature, declarations?,
      Option.elim_none]
  | text t color =>
    have new : r.get? (t.signature color) = none := new
    simp only [apply, TokenRegistry.registerText, new, Registration.signature, declarations?,
      Option.elim_some]

/-- A call finds the class of its signature, or gives it the next class, with a rule or without. -/
theorem apply_cases (x : Registration) (r : TokenRegistry) :
    (∃ token, r.get? x.signature = some token ∧ x.apply r = (token, r)) ∨
      r.get? x.signature = none ∧ ∃ rules,
        (rules = r.rules ∨ ∃ css, rules = r.rules.insert r.next css) ∧
          x.apply r = (r.next, ⟨r.tokens.insert x.signature r.next, rules⟩) := by
  cases found : r.get? x.signature with
  | some token => exact .inl ⟨token, rfl, apply_of_get?_eq_some found⟩
  | none =>
    refine .inr ⟨rfl, _, ?_, apply_of_get?_eq_none found⟩
    cases x.declarations? with
    | none => exact .inl rfl
    | some css => exact .inr ⟨css, rfl⟩

end Registration

namespace TokenRegistry

/-! ### One call -/

/-- What a registry is after calls with the signatures `seen`. -/
structure HasSeen (r : TokenRegistry) (seen : List String) : Prop where
  keys : r.tokens.keys = seen.eraseDups
  numbered : r.IsNumbered
  /-- Rules are those of some of the classes, in their order. -/
  ruled : r.rules.keys.Sublist r.tokens.values

/-- The registry `r'` has all that `r` has, at the same places. -/
structure Extends (r r' : TokenRegistry) : Prop where
  tokens : r.tokens.entries <+: r'.tokens.entries
  rules : r.rules.entries <+: r'.rules.entries

theorem Extends.refl (r : TokenRegistry) : r.Extends r := ⟨List.prefix_rfl, List.prefix_rfl⟩

theorem Extends.trans {r r' r'' : TokenRegistry} (h : r.Extends r') (h' : r'.Extends r'') :
    r.Extends r'' := ⟨h.tokens.trans h'.tokens, h.rules.trans h'.rules⟩

theorem hasSeen_empty : empty.HasSeen [] := ⟨rfl, isNumbered_empty, .refl _⟩

section

variable {r : TokenRegistry} {seen : List String} (h : r.HasSeen seen)

include h

/-- A class without number so far has no rule. -/
theorem HasSeen.get?_rules_next : r.rules.get? r.next = none := by
  refine OrderedMap.lookup_eq_none_of_not_mem fun mem => ?_
  obtain ⟨e, he, same⟩ := List.mem_map.1 (h.ruled.subset mem)
  exact h.numbered.ne_next (r.tokens.get?_eq_some_iff.2 he) same

theorem HasSeen.get?_eq_none_iff {signature : String} :
    r.get? signature = none ↔ signature ∉ seen := by
  rw [← List.mem_eraseDups, ← h.keys, OrderedMap.mem_keys_iff, get?]
  cases r.tokens.get? signature <;> simp

theorem HasSeen.apply (x : Registration) :
    (x.apply r).2.HasSeen (seen ++ [x.signature]) ∧ r.Extends (x.apply r).2 := by
  rcases x.apply_cases r with ⟨token, found, run⟩ | ⟨new, rules, ruled, run⟩
  · have old : x.signature ∈ seen := by
      by_contra other
      exact absurd (found.symm.trans (h.get?_eq_none_iff.2 other)) (by simp)
    rw [run]
    exact ⟨⟨by rw [eraseDups_concat, if_pos old, h.keys], h.numbered, h.ruled⟩, .refl r⟩
  · have fresh : x.signature ∉ seen := h.get?_eq_none_iff.1 new
    have entries := OrderedMap.entries_insert_of_get?_eq_none new r.next
    have values : (r.tokens.insert x.signature r.next).values = r.tokens.values ++ [r.next] := by
      rw [OrderedMap.values, entries, List.map_append]
      rfl
    have ruleEntries (css : StyleMap) := OrderedMap.entries_insert_of_get?_eq_none h.get?_rules_next css
    rw [run]
    refine ⟨⟨?_, h.numbered.insert new rules, ?_⟩, ⟨?_, ?_⟩⟩
    · show (r.tokens.insert x.signature r.next).keys = _
      rw [eraseDups_concat, if_neg fresh, ← h.keys, OrderedMap.keys, entries, List.map_append]
      rfl
    · show rules.keys.Sublist (r.tokens.insert x.signature r.next).values
      rw [values]
      rcases ruled with rfl | ⟨css, rfl⟩
      · exact h.ruled.trans (List.sublist_append_left _ _)
      · rw [OrderedMap.keys, ruleEntries, List.map_append]
        exact h.ruled.append (.refl _)
    · show r.tokens.entries <+: (r.tokens.insert x.signature r.next).entries
      rw [entries]
      exact List.prefix_append _ _
    · show r.rules.entries <+: rules.entries
      rcases ruled with rfl | ⟨css, rfl⟩
      · exact List.prefix_rfl
      · rw [ruleEntries]
        exact List.prefix_append _ _

end

/-! ### Histories -/

/-- The registry after calls, one after the other. -/
def after (calls : List Registration) : TokenRegistry :=
  calls.foldl (fun r x => (x.apply r).2) empty

/-- The classes that calls get, one after the other. -/
def given (r : TokenRegistry) : List Registration → List String
  | [] => []
  | x :: calls => (x.apply r).1 :: given (x.apply r).2 calls

/-- The signatures of calls, each once, in the order in which they come first. -/
def signatures (calls : List Registration) : List String :=
  (calls.map Registration.signature).eraseDups

theorem after_append (calls more : List Registration) :
    after (calls ++ more) = more.foldl (fun r x => (x.apply r).2) (after calls) := List.foldl_append

theorem after_concat (calls : List Registration) (x : Registration) :
    after (calls ++ [x]) = (x.apply (after calls)).2 := after_append calls [x]

theorem given_append (r : TokenRegistry) (calls more : List Registration) :
    given r (calls ++ more) =
      given r calls ++ given (calls.foldl (fun r x => (x.apply r).2) r) more := by
  induction calls generalizing r with
  | nil => rfl
  | cons x calls ih => rw [List.cons_append, given, ih, given, List.foldl_cons, List.cons_append]

theorem hasSeen_after (calls : List Registration) :
    (after calls).HasSeen (calls.map Registration.signature) := by
  induction calls using List.reverseRecOn with
  | nil => exact hasSeen_empty
  | append_singleton calls x ih =>
    rw [after_concat, List.map_append]
    exact (ih.apply x).1

theorem extends_after (calls more : List Registration) :
    (after calls).Extends (after (calls ++ more)) := by
  induction more using List.reverseRecOn with
  | nil => rw [List.append_nil]; exact .refl _
  | append_singleton more x ih =>
    rw [← List.append_assoc, after_concat]
    exact ih.trans ((hasSeen_after (calls ++ more)).apply x).2

/-! ### What histories say -/

/-- The class that the text of a rule begins with, behind its point. -/
def ruledClass (text : String) : String :=
  String.ofList ((text.toList.drop 1).takeWhile (· ≠ ' '))

theorem ruledClass_rule {k : Nat} (css : StyleMap) : ruledClass (rule (classAfter k, css)) = classAfter k := by
  have written : (rule (classAfter k, css)).toList = '.' :: ((classAfter k).toList ++ ' ' ::
      ("\x7b ".toList ++ (" ".intercalate (css.entries.map declaration)).toList ++ " \x7d".toList)) := by
    simp [rule]
  have cut : ((classAfter k).toList ++ ' ' ::
      ("\x7b ".toList ++ (" ".intercalate (css.entries.map declaration)).toList ++
        " \x7d".toList)).takeWhile (· ≠ ' ') = (classAfter k).toList := by
    rw [List.takeWhile_append_of_pos]
    · simp
    · intro c hc
      have other : c ≠ ' ' := fun e => not_mem_classAfter (by decide) k (e ▸ hc)
      simpa using other
  rw [ruledClass, written, List.drop_one, List.tail_cons, cut, String.ofList_toList]

section

variable {r : TokenRegistry} {seen : List String} (h : r.HasSeen seen)

include h

theorem HasSeen.size : r.tokens.size = seen.eraseDups.length := by
  rw [← h.keys, OrderedMap.keys, List.length_map, OrderedMap.size]

theorem HasSeen.values : r.tokens.values = (List.range seen.eraseDups.length).map classAfter := by
  rw [h.numbered, h.size]

/-- The signature of rank `k` has the class with the number of the rank. -/
theorem HasSeen.get?_of_getElem? {k : Nat} {s : String} (hs : seen.eraseDups[k]? = some s) :
    r.get? s = some (classAfter k) := by
  refine r.tokens.get?_of_getElem? (h.keys.symm ▸ hs) ?_
  have inside : k < seen.eraseDups.length := (List.getElem?_eq_some_iff.1 hs).1
  rw [h.values, List.getElem?_map, List.getElem?_range inside]
  rfl

theorem HasSeen.get?_of_mem {s : String} (hs : s ∈ seen) :
    r.get? s = some (classAfter (seen.eraseDups.idxOf s)) :=
  h.get?_of_getElem? (List.getElem?_idxOf (List.mem_eraseDups.2 hs))

theorem HasSeen.entries : r.entries = seen.eraseDups.mapIdx fun k s => (classAfter k, s) := by
  refine List.ext_getElem? fun k => ?_
  rw [TokenRegistry.entries, List.getElem?_map, List.getElem?_mapIdx]
  cases hs : seen.eraseDups[k]? with
  | none =>
    have outside : r.tokens.entries[k]? = none := by
      have keys := congrArg (·[k]?) h.keys
      simpa [OrderedMap.keys, hs] using keys
    rw [outside]
    rfl
  | some s =>
    rw [r.tokens.getElem?_entries (h.keys.symm ▸ hs) (h.get?_of_getElem? hs)]
    rfl

/-- The texts of the rules begin with the classes that have rules. -/
theorem HasSeen.map_ruledClass : r.ruleTexts.map ruledClass = r.rules.keys := by
  rw [ruleTexts, List.map_map, OrderedMap.keys]
  refine List.map_congr_left ?_
  rintro ⟨token, css⟩ he
  have mem : token ∈ r.tokens.values := h.ruled.subset (List.mem_map_of_mem he)
  rw [h.values] at mem
  obtain ⟨k, -, rfl⟩ := List.mem_map.1 mem
  exact ruledClass_rule css

end

/-- A call gets the class with the number of its signature. -/
theorem apply_eq (x : Registration) {r : TokenRegistry} {seen : List String} (h : r.HasSeen seen) :
    (x.apply r).1 = classAfter ((seen ++ [x.signature]).eraseDups.idxOf x.signature) := by
  have found : (x.apply r).2.get? x.signature = some (x.apply r).1 := by
    rcases x.apply_cases r with ⟨token, found, run⟩ | ⟨new, rules, -, run⟩
    · rw [run]
      exact found
    · rw [run]
      show (r.tokens.insert x.signature r.next).get? x.signature = _
      rw [OrderedMap.get?_insert, if_pos rfl]
  exact Option.some.inj (found.symm.trans ((h.apply x).1.get?_of_mem (by simp)))

theorem signatures_concat (calls : List Registration) (x : Registration) :
    signatures (calls ++ [x]) =
      if x.signature ∈ calls.map Registration.signature then signatures calls
      else signatures calls ++ [x.signature] := by
  rw [signatures, List.map_append, List.map_singleton, eraseDups_concat]
  rfl

theorem given_eq (calls : List Registration) :
    given empty calls = calls.map fun x => classAfter ((signatures calls).idxOf x.signature) := by
  induction calls using List.reverseRecOn with
  | nil => rfl
  | append_singleton calls x ih =>
    have kept : calls.map (fun y => classAfter ((signatures calls).idxOf y.signature)) =
        calls.map fun y => classAfter ((signatures (calls ++ [x])).idxOf y.signature) := by
      refine List.map_congr_left fun y hy => congrArg classAfter ?_
      have seen : y.signature ∈ signatures calls := List.mem_eraseDups.2 (List.mem_map_of_mem hy)
      rw [signatures_concat]
      split_ifs
      · rfl
      · exact (List.idxOf_append_of_mem seen).symm
    have last : given (after calls) [x] =
        [classAfter ((signatures (calls ++ [x])).idxOf x.signature)] := by
      rw [given, given, apply_eq x (hasSeen_after calls), signatures, List.map_append,
        List.map_singleton]
    rw [given_append, ← after, last, ih, kept, List.map_append, List.map_singleton]

/-- What the registry after calls holds, and what the calls get from it. -/
structure IsConsistent (calls : List Registration) : Prop where
  /-- The entries are the signatures, each at the place of its first call, with the classes by number. -/
  entries : (after calls).entries = (signatures calls).mapIdx fun k s => (classAfter k, s)
  /-- No signature has two entries. -/
  distinct : ((after calls).entries.map Prod.snd).Nodup
  /-- Each call gets the class with the number of its signature. -/
  classes : given empty calls =
    calls.map fun x => classAfter ((signatures calls).idxOf x.signature)
  /-- Two calls get the same class exactly if they have the same signature. -/
  classes_eq_iff : ∀ (i j : Nat) (x y : Registration), calls[i]? = some x → calls[j]? = some y →
    ((given empty calls)[i]? = (given empty calls)[j]? ↔ x.signature = y.signature)
  /-- Further calls leave entries and rules as they are. -/
  kept : ∀ more, (after calls).entries <+: (after (calls ++ more)).entries ∧
    (after calls).rules.entries <+: (after (calls ++ more)).rules.entries
  /-- A signature is looked up in the entries. -/
  get?_iff : ∀ signature token,
    (after calls).get? signature = some token ↔ (token, signature) ∈ (after calls).entries
  /-- The rules are those of some of the classes, in the order of their numbers. -/
  ruled : ((after calls).ruleTexts.map ruledClass).Sublist
    ((List.range (signatures calls).length).map classAfter)
  /-- No class has two rules. -/
  ruled_once : ((after calls).ruleTexts.map ruledClass).Nodup

/-- Whatever calls a registry has had, its classes are numbered in the order in which their signatures came
first, each call gets the class of its signature, and further calls change nothing that is there. -/
theorem registrations_consistent (calls : List Registration) : IsConsistent calls := by
  have h := hasSeen_after calls
  have ruled : ((after calls).ruleTexts.map ruledClass).Sublist
      ((List.range (signatures calls).length).map classAfter) := by
    rw [h.map_ruledClass, signatures, ← h.values]
    exact h.ruled
  refine ⟨h.entries, ?_, given_eq calls, ?_, ?_, ?_, ruled, ?_⟩
  · have signatures : (after calls).entries.map Prod.snd = (after calls).tokens.keys := by
      rw [TokenRegistry.entries, List.map_map]
      rfl
    rw [signatures, h.keys]
    exact nodup_eraseDups _
  · intro i j x y hx hy
    have seen {k : Nat} {z : Registration} (hz : calls[k]? = some z) :
        z.signature ∈ signatures calls :=
      List.mem_eraseDups.2 (List.mem_map_of_mem (List.mem_of_getElem? hz))
    rw [given_eq, List.getElem?_map, List.getElem?_map, hx, hy, Option.map_some, Option.map_some,
      Option.some_inj, classAfter_injective.eq_iff]
    exact List.idxOf_inj (seen hx)
  · intro more
    obtain ⟨tokens, rules⟩ := extends_after calls more
    exact ⟨tokens.map _, rules⟩
  · intro signature token
    rw [get?, OrderedMap.get?_eq_some_iff, TokenRegistry.entries, List.mem_map]
    constructor
    · exact fun he => ⟨_, he, rfl⟩
    · rintro ⟨e, he, same⟩
      obtain ⟨rfl, rfl⟩ := Prod.mk.inj same
      exact he
  · exact ruled.nodup (List.nodup_range.map classAfter_injective)

/-- A signature that comes with a text only later has its class all the same, and no rule. -/
example : given empty [.bare "|||||#000|", .text { characters := "Hi" } "#000",
    .text { characters := "Ho" } "#fff"] = ["ts-1", "ts-1", "ts-2"] := by
  decide +kernel

end TokenRegistry

end DesignCode
