import DesignCode.Proofs.Code.Looks
import DesignCode.Proofs.Code.Numbering
import DesignCode.Proofs.Text.Cut
import Mathlib.Data.List.Infix

/-!
# Reading stylesheets

A stylesheet is read line by line: a line is a class with a body in braces, the body is cut at its semicolons
and each declaration at its first colon.  What is read has neither a semicolon nor a line feed in a value
(`isPlain_of_readStylesheet?`), and rules without such values are read as they are
(`readStylesheet?_intercalate`).  So the stylesheet of the texts of layers says what the registry holds exactly
if the fonts and the color of the palette are plain (`readStylesheet?_survey_iff`).
-/

namespace DesignCode

namespace Css

/-! ### The reader -/

/-- Whether a text ends neither a declaration nor a line. -/
def IsPlain (cs : List Char) : Prop := ';' ∉ cs ∧ '\n' ∉ cs

instance (cs : List Char) : Decidable (IsPlain cs) := inferInstanceAs (Decidable (_ ∧ _))

/-- Reads a declaration: behind a space a property up to the first colon, behind another space its value. -/
def readDeclaration? : List Char → Option (String × String)
  | ' ' :: cs =>
    match cs.dropWhile (· ≠ ':') with
    | ':' :: ' ' :: value => some (String.ofList (cs.takeWhile (· ≠ ':')), String.ofList value)
    | _ => none
  | _ => none

/-- Reads what stands between the braces of a rule: a semicolon ends each declaration, and a space follows the
last one. -/
def readBody? (cs : List Char) : Option (List (String × String)) :=
  let parts := cs.splitOn ';'
  if parts.getLast? = some [' '] then parts.dropLast.mapM readDeclaration? else none

/-- Reads a line with a rule: a point and a class, and behind a space its body in braces. -/
def readRule? : List Char → Option (String × List (String × String))
  | '.' :: cs =>
    match cs.dropWhile (· ≠ ' ') with
    | ' ' :: '\x7b' :: body =>
      if body.getLast? = some '\x7d' then
        (readBody? body.dropLast).map fun ds => (String.ofList (cs.takeWhile (· ≠ ' ')), ds)
      else none
    | _ => none
  | _ => none

/-- Reads a stylesheet line by line. -/
def readStylesheet? (cs : List Char) : Option (List (String × List (String × String))) :=
  (Text.lines cs).mapM readRule?

/-! ### What is read -/

theorem subset_of_readDeclaration? {cs : List Char} {d : String × String}
    (h : readDeclaration? cs = some d) : d.2.toList ⊆ cs := by
  unfold readDeclaration? at h
  split at h
  · next rest =>
    split at h
    · next value behind =>
      cases h
      intro c hc
      rw [String.toList_ofList] at hc
      have inside : c ∈ rest.dropWhile (· ≠ ':') := behind ▸ by simp [hc]
      exact List.mem_cons_of_mem _ ((List.dropWhile_suffix _).subset inside)
    · cases h
  · cases h

theorem isPlain_of_readBody? {cs : List Char} {ds : List (String × String)} (feed : '\n' ∉ cs)
    (h : readBody? cs = some ds) : ∀ d ∈ ds, IsPlain d.2.toList := by
  intro d hd
  unfold readBody? at h
  dsimp only at h
  split_ifs at h
  obtain ⟨part, hp, read⟩ := exists_mem_of_mapM h d hd
  obtain ⟨inside, apart⟩ := subset_of_mem_splitOn (List.mem_of_mem_dropLast hp)
  have value := subset_of_readDeclaration? read
  exact ⟨fun semicolon => apart (value semicolon), fun mem => feed (inside (value mem))⟩

theorem exists_body_of_readRule? {line : List Char} {r : String × List (String × String)}
    (h : readRule? line = some r) : ∃ cs, cs ⊆ line ∧ readBody? cs = some r.2 := by
  unfold readRule? at h
  split at h
  · next rest =>
    split at h
    · next body behind =>
      split_ifs at h
      obtain ⟨ds, read, rfl⟩ := Option.map_eq_some_iff.1 h
      refine ⟨body.dropLast, fun c hc => ?_, read⟩
      have inside : c ∈ rest.dropWhile (· ≠ ' ') :=
        behind ▸ by simp [List.mem_of_mem_dropLast hc]
      exact List.mem_cons_of_mem _ ((List.dropWhile_suffix _).subset inside)
    · cases h
  · cases h

/-- The values that are read are plain. -/
theorem isPlain_of_readStylesheet? {cs : List Char} {rules : List (String × List (String × String))}
    (h : readStylesheet? cs = some rules) : ∀ r ∈ rules, ∀ d ∈ r.2, IsPlain d.2.toList := by
  intro r hr
  obtain ⟨line, hl, read⟩ := exists_mem_of_mapM h r hr
  obtain ⟨body, inside, read⟩ := exists_body_of_readRule? read
  exact isPlain_of_readBody? (fun feed => Text.feed_not_mem_of_mem_lines hl (inside feed)) read

end Css

namespace TokenRegistry

open Css

/-! ### Rules as texts -/

/-- What stands in a rule between its braces. -/
def body (ds : List (String × StyleValue)) : List Char :=
  ds.flatMap (fun d => ' ' :: (declaration d).toList) ++ [' ']

theorem cons_intercalate {α : Type} (a : α) (xs : List (List α)) (ne : xs ≠ []) :
    a :: [a].intercalate xs = xs.flatMap (a :: ·) := by
  induction xs with
  | nil => exact absurd rfl ne
  | cons x xs ih =>
    cases xs with
    | nil => simp
    | cons y xs =>
      rw [List.intercalate_cons_of_ne_nil (List.cons_ne_nil y xs), List.flatMap_cons,
        ← ih (List.cons_ne_nil y xs)]
      simp

theorem toList_rule (token : String) {css : StyleMap} (ne : css.entries ≠ []) :
    (rule (token, css)).toList =
      '.' :: (token.toList ++ ' ' :: '\x7b' :: (body css.entries ++ ['\x7d'])) := by
  have spaced := cons_intercalate ' ' (css.entries.map fun d => (declaration d).toList)
    (by simpa using ne)
  rw [List.flatMap_map] at spaced
  rw [body, ← spaced]
  simp [rule, String.toList_intercalate, Function.comp_def]

theorem toList_declaration (d : String × StyleValue) :
    (declaration d).toList = d.1.toList ++ ':' :: ' ' :: (d.2.display.toList ++ [';']) := by
  simp [declaration]

/-- A declaration whose text can be read back. -/
structure IsReadable (d : String × StyleValue) : Prop where
  colon : ':' ∉ d.1.toList
  key : IsPlain d.1.toList
  value : IsPlain d.2.display.toList

theorem readBody?_body {ds : List (String × StyleValue)} (h : ∀ d ∈ ds, IsReadable d) :
    readBody? (body ds) = some (ds.map fun d => (d.1, d.2.display)) := by
  have cut : (body ds).splitOn ';' =
      ds.map (fun d => ' ' :: (d.1.toList ++ ':' :: ' ' :: d.2.display.toList)) ++ [[' ']] := by
    induction ds with
    | nil => exact List.splitOn_eq_singleton (by decide)
    | cons d ds ih =>
      rw [List.forall_mem_cons] at h
      have first : body (d :: ds) =
          (' ' :: (d.1.toList ++ ':' :: ' ' :: d.2.display.toList)) ++ ';' :: body ds := by
        simp [body, toList_declaration]
      rw [first, List.splitOn_append_cons_self_of_not_mem, ih h.2]
      · rfl
      · simp [h.1.key.1, h.1.value.1]
  have each : ∀ d ∈ ds,
      readDeclaration? (' ' :: (d.1.toList ++ ':' :: ' ' :: d.2.display.toList)) =
        some (d.1, d.2.display) := by
    intro d hd
    have colon : ∀ c ∈ d.1.toList, decide (c ≠ ':') = true := fun c hc =>
      decide_eq_true fun same => (h d hd).colon (same ▸ hc)
    obtain ⟨take, drop⟩ := Text.cut_append colon (':' :: ' ' :: d.2.display.toList)
      (Text.head?_cons_of (by decide) _)
    rw [readDeclaration?, take, drop]
    simp
  rw [readBody?, cut, List.getLast?_concat, if_pos rfl, List.dropLast_concat, List.mapM_map]
  exact mapM_eq_some_map each

theorem feed_not_mem_body {ds : List (String × StyleValue)} (h : ∀ d ∈ ds, IsReadable d) :
    '\n' ∉ body ds := by
  have each : ∀ d ∈ ds, '\n' ∉ (declaration d).toList := by
    intro d hd
    rw [toList_declaration]
    simp [(h d hd).key.2, (h d hd).value.2]
  simp only [body, List.mem_append, List.mem_flatMap, not_or, not_exists, not_and]
  refine ⟨fun d hd mem => ?_, by decide⟩
  exact each d hd ((List.mem_cons.1 mem).resolve_left (by decide))

theorem readRule?_rule {token : String} (space : ' ' ∉ token.toList) {css : StyleMap}
    (ne : css.entries ≠ []) (h : ∀ d ∈ css.entries, IsReadable d) :
    readRule? (rule (token, css)).toList =
      some (token, css.entries.map fun d => (d.1, d.2.display)) := by
  have word : ∀ c ∈ token.toList, decide (c ≠ ' ') = true := fun c hc =>
    decide_eq_true fun same => space (same ▸ hc)
  obtain ⟨take, drop⟩ := Text.cut_append word (' ' :: '\x7b' :: (body css.entries ++ ['\x7d']))
    (Text.head?_cons_of (by decide) _)
  rw [toList_rule token ne, readRule?, take, drop]
  simp [readBody?_body h]

/-- Readable rules are read as they are. -/
theorem readStylesheet?_intercalate {rules : List (String × StyleMap)}
    (named : ∀ r ∈ rules, ' ' ∉ r.1.toList ∧ '\n' ∉ r.1.toList)
    (ne : ∀ r ∈ rules, r.2.entries ≠ []) (h : ∀ r ∈ rules, ∀ d ∈ r.2.entries, IsReadable d) :
    readStylesheet? ("\n".intercalate (rules.map rule)).toList =
      some (rules.map fun r => (r.1, r.2.entries.map fun d => (d.1, d.2.display))) := by
  have feed : "\n".toList = ['\n'] := by decide
  rw [readStylesheet?, String.toList_intercalate, feed, List.map_map, Text.lines_intercalate,
    List.mapM_map]
  · exact mapM_eq_some_map fun r hr => readRule?_rule (named r hr).1 (ne r hr) (h r hr)
  · rw [List.forall_mem_map]
    intro r hr
    show '\n' ∉ (rule (r.1, r.2)).toList
    rw [toList_rule r.1 (ne r hr)]
    simp [(named r hr).2, feed_not_mem_body (h r hr)]
  · rw [List.forall_mem_map]
    intro r hr
    refine ⟨'\x7d', ?_, by decide⟩
    show (rule (r.1, r.2)).toList.getLast? = _
    rw [toList_rule r.1 (ne r hr)]
    simp only [← List.cons_append, ← List.append_assoc]
    exact List.getLast?_concat

end TokenRegistry

/-! ### Looks -/

namespace Css

theorem isPlain_number (v : Float) : IsPlain (number v).toList :=
  ⟨not_mem_number (by decide) v, not_mem_number (by decide) v⟩

theorem isPlain_px (v : Float) : IsPlain (px v).toList := by
  have number := isPlain_number v
  constructor <;> simp [px, number.1, number.2]

theorem isPlain_color (c : Color) : IsPlain (color c).toList :=
  ⟨not_mem_color (by decide) c, not_mem_color (by decide) c⟩

end Css

namespace TextContent

open Css

variable (t : TextContent) (color : String)

/-- The declarations of a class are those of its properties that have a text. -/
theorem mem_declarations {d : String × StyleValue} :
    d ∈ (t.declarations color).entries ↔
      ∃ key s, (key, some s) ∈ t.classProperties color ∧ (key, .text s) = d := by
  obtain ⟨key, value⟩ := d
  rw [← OrderedMap.get?_eq_some_iff, get?_declarations_eq_lookup,
    OrderedMap.lookup_eq_some_iff_mem (t.nodup_classProperties color), StyleMap.mem_given]

/-- Whether the font and the color of a text can stand in a declaration. -/
def IsPlain : Prop := (∀ f ∈ t.fontFamily, Css.IsPlain f.toList) ∧ Css.IsPlain color.toList

variable {t color}

theorem isPlain_of_mem_classProperties (h : t.IsPlain color) :
    ∀ e ∈ t.classProperties color, ∀ s ∈ e.2, Css.IsPlain s.toList := by
  have lengths (v : Option Float) : ∀ s ∈ v.map px, Css.IsPlain s.toList := by
    simp [isPlain_px]
  have numbers (v : Option Float) : ∀ s ∈ v.map number, Css.IsPlain s.toList := by
    simp [isPlain_number]
  have given : ∀ s ∈ some color, Css.IsPlain s.toList := by
    rintro s ⟨⟩
    exact h.2
  simp only [classProperties, List.forall_mem_cons]
  exact ⟨given, h.1, lengths _, numbers _, lengths _, lengths _, lengths _, by simp⟩

theorem isReadable_declarations (h : t.IsPlain color) :
    ∀ d ∈ (t.declarations color).entries, TokenRegistry.IsReadable d := by
  intro d hd
  obtain ⟨key, s, mem, rfl⟩ := (t.mem_declarations color).1 hd
  have keys : ∀ key ∈ ["color", "font-family", "font-size", "font-weight", "letter-spacing",
      "line-height", "margin-bottom"], ':' ∉ key.toList ∧ ';' ∉ key.toList ∧ '\n' ∉ key.toList := by
    decide
  have named := keys key (List.mem_map_of_mem (f := Prod.fst) mem)
  exact ⟨named.1, named.2, isPlain_of_mem_classProperties h _ mem s rfl⟩

theorem isPlain_of_declarations
    (h : ∀ d ∈ (t.declarations color).entries, Css.IsPlain d.2.display.toList) : t.IsPlain color := by
  have given (key : String) {s : String} (mem : (key, some s) ∈ t.classProperties color) :
      Css.IsPlain s.toList :=
    h _ ((t.mem_declarations color).2 ⟨key, s, mem, rfl⟩)
  refine ⟨fun f hf => given "font-family" ?_, given "color" ?_⟩
  · simp [classProperties, Option.mem_def.1 hf]
  · simp [classProperties]

/-- A character that is no bar and stands in no number is in a signature if it is in the font or the color. -/
theorem mem_signature_iff {c : Char} (bar : c ≠ '|') (word : Script.isWordChar c = false) :
    c ∈ (t.signature color).toList ↔ c ∈ (t.fontFamily.getD "").toList ∨ c ∈ color.toList := by
  rw [signature_eq, String.toList_intercalate]
  simp [signatureFields, not_mem_numberOrNothing word, bar, List.intercalate]

theorem isPlain_signature_iff : Css.IsPlain (t.signature color).toList ↔ t.IsPlain color := by
  rw [Css.IsPlain, mem_signature_iff (by decide) (by decide), mem_signature_iff (by decide) (by decide)]
  cases family : t.fontFamily with
  | none => simp [IsPlain, Css.IsPlain, family]
  | some f =>
    simp only [IsPlain, Css.IsPlain, family, Option.getD_some, Option.mem_some_iff, forall_eq', not_or]
    exact and_and_and_comm

end TextContent

namespace TokenRegistry

open Css

/-! ### Classes of a tree -/

/-- The rules of a registry with the texts of their values, in their order. -/
def contents (r : TokenRegistry) : List (String × List (String × String)) :=
  r.rules.entries.map fun e => (e.1, e.2.entries.map fun d => (d.1, d.2.display))

section

variable {p : Palette} {t : Tree Node}

/-- A rule of the texts of a tree is that of a look of theirs. -/
theorem exists_look_of_mem_rules {e : String × StyleMap} (he : e ∈ (ofTree p t).rules.entries) :
    ∃ x ∈ Node.looks p t, ∃ k, e = (classAfter k, x.1.declarations x.2) := by
  obtain ⟨k, hk, rfl⟩ := List.getElem_of_mem he
  have inside : k < (Node.signatures p t).length := length_rules_ofTree (p := p) (t := t) ▸ hk
  obtain ⟨x, hx, -, rule⟩ := getElem?_rules_ofTree (List.getElem?_eq_getElem inside)
  exact ⟨x, hx, k, Option.some.inj ((List.getElem?_eq_getElem hk).symm.trans rule)⟩

/-- Each look has a rule of a look with its signature. -/
theorem exists_rule_of_mem_looks {x : TextContent × String} (hx : x ∈ Node.looks p t) :
    ∃ y : TextContent × String, y.1.signature y.2 = x.1.signature x.2 ∧
      ∃ token, (token, y.1.declarations y.2) ∈ (ofTree p t).rules.entries := by
  obtain ⟨token, given⟩ := (defines_ofTree p t).seen x hx
  obtain ⟨y, -, same, rule⟩ := (defines_ofTree p t).rule _ token given
  exact ⟨y, same, token, (OrderedMap.get?_eq_some_iff _).1 rule⟩

theorem readStylesheet?_ofTree (plain : ∀ x ∈ Node.looks p t, x.1.IsPlain x.2) :
    readStylesheet? (ofTree p t).stylesheet.toList = some (ofTree p t).contents := by
  refine readStylesheet?_intercalate ?_ ?_ ?_ <;> intro e he <;>
    obtain ⟨x, hx, k, rfl⟩ := exists_look_of_mem_rules he
  · exact ⟨not_mem_classAfter (by decide) k, not_mem_classAfter (by decide) k⟩
  · refine List.ne_nil_of_mem (a := ("color", .text x.2)) ((x.1.mem_declarations x.2).2 ?_)
    exact ⟨_, _, List.mem_cons_self, rfl⟩
  · exact TextContent.isReadable_declarations (plain x hx)

/-- The stylesheet of the texts of a tree is read as it is meant exactly if all their fonts and colors are
plain. -/
theorem readStylesheet?_ofTree_iff :
    readStylesheet? (ofTree p t).stylesheet.toList = some (ofTree p t).contents ↔
      ∀ x ∈ Node.looks p t, x.1.IsPlain x.2 := by
  refine ⟨fun read x hx => ?_, readStylesheet?_ofTree⟩
  obtain ⟨y, same, token, rule⟩ := exists_rule_of_mem_looks hx
  have plain : ∀ d ∈ (y.1.declarations y.2).entries, IsPlain d.2.display.toList := by
    have values := isPlain_of_readStylesheet? read _ (List.mem_map_of_mem rule)
    rwa [List.forall_mem_map] at values
  rw [← TextContent.isPlain_signature_iff, ← same, TextContent.isPlain_signature_iff]
  exact TextContent.isPlain_of_declarations plain

end

end TokenRegistry

/-! ### Classes of layers -/

/-- The colors of the texts of layers are plain. -/
theorem isPlain_color_survey {layers : Tree Layer} {parent : Option Layer} {root : Tree Node}
    (built : (survey layers parent).1 = some root) {n : Node} (hn : n ∈ root.preorder) {c : TextContent}
    (hc : n.text = some c) : ∀ color ∈ c.color, Css.IsPlain color.toList := by
  obtain ⟨l, -, text⟩ := exists_textContent_of_survey built hn hc
  rw [(Layer.textContent_facts text).2.1]
  intro color given
  obtain ⟨fill, -, rfl⟩ := Option.map_eq_some_iff.1 given
  exact Css.isPlain_color fill

/-- The stylesheet of the texts of layers has a rule for each class, in the order of the classes.  Read line
by line, it says what the registry holds exactly if no font of a text and no color of the palette that is the
color of a text has a semicolon or a line feed. -/
theorem readStylesheet?_survey_iff {layers : Tree Layer} {parent : Option Layer} {root : Tree Node}
    (built : (survey layers parent).1 = some root) (p : Palette) :
    let tokens := TokenRegistry.ofTree p root
    tokens.contents.map Prod.fst = tokens.entries.map Prod.fst ∧
      (Css.readStylesheet? tokens.stylesheet.toList = some tokens.contents ↔
        (∀ n ∈ root.preorder, ∀ c ∈ n.text, ∀ f ∈ c.fontFamily, Css.IsPlain f.toList) ∧
          (p.textColor ∈ (Node.looks p root).map Prod.snd → Css.IsPlain p.textColor.toList)) := by
  intro tokens
  refine ⟨?_, TokenRegistry.readStylesheet?_ofTree_iff.trans ⟨fun plain => ⟨?_, ?_⟩, ?_⟩⟩
  · have keys := TokenRegistry.keys_rules_ofTree p root
    rw [TokenRegistry.contents, TokenRegistry.entries, List.map_map, List.map_map]
    exact keys
  · intro n hn c hc
    obtain ⟨color, look⟩ := Node.exists_mem_looks p hn hc
    exact (plain _ look).1
  · intro used
    obtain ⟨x, hx, color⟩ := List.mem_map.1 used
    exact color ▸ (plain x hx).2
  · rintro ⟨fonts, palette⟩ x hx
    obtain ⟨n, hn, text⟩ := Node.exists_text_of_mem_looks hx
    refine ⟨fonts n hn x.1 text, ?_⟩
    rcases Node.color_of_mem_looks hx with ⟨m, hm, c, text, color⟩ | given
    · exact isPlain_color_survey built hm text x.2 color
    · exact given ▸ palette (given ▸ List.mem_map_of_mem hx)

/-- The stylesheet of the two paragraphs, whose font has a bar in its name, is read as it is meant. -/
theorem readStylesheet?_paragraphs :
    (survey paragraphs none).1 = some paragraphNodes ∧
      let tokens := TokenRegistry.ofTree {} paragraphNodes
      tokens.contents.map Prod.fst = tokens.entries.map Prod.fst ∧
        Css.readStylesheet? tokens.stylesheet.toList = some tokens.contents := by
  have built : (survey paragraphs none).1 = some paragraphNodes := rfl
  have h := readStylesheet?_survey_iff built {}
  refine ⟨built, h.1, h.2.2 ⟨?_, fun _ => by decide⟩⟩
  have fonts : ∀ c ∈ paragraphNodes.preorder.filterMap Node.text,
      ∀ f ∈ c.fontFamily, f = "Inter|Serif" := by
    rintro c (_ | ⟨_, _ | ⟨_, ⟨⟩⟩⟩) f ⟨⟩ <;> rfl
  intro n hn c hc f hf
  rw [fonts c (List.mem_filterMap.2 ⟨n, hn, hc⟩) f hf]
  decide

/-- A text whose font has a semicolon in its name. -/
def slogan : Layer :=
  { id := "1", name := "Slogan", kind := .text, characters := some "Hi"
    style := some { fontFamily := some "Inter; color: red" } }

def sloganNode : Tree Node := .node (.ofLayer slogan none) []

/-- The rule of its class is read with another declaration than those that the registry holds. -/
theorem readStylesheet?_slogan :
    (survey (.node slogan []) none).1 = some sloganNode ∧
      let tokens := TokenRegistry.ofTree {} sloganNode
      tokens.contents = [("ts-1", [("color", "#000000"), ("font-family", "Inter; color: red")])] ∧
        Css.readStylesheet? tokens.stylesheet.toList =
          some [("ts-1", [("color", "#000000"), ("font-family", "Inter"), ("color", "red")])] :=
  ⟨rfl, by decide +kernel, by decide +kernel⟩

end DesignCode
