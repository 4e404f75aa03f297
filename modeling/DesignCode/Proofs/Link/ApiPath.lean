import DesignCode.Link.Locator
import DesignCode.Proofs.Link.Percent
import DesignCode.Proofs.Text.Lines

/-!
# Which node a path asks for

The path of a locator has its node in a query, with each colon written as an escape.  The query is read
as the one pair of `ids` and that node exactly if nothing else in the node has a meaning in a query
(`Locator.apiPath_asks_iff`).
-/

namespace DesignCode

open Link

/-! ### Colons -/

theorem escapedColon_of_ne {c : Char} (h : c ≠ ':') : Locator.escapedColon c = [c] := if_neg h

/-- A text with escaped colons begins with a digit only if the text does. -/
theorem exists_cons_of_colons {cs rest : List Char} {x : Char}
    (text : cs.flatMap Locator.escapedColon = x :: rest) (hx : (Json.hexValue x).isSome = true) :
    ∃ ds, cs = x :: ds ∧ ds.flatMap Locator.escapedColon = rest := by
  cases cs with
  | nil => cases text
  | cons c cs =>
    rw [List.flatMap_cons] at text
    by_cases colon : c = ':'
    · subst colon
      obtain ⟨rfl, -⟩ := List.cons.inj text
      cases hx
    · rw [escapedColon_of_ne colon, List.singleton_append] at text
      obtain ⟨rfl, others⟩ := List.cons.inj text
      exact ⟨cs, rfl, others⟩

theorem startsHex_of_colons {cs : List Char} (h : StartsHex (cs.flatMap Locator.escapedColon)) :
    StartsHex cs := by
  obtain ⟨x, y, rest, text, hx, hy⟩ := h
  obtain ⟨ds, rfl, others⟩ := exists_cons_of_colons text hx
  obtain ⟨ds, rfl, -⟩ := exists_cons_of_colons others hy
  exact ⟨x, y, ds, rfl, hx, hy⟩

/-- Escaped colons stand for the bytes of colons. -/
theorem bytes_chunks_colons (cs : List Char) :
    (chunks (cs.flatMap Locator.escapedColon)).flatMap Chunk.bytes =
      (chunks cs).flatMap Chunk.bytes := by
  induction cs using chunkInduct with
  | nil => rfl
  | plain c cs plain ih =>
    rw [List.flatMap_cons, chunks_plain plain, List.flatMap_cons, ← ih]
    by_cases colon : c = ':'
    · subst colon
      have escape : chunks ('%' :: '3' :: 'A' :: cs.flatMap Locator.escapedColon) =
          .byte (.ofNat (3 * 16 + 10)) :: chunks (cs.flatMap Locator.escapedColon) :=
        chunks_escape rfl rfl _
      rw [Locator.escapedColon, if_pos rfl]
      simp only [List.cons_append, List.nil_append]
      rw [escape, List.flatMap_cons]
      rfl
    · rw [escapedColon_of_ne colon, List.singleton_append, chunks_plain, List.flatMap_cons]
      exact fun percent starts => plain percent (startsHex_of_colons starts)
  | escape x y a b rest hx hy ih =>
    have digit {c : Char} {n : Nat} (h : Json.hexValue c = some n) : c ≠ ':' := by
      rintro rfl
      cases h
    have sign : '%' ≠ ':' := by decide
    rw [List.flatMap_cons, List.flatMap_cons, List.flatMap_cons, escapedColon_of_ne sign,
      escapedColon_of_ne (digit hx), escapedColon_of_ne (digit hy)]
    simp only [List.cons_append, List.nil_append]
    rw [chunks_escape hx hy, chunks_escape hx hy, List.flatMap_cons, List.flatMap_cons, ih]

/-! ### Values -/

/-- A plus sign is read as a space. -/
def plusAsSpace (c : Char) : Char := if c = '+' then ' ' else c

theorem map_plusAsSpace_colons (cs : List Char) :
    (cs.flatMap Locator.escapedColon).map plusAsSpace =
      (cs.map plusAsSpace).flatMap Locator.escapedColon := by
  rw [List.map_flatMap, List.flatMap_map]
  refine List.flatMap_congr fun c _ => ?_
  by_cases colon : c = ':'
  · subst colon
    rfl
  · have other : plusAsSpace c ≠ ':' := by
      unfold plusAsSpace
      split_ifs
      · decide
      · exact colon
    rw [escapedColon_of_ne colon, escapedColon_of_ne other, List.map_singleton]

theorem map_plusAsSpace_eq_iff (cs : List Char) : cs.map plusAsSpace = cs ↔ '+' ∉ cs := by
  constructor
  · intro same plus
    rw [← same, List.mem_map] at plus
    obtain ⟨c, -, made⟩ := plus
    unfold plusAsSpace at made
    split_ifs at made
    · cases made
    · contradiction
  · intro none
    conv_rhs => rw [← List.map_id cs]
    refine List.map_congr_left fun c mem => ?_
    exact if_neg (ne_of_mem_of_not_mem mem none)

theorem formDecode_colons (cs : List Char) :
    formDecode (cs.flatMap Locator.escapedColon) =
      (decodeFrom none ((chunks (cs.map plusAsSpace)).flatMap Chunk.bytes)).map (·.getD '\uFFFD') := by
  have plus : (cs.flatMap Locator.escapedColon).map (fun c => if c = '+' then ' ' else c) =
      (cs.map plusAsSpace).flatMap Locator.escapedColon := map_plusAsSpace_colons cs
  rw [formDecode, plus, percentDecode_encodeUtf8, bytes_chunks_colons]
  rfl

theorem length_formDecode_colons_le (cs : List Char) :
    (formDecode (cs.flatMap Locator.escapedColon)).length ≤
      (chunks (cs.map plusAsSpace)).length := by
  have bound := length_decodeFrom_chunks_le isOpen_none (chunks (cs.map plusAsSpace))
  have none : (gap none).length = 0 := rfl
  rw [formDecode_colons, List.length_map]
  omega

/-- A value with escaped colons is read back exactly if it has neither a plus sign nor a percent sign
with two digits. -/
theorem formDecode_colons_eq_iff (cs : List Char) :
    formDecode (cs.flatMap Locator.escapedColon) = cs ↔ '+' ∉ cs ∧ ¬ HasPercent cs := by
  rcases chunks_cases (cs.map plusAsSpace) with ⟨plain, whole⟩ | ⟨percent, fewer⟩
  · have read : formDecode (cs.flatMap Locator.escapedColon) = cs.map plusAsSpace := by
      have bytes (ds : List Char) : (ds.map Chunk.char).flatMap Chunk.bytes = encodeUtf8 ds := by
        rw [List.flatMap_map]
        rfl
      rw [formDecode_colons, whole, bytes, decodeFrom_encodeUtf8, List.map_map]
      exact List.map_id _
    rw [read, map_plusAsSpace_eq_iff]
    refine (and_iff_left_of_imp fun none => ?_).symm
    rwa [← (map_plusAsSpace_eq_iff cs).2 none]
  · rw [List.length_map] at fewer
    have short := length_formDecode_colons_le cs
    refine iff_of_false (fun same => ?_) (fun h => ?_)
    · rw [same] at short
      omega
    · rw [(map_plusAsSpace_eq_iff cs).2 h.1] at percent
      exact h.2 percent

namespace Locator

/-! ### Paths -/

/-- The part of a path before its query. -/
def beforeQuery (cs : List Char) : List Char := cs.takeWhile (· ≠ '?')

/-- The query behind a path. -/
def queryBehind (cs : List Char) : List Char := (cs.dropWhile (· ≠ '?')).drop 1

/-- A node that keeps its meaning in a query although only its colons are escaped. -/
structure IsPlain (id : List Char) : Prop where
  noAmpersand : '&' ∉ id
  noPlus : '+' ∉ id
  noPercent : ¬ HasPercent id

/-- A located file has letters and digits in its id only. -/
theorem isAlphanum_of_parse {input : String} {l : Locator} (h : parse input = .ok l) :
    ∀ c ∈ l.fileId.toList, c.isAlphanum = true := by
  unfold parse at h
  repeat' split at h
  all_goals cases h
  next isId =>
    rw [String.toList_ofList]
    simp only [isFileId, decide_eq_true_eq, List.all_eq_true] at isId
    exact isId.2

theorem mem_flatMap_escapedColon {c : Char} (h : c ∉ [':', '%', '3', 'A']) (cs : List Char) :
    c ∈ cs.flatMap escapedColon ↔ c ∈ cs := by
  simp only [List.mem_cons, List.not_mem_nil, or_false, not_or] at h
  obtain ⟨colon, percent, three, a⟩ := h
  rw [List.mem_flatMap]
  constructor
  · rintro ⟨d, mem, made⟩
    by_cases other : d = ':'
    · subst other
      simp [escapedColon, percent, three, a] at made
    · rw [escapedColon_of_ne other, List.mem_singleton] at made
      rwa [made]
  · intro mem
    exact ⟨c, mem, by rw [escapedColon_of_ne colon]; exact List.mem_singleton_self c⟩

/-- The query for a node is the one pair of `ids` and the node exactly if the node is plain. -/
theorem pairs_colons_eq_iff (id : List Char) :
    Query.pairs ("ids=".toList ++ id.flatMap escapedColon) = [("ids".toList, id)] ↔ IsPlain id := by
  have name (cs : List Char) : Query.pair ("ids=".toList ++ cs) = ("ids".toList, formDecode cs) := rfl
  have noAmpersand {cs : List Char} (h : '&' ∉ cs) :
      ∀ c ∈ "ids=".toList ++ cs.flatMap escapedColon, decide (c = '&') = false := by
    intro c mem
    rw [decide_eq_false_iff_not]
    rintro rfl
    rcases List.mem_append.1 mem with mem | mem
    · exact absurd mem (by decide)
    · exact h ((mem_flatMap_escapedColon (by decide) cs).1 mem)
  by_cases ampersand : '&' ∈ id
  · refine iff_of_false (fun read => ?_) (fun plain => plain.noAmpersand ampersand)
    -- the first pair has what stands before the sign, and too few characters for the node
    obtain ⟨before, after, rfl, none⟩ := List.eq_append_cons_of_mem ampersand
    have short := length_formDecode_colons_le before
    have chunks := length_chunks_le (before.map plusAsSpace)
    have cut : (before ++ '&' :: after).flatMap escapedColon =
        before.flatMap escapedColon ++ '&' :: after.flatMap escapedColon := by
      rw [List.flatMap_append, List.flatMap_cons]
      rfl
    rw [cut, ← List.append_assoc, Query.pairs,
      Text.splitAt_append_cons (noAmpersand none) (decide_eq_true rfl), List.filter_cons_of_pos rfl,
      List.map_cons, name] at read
    have whole := (Prod.mk.inj (List.cons.inj read).1).2
    rw [whole, List.length_append, List.length_cons] at short
    rw [List.length_map] at chunks
    omega
  · have alone : Query.pairs ("ids=".toList ++ id.flatMap escapedColon) =
        [("ids".toList, formDecode (id.flatMap escapedColon))] := by
      rw [Query.pairs, Text.splitAt_of_none (noAmpersand ampersand), List.filter_cons_of_pos rfl,
        List.filter_nil, List.map_singleton, name]
    rw [alone, List.singleton_inj, Prod.mk.injEq, and_iff_right rfl, formDecode_colons_eq_iff]
    exact ⟨fun h => ⟨ampersand, h.1, h.2⟩, fun h => ⟨h.noPlus, h.noPercent⟩⟩

/-- The locator of a link asks for its file, or for the nodes of its file with a query.  That query has
the one pair of `ids` and the located node exactly if the node is plain. -/
theorem apiPath_asks_iff {input : String} {l : Locator} (h : parse input = .ok l) :
    match l.nodeId with
    | none => l.apiPath = "files/" ++ l.fileId
    | some id =>
      beforeQuery l.apiPath.toList = ("files/" ++ l.fileId ++ "/nodes").toList ∧
        (Query.pairs (queryBehind l.apiPath.toList) = [("ids".toList, id.toList)] ↔
          IsPlain id.toList) := by
  have isId := isAlphanum_of_parse h
  obtain ⟨fileId, nodeId⟩ := l
  cases nodeId with
  | none => rfl
  | some id =>
    have path : apiPath ⟨fileId, some id⟩ =
        "files/" ++ fileId ++ "/nodes?ids=" ++ String.ofList (id.toList.flatMap escapedColon) := rfl
    have parts : (apiPath ⟨fileId, some id⟩).toList = ("files/" ++ fileId ++ "/nodes").toList ++
        '?' :: ("ids=".toList ++ id.toList.flatMap escapedColon) := by
      simp [path]
    have noQuery : ∀ c ∈ ("files/" ++ fileId ++ "/nodes").toList, decide (c ≠ '?') = true := by
      intro c mem
      rw [decide_eq_true_iff]
      rintro rfl
      rw [String.toList_append, String.toList_append, List.mem_append, List.mem_append] at mem
      rcases mem with (mem | mem) | mem
      · exact absurd mem (by decide)
      · exact absurd (isId '?' mem) (by decide)
      · exact absurd mem (by decide)
    obtain ⟨before, behind⟩ := Text.cut_append noQuery
      ('?' :: ("ids=".toList ++ id.toList.flatMap escapedColon)) (Text.head?_cons_of (by decide) _)
    dsimp only
    rw [beforeQuery, queryBehind, parts, before, behind, List.drop_one, List.tail_cons]
    exact ⟨rfl, pairs_colons_eq_iff id.toList⟩

/-- A link to a node asks for that node. -/
theorem apiPath_asks_sharedNode :
    parse "https://www.figma.com/design/Key42/Card?node-id=12-34" = .ok ⟨"Key42", some "12:34"⟩ ∧
      Query.pairs (queryBehind (apiPath ⟨"Key42", some "12:34"⟩).toList) =
        [("ids".toList, "12:34".toList)] := by
  have parsed : parse "https://www.figma.com/design/Key42/Card?node-id=12-34" =
      .ok ⟨"Key42", some "12:34"⟩ := rfl
  have noPercent : ¬ HasPercent "12:34".toList := by
    rintro ⟨rest, suffix, -⟩
    exact absurd (suffix.subset List.mem_cons_self) (by decide)
  exact ⟨parsed, (apiPath_asks_iff parsed).2.2 ⟨by decide, by decide, noPercent⟩⟩

/-- A node whose id has an ampersand is taken for two pairs, and another node is asked for. -/
theorem ampersandNode_not_asked :
    ¬ ∀ input l id, parse input = .ok l → l.nodeId = some id →
      Query.pairs (queryBehind l.apiPath.toList) = [("ids".toList, id.toList)] := by
  intro asks
  have asked := asks "https://figma.com/file/abc?node-id=1%262" ⟨"abc", some "1&2"⟩ "1&2" rfl rfl
  revert asked
  decide

end Locator

end DesignCode
