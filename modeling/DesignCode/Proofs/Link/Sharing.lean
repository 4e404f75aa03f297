import DesignCode.Link.Locator
import DesignCode.Proofs.Link.ApiPath
import DesignCode.Proofs.Text.Trim

/-!
# Links to designs

A design is shared by a link with its file in the path and its node in the query, with hyphens for the
colons of the node.  `Url.Web.ofText_text` reads such a link part by part, and the locator that is read off
it is the one that was shared (`Locator.parse_inverts_sharing`).
-/

namespace DesignCode

namespace Link.Url

/-! ### Characters -/

/-- Whether the character stands for itself in every part of a link. -/
def isUnreserved (c : Char) : Bool := c.isAlphanum ∨ c ∈ ['-', ';', '.', '=']

theorem ne_of_isUnreserved {c d : Char} (h : isUnreserved c = true) (hd : isUnreserved d = false) :
    c ≠ d := by
  rintro rfl
  exact absurd (h.symm.trans hd) (by decide)

/-- Whether the character stands for itself in a link or delimits its parts. -/
def isLinkChar (c : Char) : Bool := isUnreserved c ∨ c ∈ [':', '/', '?']

theorem isLinkChar_of_isUnreserved {c : Char} (h : isUnreserved c = true) : isLinkChar c = true := by
  simp [isLinkChar, h]

theorem toNat_of_isAlphanum {c : Char} (h : c.isAlphanum = true) : 0x30 ≤ c.toNat ∧ c.toNat ≤ 0x7A := by
  rcases Bool.or_eq_true_iff.1 h with letter | digit
  · rcases Bool.or_eq_true_iff.1 letter with upper | lower
    · have bounds : 65 ≤ c.toNat ∧ c.toNat ≤ 90 := of_decide_eq_true upper
      omega
    · have bounds : 97 ≤ c.toNat ∧ c.toNat ≤ 122 :=
        (Bool.and_eq_true_iff.1 lower).imp of_decide_eq_true of_decide_eq_true
      omega
  · have bounds : 48 ≤ c.toNat ∧ c.toNat ≤ 57 :=
      (Bool.and_eq_true_iff.1 digit).imp of_decide_eq_true of_decide_eq_true
    omega

theorem toNat_of_isLinkChar {c : Char} (h : isLinkChar c = true) : 0x21 ≤ c.toNat ∧ c.toNat ≤ 0x7A := by
  simp only [isLinkChar, isUnreserved, decide_eq_true_eq, List.mem_cons, List.not_mem_nil, or_false] at h
  rcases h with (alphanum | rfl | rfl | rfl | rfl) | rfl | rfl | rfl
  · have := toNat_of_isAlphanum alphanum
    omega
  all_goals decide

/-- No blank and no control character stands in a link. -/
theorem isBlank_of_isLinkChar {c : Char} (h : isLinkChar c = true) : Text.isBlank c = false := by
  have bounds := toNat_of_isLinkChar h
  simp only [Text.isBlank, decide_eq_false_iff_not]
  omega

theorem clean_of_isLinkChar {cs : List Char} (h : ∀ c ∈ cs, isLinkChar c = true) : clean cs = cs := by
  have visible : ∀ c ∈ cs, ¬ c.toNat ≤ 0x20 := by
    intro c mem
    have := toNat_of_isLinkChar (h c mem)
    omega
  have trimmed : Text.trimWhile (fun c => c.toNat ≤ 0x20) cs = cs :=
    (Text.isTrimmed_of_none fun c mem => decide_eq_false (visible c mem)).eq_trimWhile
  rw [clean, trimmed, List.filter_eq_self]
  intro c mem
  rw [decide_eq_true_iff]
  refine ⟨?_, ?_, ?_⟩
  all_goals
    rintro rfl
    exact visible _ mem (by decide)

/-! ### Paths -/

theorem plainPoints_cons {c : Char} (h : c ≠ '%') (rest : List Char) :
    plainPoints (c :: rest) = c :: plainPoints rest := by
  rw [plainPoints]
  simp [h]

/-- A segment without points and percent signs moves nowhere. -/
theorem isPoint_of_isUnreserved {s : List Char} (h : ∀ c ∈ s, isUnreserved c = true ∧ c ≠ '.') :
    isSinglePoint s = false ∧ isDoublePoint s = false := by
  cases s with
  | nil => decide
  | cons c s =>
    obtain ⟨unreserved, point⟩ := h c List.mem_cons_self
    have percent : c ≠ '%' := ne_of_isUnreserved unreserved (by decide)
    simp [isSinglePoint, isDoublePoint, plainPoints_cons percent, point]

theorem resolve_of_isUnreserved {segments : List (List Char)}
    (h : ∀ s ∈ segments, ∀ c ∈ s, isUnreserved c = true ∧ c ≠ '.') (above : List (List Char)) :
    resolve above segments = above.reverse ++ segments := by
  induction segments generalizing above with
  | nil => simp [resolve]
  | cons s segments ih =>
    rw [List.forall_mem_cons] at h
    obtain ⟨single, double⟩ := isPoint_of_isUnreserved h.1
    cases segments with
    | nil => simp [resolve, single, double]
    | cons next segments =>
      rw [resolve, single, double, if_neg (by decide), if_neg (by decide), ih h.2]
      · simp
      · exact List.cons_ne_nil next segments

/-! ### Links of hosts -/

/-- What a link of a host is written from. -/
structure Web where
  host : List Char
  segments : List (List Char)
  query : Option (List Char)

namespace Web

/-- The query of a link behind its question mark. -/
def queryText (w : Web) : List Char :=
  match w.query with
  | none => []
  | some q => '?' :: q

def text (w : Web) : List Char :=
  "https://".toList ++ (w.host ++ '/' :: (Text.joined ['/'] w.segments ++ w.queryText))

/-- A link whose parts need no escapes. -/
structure IsPlain (w : Web) : Prop where
  host : ∀ c ∈ w.host, isUnreserved c = true
  named : Host.ofText w.host = .ok (.name w.host)
  path : w.segments ≠ []
  segments : ∀ s ∈ w.segments, ∀ c ∈ s, isUnreserved c = true ∧ c ≠ '.'
  query : ∀ q ∈ w.query, ∀ c ∈ q, isUnreserved c = true

variable {w : Web}

open scoped Text.ByMember in
theorem isLinkChar_text (h : w.IsPlain) : ∀ c ∈ w.text, isLinkChar c = true := by
  have host : ∀ c ∈ w.host, isLinkChar c = true :=
    fun c mem => isLinkChar_of_isUnreserved (h.host c mem)
  have path : ∀ c ∈ Text.joined ['/'] w.segments, isLinkChar c = true :=
    Text.forall_mem_joined (by decide) fun s mem c hc =>
      isLinkChar_of_isUnreserved (h.segments s mem c hc).1
  have query : ∀ c ∈ w.queryText, isLinkChar c = true := by
    unfold queryText
    cases same : w.query with
    | none => simp
    | some q =>
      exact List.forall_mem_cons.2
        ⟨by decide, fun c mem => isLinkChar_of_isUnreserved (h.query q same c mem)⟩
  exact List.forall_mem_append.2 ⟨by decide, List.forall_mem_append.2
    ⟨host, List.forall_mem_cons.2 ⟨by decide, List.forall_mem_append.2 ⟨path, query⟩⟩⟩⟩

theorem endsPath_queryText : ∀ c ∈ w.queryText.head?, (¬ endsPath c : Bool) = false := by
  unfold queryText
  cases w.query with
  | none => simp
  | some q => exact Text.head?_cons_of (by decide) q

/-- Neither a slash nor the end of a path stands in a segment. -/
theorem IsPlain.not_delimiter (h : w.IsPlain) {s : List Char} (mem : s ∈ w.segments) :
    ∀ c ∈ s, SchemeKind.special.isSlash c = false := by
  intro c hc
  have ne (d : Char) (hd : isUnreserved d = false) : c ≠ d :=
    ne_of_isUnreserved (h.segments s mem c hc).1 hd
  simp [SchemeKind.isSlash, ne '/' (by decide), ne '\\' (by decide)]

/-- The part of a link behind its host. -/
theorem withPath_plain (h : w.IsPlain) (host : Option Host) :
    withPath .special host ('/' :: (Text.joined ['/'] w.segments ++ w.queryText)) =
      ⟨host, some w.segments, w.query.getD []⟩ := by
  have plain : ∀ c ∈ Text.joined ['/'] w.segments, (¬ endsPath c : Bool) = true := by
    refine Text.forall_mem_joined (by decide) fun s mem c hc => ?_
    have ne (d : Char) (hd : isUnreserved d = false) : c ≠ d :=
      ne_of_isUnreserved (h.segments s mem c hc).1 hd
    simp [endsPath, ne '?' (by decide), ne '#' (by decide)]
  obtain ⟨path, query⟩ := Text.cut_append plain w.queryText endsPath_queryText
  have kept : Url.segments .special (Text.joined ['/'] w.segments ++ w.queryText) = w.segments := by
    rw [Url.segments, path, Text.splitAt_joined (by decide) h.path fun s mem => h.not_delimiter mem,
      resolve_of_isUnreserved h.segments]
    rfl
  have asked : queryOf ('/' :: (Text.joined ['/'] w.segments ++ w.queryText)) = w.query.getD [] := by
    rw [queryOf, List.dropWhile_cons_of_pos (by decide), query, queryText]
    cases same : w.query with
    | none => rfl
    | some q =>
      have whole : q.takeWhile (· ≠ '#') = q := by
        rw [List.takeWhile_eq_self_iff]
        intro c mem
        simpa using ne_of_isUnreserved (h.query q same c mem) (d := '#') (by decide)
      exact whole
  rw [withPath, asked, if_pos (by decide), kept]

theorem splitHost_append {host : List Char} (h : ∀ c ∈ host, isUnreserved c = true) (rest : List Char) :
    splitHost .special false (host ++ '/' :: rest) = (host, '/' :: rest) := by
  induction host with
  | nil => rfl
  | cons c host ih =>
    obtain ⟨first, others⟩ := List.forall_mem_cons.1 h
    have ne (d : Char) (hd : isUnreserved d = false) : c ≠ d := ne_of_isUnreserved first hd
    have goes : ¬ ((c = ':' ∧ ¬ false = true) ∨ SchemeKind.special.endsAuthority c = true) := by
      simp [SchemeKind.endsAuthority, SchemeKind.isSlash, endsPath, ne ':' (by decide),
        ne '/' (by decide), ne '\\' (by decide), ne '?' (by decide), ne '#' (by decide)]
    rw [List.cons_append, splitHost, if_neg goes, if_neg (ne '[' (by decide)),
      if_neg (ne ']' (by decide))]
    dsimp only
    rw [ih others]

theorem takeUser_append {host : List Char} (h : ∀ c ∈ host, isUnreserved c = true) (rest : List Char) :
    takeUser .special (host ++ '/' :: rest) = .ok ([], host ++ '/' :: rest) := by
  have part : (host ++ '/' :: rest).takeWhile (¬ SchemeKind.special.endsAuthority ·) = host := by
    refine (Text.cut_append ?_ ('/' :: rest) (Text.head?_cons_of (by decide) rest)).1
    intro c mem
    have ne (d : Char) (hd : isUnreserved d = false) : c ≠ d := ne_of_isUnreserved (h c mem) hd
    simp [SchemeKind.endsAuthority, SchemeKind.isSlash, endsPath, ne '/' (by decide),
      ne '\\' (by decide), ne '?' (by decide), ne '#' (by decide)]
  have noUser : '@' ∉ host := fun mem => ne_of_isUnreserved (h '@' mem) (by decide) rfl
  rw [takeUser, part, if_neg noUser]

theorem IsPlain.host_ne_nil (h : w.IsPlain) : w.host ≠ [] := by
  intro none
  have named := h.named
  rw [none] at named
  cases named

/-- The name of the host and what follows it are read behind the slashes of a link. -/
theorem ofAuthority_plain (h : w.IsPlain) :
    ofAuthority .special (w.host ++ '/' :: (Text.joined ['/'] w.segments ++ w.queryText)) =
      .ok ⟨some (.name w.host), some w.segments, w.query.getD []⟩ := by
  have nameless : isNameless (.name w.host) = false := by
    obtain ⟨c, rest, same⟩ := List.exists_cons_of_ne_nil h.host_ne_nil
    rw [same]
    rfl
  have port (rest : List Char) : dropPort ('/' :: rest) = .ok ('/' :: rest) := by simp [dropPort]
  have empty : w.host.isEmpty = false := by simpa using h.host_ne_nil
  rw [ofAuthority, takeUser_append h.host]
  simp only [bind, Except.bind, splitHost_append h.host, empty, h.named, nameless]
  rw [if_pos trivial, if_neg (by decide), if_neg (by simp), port]
  dsimp only
  rw [if_neg (by simp), withPath_plain h]
  rfl

open scoped Text.ByMember in
/-- A plain link is read as what it is written from. -/
theorem ofText_text (h : w.IsPlain) :
    ofText w.text = .ok ⟨some (.name w.host), some w.segments, w.query.getD []⟩ := by
  have scheme : takeScheme w.text = some ("https".toList, '/' :: '/' :: (w.host ++ '/' ::
      (Text.joined ['/'] w.segments ++ w.queryText))) := by
    have letters : ∀ c ∈ "https".toList, isSchemeChar c = true := by decide
    obtain ⟨name, rest⟩ := Text.cut_append letters (':' :: '/' :: '/' :: (w.host ++ '/' ::
      (Text.joined ['/'] w.segments ++ w.queryText))) (Text.head?_cons_of (by decide) _)
    have written : w.text = "https".toList ++ ':' :: '/' :: '/' :: (w.host ++ '/' ::
      (Text.joined ['/'] w.segments ++ w.queryText)) := rfl
    rw [takeScheme, written, name, rest]
    rfl
  have slashes : ('/' :: '/' :: (w.host ++ '/' :: (Text.joined ['/'] w.segments ++ w.queryText))).dropWhile
        (fun c => c = '/' ∨ c = '\\') =
      w.host ++ '/' :: (Text.joined ['/'] w.segments ++ w.queryText) := by
    have slash {rest : List Char} : List.dropWhile (fun c => c = '/' ∨ c = '\\') ('/' :: rest) =
        rest.dropWhile fun c => c = '/' ∨ c = '\\' := rfl
    obtain ⟨c, host, same⟩ := List.exists_cons_of_ne_nil h.host_ne_nil
    have unreserved := h.host c (by rw [same]; exact List.mem_cons_self)
    have ne (d : Char) (hd : isUnreserved d = false) : c ≠ d := ne_of_isUnreserved unreserved hd
    rw [slash, slash, same, List.cons_append, List.dropWhile_cons_of_neg]
    simp [ne '/' (by decide), ne '\\' (by decide)]
  have kind : SchemeKind.ofName "https".toList = .special := by decide
  rw [ofText, clean_of_isLinkChar (isLinkChar_text h), scheme]
  dsimp only
  rw [kind]
  dsimp only
  rw [slashes, ofAuthority_plain h]

end Web

end Link.Url

/-! ### Locators -/

namespace Locator

open Link

/-- Hyphens stand for the colons of a node in a link. -/
def hyphened (c : Char) : Char := if c = ':' then '-' else c

/-- The link by which a design is shared from a host, with a title behind its file. -/
def shared (host word title : String) (l : Locator) : String :=
  "https://" ++ host ++ "/" ++ word ++ "/" ++ l.fileId ++ "/" ++ title ++
    match l.nodeId with
    | none => ""
    | some id => "?node-id=" ++ String.ofList (id.toList.map hyphened)

/-- A node id is made of groups with colons between them. -/
def IsNodeId (id : List Char) : Prop :=
  ∃ groups : List (List Char), groups ≠ [] ∧
    (∀ g ∈ groups, g ≠ [] ∧ ∀ c ∈ g, c.isAlphanum = true ∨ c = ';') ∧ id = Text.joined [':'] groups

/-- A locator that a link can be made for. -/
structure IsShareable (l : Locator) : Prop where
  fileId : l.fileId ≠ "" ∧ ∀ c ∈ l.fileId.toList, c.isAlphanum = true
  nodeId : ∀ id ∈ l.nodeId, IsNodeId id.toList

/-- A locator that a link may give. -/
structure IsRead (l : Locator) : Prop where
  fileId : l.fileId ≠ "" ∧ ∀ c ∈ l.fileId.toList, c.isAlphanum = true
  nodeId : ∀ id ∈ l.nodeId, id ≠ "" ∧ '-' ∉ id.toList

/-! ### Nodes -/

theorem IsNodeId.mem {id : List Char} (h : IsNodeId id) :
    ∀ c ∈ id, (c.isAlphanum = true ∨ c = ';') ∨ c = ':' := by
  obtain ⟨groups, -, parts, rfl⟩ := h
  exact Text.forall_mem_joined (.inr rfl) fun g mem c hc => .inl ((parts g mem).2 c hc)

theorem IsNodeId.ne_nil {id : List Char} (h : IsNodeId id) : id ≠ [] := by
  obtain ⟨groups, ne, parts, rfl⟩ := h
  obtain ⟨g, groups, rfl⟩ := List.exists_cons_of_ne_nil ne
  obtain ⟨c, g, rfl⟩ := List.exists_cons_of_ne_nil (parts g List.mem_cons_self).1
  cases groups with
  | nil => simp
  | cons next groups => simp [Text.joined_cons_cons]

theorem IsNodeId.isUnreserved_hyphened {id : List Char} (h : IsNodeId id) :
    ∀ c ∈ id.map hyphened, Url.isUnreserved c = true := by
  rw [List.forall_mem_map]
  intro c mem
  unfold hyphened
  split_ifs with colon
  · decide
  · rcases h.mem c mem with (alphanum | rfl) | same
    · simp [Url.isUnreserved, alphanum]
    · decide
    · contradiction

/-- A text without signs for other characters is read as it is. -/
theorem formDecode_of_isUnreserved {cs : List Char} (h : ∀ c ∈ cs, Url.isUnreserved c = true) :
    formDecode cs = cs := by
  have none {d : Char} (hd : Url.isUnreserved d = false) : d ∉ cs :=
    fun mem => Url.ne_of_isUnreserved (h d mem) hd rfl
  have noPercent : ¬ HasPercent cs := by
    rintro ⟨rest, suffix, -⟩
    exact none (by decide) (suffix.subset List.mem_cons_self)
  have colons : cs.flatMap escapedColon = cs := by
    conv_rhs => rw [← List.flatMap_singleton' cs]
    refine List.flatMap_congr fun c mem => ?_
    exact escapedColon_of_ne (Url.ne_of_isUnreserved (h c mem) (by decide))
  have read := (formDecode_colons_eq_iff cs).2 ⟨none (by decide), noPercent⟩
  rwa [colons] at read

open scoped Text.ByMember in
/-- The hyphens of a node in a link are read as its colons. -/
theorem nodeOf_hyphened {id : List Char} (h : IsNodeId id) :
    nodeOf ("node-id=".toList ++ id.map hyphened) = some (String.ofList id) := by
  have unreserved := h.isUnreserved_hyphened
  have noAmpersand : ∀ c ∈ "node-id=".toList ++ id.map hyphened, decide (c = '&') = false := by
    refine List.forall_mem_append.2 ⟨by decide, fun c mem => ?_⟩
    exact decide_eq_false (Url.ne_of_isUnreserved (unreserved c mem) (by decide))
  have name (cs : List Char) :
      Query.pair ("node-id=".toList ++ cs) = ("node-id".toList, formDecode cs) := rfl
  have value : Query.value? "node-id".toList ("node-id=".toList ++ id.map hyphened) =
      some (id.map hyphened) := by
    rw [Query.value?, Query.pairs, Text.splitAt_of_none noAmpersand, List.filter_cons_of_pos rfl,
      List.filter_nil, List.map_singleton, name, formDecode_of_isUnreserved unreserved]
    simp
  have colons : (id.map hyphened).map (fun c => if c = '-' then ':' else c) = id := by
    rw [List.map_map]
    conv_rhs => rw [← List.map_id id]
    refine List.map_congr_left fun c mem => ?_
    rcases h.mem c mem with other | rfl
    · have hyphen : c ≠ '-' := by
        rintro rfl
        exact absurd other (by decide)
      have colon : c ≠ ':' := by
        rintro rfl
        exact absurd other (by decide)
      simp [hyphened, hyphen, colon]
    · rfl
  obtain ⟨c, rest, same⟩ := List.exists_cons_of_ne_nil h.ne_nil
  rw [nodeOf, value]
  rw [same, List.map_cons] at colons ⊢
  dsimp only
  rw [colons]

/-! ### Links -/

theorem trim_blanks {before after cs : List Char} (hb : ∀ c ∈ before, Text.isBlank c = true)
    (ha : ∀ c ∈ after, Text.isBlank c = true) (h : ∀ c ∈ cs, Text.isBlank c = false) :
    Text.trim (before ++ (cs ++ after)) = cs :=
  Text.IsTrimmed.eq_trimWhile
    { around := ⟨before, after, rfl, hb, ha⟩
      first := fun c mem => h c (List.mem_of_mem_head? mem)
      last := fun c mem => h c (List.mem_of_mem_getLast? mem) }

/-- The parts of the link by which a design is shared. -/
def web (host word title : String) (l : Locator) : Url.Web where
  host := host.toList
  segments := [word.toList, l.fileId.toList, title.toList]
  query := l.nodeId.map fun id => "node-id=".toList ++ id.toList.map hyphened

section Shared

variable {host word title : String} {l : Locator}

/-- The parts of a link, with names for the fixed ones so that no proof looks into them. -/
theorem toList_parts {scheme slash : String} (h : slash.toList = ['/'])
    (host word fileId title query : String) :
    (scheme ++ host ++ slash ++ word ++ slash ++ fileId ++ slash ++ title ++ query).toList =
      scheme.toList ++ (host.toList ++ '/' ::
        (Text.joined ['/'] [word.toList, fileId.toList, title.toList] ++ query.toList)) := by
  simp [h, Text.joined_cons_cons]

theorem toList_shared (host word title : String) (l : Locator) :
    (shared host word title l).toList = (web host word title l).text := by
  have query : (web host word title l).queryText = (match l.nodeId with
      | none => ""
      | some id => "?node-id=" ++ String.ofList (id.toList.map hyphened)).toList := by
    unfold web Url.Web.queryText
    cases l.nodeId with
    | none => rfl
    | some id =>
      simp only [String.toList_append, String.toList_ofList]
      rfl
  refine (toList_parts rfl host word l.fileId title _).trans ?_
  rw [← query]
  rfl

open scoped Text.ByMember in
theorem isPlain_web (hostName : host ∈ ["figma.com", "www.figma.com"])
    (fileWord : word ∈ ["file", "design"])
    (titled : ∀ c ∈ title.toList, c.isAlphanum = true ∨ c = '-') (shareable : l.IsShareable) :
    (web host word title l).IsPlain := by
  have alphanum {c : Char} (h : c.isAlphanum = true) : Url.isUnreserved c = true ∧ c ≠ '.' := by
    refine ⟨by simp [Url.isUnreserved, h], ?_⟩
    rintro rfl
    exact absurd h (by decide)
  have titleChar : ∀ c ∈ title.toList, Url.isUnreserved c = true ∧ c ≠ '.' := by
    intro c mem
    rcases titled c mem with letter | rfl
    · exact alphanum letter
    · decide
  have wordChar : ∀ c ∈ word.toList, Url.isUnreserved c = true ∧ c ≠ '.' := by
    simp only [List.mem_cons, List.not_mem_nil, or_false] at fileWord
    rcases fileWord with rfl | rfl <;> decide
  simp only [List.mem_cons, List.not_mem_nil, or_false] at hostName
  refine ⟨?_, ?_, List.cons_ne_nil _ _, ?_, ?_⟩
  · show ∀ c ∈ host.toList, Url.isUnreserved c = true
    rcases hostName with rfl | rfl <;> decide
  · rcases hostName with rfl | rfl <;> rfl
  · simp only [web, List.forall_mem_cons, List.not_mem_nil, IsEmpty.forall_iff, implies_true, and_true]
    exact ⟨wordChar, fun c mem => alphanum (shareable.fileId.2 c mem), titleChar⟩
  · intro q mem
    obtain ⟨id, given, rfl⟩ := Option.map_eq_some_iff.1 mem
    exact List.forall_mem_append.2 ⟨by decide, (shareable.nodeId id given).isUnreserved_hyphened⟩

/-- The locator that was shared is read off its link, which may stand between blanks. -/
theorem parse_shared (hostName : host ∈ ["figma.com", "www.figma.com"])
    (fileWord : word ∈ ["file", "design"])
    (titled : ∀ c ∈ title.toList, c.isAlphanum = true ∨ c = '-') (shareable : l.IsShareable)
    {before after : String} (blankBefore : ∀ c ∈ before.toList, Text.isBlank c = true)
    (blankAfter : ∀ c ∈ after.toList, Text.isBlank c = true) :
    parse (before ++ shared host word title l ++ after) = .ok l := by
  have plain := isPlain_web hostName fileWord titled shareable
  have trimmed : Text.trim (before ++ shared host word title l ++ after).toList =
      (web host word title l).text := by
    rw [String.toList_append, String.toList_append, List.append_assoc, toList_shared]
    exact trim_blanks blankBefore blankAfter fun c mem =>
      Url.isBlank_of_isLinkChar (Url.Web.isLinkChar_text plain c mem)
  have isHost : isDesignHost (.name host.toList) = true := by
    simp only [List.mem_cons, List.not_mem_nil, or_false] at hostName
    rcases hostName with rfl | rfl <;> decide
  have isWord : isFileWord word.toList = true := by
    simpa [isFileWord] using fileWord
  have isFile : isFileId l.fileId.toList = true := by
    simpa [isFileId] using shareable.fileId
  have node : nodeOf ((web host word title l).query.getD []) = l.nodeId := by
    unfold web
    cases given : l.nodeId with
    | none => rfl
    | some id =>
      have read := nodeOf_hyphened (shareable.nodeId id given)
      rwa [String.ofList_toList] at read
  have path : (web host word title l).segments = [word.toList, l.fileId.toList, title.toList] := rfl
  have named : (web host word title l).host = host.toList := rfl
  rw [parse, trimmed, Url.Web.ofText_text plain]
  simp only [node, path, named, Option.any_some, isHost, Option.getD_some, isWord, isFile, if_true,
    String.ofList_toList]

end Shared

/-- The node of any query is written without hyphens. -/
theorem isRead_nodeOf {query : List Char} {id : String} (h : nodeOf query = some id) :
    id ≠ "" ∧ '-' ∉ id.toList := by
  unfold nodeOf at h
  split at h
  · cases h
  · cases h
  · next cs ne _ =>
    obtain rfl := Option.some.inj h
    rw [String.toList_ofList]
    constructor
    · intro none
      have empty := congrArg String.toList none
      rw [String.toList_ofList] at empty
      exact ne (List.map_eq_nil_iff.1 empty)
    · intro mem
      obtain ⟨c, -, made⟩ := List.mem_map.1 mem
      split_ifs at made with hyphen
      · exact absurd made (by decide)
      · exact hyphen made

/-- What is read as a link to a design gives a file of letters and digits and a node without hyphens. -/
theorem isRead_of_parse {input : String} {l : Locator} (h : parse input = .ok l) : l.IsRead := by
  unfold parse at h
  repeat' split at h
  all_goals cases h
  next isId =>
    simp only [isFileId, decide_eq_true_eq, List.all_eq_true] at isId
    refine ⟨⟨?_, ?_⟩, fun id mem => isRead_nodeOf mem⟩
    · intro none
      have empty := congrArg String.toList none
      rw [String.toList_ofList] at empty
      exact isId.1 empty
    · rw [String.toList_ofList]
      exact isId.2

/-- A reader of links undoes sharing. -/
structure InvertsSharing (read : String → Except LocatorFault Locator) : Prop where
  /-- The locator of a link is the one that the link was made for, whatever blanks are around it. -/
  shared : ∀ (host word title before after : String) (l : Locator),
    host ∈ ["figma.com", "www.figma.com"] → word ∈ ["file", "design"] →
    (∀ c ∈ title.toList, c.isAlphanum = true ∨ c = '-') → l.IsShareable →
    (∀ c ∈ before.toList, Text.isBlank c = true) → (∀ c ∈ after.toList, Text.isBlank c = true) →
    read (before ++ shared host word title l ++ after) = .ok l
  /-- Whatever is read as a link gives a file of letters and digits and a node without hyphens. -/
  isRead : ∀ input l, read input = .ok l → l.IsRead

theorem parse_inverts_sharing : InvertsSharing parse where
  shared _ _ _ _ _ _ host word title shareable before after :=
    parse_shared host word title shareable before after
  isRead _ _ := isRead_of_parse

open scoped Text.ByMember in
/-- A link to a node between a line feed and a space. -/
theorem parse_sharedNode :
    parse "\nhttps://www.figma.com/design/Key42/Landing-Page?node-id=I12-34;5-6 " =
      .ok ⟨"Key42", some "I12:34;5:6"⟩ := by
  have node : IsNodeId "I12:34;5:6".toList :=
    ⟨["I12".toList, "34;5".toList, "6".toList], by decide, by decide, by decide⟩
  have shareable : IsShareable ⟨"Key42", some "I12:34;5:6"⟩ :=
    ⟨⟨by decide, by decide⟩, fun id given => Option.some.inj given ▸ node⟩
  have read := parse_inverts_sharing.shared "www.figma.com" "design" "Landing-Page" "\n" " " _ (by decide)
    (by decide) (by decide) shareable (by decide) (by decide)
  have link : "\n" ++ shared "www.figma.com" "design" "Landing-Page"
        ⟨"Key42", some "I12:34;5:6"⟩ ++ " " =
      "\nhttps://www.figma.com/design/Key42/Landing-Page?node-id=I12-34;5-6 " := by decide
  rwa [link] at read

end Locator

end DesignCode
