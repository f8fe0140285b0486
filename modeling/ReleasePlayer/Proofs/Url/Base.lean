/-
This file says what the URLs look like below which streams are served. A URL of the web names a server
and splits its path into segments, whatever text it was read from. Once its path is closed, a directory
that is joined to it comes behind its path, and a text that is pushed becomes one more segment unless
it is made of dots: no other text is encoded into one of the spellings of dots.
-/

import ReleasePlayer.Proofs.Url.Marks

namespace ReleasePlayer.Url

/-! ### Schemes of the web -/

section Web

variable {scheme : List Char}

theorem isFile_of_isWeb (web : isWeb scheme = true) : isFile scheme = false := by
  obtain ⟨name, member, same⟩ := List.any_eq_true.mp web
  rw [of_decide_eq_true same]
  clear same web
  revert name
  decide

theorem isSpecial_of_isWeb (web : isWeb scheme = true) : isSpecial scheme = true := by
  unfold isSpecial
  rw [web, Bool.or_true]

theorem not_mem_scheme (web : isWeb scheme = true) {sign : Char} (mark : IsMark sign) :
    sign ∉ scheme := by
  obtain ⟨name, member, same⟩ := List.any_eq_true.mp web
  rw [of_decide_eq_true same]
  clear same web
  revert name
  rcases mark with rfl | rfl <;> decide

end Web

/-! ### Reading URLs of the web -/

/-- A URL of the web: it names a server, and its path is split into segments. Neither of them holds a
mark. -/
structure IsServed (url : Url) (authority : Authority) (segments : List (List Char)) : Prop where
  web : isWeb url.scheme = true
  server : url.authority = some authority
  path : url.path = .segments segments
  unmarked : ∀ sign, IsMark sign → sign ∉ authority.text ∧ IsFree sign segments

theorem readFromAuthority_eq {scheme : List Char} {cut : Cut} {url : Url}
    (read : readFromAuthority scheme cut = .ok url) :
    ∃ text isAtEnd authority behind path,
      readAuthority scheme text isAtEnd = .ok (authority, behind) ∧
        (path = [[]] ∨ path = [] ∨ ∃ text, path = readPath scheme [] text) ∧
          url = assemble scheme (some authority) (.segments path) cut := by
  unfold readFromAuthority at read
  simp only [bind, Except.bind, pure, Except.pure] at read
  split at read
  · cases read
  · rename_i answer outcome
    refine ⟨_, _, answer.1, answer.2, _, outcome, ?_, (Except.ok.inj read).symm⟩
    split
    · split
      · exact Or.inl rfl
      · exact Or.inr (Or.inl rfl)
    · exact Or.inr (Or.inr ⟨_, rfl⟩)

theorem isServed_of_readFromAuthority {scheme : List Char} (web : isWeb scheme = true) {cut : Cut}
    {url : Url} (read : readFromAuthority scheme cut = .ok url) :
    ∃ authority path, url.IsServed authority path := by
  obtain ⟨text, isAtEnd, authority, behind, path, ofAuthority, ofPath, rfl⟩ :=
    readFromAuthority_eq read
  refine ⟨authority, path, web, rfl, rfl, fun sign mark => ⟨?_, ?_⟩⟩
  · exact not_mem_authority mark (isSpecial_of_isWeb web) ofAuthority
  · rcases ofPath with rfl | rfl | ⟨text, rfl⟩
    · exact isFree_singleton List.not_mem_nil
    · exact fun _ member => absurd member List.not_mem_nil
    · exact isFree_readPath mark (isFile_of_isWeb web) text

theorem scheme_of_resolveFile {cut : Cut} {url : Url} (read : resolveFile none cut = .ok url) :
    url.scheme = "file".toList := by
  unfold resolveFile at read
  dsimp only at read
  cases file : readFile none cut.head with
  | error fault =>
    rw [file] at read
    cases read
  | ok answer =>
    rw [file] at read
    obtain rfl := Except.ok.inj read
    rfl

/-- Whatever text a URL of the web was read from, it is read from its authority on. -/
theorem isServed_of_parse {text : String} {url : Url} (read : parse text = .ok url)
    (web : isWeb url.scheme = true) : ∃ authority path, url.IsServed authority path := by
  unfold parse resolve at read
  dsimp only at read
  split at read
  · rename_i scheme rest _
    unfold resolveScheme at read
    rw [Option.filter_none, Option.filter_none] at read
    split at read
    · rw [scheme_of_resolveFile read] at web
      cases web
    · split at read
      · rename_i webScheme
        exact isServed_of_readFromAuthority webScheme read
      · rename_i otherScheme
        have unlike (same : url.scheme = scheme) : False := otherScheme (same ▸ web)
        split at read
        · obtain ⟨_, _, _, _, _, -, -, rfl⟩ := readFromAuthority_eq read
          exact (unlike rfl).elim
        · obtain rfl := Except.ok.inj read
          exact (unlike rfl).elim
        · obtain rfl := Except.ok.inj read
          exact (unlike rfl).elim
  · cases read

/-- A URL of the web, once closed, has an empty segment at the end of its path. -/
theorem isServed_closed {text : String} {url : Url} (read : parse text = .ok url)
    (web : isWeb url.closed.scheme = true) :
    ∃ authority segments, url.closed.IsServed authority (segments ++ [[]]) := by
  have same : url.closed.scheme = url.scheme ∧ url.closed.authority = url.authority := by
    unfold closed
    split <;> exact ⟨rfl, rfl⟩
  obtain ⟨authority, path, served⟩ := isServed_of_parse read (same.1 ▸ web)
  have closes : url.closed.path =
      .segments (if path.getLast? = some [] then path else path ++ [[]]) := by
    unfold closed
    rw [served.path]
  by_cases ends : path.getLast? = some []
  · obtain ⟨segments, rfl⟩ := List.getLast?_eq_some_iff.mp ends
    rw [if_pos ends] at closes
    exact ⟨authority, segments, web, same.2.trans served.server, closes, served.unmarked⟩
  · rw [if_neg ends] at closes
    refine ⟨authority, path, web, same.2.trans served.server, closes, fun sign mark => ?_⟩
    obtain ⟨server, free⟩ := served.unmarked sign mark
    exact ⟨server, free.append (isFree_singleton List.not_mem_nil)⟩

/-! ### Directories -/

theorem parent_closed {scheme : List Char} (web : isWeb scheme = true)
    (segments : List (List Char)) : parent scheme (segments ++ [[]]) = segments := by
  unfold parent
  rw [isFile_of_isWeb web]
  split
  · rename_i drive alone
    obtain rfl : segments = [] := by
      cases segments with
      | nil => rfl
      | cons first more => cases more <;> cases alone
    rw [if_neg fun both => Bool.false_ne_true both.1]
  · exact List.dropLast_concat

/-- A segment that is not one of dots comes behind a path of the web. -/
theorem addSegment_of_isWeb {scheme segment : List Char} (web : isWeb scheme = true)
    (notDouble : isDoubleDot segment = false) (notDot : isDot segment = false)
    (path : List (List Char)) (isLast : Bool) :
    addSegment scheme path segment isLast = path ++ [segment] := by
  unfold addSegment
  rw [notDouble, notDot, isFile_of_isWeb web, if_neg Bool.false_ne_true,
    if_neg Bool.false_ne_true, if_neg fun both => Bool.false_ne_true both.1]

/-- A text without a scheme is read within a base that has segments. -/
theorem resolve_of_schemeOf?_none {base : Url} {text : String} {segments : List (List Char)}
    (path : base.path = .segments segments) (notFile : isFile base.scheme = false)
    (none : schemeOf? (cut (readable text)).head = none) :
    resolve (some base) text = resolveWithin base (cut (readable text)) := by
  unfold resolve
  dsimp only
  rw [none]
  dsimp only
  split
  · rfl
  · rw [path]
    dsimp only
    rw [notFile, if_neg Bool.false_ne_true]

/-- A text that does not start with a slash takes the place of the last segment. -/
theorem resolveWithin_cons {base : Url} {segments : List (List Char)}
    (path : base.path = .segments segments) {first : Char} (notSlash : isSlash first = false)
    (rest : List Char) (query fragment : Option (List Char)) :
    resolveWithin base ⟨first :: rest, query, fragment⟩ =
      .ok (assemble base.scheme base.authority
        (.segments (readPath base.scheme (parent base.scheme segments) (first :: rest)))
        ⟨first :: rest, query, fragment⟩) := by
  unfold resolveWithin
  dsimp only
  rw [notSlash, if_neg Bool.false_ne_true, path]
  rfl

/-- The directory that holds the streams is joined behind the path. -/
theorem join_transcode {base : Url} {authority : Authority} {segments : List (List Char)}
    (served : base.IsServed authority (segments ++ [[]])) :
    base.join "transcode/" =
      .ok { base with
        path := .segments (segments ++ ["transcode".toList] ++ [[]])
        query := none
        fragment := none } := by
  have web := served.web
  have encoded : (Text.fields (fun c => c == '/' || (isSpecial base.scheme && c == '\\'))
      "transcode/".toList).map (Percent.encode Percent.inPath) = ["transcode".toList, []] := by
    rw [isSpecial_of_isWeb web]
    decide +kernel
  have path : readPath base.scheme (parent base.scheme (segments ++ [[]])) "transcode/".toList =
      segments ++ ["transcode".toList] ++ [[]] := by
    unfold readPath withoutLead
    rw [isFile_of_isWeb web, if_neg Bool.false_ne_true, parent_closed web, encoded,
      addSegments, addSegments, addSegment_of_isWeb web (by decide) (by decide),
      addSegment_of_isWeb web (by decide) (by decide)]
    exact nofun
  have within := resolveWithin_cons served.path (rfl : isSlash 't' = false)
    "ranscode/".toList none none
  have spelled : 't' :: "ranscode/".toList = "transcode/".toList := rfl
  rw [spelled, path] at within
  exact (resolve_of_schemeOf?_none served.path (isFile_of_isWeb web) rfl).trans within

/-- A URL of the web is cut into its parts if its query does not start a fragment. -/
theorem IsServed.cut_text {url : Url} {authority : Authority} {segments : List (List Char)}
    (served : url.IsServed authority segments) (queryFree : '#' ∉ partText '?' url.query) :
    cut url.text = ⟨url.headText, url.query, url.fragment⟩ := by
  refine Url.cut_text (fun sign mark => ?_) queryFree
  obtain ⟨serverFree, pathFree⟩ := served.unmarked sign mark
  unfold headText
  rw [served.server, served.path]
  simp only [List.mem_append, not_or]
  refine ⟨⟨⟨not_mem_scheme served.web mark, ?_⟩, serverFree⟩, isFree_path_text mark pathFree⟩
  rcases mark with rfl | rfl <;> decide

/-! ### Dots -/

theorem eq_of_toLower {c sign : Char} (lower : c.toLower = sign) : c = sign ∨ c = sign.toUpper := by
  subst lower
  unfold Char.toLower
  split
  · rename_i capital
    refine Or.inr (Char.ext ?_)
    unfold Char.toUpper
    rw [dif_pos]
    · show c.val = c.val + ('a'.val - 'A'.val) + ('A'.val - 'a'.val)
      rw [UInt32.add_assoc]
      exact (UInt32.add_zero c.val).symm
    · simp only [ge_iff_le, UInt32.le_iff_toNat_le, UInt32.toNat_add] at capital ⊢
      simp at capital ⊢
      omega
  · exact Or.inl rfl

/-- What is written small starts with a dot, in either of its spellings, and so does the text. -/
theorem decode_of_dot {dot segment rest : List Char}
    (spelled : dot = ".".toList ∨ dot = "%2e".toList) (lower : segment.map Char.toLower = dot ++ rest) :
    ∃ more, Percent.decode segment = '.'.toUInt8 :: Percent.decode more ∧
      more.map Char.toLower = rest := by
  rcases spelled with rfl | rfl
  · obtain ⟨first, more, rfl, firstLower, moreLower⟩ := List.map_eq_cons_iff.mp lower
    obtain rfl : first = '.' := (eq_of_toLower firstLower).elim id id
    exact ⟨more, Percent.decode_cons_of_ne (by decide) more, moreLower⟩
  · obtain ⟨first, afterOne, rfl, firstLower, lower⟩ := List.map_eq_cons_iff.mp lower
    obtain ⟨second, afterTwo, rfl, secondLower, lower⟩ := List.map_eq_cons_iff.mp lower
    obtain ⟨third, more, rfl, thirdLower, moreLower⟩ := List.map_eq_cons_iff.mp lower
    obtain rfl : first = '%' := (eq_of_toLower firstLower).elim id id
    obtain rfl : second = '2' := (eq_of_toLower secondLower).elim id id
    refine ⟨more, ?_, moreLower⟩
    rcases eq_of_toLower thirdLower with rfl | rfl <;> rfl

theorem decode_of_isDot {segment : List Char} (dot : isDot segment = true) :
    Percent.decode segment = ".".toList.flatMap String.utf8EncodeChar := by
  have spelled := of_decide_eq_true dot
  rw [List.mem_cons, List.mem_singleton] at spelled
  obtain ⟨more, decoded, none⟩ := decode_of_dot spelled (List.append_nil _).symm
  rw [decoded, List.map_eq_nil_iff.mp none]
  rfl

theorem decode_of_isDoubleDot {segment : List Char} (dots : isDoubleDot segment = true) :
    Percent.decode segment = "..".toList.flatMap String.utf8EncodeChar := by
  have spelled := of_decide_eq_true dots
  have halves : ∃ first second, (first = ".".toList ∨ first = "%2e".toList) ∧
      (second = ".".toList ∨ second = "%2e".toList) ∧
        segment.map Char.toLower = first ++ second := by
    simp only [List.mem_cons, List.not_mem_nil, or_false] at spelled
    rcases spelled with same | same | same | same
    · exact ⟨".".toList, ".".toList, Or.inl rfl, Or.inl rfl, same⟩
    · exact ⟨".".toList, "%2e".toList, Or.inl rfl, Or.inr rfl, same⟩
    · exact ⟨"%2e".toList, ".".toList, Or.inr rfl, Or.inl rfl, same⟩
    · exact ⟨"%2e".toList, "%2e".toList, Or.inr rfl, Or.inr rfl, same⟩
  obtain ⟨first, second, isFirst, isSecond, lower⟩ := halves
  obtain ⟨more, decoded, lower⟩ := decode_of_dot isFirst lower
  obtain ⟨rest, moreDecoded, none⟩ := decode_of_dot isSecond
    (lower.trans (List.append_nil _).symm)
  rw [decoded, moreDecoded, List.map_eq_nil_iff.mp none]
  rfl

/-! ### Segments -/

/-- A text that a segment can hold: it is not made of dots, which name other places, and has none of
the signs that are left out of URLs. -/
structure IsPlain (text : String) : Prop where
  notDot : text ≠ "."
  notDouble : text ≠ ".."
  noTab : '\t' ∉ text.toList
  noFeed : '\n' ∉ text.toList
  noReturn : '\r' ∉ text.toList

variable {text : String}

/-- A text is encoded into something that is read as that text alone. -/
theorem decode_encode_ne {other : String} (unlike : text ≠ other) (isSpecial : Bool) :
    Percent.decode (Percent.encode (Percent.inSegment isSpecial) text.toList) ≠
      other.toList.flatMap String.utf8EncodeChar := by
  intro decoded
  have percent : Percent.inSegment isSpecial '%' = true := rfl
  have read := Percent.text?_decode_encode percent text
  rw [decoded, Percent.text?_utf8] at read
  exact unlike (Option.some.inj read).symm

theorem IsPlain.withoutBreaks_eq (plain : IsPlain text) :
    withoutBreaks text.toList = text.toList := by
  refine List.filter_eq_self.mpr fun c member => ?_
  have unlike {sign : Char} (none : sign ∉ text.toList) : (c == sign) = false :=
    beq_false_of_ne fun same => none (same ▸ member)
  rw [unlike plain.noTab, unlike plain.noFeed, unlike plain.noReturn]
  rfl

/-- A plain text comes behind a path as one segment. -/
theorem IsPlain.pushSegment (plain : IsPlain text) {scheme : List Char} (web : isWeb scheme = true)
    {path : List (List Char)} (filled : path ≠ [[]]) :
    pushSegment scheme path text =
      path ++ [Percent.encode (Percent.inSegment true) text.toList] := by
  unfold Url.pushSegment
  rw [if_neg (not_or.mpr ⟨plain.notDot, plain.notDouble⟩), plain.withoutBreaks_eq, if_neg filled,
    isSpecial_of_isWeb web]
  refine addSegment_of_isWeb web ?_ ?_ path true
  · exact Bool.eq_false_iff.mpr fun dots =>
      decode_encode_ne plain.notDouble true (decode_of_isDoubleDot dots)
  · exact Bool.eq_false_iff.mpr fun dot =>
      decode_encode_ne plain.notDot true (decode_of_isDot dot)

end ReleasePlayer.Url
