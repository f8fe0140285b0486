/-
This file says exactly which slugs leave the path of an address in its shape: the path of the base, the
directory of the streams, the kind, and one more segment. A segment is read without tabs and line ends,
so a slug is followed as dots if dots are what is left of it, and it vanishes if nothing is. All other
slugs become one segment, and those without tabs and line ends become a segment that is read as the slug.
-/

import ReleasePlayer.Proofs.Endpoint

namespace ReleasePlayer

/-! ### Texts that become a segment -/

namespace Url

/-- What is left of a text without tabs and line ends is a segment: it is not made of dots, and only of
the empty text nothing is left. -/
structure IsKept (text : String) : Prop where
  notDot : withoutBreaks text.toList ≠ ".".toList
  notDouble : withoutBreaks text.toList ≠ "..".toList
  filled : withoutBreaks text.toList = [] → text = ""

theorem IsPlain.isKept {text : String} (plain : IsPlain text) : IsKept text := by
  refine ⟨?_, ?_, ?_⟩ <;> rw [plain.withoutBreaks_eq]
  · exact fun same => plain.notDot (String.toList_inj.mp same)
  · exact fun same => plain.notDouble (String.toList_inj.mp same)
  · exact fun same => String.toList_inj.mp same

theorem isPlain_of_withoutBreaks_eq {text : String} (kept : IsKept text)
    (whole : withoutBreaks text.toList = text.toList) : IsPlain text := by
  have clean (c : Char) (member : c ∈ text.toList) :
      (!(c == '\t' || c == '\n' || c == '\r')) = true :=
    List.filter_eq_self.mp whole c member
  refine ⟨?_, ?_, fun tab => ?_, fun feed => ?_, fun ret => ?_⟩
  · rintro rfl
    exact kept.notDot rfl
  · rintro rfl
    exact kept.notDouble rfl
  · cases clean _ tab
  · cases clean _ feed
  · cases clean _ ret

/-- A path with something in its last segment is not that of a site without directories. -/
theorem concat_ne_root {last : List Char} (filled : last ≠ []) (path : List (List Char)) :
    path ++ [last] ≠ [[]] := by
  intro same
  have ends := congrArg List.getLast? same
  rw [List.getLast?_concat] at ends
  exact filled (Option.some.inj ends)

/-- A segment that no reader takes apart or follows elsewhere: it holds none of the signs that end a
segment, and it is not one of dots. -/
structure IsWhole (segment : List Char) : Prop where
  unbroken : ∀ sign ∈ ['/', '\\', '?', '#'], sign ∉ segment
  notDot : isDot segment = false
  notDouble : isDoubleDot segment = false

/-- A text that is not made of dots is encoded into a whole segment. -/
theorem isWhole_encode {text : List Char} (notDot : text ≠ ".".toList)
    (notDouble : text ≠ "..".toList) : IsWhole (Percent.encode (Percent.inSegment true) text) := by
  have spelled : (String.ofList text).toList = text := String.toList_ofList
  have unlike {dots : String} (other : text ≠ dots.toList) : String.ofList text ≠ dots :=
    fun same => other (spelled.symm.trans (congrArg String.toList same))
  refine ⟨fun sign member => ?_, Bool.eq_false_iff.mpr fun dot => ?_,
    Bool.eq_false_iff.mpr fun dots => ?_⟩
  · simp only [List.mem_cons, List.not_mem_nil, or_false] at member
    rcases member with rfl | rfl | rfl | rfl <;> exact Percent.not_mem_encode (by decide) rfl _
  · have decoded := decode_of_isDot dot
    rw [← spelled] at decoded
    exact decode_encode_ne (unlike notDot) true decoded
  · have decoded := decode_of_isDoubleDot dots
    rw [← spelled] at decoded
    exact decode_encode_ne (unlike notDouble) true decoded

/-- An encoded text is read as that text. -/
theorem text?_encode (text : List Char) :
    Percent.text? (Percent.decode (Percent.encode (Percent.inSegment true) text)) =
      some (String.ofList text) := by
  have percent : Percent.inSegment true '%' = true := rfl
  have read := Percent.text?_decode_encode percent (String.ofList text)
  rwa [String.toList_ofList] at read

/-- Only the empty text is encoded into nothing. -/
theorem eq_nil_of_encode {text : List Char}
    (nothing : Percent.encode (Percent.inSegment true) text = []) : text = [] := by
  have read := text?_encode text
  rw [nothing] at read
  have empty : String.ofList text = "" := (Option.some.inj read).symm
  exact String.ofList_eq_empty_iff.mp empty

end Url

/-! ### The path of an address -/

namespace Endpoint

/-- The segments behind the directory of the streams. Dots alone are left out; what becomes dots
without tabs and line ends is followed. -/
def ending (kind : StreamKind) (slug : String) : List (List Char) :=
  let read := Url.withoutBreaks slug.toList
  if slug = "." ∨ slug = ".." then [kind.name.toList]
  else if read = "..".toList then [[]]
  else if read = ".".toList then [kind.name.toList, []]
  else [kind.name.toList, Percent.encode (Percent.inSegment true) read]

theorem ending_of_isKept {slug : String} (kept : Url.IsKept slug) (kind : StreamKind) :
    ending kind slug =
      [kind.name.toList, Percent.encode (Percent.inSegment true) (Url.withoutBreaks slug.toList)] := by
  have notDots : ¬(slug = "." ∨ slug = "..") := by
    rintro (rfl | rfl)
    · exact kept.notDot rfl
    · exact kept.notDouble rfl
  unfold ending
  dsimp only
  rw [if_neg notDots, if_neg kept.notDouble, if_neg kept.notDot]

/-- The address of a stream in its parts, whatever its slug. -/
def builtUrl (base : Url) (segments : List (List Char)) (kind : StreamKind) (slug format : String) :
    Url :=
  { base with
    path := .segments (segments ++ ["transcode".toList] ++ ending kind slug)
    query := some (Percent.formPair "format".toList format.toList)
    fragment := none }

section Served

variable {endpoint : Endpoint} {authority : Url.Authority} {segments : List (List Char)}

/-- Whatever the slug, it is pushed behind the kind. -/
theorem pushSegment_slug {scheme : List Char} (web : Url.isWeb scheme = true)
    (path : List (List Char)) (kind : StreamKind) (slug : String) :
    Url.pushSegment scheme (path ++ [kind.name.toList]) slug = path ++ ending kind slug := by
  have named : kind.name.toList ≠ [] := by cases kind <;> decide
  have above : Url.above (path ++ [kind.name.toList]) = path := by
    unfold Url.above
    rw [List.getLast?_concat, List.dropLast_concat, if_neg]
    cases kind <;> decide
  have encodedDots : Percent.encode (Percent.inSegment true) "..".toList = "..".toList ∧
      Percent.encode (Percent.inSegment true) ".".toList = ".".toList := by decide
  unfold Url.pushSegment ending
  rw [Url.isSpecial_of_isWeb web, if_neg (Url.concat_ne_root named path)]
  dsimp only
  split
  · rfl
  · split
    · rename_i dots
      rw [dots, encodedDots.1]
      unfold Url.addSegment
      rw [if_pos (by decide), above]
      rfl
    · split
      · rename_i dot
        rw [dot, encodedDots.2]
        unfold Url.addSegment
        rw [if_neg (by decide), if_pos (by decide), if_pos rfl, List.append_assoc]
        rfl
      · rename_i notDouble notDot
        have whole := Url.isWhole_encode notDot notDouble
        rw [Url.addSegment_of_isWeb web whole.notDouble whole.notDot, List.append_assoc]
        rfl

theorem url?_eq_builtUrl (served : endpoint.base.IsServed authority (segments ++ [[]]))
    (kind : StreamKind) (slug format : String) :
    endpoint.url? kind slug format = .ok (builtUrl endpoint.base segments kind slug format) := by
  unfold url?
  rw [segments?_of_isServed served]
  dsimp only
  rw [(isPlain_name kind).pushSegment served.web (Url.concat_ne_root (by decide) segments),
    encode_name, pushSegment_slug served.web]
  rfl

theorem isFree_ending {sign : Char} (mark : Url.IsMark sign) (kind : StreamKind) (slug : String) :
    Url.IsFree sign (ending kind slug) := by
  have inKind : Url.IsFree sign [kind.name.toList] := by
    refine Url.isFree_singleton ?_
    rcases mark with rfl | rfl <;> cases kind <;> decide
  have inSlug : sign ∉ Percent.encode (Percent.inSegment true) (Url.withoutBreaks slug.toList) := by
    refine Percent.not_mem_encode mark.isOutside ?_ _
    rcases mark with rfl | rfl <;> rfl
  unfold ending
  dsimp only
  split
  · exact inKind
  · split
    · exact Url.isFree_singleton List.not_mem_nil
    · split
      · exact inKind.append (Url.isFree_singleton List.not_mem_nil)
      · exact inKind.append (Url.isFree_singleton inSlug)

/-- Whatever the slug, the address of a stream is one of the web. -/
theorem isServed_builtUrl (served : endpoint.base.IsServed authority (segments ++ [[]]))
    (kind : StreamKind) (slug format : String) :
    (builtUrl endpoint.base segments kind slug format).IsServed authority
      (segments ++ ["transcode".toList] ++ ending kind slug) := by
  refine ⟨served.web, served.server, rfl, fun sign mark => ?_⟩
  obtain ⟨serverFree, free⟩ := served.unmarked sign mark
  have directory : Url.IsFree sign ["transcode".toList] := by
    refine Url.isFree_singleton ?_
    rcases mark with rfl | rfl <;> decide
  have before : Url.IsFree sign segments := fun segment member =>
    free segment (List.mem_append_left _ member)
  exact ⟨serverFree, (before.append directory).append (isFree_ending mark kind slug)⟩

/-- The text of an address falls apart into its parts again. -/
theorem cut_text_builtUrl (served : endpoint.base.IsServed authority (segments ++ [[]]))
    (kind : StreamKind) (slug format : String) :
    Url.cut (builtUrl endpoint.base segments kind slug format).text =
      ⟨(builtUrl endpoint.base segments kind slug format).headText,
        some (Percent.formPair "format".toList format.toList), none⟩ := by
  refine (isServed_builtUrl served kind slug format).cut_text
    (List.not_mem_cons_of_ne_of_not_mem (by decide) ?_)
  exact Percent.not_mem_formPair "format" format (by decide) (by decide) (by decide) rfl

/-- The path of an address, from the directory of the streams on. -/
theorem path_text_builtUrl (served : endpoint.base.IsServed authority (segments ++ [[]]))
    (kind : StreamKind) (slug format : String) :
    (builtUrl endpoint.base segments kind slug format).path.text =
      endpoint.base.path.text ++ "transcode".toList ++ (Url.Path.segments (ending kind slug)).text := by
  rw [served.path]
  unfold builtUrl Url.Path.text
  simp only [List.flatMap_append, List.flatMap_cons, List.flatMap_nil, List.append_nil,
    List.append_assoc]
  rfl

end Served

end Endpoint

/-! ### The shape of an address -/

/-- The path of a URL is the one of a base with the directory of the streams, the kind and one whole
segment behind it, which is empty for the empty slug only. -/
def KeepsShape (base : Url) (request : Request) (url : Url) : Prop :=
  ∃ segment, url.path.text = base.path.text ++ "transcode/".toList ++ request.kind.name.toList ++
      '/' :: segment ∧
    Url.IsWhole segment ∧ (segment = [] → request.slug = "")

namespace Endpoint

section Served

variable {endpoint : Endpoint} {authority : Url.Authority} {segments : List (List Char)}

/-- The path has the shape if the kind and the segment are what stands behind the directory. -/
theorem path_text_eq_iff (served : endpoint.base.IsServed authority (segments ++ [[]]))
    {kind : StreamKind} {slug format : String} {segment : List Char} :
    (builtUrl endpoint.base segments kind slug format).path.text =
        endpoint.base.path.text ++ "transcode/".toList ++ kind.name.toList ++ '/' :: segment ↔
      (Url.Path.segments (ending kind slug)).text = '/' :: kind.name.toList ++ '/' :: segment := by
  have directory : endpoint.base.path.text ++ "transcode/".toList ++ kind.name.toList ++
      '/' :: segment = endpoint.base.path.text ++ "transcode".toList ++
        ('/' :: kind.name.toList ++ '/' :: segment) := by
    show endpoint.base.path.text ++ ("transcode".toList ++ ['/']) ++ _ ++ _ = _
    simp only [List.append_assoc, List.cons_append, List.nil_append]
  rw [path_text_builtUrl served, directory, List.append_cancel_left_eq]

/-- The kind and a segment stand behind the directory only if the slug leaves that segment. -/
theorem isKept_of_text_ending {kind : StreamKind} {slug : String} {segment : List Char}
    (behind : (Url.Path.segments (ending kind slug)).text = '/' :: kind.name.toList ++ '/' :: segment)
    (filled : segment = [] → slug = "") :
    Url.IsKept slug ∧
      segment = Percent.encode (Percent.inSegment true) (Url.withoutBreaks slug.toList) := by
  unfold ending Url.Path.text at behind
  dsimp only at behind
  split at behind
  · -- The kind is the last segment.
    rw [List.flatMap_singleton, List.self_eq_append_right] at behind
    cases behind
  · split at behind
    · -- The kind is gone.
      rw [List.flatMap_singleton, List.cons_append] at behind
      cases (List.append_eq_nil_iff.mp (List.cons.inj behind).2.symm).2
    · split at behind
      · -- The segment is empty, although the slug holds a dot.
        rename_i dot
        rw [List.flatMap_cons, List.flatMap_singleton, List.append_cancel_left_eq] at behind
        rw [filled (List.cons.inj behind).2.symm] at dot
        cases dot
      · rename_i notDouble notDot
        rw [List.flatMap_cons, List.flatMap_singleton, List.append_cancel_left_eq] at behind
        obtain rfl := (List.cons.inj behind).2
        refine ⟨⟨notDot, notDouble, fun nothing => filled ?_⟩, rfl⟩
        rw [nothing]
        rfl

end Served

end Endpoint

section Answers

variable {endpoint : Endpoint} {authority : Url.Authority} {segments : List (List Char)}

theorem keepsShape_iff (served : endpoint.base.IsServed authority (segments ++ [[]]))
    (request : Request) :
    KeepsShape endpoint.base request
        (Endpoint.builtUrl endpoint.base segments request.kind request.slug request.format) ↔
      Url.IsKept request.slug := by
  constructor
  · rintro ⟨segment, path, -, filled⟩
    exact (Endpoint.isKept_of_text_ending ((Endpoint.path_text_eq_iff served).mp path) filled).1
  · intro kept
    refine ⟨_, (Endpoint.path_text_eq_iff served).mpr ?_,
      Url.isWhole_encode kept.notDot kept.notDouble, fun nothing =>
        kept.filled (Url.eq_nil_of_encode nothing)⟩
    rw [Endpoint.ending_of_isKept kept]
    show '/' :: request.kind.name.toList ++ ('/' :: _ ++ []) = _
    rw [List.append_nil]

theorem tells_iff (served : endpoint.base.IsServed authority (segments ++ [[]]))
    (request : Request) :
    Tells endpoint.base request
        (Endpoint.builtUrl endpoint.base segments request.kind request.slug request.format) ↔
      Url.IsPlain request.slug := by
  constructor
  · intro told
    obtain ⟨segment, path, -, read⟩ := told.path
    have filled : segment = [] → request.slug = "" := by
      rintro rfl
      exact (Option.some.inj read).symm
    obtain ⟨kept, rfl⟩ :=
      Endpoint.isKept_of_text_ending ((Endpoint.path_text_eq_iff served).mp path) filled
    refine Url.isPlain_of_withoutBreaks_eq kept ?_
    rw [Url.text?_encode] at read
    exact String.toList_ofList.symm.trans (congrArg String.toList (Option.some.inj read))
  · intro plain
    obtain ⟨segment, path, whole, filled⟩ := (keepsShape_iff served request).mpr plain.isKept
    obtain ⟨-, rfl⟩ :=
      Endpoint.isKept_of_text_ending ((Endpoint.path_text_eq_iff served).mp path) filled
    refine ⟨rfl, rfl, ⟨_, path, ⟨whole.unbroken '/' (by decide), whole.unbroken '?' (by decide),
      whole.unbroken '#' (by decide)⟩, ?_⟩,
      ⟨_, rfl, Percent.formPairs?_formPair "format" request.format⟩, rfl,
      Endpoint.cut_text_builtUrl served _ _ _⟩
    rw [Url.text?_encode, plain.withoutBreaks_eq, String.ofList_toList]

end Answers

/-- For an endpoint of the web, every request has an address on the same server, cut at its marks. Its
path keeps the shape exactly if the slug leaves a segment, and the address says what was asked for
exactly if the slug is plain. A root whose host is not in ASCII is covered by the ASCII form of that host
only, since no endpoint is made of it here. -/
theorem shape_kept_iff {origin : Option String} {root : String} {endpoint : Endpoint}
    (built : Endpoint.of origin root = .ok endpoint)
    (web : Url.isWeb endpoint.base.scheme = true) (request : Request) :
    ∃ url, request.answer endpoint = .ok url.toString ∧
      (url.scheme = endpoint.base.scheme ∧ url.authority = endpoint.base.authority ∧
        Url.cut url.text = ⟨url.headText, url.query, url.fragment⟩) ∧
      (KeepsShape endpoint.base request url ↔ Url.IsKept request.slug) ∧
      (Tells endpoint.base request url ↔ Url.IsPlain request.slug) := by
  obtain ⟨authority, segments, served⟩ := Endpoint.isServed_of_of built web
  refine ⟨Endpoint.builtUrl endpoint.base segments request.kind request.slug request.format, ?_,
    ⟨rfl, rfl, Endpoint.cut_text_builtUrl served _ _ _⟩, keepsShape_iff served request,
    tells_iff served request⟩
  rw [request.answer_eq]
  unfold Endpoint.address
  rw [Endpoint.url?_eq_builtUrl served]

/-- Dots between other signs, separators and percent signs all stay within one segment. -/
theorem climbing_slug_stays :
    Endpoint.of (some "https://music.example:8443/") "music?x=1" = .ok Endpoint.nested ∧
      ∃ url, (Request.stream none (some "../a\\b?#%2e%2e") "intro" "mp3").answer Endpoint.nested =
          .ok url.toString ∧
        KeepsShape Endpoint.nested.base
          (Request.stream none (some "../a\\b?#%2e%2e") "intro" "mp3") url := by
  have built : Endpoint.of (some "https://music.example:8443/") "music?x=1" =
      .ok Endpoint.nested := rfl
  obtain ⟨url, answer, -, kept, -⟩ := shape_kept_iff built (by decide)
    (Request.stream none (some "../a\\b?#%2e%2e") "intro" "mp3")
  exact ⟨built, url, answer, kept.mpr ⟨by decide, by decide, by decide⟩⟩

/-- The endpoint of a site without a directory of its own. -/
def Endpoint.atRoot : Endpoint where
  base :=
    { scheme := "https".toList
      authority := some ⟨[], [], "music.example".toList, none⟩
      path := .segments [[]]
      query := none
      fragment := none }

/-- Two dots with a tab between them take the kind out of the path, two dots alone are left out, and a
tab leaves an empty segment. -/
theorem dots_break_shape :
    Endpoint.of (some "https://music.example") "/" = .ok Endpoint.atRoot ∧
      (Request.stream none (some ".\t.") "intro" "opus").answer Endpoint.atRoot =
        .ok "https://music.example/transcode/?format=opus" ∧
      (Request.stream none (some "..") "intro" "opus").answer Endpoint.atRoot =
        .ok "https://music.example/transcode/track?format=opus" ∧
      (Request.stream none (some "\t") "intro" "opus").answer Endpoint.atRoot =
        .ok "https://music.example/transcode/track/?format=opus" ∧
      ∀ url, (Request.stream none (some ".\t.") "intro" "opus").answer Endpoint.atRoot =
          .ok url.toString →
        ¬KeepsShape Endpoint.atRoot.base
          (Request.stream none (some ".\t.") "intro" "opus") url := by
  have told : (Request.stream none (some ".\t.") "intro" "opus").answer Endpoint.atRoot =
      .ok "https://music.example/transcode/?format=opus" := rfl
  refine ⟨rfl, told, rfl, rfl, ?_⟩
  rintro url answer ⟨segment, path, -⟩
  rw [told] at answer
  -- The kind ends in a letter that is nowhere in this address.
  have spelled : url.text = "https://music.example/transcode/?format=opus".toList :=
    (String.toList_ofList.symm.trans (congrArg String.toList (Except.ok.inj answer).symm))
  have inPath : 'k' ∈ url.path.text := by
    rw [path]
    exact List.mem_append_left _ (List.mem_append_right _ (by decide))
  have inText : 'k' ∈ url.text :=
    List.mem_append_left _ (List.mem_append_left _ (List.mem_append_right _ inPath))
  rw [spelled] at inText
  exact absurd inText (by decide)

end ReleasePlayer
