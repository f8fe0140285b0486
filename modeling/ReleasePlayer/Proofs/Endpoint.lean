/-
This file proves that the address of a stream says what was asked for and nothing else. Behind the path
of the base come the directory of the streams, the kind, and one segment that is read as the slug; the
query is a form with the format as its only field. Each part is read from the text alone, so requests
that differ in the kind, the slug or the format have different addresses.
-/

import Mathlib.Logic.Function.Basic
import ReleasePlayer.Endpoint
import ReleasePlayer.Proofs.Url.Base
import ReleasePlayer.Proofs.Url.Form

namespace ReleasePlayer

/-! ### Requests -/

/-- What is asked of an endpoint: the stream of a player, or the clip of a trial. -/
inductive Request where
  | stream (release override : Option String) (first format : String)
  | trial (clip : TrialClip) (first format : String)

namespace Request

/-- The kind and the slug that a request comes down to. -/
def asked : Request → StreamKind × String
  | stream release override first _ => Endpoint.subject release override first
  | trial clip first _ => (.track, Endpoint.trialSlug clip first)

def kind (request : Request) : StreamKind := request.asked.1

def slug (request : Request) : String := request.asked.2

def format : Request → String
  | stream _ _ _ format => format
  | trial _ _ format => format

/-- The address that an endpoint has for a request. -/
def answer (endpoint : Endpoint) : Request → Except PlaybackError String
  | stream release override first format => endpoint.streamAddress release override first format
  | trial clip first format => endpoint.trialAddress clip first format

theorem answer_eq (endpoint : Endpoint) (request : Request) :
    request.answer endpoint = endpoint.address request.kind request.slug request.format := by
  cases request <;> rfl

end Request

/-! ### Endpoints of the web -/

namespace Endpoint

theorem isServed_of_ofRoot {root : String} {endpoint : Endpoint}
    (built : ofRoot root = .ok endpoint) (web : Url.isWeb endpoint.base.scheme = true) :
    ∃ authority segments, endpoint.base.IsServed authority (segments ++ [[]]) := by
  unfold ofRoot at built
  split at built
  · rename_i url read
    obtain rfl := Except.ok.inj built
    exact Url.isServed_closed read web
  · cases built

/-- However an endpoint of the web was built, its base is closed. -/
theorem isServed_of_of {origin : Option String} {root : String} {endpoint : Endpoint}
    (built : of origin root = .ok endpoint) (web : Url.isWeb endpoint.base.scheme = true) :
    ∃ authority segments, endpoint.base.IsServed authority (segments ++ [[]]) := by
  cases origin with
  | none =>
    replace built : ofRoot root = .ok endpoint := built
    exact isServed_of_ofRoot built web
  | some origin =>
    replace built : ofOrigin origin root = .ok endpoint := built
    unfold ofOrigin at built
    split at built
    · cases built
    · split at built
      · cases built
      · exact isServed_of_ofRoot built web

section Served

variable {endpoint : Endpoint} {authority : Url.Authority} {segments : List (List Char)}

/-- The streams are served from a directory of their own. -/
theorem segments?_of_isServed (served : endpoint.base.IsServed authority (segments ++ [[]])) :
    endpoint.segments? =
      .ok ({ endpoint.base with
        path := .segments (segments ++ ["transcode".toList] ++ [[]])
        query := none
        fragment := none }, segments ++ ["transcode".toList]) := by
  unfold segments?
  rw [Url.join_transcode served]
  dsimp only
  unfold Url.withoutEnd
  rw [if_pos List.getLast?_concat, List.dropLast_concat]

theorem isPlain_name (kind : StreamKind) : Url.IsPlain kind.name := by
  cases kind <;> exact ⟨by decide, by decide, by decide, by decide, by decide⟩

theorem encode_name (kind : StreamKind) :
    Percent.encode (Percent.inSegment true) kind.name.toList = kind.name.toList := by
  cases kind <;> decide

/-- The URL of a stream in its parts. -/
def streamUrl (base : Url) (segments : List (List Char)) (kind : StreamKind)
    (slug format : String) : Url :=
  { base with
    path := .segments (segments ++ ["transcode".toList, kind.name.toList,
      Percent.encode (Percent.inSegment true) slug.toList])
    query := some (Percent.formPair "format".toList format.toList)
    fragment := none }

theorem url?_of_isServed (served : endpoint.base.IsServed authority (segments ++ [[]]))
    {slug : String} (plain : Url.IsPlain slug) (kind : StreamKind) (format : String) :
    endpoint.url? kind slug format = .ok (streamUrl endpoint.base segments kind slug format) := by
  have filled (last : List Char) (more : last ≠ []) (path : List (List Char)) :
      path ++ [last] ≠ [[]] := by
    intro same
    have ends := congrArg List.getLast? same
    rw [List.getLast?_concat] at ends
    exact more (Option.some.inj ends)
  have named : kind.name.toList ≠ [] := by cases kind <;> decide
  unfold url?
  rw [segments?_of_isServed served]
  dsimp only
  rw [(isPlain_name kind).pushSegment served.web (filled _ (by decide) _), encode_name,
    plain.pushSegment served.web (filled _ named _), List.append_assoc, List.append_assoc]
  rfl

/-- The URL of a stream is one of the web too. -/
theorem isServed_streamUrl {base : Url} (served : base.IsServed authority (segments ++ [[]]))
    (kind : StreamKind) (slug format : String) :
    (streamUrl base segments kind slug format).IsServed authority (segments ++
      ["transcode".toList, kind.name.toList,
        Percent.encode (Percent.inSegment true) slug.toList]) := by
  refine ⟨served.web, served.server, rfl, fun sign mark => ?_⟩
  obtain ⟨serverFree, free⟩ := served.unmarked sign mark
  refine ⟨serverFree, fun segment member => ?_⟩
  rcases List.mem_append.mp member with before | behind
  · exact free segment (List.mem_append_left _ before)
  · simp only [List.mem_cons, List.not_mem_nil, or_false] at behind
    rcases behind with rfl | rfl | rfl
    · rcases mark with rfl | rfl <;> decide
    · rcases mark with rfl | rfl <;> cases kind <;> decide
    · refine Percent.not_mem_encode mark.isOutside ?_ slug.toList
      rcases mark with rfl | rfl <;> rfl

end Served

end Endpoint

/-! ### What addresses say -/

/-- What the URL of a request says below a base, and its text too: the parts are those between the
marks of the text. -/
structure Tells (base : Url) (request : Request) (url : Url) : Prop where
  scheme : url.scheme = base.scheme
  authority : url.authority = base.authority
  path : ∃ segment, url.path.text = base.path.text ++ "transcode/".toList ++
      request.kind.name.toList ++ '/' :: segment ∧
    ('/' ∉ segment ∧ '?' ∉ segment ∧ '#' ∉ segment) ∧
    Percent.text? (Percent.decode segment) = some request.slug
  query : ∃ query, url.query = some query ∧
    Percent.formPairs? query = some [("format", request.format)]
  fragment : url.fragment = none
  marks : Url.cut url.text = ⟨url.headText, url.query, url.fragment⟩

/-- The answer to a request for a plain slug says what was asked for. -/
theorem Request.answer_tells {endpoint : Endpoint} {authority : Url.Authority}
    {segments : List (List Char)} (served : endpoint.base.IsServed authority (segments ++ [[]]))
    (request : Request) (plain : Url.IsPlain request.slug) :
    ∃ url, request.answer endpoint = .ok url.toString ∧ Tells endpoint.base request url := by
  have noFragment : '#' ∉ Url.partText '?'
      (Endpoint.streamUrl endpoint.base segments request.kind request.slug request.format).query :=
    List.not_mem_cons_of_ne_of_not_mem (by decide)
      (Percent.not_mem_formPair "format" request.format (by decide) (by decide) (by decide) rfl)
  rw [request.answer_eq]
  unfold Endpoint.address
  rw [Endpoint.url?_of_isServed served plain]
  refine ⟨_, rfl, rfl, rfl, ⟨Percent.encode (Percent.inSegment true) request.slug.toList, ?_,
    ⟨?_, ?_, ?_⟩, Percent.text?_decode_encode rfl request.slug⟩,
    ⟨_, rfl, Percent.formPairs?_formPair "format" request.format⟩, rfl,
    (Endpoint.isServed_streamUrl served _ _ _).cut_text noFragment⟩
  · rw [served.path]
    unfold Endpoint.streamUrl Url.Path.text
    simp only [List.flatMap_append, List.flatMap_cons, List.flatMap_nil, List.append_nil,
      List.append_assoc]
    rfl
  · exact Percent.not_mem_encode (by decide) rfl _
  · exact Percent.not_mem_encode (by decide) rfl _
  · exact Percent.not_mem_encode (by decide) rfl _

theorem StreamKind.name_injective : Function.Injective name := by
  intro first second same
  cases first <;> cases second <;> first | rfl | exact absurd same (by decide)

namespace Tells

variable {base : Url} {authority : Url.Authority}

/-- The text of a URL below a base, from the kind on. -/
theorem text_eq (server : base.authority = some authority) {request : Request} {url : Url}
    (told : Tells base request url) :
    ∃ segment query, url.text = base.scheme ++ [':'] ++ authority.text ++ base.path.text ++
        "transcode/".toList ++ (request.kind.name.toList ++ '/' :: (segment ++ '?' :: query)) ∧
      '?' ∉ segment ∧ Percent.text? (Percent.decode segment) = some request.slug ∧
      Percent.formPairs? query = some [("format", request.format)] := by
  obtain ⟨segment, path, ⟨-, noMark, -⟩, slug⟩ := told.path
  obtain ⟨query, isQuery, pairs⟩ := told.query
  refine ⟨segment, query, ?_, noMark, slug, pairs⟩
  unfold Url.text
  rw [told.scheme, told.authority, server, path, isQuery, told.fragment]
  simp only [Url.lead, Url.partText, List.append_assoc, List.cons_append, List.append_nil]

/-- Two URLs below one base that have the same text say the same. -/
theorem eq_of_text_eq (server : base.authority = some authority) {one other : Request}
    {first second : Url} (toldOne : Tells base one first) (toldOther : Tells base other second)
    (same : first.text = second.text) :
    one.kind = other.kind ∧ one.slug = other.slug ∧ one.format = other.format := by
  obtain ⟨segment, query, firstText, noMark, slug, pairs⟩ := toldOne.text_eq server
  obtain ⟨segment', query', secondText, noMark', slug', pairs'⟩ := toldOther.text_eq server
  rw [firstText, secondText] at same
  have noSlash (kind : StreamKind) : '/' ∉ kind.name.toList := by cases kind <;> decide
  obtain ⟨kinds, behind⟩ := Text.append_cons_inj (noSlash one.kind) (noSlash other.kind)
    (List.append_cancel_left same)
  obtain ⟨rfl, rfl⟩ := Text.append_cons_inj noMark noMark' behind
  refine ⟨StreamKind.name_injective (String.toList_inj.mp kinds),
    Option.some.inj (slug.symm.trans slug'), ?_⟩
  have format := pairs.symm.trans pairs'
  simpa using format

end Tells

/-- For an endpoint of the web, every request for a plain slug has an address that says what was asked
for, so that no two requests for different things have the same one. An endpoint is only made of a root
whose host is in ASCII; a root with another host is covered by the ASCII form of that host, in which
its addresses are written. -/
theorem addresses_tell_requests {origin : Option String} {root : String} {endpoint : Endpoint}
    (built : Endpoint.of origin root = .ok endpoint)
    (web : Url.isWeb endpoint.base.scheme = true) :
    (∀ request : Request, Url.IsPlain request.slug →
      ∃ url, request.answer endpoint = .ok url.toString ∧ Tells endpoint.base request url) ∧
    ∀ one other : Request, Url.IsPlain one.slug → Url.IsPlain other.slug →
      one.answer endpoint = other.answer endpoint →
        one.kind = other.kind ∧ one.slug = other.slug ∧ one.format = other.format := by
  obtain ⟨authority, segments, served⟩ := Endpoint.isServed_of_of built web
  refine ⟨fun request plain => request.answer_tells served plain, ?_⟩
  intro one other plainOne plainOther same
  obtain ⟨first, firstAnswer, toldOne⟩ := one.answer_tells served plainOne
  obtain ⟨second, secondAnswer, toldOther⟩ := other.answer_tells served plainOther
  rw [firstAnswer, secondAnswer] at same
  exact toldOne.eq_of_text_eq served.server toldOther
    (String.ofList_injective (Except.ok.inj same))

/-- The endpoint of a site below a path, with a query that its root should not have had. -/
def Endpoint.nested : Endpoint where
  base :=
    { scheme := "https".toList
      authority := some ⟨[], [], "music.example".toList, some 8443⟩
      path := .segments ["music".toList, []]
      query := some "x=1".toList
      fragment := none }

/-- Reserved signs and the percent sign come through, and a release of the same slug is told apart. -/
theorem reserved_signs_come_through :
    Endpoint.of (some "https://music.example:8443/") "music?x=1" = .ok Endpoint.nested ∧
      (∃ url, (Request.trial .firstTrack "a/b %é?#" "mp3 & more=1").answer Endpoint.nested =
        .ok url.toString ∧ Tells Endpoint.nested.base
          (Request.trial .firstTrack "a/b %é?#" "mp3 & more=1") url) ∧
      (Request.trial .firstTrack "a/b %é?#" "mp3").answer Endpoint.nested ≠
        (Request.stream (some "a/b %é?#") none "intro" "mp3").answer Endpoint.nested := by
  have built : Endpoint.of (some "https://music.example:8443/") "music?x=1" =
      .ok Endpoint.nested := rfl
  have plain : Url.IsPlain "a/b %é?#" := ⟨by decide, by decide, by decide, by decide, by decide⟩
  obtain ⟨told, apart⟩ := addresses_tell_requests built (by decide)
  refine ⟨built, told (.trial .firstTrack "a/b %é?#" "mp3 & more=1") plain, fun same => ?_⟩
  have kinds := apart (.trial .firstTrack "a/b %é?#" "mp3")
    (.stream (some "a/b %é?#") none "intro" "mp3") plain plain same
  cases kinds.1

end ReleasePlayer
