/-
This file builds the addresses of streams. The server offers every stream below `transcode/`: a
release or a track by its slug, in the format that the query names. Whatever a slug holds becomes
one segment of the path.
-/

import ReleasePlayer.Config
import ReleasePlayer.Error
import ReleasePlayer.Url.Reading

namespace ReleasePlayer

/-- What a slug stands for. -/
inductive StreamKind where
  | release
  | track
deriving DecidableEq, Repr

/-- The segment that names a kind. -/
def StreamKind.name : StreamKind → String
  | release => "release"
  | track => "track"

/-- The slug under which the server keeps a second of silence. -/
def testTrackSlug : String := "__testtrack"

/-- A place from which streams are served: the URL of the site, with a slash at its end. -/
structure Endpoint where
  base : Url
deriving DecidableEq, Repr

namespace Endpoint

/-- An endpoint below an absolute root. -/
def ofRoot (root : String) : Except PlaybackError Endpoint :=
  match Url.parse root with
  | .ok url => .ok ⟨url.closed⟩
  | .error fault => .error (.badUrl fault)

/-- An endpoint below a root that is relative to the origin of a page. -/
def ofOrigin (origin root : String) : Except PlaybackError Endpoint :=
  match Url.parse origin with
  | .error fault => .error (.badUrl fault)
  | .ok page =>
    match page.join root with
    | .error fault => .error (.badUrl fault)
    | .ok url => ofRoot url.toString

/-- An endpoint below a root, relative to an origin if one is given. -/
def of (origin : Option String) (root : String) : Except PlaybackError Endpoint :=
  match origin with
  | some origin => ofOrigin origin root
  | none => ofRoot root

/-- The segments below which an endpoint serves its streams. -/
def segments? (endpoint : Endpoint) : Except Url.Fault (Url × List (List Char)) :=
  match endpoint.base.join "transcode/" with
  | .error fault => .error fault
  | .ok url =>
    match url.path with
    | .unsplit _ => .error .relativeToUnsplit
    | .segments list => .ok (url, Url.withoutEnd list)

/-- The URL of a stream. -/
def url? (endpoint : Endpoint) (kind : StreamKind) (slug format : String) :
    Except Url.Fault Url :=
  match endpoint.segments? with
  | .error fault => .error fault
  | .ok (url, segments) =>
    let ofKind := Url.pushSegment url.scheme segments kind.name
    .ok { url with
      path := .segments (Url.pushSegment url.scheme ofKind slug)
      query := some (Percent.formPair "format".toList format.toList) }

/-- The address of a stream. -/
def address (endpoint : Endpoint) (kind : StreamKind) (slug format : String) :
    Except PlaybackError String :=
  match endpoint.url? kind slug format with
  | .ok url => .ok url.toString
  | .error fault => .error (.badUrl fault)

/-- What streams for a release: the release itself if it has a slug, or else one track of it, the
one that is set for this before the first. -/
def subject (release override : Option String) (first : String) : StreamKind × String :=
  match release with
  | some slug => (.release, slug)
  | none => (.track, override.getD first)

/-- The address of the stream that a player plays. -/
def streamAddress (endpoint : Endpoint) (release override : Option String)
    (first format : String) : Except PlaybackError String :=
  let (kind, slug) := subject release override first
  endpoint.address kind slug format

/-- The slug of the track that a trial loads. -/
def trialSlug (clip : TrialClip) (first : String) : String :=
  match clip with
  | .silence => testTrackSlug
  | .firstTrack => first

/-- The address of the clip that a trial loads. -/
def trialAddress (endpoint : Endpoint) (clip : TrialClip) (first format : String) :
    Except PlaybackError String :=
  endpoint.address .track (trialSlug clip first) format

end Endpoint

end ReleasePlayer
