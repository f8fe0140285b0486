/-
This file writes and reads settings as JSON: tracks, formats and names, and the one object that
carries them all.
-/

import ReleasePlayer.Config
import ReleasePlayer.Scalar.Double

namespace ReleasePlayer

open Json (Value Shape)
open Json.Shape (Field)

/-- The fields of a track on a page; it may do without a subtitle. -/
def TrackEntry.fields : List Field := [
  .of "slug" .text,
  .of "title" .text,
  ⟨"subtitle", .text, .filled (.text "")⟩,
  .of "start" .real,
  .of "end" .real]

/-- A track on a page. -/
def TrackEntry.shape : Shape := .record "struct TrackDescriptor" fields

/-- The value of a track on a page. -/
def TrackEntry.toValue (entry : TrackEntry Float) : Value :=
  .object [("slug", .text entry.slug), ("title", .text entry.title),
    ("subtitle", .text entry.subtitle), ("start", .real entry.starts), ("end", .real entry.ends)]

/-- The track that a value of its shape says. -/
def TrackEntry.ofValue? : Value → Option (TrackEntry Float)
  | .object [("slug", .text slug), ("title", .text title), ("subtitle", .text subtitle),
      ("start", .real starts), ("end", .real ends)] => some { slug, title, subtitle, starts, ends }
  | _ => none

def StreamFormat.fields : List Field := [.of "name" .text, .of "mime" .text]

def StreamFormat.shape : Shape := .record "struct Format" fields

def StreamFormat.toValue (format : StreamFormat) : Value :=
  .object [("name", .text format.name), ("mime", .text format.mime)]

def StreamFormat.ofValue? : Value → Option StreamFormat
  | .object [("name", .text name), ("mime", .text mime)] => some { name, mime }
  | _ => none

def TrialClip.shape : Shape := .names (TrialClip.all.map TrialClip.name)

def TrialClip.ofValue? : Value → Option TrialClip := Value.named? TrialClip.all TrialClip.name

def BarAxis.shape : Shape := .names (BarAxis.all.map BarAxis.name)

def BarAxis.ofValue? : Value → Option BarAxis := Value.named? BarAxis.all BarAxis.name

namespace Config

/-- The fields of settings; only tracks and formats have to be there. -/
def fields : List Field := [
  ⟨"root", .text, .filled (.text "/")⟩,
  .of "tracks" (.list TrackEntry.shape),
  .of "formats" (.list StreamFormat.shape),
  ⟨"loudness", .optional .real, .filled .null⟩,
  ⟨"releaseSlug", .optional .text, .filled .null⟩,
  ⟨"overrideSlug", .optional .text, .filled .null⟩,
  ⟨"hideTitle", .bool, .filled (.bool false)⟩,
  ⟨"trialClip", TrialClip.shape, .filled (.text "silence")⟩,
  ⟨"volumeBar", BarAxis.shape, .filled (.text "vertical")⟩]

/-- Settings as one object. -/
def shape : Shape := .record "struct PlayerConfig" fields

/-- The value of settings. -/
def toValue (config : Config Float) : Value :=
  .object [
    ("root", .text config.root),
    ("tracks", .list (config.tracks.map TrackEntry.toValue)),
    ("formats", .list (config.formats.map StreamFormat.toValue)),
    ("loudness", .ofOption .real config.loudness),
    ("releaseSlug", .ofOption .text config.releaseSlug),
    ("overrideSlug", .ofOption .text config.overrideSlug),
    ("hideTitle", .bool config.hideTitle),
    ("trialClip", .text config.trialClip.name),
    ("volumeBar", .text config.volumeBar.name)]

/-- The settings that a value of their shape says. -/
def ofValue? : Value → Option (Config Float)
  | .object [("root", .text root), ("tracks", tracks), ("formats", formats),
      ("loudness", loudness), ("releaseSlug", releaseSlug), ("overrideSlug", overrideSlug),
      ("hideTitle", .bool hideTitle), ("trialClip", trialClip), ("volumeBar", volumeBar)] => do
    return {
      root
      tracks := ← tracks.listOf? TrackEntry.ofValue?
      formats := ← formats.listOf? StreamFormat.ofValue?
      loudness := ← loudness.optional? Value.real?
      releaseSlug := ← releaseSlug.optional? Value.text?
      overrideSlug := ← overrideSlug.optional? Value.text?
      hideTitle
      trialClip := ← TrialClip.ofValue? trialClip
      volumeBar := ← BarAxis.ofValue? volumeBar }
  | _ => none

/-- Reads settings from one JSON object. -/
def ofJson (text : String) : Except (ConfigError Float) (Config Float) :=
  match shape.readAs ofValue? text with
  | .ok config => config.normalize
  | .error problem => .error (.unreadable problem)

end Config

end ReleasePlayer
