/-
This file proves that tracks and formats come back from the documents into which they were written: every
format does, and a track unless one of its numbers is not finite.
-/

import ReleasePlayer.Config.Document
import ReleasePlayer.Proofs.Json.Written

namespace ReleasePlayer

open Json (Value Shape)

theorem listOf?_map {β : Type} {toValue : β → Value} {ofValue? : Value → Option β}
    (back : ∀ item, ofValue? (toValue item) = some item) (list : List β) :
    (Value.list (list.map toValue)).listOf? ofValue? = some list := by
  show (list.map toValue).mapM ofValue? = some list
  induction list with
  | nil => rfl
  | cons item more inductionHypothesis =>
    rw [List.map_cons, List.mapM_cons, back, inductionHypothesis]
    rfl

namespace TrackEntry

/-- The numbers that a page tells about a track. -/
def numbers (entry : TrackEntry Float) : List Float := [entry.starts, entry.ends]

theorem isFinite_toValue (entry : TrackEntry Float) :
    entry.toValue.isFinite = entry.numbers.all Float.isFinite := by
  unfold toValue
  rw [Value.isFinite_object]
  rfl

theorem isFinite_list (tracks : List (TrackEntry Float)) :
    (Value.list (tracks.map toValue)).isFinite =
      tracks.all fun entry => entry.numbers.all Float.isFinite := by
  rw [Value.isFinite_list, List.all_map]
  exact congrArg tracks.all (funext isFinite_toValue)

theorem ofValue?_toValue (entry : TrackEntry Float) : ofValue? entry.toValue = some entry := rfl

theorem reads (entry : TrackEntry Float)
    (readsBack : ∀ x ∈ entry.numbers, x.isFinite = true → Double.ReadsBack x) :
    shape.Reads 1 entry.toValue.written entry.toValue.readBack := by
  have starts := Shape.reads_real (readsBack entry.starts List.mem_cons_self)
  have ends := Shape.reads_real
    (readsBack entry.ends (List.mem_cons_of_mem _ List.mem_cons_self))
  have apart : ["slug", "title", "subtitle", "start", "end"].Nodup := by decide
  rw [← Value.readBack_bind entry.toValue]
  refine Shape.reads_object "struct TrackDescriptor" ?_ apart
  simp only [List.forall_mem_cons]
  exact ⟨⟨_, rfl, Shape.reads_text entry.slug⟩, ⟨_, rfl, Shape.reads_text entry.title⟩,
    ⟨_, rfl, Shape.reads_text entry.subtitle⟩, ⟨_, rfl, starts⟩, ⟨_, rfl, ends⟩, nofun⟩

/-- A list of tracks comes back if all their numbers are finite. -/
theorem reads_list {tracks : List (TrackEntry Float)}
    (readsBack : ∀ entry ∈ tracks, ∀ x ∈ entry.numbers, x.isFinite = true → Double.ReadsBack x) :
    (Shape.list shape).Reads 2 (Value.list (tracks.map toValue)).written
      (Value.list (tracks.map toValue)).readBack := by
  refine Shape.reads_items fun item listed => ?_
  obtain ⟨entry, member, rfl⟩ := List.mem_map.mp listed
  exact ⟨_, rfl, entry.reads (readsBack entry member)⟩

end TrackEntry

namespace StreamFormat

theorem isFinite_toValue (format : StreamFormat) : format.toValue.isFinite = true := rfl

theorem isFinite_list (formats : List StreamFormat) :
    (Value.list (formats.map toValue)).isFinite = true := by
  rw [Value.isFinite_list, List.all_map]
  exact List.all_eq_true.mpr fun format _ => format.isFinite_toValue

theorem ofValue?_toValue (format : StreamFormat) : ofValue? format.toValue = some format := rfl

theorem reads (format : StreamFormat) :
    shape.Reads 1 format.toValue.written format.toValue.readBack := by
  have apart : ["name", "mime"].Nodup := by decide
  rw [← Value.readBack_bind format.toValue]
  refine Shape.reads_object "struct Format" ?_ apart
  simp only [List.forall_mem_cons]
  exact ⟨⟨_, rfl, Shape.reads_text format.name⟩, ⟨_, rfl, Shape.reads_text format.mime⟩, nofun⟩

theorem reads_list (formats : List StreamFormat) :
    (Shape.list shape).Reads 2 (Value.list (formats.map toValue)).written
      (Value.list (formats.map toValue)).readBack := by
  refine Shape.reads_items fun item listed => ?_
  obtain ⟨format, _, rfl⟩ := List.mem_map.mp listed
  exact ⟨_, rfl, format.reads⟩

end StreamFormat

end ReleasePlayer
