/-
This file proves that accepted settings survive being written as one object and read again. What is written
is read as it was, with `null` for each setting that there is not, and the normal form that it is in keeps
it as it is. Of the numbers it is only asked that each of them is read back on its own.
-/

import ReleasePlayer.Proofs.Config.Accepted
import ReleasePlayer.Proofs.Config.Forms
import ReleasePlayer.Proofs.Double.ReadBack

namespace ReleasePlayer

open Json (Value Shape)

namespace Config

variable {config : Config Float}

theorem isFinite_toValue (finite : ∀ x ∈ config.numbers, x.isFinite = true) :
    config.toValue.isFinite = true := by
  obtain ⟨loudness, times⟩ := List.forall_mem_append.mp finite
  have measured : (Value.ofOption .real config.loudness).isFinite = true := by
    cases given : config.loudness with
    | none => rfl
    | some x => exact loudness x (Option.mem_toList.mpr given)
  have slug (slug : Option String) : (Value.ofOption .text slug).isFinite = true := by
    cases slug <;> rfl
  have tracks : (Value.list (config.tracks.map TrackEntry.toValue)).isFinite = true := by
    rw [TrackEntry.isFinite_list]
    refine List.all_eq_true.mpr fun entry member => List.all_eq_true.mpr fun x number => ?_
    exact times x (List.mem_flatMap.mpr ⟨entry, member, number⟩)
  have formats := StreamFormat.isFinite_list config.formats
  unfold toValue
  rw [Value.isFinite_object]
  refine List.all_eq_true.mpr ?_
  simp only [List.forall_mem_cons]
  exact ⟨rfl, tracks, formats, measured, slug _, slug _, rfl, rfl, rfl, nofun⟩

/-- Settings with finite numbers are read as they were written. -/
theorem reads (finite : ∀ x ∈ config.numbers, x.isFinite = true)
    (readsBack : ∀ x ∈ config.numbers, Double.ReadsBack x) :
    shape.Reads 3 config.toValue.written (some config.toValue) := by
  have root := (Shape.reads_text config.root).deeper (Nat.zero_le 2)
  have tracks := TrackEntry.reads_list fun entry member x number _ =>
    readsBack x (List.mem_append_right _ (List.mem_flatMap.mpr ⟨entry, member, number⟩))
  have loudness : (Shape.optional .real).Reads 2 (Value.ofOption .real config.loudness).written
      (Value.ofOption .real config.loudness).readBack := by
    cases given : config.loudness with
    | none => exact (Shape.reads_null .real).deeper (Nat.zero_le 2)
    | some x =>
      have member := List.mem_append_left (config.tracks.flatMap TrackEntry.numbers)
        (Option.mem_toList.mpr given)
      have known : (Value.real x).readBack = some (.real x) := if_pos (finite x member)
      show (Shape.optional .real).Reads 2 (Value.real x).written (Value.real x).readBack
      rw [known]
      exact (Shape.reads_optional_real (finite x member) (readsBack x member)).deeper (Nat.zero_le 2)
  have slug (slug : Option String) : (Shape.optional .text).Reads 2 (Value.ofOption .text slug).written
      (Value.ofOption .text slug).readBack := by
    cases slug with
    | none => exact (Shape.reads_null .text).deeper (Nat.zero_le 2)
    | some content => exact (Shape.reads_optional_text content).deeper (Nat.zero_le 2)
  have hidden := (Shape.reads_bool config.hideTitle).deeper (Nat.zero_le 2)
  have clip := config.trialClip.reads_name.deeper (Nat.zero_le 2)
  have axis := config.volumeBar.reads_name.deeper (Nat.zero_le 2)
  have apart : ["root", "tracks", "formats", "loudness", "releaseSlug", "overrideSlug", "hideTitle",
      "trialClip", "volumeBar"].Nodup := by decide
  have whole : config.toValue.readBack = some config.toValue := if_pos (isFinite_toValue finite)
  rw [← whole, ← Value.readBack_bind config.toValue]
  refine Shape.reads_object "struct PlayerConfig" ?_ apart
  simp only [List.forall_mem_cons]
  exact ⟨⟨_, rfl, root⟩, ⟨_, rfl, tracks⟩, ⟨_, rfl, StreamFormat.reads_list config.formats⟩,
    ⟨_, rfl, loudness⟩, ⟨_, rfl, slug _⟩, ⟨_, rfl, slug _⟩, ⟨_, rfl, hidden⟩, ⟨_, rfl, clip⟩,
    ⟨_, rfl, axis⟩, nofun⟩

theorem ofJson_toValue (finite : ∀ x ∈ config.numbers, x.isFinite = true)
    (readsBack : ∀ x ∈ config.numbers, Double.ReadsBack x) :
    ofJson config.toValue.document = config.normalize := by
  have read : shape.readAs ofValue? config.toValue.document = .ok config :=
    Shape.readAs_document (reads finite readsBack) (by decide) (ofValue?_toValue config)
  unfold ofJson
  rw [read]

/-- Accepted settings are in their normal form, and they come back from the object into which they are
written if their numbers do. -/
theorem accepted_survives (accepted : config.Accepted) :
    config.IsNormal ∧
      ((∀ x ∈ config.numbers, x.isFinite = true →
          Shape.real.readAs Value.real? (Double.document x) = .ok x) →
        ofJson config.toValue.document = .ok config) := by
  refine ⟨accepted.isNormal, fun back => ?_⟩
  have readsBack : ∀ x ∈ config.numbers, Double.ReadsBack x := fun x number =>
    have finite := accepted.isFinite x number
    ⟨Double.read_text finite, back x number finite⟩
  rw [ofJson_toValue accepted.isFinite readsBack, accepted.isNormal.normalize]

/-- Settings of one track, given with a root that is not closed and with an empty slug. -/
def untidy : Settings := { Settings.oneTrack "" with root := some "https://music.example" }

/-- What becomes of them. -/
def tidied : Config Float :=
  { (Settings.oneTrack "").config with root := "https://music.example/", releaseSlug := none }

theorem tidied_survives :
    tidied.Accepted ∧
      (∀ x ∈ tidied.numbers, x.isFinite = true →
        Shape.real.readAs Value.real? (Double.document x) = .ok x) ∧
      tidied.IsNormal ∧ ofJson tidied.toValue.document = .ok tidied := by
  have read : ofJson (Settings.document untidy.named) = untidy.config.normalize :=
    ofJson_document (Settings.loudness_oneTrack "") (Settings.readsBack_oneTrack "")
      (List.Perm.refl _) (by decide +kernel)
  have normalized : untidy.config.normalize = .ok tidied := by decide +kernel
  have accepted : tidied.Accepted := .document _ (read.trans normalized)
  have back : ∀ x ∈ tidied.numbers, x.isFinite = true →
      Shape.real.readAs Value.real? (Double.document x) = .ok x :=
    fun x number finite => (Settings.readsBack_oneTrack "" x number finite).2
  exact ⟨accepted, back, (accepted_survives accepted).1, (accepted_survives accepted).2 back⟩

end Config

end ReleasePlayer
