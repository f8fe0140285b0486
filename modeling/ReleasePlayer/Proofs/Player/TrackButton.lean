/-
This file says what the button in the row of a track does. The row is known by the slug of its track,
and a slug leads to the first track that has it: so the button of a track whose slug is also that of
an earlier one acts on the earlier one. If that track is the current one, the button plays or pauses
and everything stays in its place; otherwise the stream goes to the start of the track, which belongs
to no other track, and plays from there.
-/

import ReleasePlayer.Proofs.Player.PointerRelease
import ReleasePlayer.Proofs.Player.Skip

namespace ReleasePlayer

/-! ### Transports that stay in their place -/

/-- The transports that are picked out stay where they are when they start or pause. -/
structure Transport.Staying {α T : Type} [Transport α T] (accepts : T → Prop) : Prop where
  play {transport played : T} : accepts transport → Transport.play transport = .ok played →
    Transport.position played = Transport.position transport
  pause {transport : T} : accepts transport →
    Transport.position (Transport.pause transport).1 = Transport.position transport

theorem InMemory.Deck.staying {α : Type} [Scalar α] :
    Transport.Staying fun deck : InMemory.Deck α => deck.source.isSome = true where
  play _ started := by
    rw [eq_of_play started]
    rfl
  pause _ := rfl

/-! ### The first track with a slug -/

namespace TrackTable

variable {α : Type} [Scalar α] {table : TrackTable α} {slug : String}

/-- A track is the first one of a table with a slug. -/
structure FirstOf (table : TrackTable α) (slug : String) (track : Track α) : Prop where
  placed : table.get? track.index = some track
  named : track.slug = slug
  first {other : Track α} : other ∈ table.toList → other.slug = slug → track.index ≤ other.index

/-- The search for a slug finds the first track that has it. -/
theorem InOrder.firstOf_of_ofSlug? (inOrder : InOrder table) {track : Track α}
    (found : table.ofSlug? slug = some track) : FirstOf table slug track := by
  obtain ⟨named, place, within, here, before⟩ := List.find?_eq_some_iff_getElem.mp found
  have placed : table.get? place = some track := List.getElem?_eq_some_iff.mpr ⟨within, here⟩
  have index := inOrder.index placed
  refine ⟨inOrder.get?_index (List.mem_of_find?_eq_some found), eq_of_beq named, ?_⟩
  intro other member otherNamed
  by_contra notFirst
  obtain ⟨otherWithin, there⟩ := List.getElem?_eq_some_iff.mp (inOrder.get?_index member)
  have unlike := before other.index (by omega)
  rw [there, otherNamed] at unlike
  simp at unlike

/-- There is a first track with the slug of any track. -/
theorem InOrder.exists_firstOf (inOrder : InOrder table) {row : Track α}
    (member : row ∈ table.toList) :
    ∃ track, table.ofSlug? row.slug = some track ∧ FirstOf table row.slug track := by
  have found : (table.ofSlug? row.slug).isSome = true :=
    List.find?_isSome.mpr ⟨row, member, beq_self_eq_true _⟩
  obtain ⟨track, found⟩ := Option.isSome_iff_exists.mp found
  exact ⟨track, found, inOrder.firstOf_of_ofSlug? found⟩

end TrackTable

/-! ### Starting, pausing and going to a track -/

namespace Stream

variable {α T : Type} [Transport α T] {accepts : T → Prop} {stream : Stream T}

theorem position_of_play (staying : Transport.Staying accepts) (ready : Ready accepts stream)
    {played : Stream T} (started : stream.play = .ok played) : played.position = stream.position := by
  unfold Stream.play at started
  split at started
  · cases started
  · split at started
    · rename_i transport playing
      obtain rfl := Except.ok.inj started
      exact staying.play ready.accepting playing
    · cases started

end Stream

namespace Player

variable {α T G S F : Type} [Scalar α] [Transport α T] {accepts : T → Prop}
  {player : Player α T G S F}

/-- What the button of a row leaves: the current track is the wanted one. If it was before, the stream
changed between playing and pausing in its place, and otherwise it plays from the start of the track. -/
structure Pressed (before after : Player α T G S F) (wanted : Track α) : Prop where
  current : after.follower.current = wanted.index
  position : after.stream.position =
    if wanted.index = before.follower.current then before.stream.position else wanted.starts
  isPaused : after.stream.isPaused =
    if wanted.index = before.follower.current then !before.stream.isPaused else false

omit [Scalar α] in
/-- A stream that can be started plays from where it is. -/
theorem startStream_of_ready (obliging : Transport.Obliging accepts)
    (staying : Transport.Staying accepts) (ready : player.stream.Ready accepts) :
    player.startStream.follower = player.follower ∧
      player.startStream.stream.position = player.stream.position ∧
      player.startStream.stream.isPaused = false := by
  obtain ⟨played, started, playing, -⟩ := ready.play obliging
  unfold startStream
  rw [started]
  exact ⟨rfl, Stream.position_of_play staying ready started, playing⟩

omit [Scalar α] in
/-- The button of the current track plays or pauses. -/
theorem pressed_togglePlay (obliging : Transport.Obliging accepts)
    (staying : Transport.Staying accepts) (ready : player.stream.Ready accepts) {wanted : Track α}
    (current : wanted.index = player.follower.current) :
    Pressed player player.togglePlay wanted := by
  unfold togglePlay
  cases paused : player.stream.isPaused with
  | true =>
    obtain ⟨follower, position, playing⟩ := startStream_of_ready obliging staying ready
    refine ⟨?_, ?_, ?_⟩
    · rw [if_pos rfl, follower, current]
    · rw [if_pos rfl, if_pos current, position]
    · rw [if_pos rfl, if_pos current, playing, paused]
      rfl
  | false =>
    refine ⟨current.symm, ?_, ?_⟩
    · rw [if_pos current]
      exact staying.pause ready.accepting
    · rw [if_pos current, paused]
      exact (ready.pause obliging).1

variable [Scalar.Ordered α] [Transport.Seekable α T]

/-- Going to a track that has length, or to the last one, leads to its start and makes it the current
one. -/
theorem goTo_lands (obliging : Transport.Obliging accepts) (ready : player.stream.Ready accepts)
    (inOrder : player.table.InOrder) {wanted : Track α}
    (placed : player.table.get? wanted.index = some wanted)
    (playable : wanted.starts < wanted.ends ∨ wanted.index = player.table.lastIndex)
    (nonneg : (0.0 : α) ≤ wanted.starts)
    (long : ∀ duration, player.stream.duration = some duration →
      player.table.last.ends ≤ duration) :
    (player.goTo wanted.index).follower.current = wanted.index ∧
      (player.goTo wanted.index).stream.position = wanted.starts ∧
      (player.goTo wanted.index).stream.Ready accepts := by
  have member := TrackTable.mem_of_get? placed
  have within : ∀ duration, player.stream.duration = some duration → wanted.starts ≤ duration :=
    fun duration known => Scalar.Ordered.le_trans (inOrder.forward member)
      (Scalar.Ordered.le_trans (TrackTable.ends_le_last inOrder placed) (long duration known))
  obtain ⟨transport, -, position, sought⟩ :=
    Stream.seek_of_within (inOrder.finite member).1 nonneg within
  have moved : (player.seek wanted.starts).stream = { player.stream with transport } :=
    congrArg Prod.fst sought
  have gone : player.goTo wanted.index = (player.seek wanted.starts).updateTime := by
    unfold goTo
    rw [placed]
  have covered : (player.seek wanted.starts).table.trackAt?
      (player.seek wanted.starts).stream.position = some wanted := by
    rw [moved]
    show player.table.trackAt? (Transport.position transport) = some wanted
    rw [position]
    exact inOrder.trackAt?_starts placed playable
  rw [gone, stream_updateTime]
  refine ⟨(updateTime_tells covered []).1, ?_, (ready.seek obliging wanted.starts).2⟩
  rw [moved]
  exact position

/-- In a release whose tracks have length, the button in the row of a track acts on the first track
with the same slug. If that is the current one, the button plays or pauses it in its place, and otherwise
the player goes to its start and plays. It is the track of the row itself unless an earlier one has its
slug. -/
theorem trackButton_acts_on_first (obliging : Transport.Obliging accepts)
    (staying : Transport.Staying accepts) {entries : List (TrackEntry α)}
    (accepted : TrackTable.ofEntries entries = .ok player.table)
    (playable : ∀ track ∈ player.table.toList,
      (0.0 : α) ≤ track.starts ∧ track.starts < track.ends)
    (long : ∀ duration, player.stream.duration = some duration →
      player.table.last.ends ≤ duration)
    (attached : player.stream.hasSource = true) (accepting : accepts player.stream.transport)
    {place : Nat} {row : Track α} (listed : player.table.get? place = some row) :
    ∃ wanted after, player.table.FirstOf row.slug wanted ∧
      player.trackButton row.slug = .ok after ∧ Pressed player after wanted ∧
      ((∀ earlier < place, ∀ other, player.table.get? earlier = some other →
        other.slug ≠ row.slug) → wanted = row) := by
  have inOrder := TrackTable.inOrder_of_ofEntries accepted
  have ready : player.stream.Ready accepts := ⟨attached, accepting⟩
  have member := TrackTable.mem_of_get? listed
  obtain ⟨wanted, found, firstOf⟩ := inOrder.exists_firstOf member
  have same (apart : ∀ earlier < place, ∀ other, player.table.get? earlier = some other →
      other.slug ≠ row.slug) : wanted = row := by
    have notBehind := firstOf.first member rfl
    rw [inOrder.index listed] at notBehind
    rcases Nat.lt_or_eq_of_le notBehind with earlier | here
    · exact absurd firstOf.named (apart _ earlier wanted firstOf.placed)
    · have placed := firstOf.placed
      rw [here, listed] at placed
      exact (Option.some.inj placed).symm
  have indexed : player.indexOf row.slug = .ok wanted.index := by
    unfold indexOf
    rw [found]
  unfold trackButton
  rw [indexed]
  dsimp only
  by_cases current : wanted.index = player.follower.current
  · rw [if_pos current]
    exact ⟨wanted, _, firstOf, rfl, pressed_togglePlay obliging staying ready current, same⟩
  · rw [if_neg current]
    have wantedMember := TrackTable.mem_of_get? firstOf.placed
    obtain ⟨nonneg, positive⟩ := playable wanted wantedMember
    obtain ⟨index, position, readyThere⟩ :=
      goTo_lands obliging ready inOrder firstOf.placed (Or.inl positive) nonneg long
    obtain ⟨follower, stays, playing⟩ := startStream_of_ready obliging staying readyThere
    refine ⟨wanted, _, firstOf, rfl, ⟨?_, ?_, ?_⟩, same⟩
    · rw [follower, index]
    · rw [if_neg current, stays, position]
    · rw [if_neg current, playing]

end Player

/-! ### A release with two tracks of one slug -/

namespace Namesakes

open InMemory Player

/-- Three tracks, of which the first and the last one have the same slug. -/
def config : Config Float :=
  { TwoTracks.config with
    tracks := [⟨"dawn", "Dawn", "", 0.0, 10.0⟩, ⟨"dusk", "Dusk", "", 10.0, 20.0⟩,
      ⟨"dawn", "Dawn again", "", 20.0, 30.0⟩] }

/-- The player of the release, in memory, on an amplified output. -/
def setUp : Except (SetupError Float) (Player Float (Deck Float) (Gain Float) Store Frames) :=
  Player.new config (Deck.withDuration (some 30.0)) (Gain.ofHeadroom .amplified)
    (Store.ofEntries [] false) (Frames.fresh false)

/-- The stream is attached. -/
def attached : List (Command Float) := [.attach (some ⟨"opus", "audio/ogg"⟩) TwoTracks.endpoint]

/-- The stream is attached, and the second track plays. -/
def atDusk : List (Command Float) := attached ++ [.trackButton "dusk"]

/-- The tracks have length, and the stream reaches past the last one and can be started. -/
def Playable (player : Player Float (Deck Float) (Gain Float) Store Frames) : Prop :=
  (∀ track ∈ player.table.toList, (0.0 : Float) ≤ track.starts ∧ track.starts < track.ends) ∧
    (∀ duration ∈ player.stream.duration, player.table.last.ends ≤ duration) ∧
    player.stream.hasSource = true ∧ player.stream.transport.source.isSome = true

instance (player : Player Float (Deck Float) (Gain Float) Store Frames) :
    Decidable (Playable player) := inferInstanceAs (Decidable (_ ∧ _))

/-- From the second track, the button in the row of the last one leads to the first. -/
theorem last_row_leads_to_first :
    ∃ player, setUp = .ok player ∧
      let reached := atDusk.foldl perform player
      Playable reached ∧ reached.follower.current = 1 ∧
        ∃ row wanted after, reached.table.get? 2 = some row ∧
          reached.table.FirstOf row.slug wanted ∧ reached.trackButton row.slug = .ok after ∧
          Pressed reached after wanted ∧ wanted.index = 0 := by
  obtain ⟨player, made, checked⟩ := exists_of_any setUp (fun player =>
    let reached := atDusk.foldl perform player
    decide (Playable reached ∧ reached.follower.current = 1 ∧
      TrackTable.ofEntries config.tracks = .ok reached.table ∧
      reached.table.first.index = 0 ∧
      (reached.table.get? 2).map (·.slug) = some reached.table.first.slug)) (by decide +kernel)
  obtain ⟨playable, current, accepted, first, namesake⟩ := of_decide_eq_true checked
  obtain ⟨row, listed, named⟩ := Option.map_eq_some_iff.mp namesake
  obtain ⟨wanted, after, firstOf, pressed, left, -⟩ := trackButton_acts_on_first Deck.obliging
    Deck.staying accepted playable.1 playable.2.1 playable.2.2.1 playable.2.2.2 listed
  have notBehind := firstOf.first List.mem_cons_self named.symm
  rw [first] at notBehind
  exact ⟨player, made, playable, current, row, wanted, after, listed, firstOf, pressed, left,
    Nat.le_zero.mp notBehind⟩

/-- From the first track, the button in the row of the last one does not lead there: it starts the
first track where it is. -/
theorem last_row_starts_first :
    ∃ player, setUp = .ok player ∧
      let ready := attached.foldl perform player
      Playable ready ∧ ready.follower.current = 0 ∧
        ∃ row after, ready.table.get? 2 = some row ∧ row.starts = 20.0 ∧
          ready.trackButton row.slug = .ok after ∧ after.follower.current = 0 ∧
          (after.stream.position : Float) = 0.0 := by
  obtain ⟨player, made, checked⟩ := exists_of_any setUp (fun player =>
    let ready := attached.foldl perform player
    decide (Playable ready ∧ ready.follower.current = 0 ∧
      ∃ row ∈ ready.table.get? 2, row.starts = 20.0 ∧
        ∃ after ∈ (ready.trackButton row.slug).toOption, after.follower.current = 0 ∧
          (after.stream.position : Float) = 0.0)) (by decide +kernel)
  obtain ⟨playable, current, row, listed, starts, after, pressed, rest⟩ := of_decide_eq_true checked
  refine ⟨player, made, playable, current, row, after, listed, starts, ?_, rest⟩
  cases outcome : (attached.foldl perform player).trackButton row.slug with
  | ok given =>
    rw [outcome] at pressed
    exact congrArg Except.ok (Option.some.inj pressed)
  | error _ =>
    rw [outcome] at pressed
    cases pressed

end Namesakes

end ReleasePlayer
