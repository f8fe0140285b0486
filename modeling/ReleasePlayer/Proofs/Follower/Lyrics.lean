/-
This file says which lyrics go along from track to track, by what was left and in which state. The
follower itself remembers a single wish, which it takes back when a closed panel is left but not when
it is fulfilled. So the wish may be out of date; it is consulted, though, only when a track without a
panel is left, and on such a track it is up to date: whoever arrives there either brings the wish
along or has just taken it back. A track that has a panel never loses it, so nothing between arriving
and leaving can turn an old wish into a current one. It follows that the lyrics of the track reached
are opened exactly if, among the tracks left so far that had a panel, the last one had it open.
-/

import Mathlib.Logic.Basic
import ReleasePlayer.Follower
import ReleasePlayer.Scalar.Double

namespace ReleasePlayer

namespace Follower

/-! ### What is done to a follower -/

inductive Act (α : Type) where
  | register (index : Nat) (isOpen : Bool)
  | setOpen (index : Nat) (isOpen : Bool)
  | observe (time : α)

/-- A track that was left, and its panel at that moment. -/
structure Departure where
  track : Nat
  panel : Option Bool
deriving DecidableEq, Repr

/-- The last panel that was left: whether it was open, if there was one at all. -/
def lastPanel (departures : List Departure) : Option Bool :=
  (departures.filterMap Departure.panel).getLast?

section Acts

variable {α : Type} [Scalar α]

def act (follower : Follower) (table : TrackTable α) : Act α → Follower
  | .register index isOpen => follower.register index isOpen
  | .setOpen index isOpen => follower.setOpen index isOpen
  | .observe time => (follower.observe table time).1

def actAll (follower : Follower) (table : TrackTable α) (acts : List (Act α)) : Follower :=
  acts.foldl (fun follower => follower.act table) follower

/-- The track that an act leaves, if it leaves one. -/
def departure? (follower : Follower) (table : TrackTable α) : Act α → Option Departure
  | .observe time => (follower.observe table time).2.map fun change =>
      ⟨change.previous, follower.panel? change.previous⟩
  | _ => none

/-- The tracks that are left one after the other. -/
def departures (follower : Follower) (table : TrackTable α) : List (Act α) → List Departure
  | [] => []
  | act :: later =>
    (follower.departure? table act).toList ++ (follower.act table act).departures table later

end Acts

theorem lastPanel_append (departures : List Departure) (departure : Departure) :
    lastPanel (departures ++ [departure]) = departure.panel.or (lastPanel departures) := by
  obtain ⟨track, panel⟩ := departure
  unfold lastPanel
  rw [List.filterMap_append]
  cases panel with
  | none =>
    have dropped : [Departure.mk track none].filterMap Departure.panel = [] := rfl
    rw [dropped, List.append_nil, Option.none_or]
  | some isOpen =>
    have kept : [Departure.mk track (some isOpen)].filterMap Departure.panel = [isOpen] := rfl
    rw [kept, List.getLast?_concat, Option.some_or]

/-! ### Panels -/

theorem panel?_register_of_ne (follower : Follower) {index other : Nat} (isOpen : Bool)
    (apart : other ≠ index) : (follower.register index isOpen).panel? other =
      follower.panel? other := by
  unfold panel? register
  rw [List.getElem?_set_ne apart.symm]

theorem panel?_register_of_isSome (follower : Follower) {index : Nat} (isOpen : Bool)
    (there : (follower.panel? index).isSome = true) :
    (follower.register index isOpen).panel? index = some isOpen := by
  unfold panel? at there
  unfold panel? register
  rcases Nat.lt_or_ge index follower.lyrics.length with within | outside
  · rw [List.getElem?_set_self within]
    rfl
  · rw [List.getElem?_eq_none outside] at there
    cases there

theorem panel?_register_of_lt (follower : Follower) {index : Nat}
    (within : index < follower.lyrics.length) (isOpen : Bool) (other : Nat) :
    (follower.register index isOpen).panel? other =
      if other = index then some isOpen else follower.panel? other := by
  by_cases here : other = index
  · subst here
    rw [if_pos rfl]
    unfold panel? register
    rw [List.getElem?_set_self within]
    rfl
  · rw [if_neg here, panel?_register_of_ne follower isOpen here]

/-- Noting a panel takes none away. -/
theorem panel?_eq_none_of_register {follower : Follower} {index other : Nat} {isOpen : Bool}
    (missing : (follower.register index isOpen).panel? other = none) :
    follower.panel? other = none := by
  by_cases same : other = index
  · subst same
    cases there : follower.panel? other with
    | none => rfl
    | some wasOpen =>
      rw [panel?_register_of_isSome follower isOpen (Option.isSome_of_eq_some there)] at missing
      cases missing
  · rw [panel?_register_of_ne follower isOpen same] at missing
    exact missing

theorem setOpen_eq (follower : Follower) (index : Nat) (isOpen : Bool) :
    follower.setOpen index isOpen = follower.register index isOpen ∨
      follower.setOpen index isOpen = follower := by
  unfold setOpen
  split
  · exact Or.inl rfl
  · exact Or.inr rfl

/-- What is told of a panel that is there is noted. -/
theorem panel?_setOpen_of_isSome (follower : Follower) {index : Nat}
    (there : (follower.panel? index).isSome = true) (isOpen : Bool) (other : Nat) :
    (follower.setOpen index isOpen).panel? other =
      if other = index then some isOpen else follower.panel? other := by
  obtain ⟨wasOpen, panel⟩ := Option.isSome_iff_exists.mp there
  have noted : follower.setOpen index isOpen = follower.register index isOpen := by
    unfold setOpen
    rw [panel]
  rw [noted]
  split
  · rename_i here
    rw [here]
    exact panel?_register_of_isSome follower isOpen there
  · rename_i elsewhere
    exact panel?_register_of_ne follower isOpen elsewhere

/-! ### Leaving a track -/

/-- Leaving a track closes its panel and touches no other one. -/
theorem panel?_leave (follower : Follower) (index : Nat) :
    follower.leave.1.panel? index =
      if index = follower.current then (follower.panel? index).map fun _ => false
      else follower.panel? index := by
  by_cases here : index = follower.current
  · subst here
    rw [if_pos rfl]
    unfold leave
    split
    · rename_i isOpen
      rw [isOpen]
      exact panel?_register_of_isSome follower false (Option.isSome_of_eq_some isOpen)
    · rename_i isClosed
      rw [isClosed]
      exact isClosed
    · rename_i missing
      rw [missing]
      rfl
  · rw [if_neg here]
    unfold leave
    split
    · exact panel?_register_of_ne follower false here
    · rfl
    · rfl

/-- Whoever goes on without a wish leaves none behind. -/
theorem wantsLyrics_leave {follower : Follower} (unwanted : follower.leave.2 = false) :
    follower.leave.1.wantsLyrics = false := by
  unfold leave at unwanted ⊢
  split at unwanted
  · cases unwanted
  · rfl
  · exact unwanted

/-! ### Reaching a track -/

theorem current_reach (follower : Follower) (index : Nat) (wanted : Bool) :
    (follower.reach index wanted).current = index := by
  unfold reach
  dsimp only
  split
  · split <;> rfl
  · rfl

/-- Reaching a track opens its panel if that is wanted, and touches no other one. -/
theorem panel?_reach (follower : Follower) (index : Nat) (wanted : Bool) (other : Nat) :
    (follower.reach index wanted).panel? other =
      if other = index ∧ wanted = true then (follower.panel? other).map fun _ => true
      else follower.panel? other := by
  have same : Follower.panel? { follower with current := index } = follower.panel? := rfl
  unfold reach
  dsimp only
  cases wanted with
  | false => rw [if_neg Bool.false_ne_true, if_neg (by rintro ⟨-, ⟨⟩⟩), same]
  | true =>
    rw [if_pos rfl, same]
    by_cases here : other = index
    · subst here
      rw [if_pos ⟨rfl, rfl⟩]
      cases there : follower.panel? other with
      | some isOpen =>
        exact panel?_register_of_isSome _ true (Option.isSome_of_eq_some there)
      | none => exact there
    · rw [if_neg fun both => here both.1]
      split
      · exact panel?_register_of_ne _ true here
      · rfl

theorem wantsLyrics_reach {follower : Follower} {index : Nat} {wanted : Bool}
    (kept : wanted = false → follower.wantsLyrics = false)
    (missing : follower.panel? index = none) :
    (follower.reach index wanted).wantsLyrics = wanted := by
  have same : Follower.panel? { follower with current := index } index = none := missing
  unfold reach
  dsimp only
  cases wanted with
  | false => exact kept rfl
  | true => rw [if_pos rfl, same]

/-! ### The wish is up to date where it is consulted -/

/-- On a track without a panel the wish says whether the last panel that was left was open. -/
def Remembers (follower : Follower) (left : List Departure) : Prop :=
  follower.panel? follower.current = none →
    follower.wantsLyrics = (lastPanel left == some true)

/-- The departure from the current track. -/
def departing (follower : Follower) : Departure :=
  ⟨follower.current, follower.panel? follower.current⟩

variable {follower : Follower} {left : List Departure}

theorem Remembers.leave (remembers : Remembers follower left) :
    follower.leave.2 = (lastPanel (left ++ [follower.departing]) == some true) := by
  rw [lastPanel_append]
  unfold Follower.leave departing
  split
  · rename_i isOpen
    rw [isOpen]
    rfl
  · rename_i isClosed
    rw [isClosed]
    rfl
  · rename_i missing
    rw [missing, Option.none_or]
    exact remembers missing

theorem Remembers.register (remembers : Remembers follower left) (index : Nat) (isOpen : Bool) :
    Remembers (follower.register index isOpen) left :=
  fun missing => remembers (panel?_eq_none_of_register missing)

theorem Remembers.setOpen (remembers : Remembers follower left) (index : Nat) (isOpen : Bool) :
    Remembers (follower.setOpen index isOpen) left := by
  rcases follower.setOpen_eq index isOpen with noted | unchanged
  · rw [noted]
    exact remembers.register index isOpen
  · rw [unchanged]
    exact remembers

theorem Remembers.moveTo (remembers : Remembers follower left) (index : Nat) :
    Remembers (follower.moveTo index).1 (left ++ [follower.departing]) := by
  intro missing
  have arrived : (follower.moveTo index).1 = follower.leave.1.reach index follower.leave.2 := rfl
  rw [arrived, current_reach, panel?_reach] at missing
  have noPanel : follower.leave.1.panel? index = none := by
    split at missing
    · exact Option.map_eq_none_iff.mp missing
    · exact missing
  rw [arrived, wantsLyrics_reach wantsLyrics_leave noPanel]
  exact remembers.leave

/-! ### Taking note of positions -/

section Observe

variable {α : Type} [Scalar α] {table : TrackTable α} {time : α}

theorem observe_of_uncovered (uncovered : table.trackAt? time = none) :
    follower.observe table time = (follower, none) := by
  unfold observe
  rw [uncovered]

theorem observe_of_same {track : Track α} (covered : table.trackAt? time = some track)
    (same : track.index = follower.current) : follower.observe table time = (follower, none) := by
  unfold observe
  rw [covered]
  exact if_pos same

theorem observe_of_other {track : Track α} (covered : table.trackAt? time = some track)
    (other : track.index ≠ follower.current) :
    follower.observe table time =
      ((follower.moveTo track.index).1, some (follower.moveTo track.index).2) := by
  unfold observe
  rw [covered]
  exact if_neg other

end Observe

section Runs

variable {α : Type} [Scalar α] (table : TrackTable α)

/-- A position either changes nothing or takes the follower to another track. -/
theorem observe_eq (follower : Follower) (time : α) :
    follower.observe table time = (follower, none) ∨
      ∃ index, index ≠ follower.current ∧ follower.observe table time =
        ((follower.moveTo index).1, some (follower.moveTo index).2) := by
  cases covered : table.trackAt? time with
  | none => exact Or.inl (observe_of_uncovered covered)
  | some track =>
    by_cases same : track.index = follower.current
    · exact Or.inl (observe_of_same covered same)
    · exact Or.inr ⟨track.index, same, observe_of_other covered same⟩

theorem Remembers.act (remembers : Remembers follower left) (act : Act α) :
    Remembers (follower.act table act) (left ++ (follower.departure? table act).toList) := by
  cases act with
  | register index isOpen =>
    show Remembers (follower.register index isOpen) (left ++ [])
    rw [List.append_nil]
    exact remembers.register index isOpen
  | setOpen index isOpen =>
    show Remembers (follower.setOpen index isOpen) (left ++ [])
    rw [List.append_nil]
    exact remembers.setOpen index isOpen
  | observe time =>
    unfold Follower.act departure?
    dsimp only
    rcases follower.observe_eq table time with unchanged | ⟨index, -, moved⟩
    · rw [unchanged]
      show Remembers follower (left ++ [])
      rw [List.append_nil]
      exact remembers
    · rw [moved]
      exact remembers.moveTo index

theorem Remembers.actAll (remembers : Remembers follower left) (acts : List (Act α)) :
    Remembers (follower.actAll table acts) (left ++ follower.departures table acts) := by
  induction acts generalizing follower left with
  | nil =>
    show Remembers follower (left ++ [])
    rw [List.append_nil]
    exact remembers
  | cons act later inductionHypothesis =>
    have next := inductionHypothesis (remembers.act table act)
    rw [List.append_assoc] at next
    exact next

theorem remembers_start (count : Nat) : Remembers (start count) [] := fun _ => rfl

/-! ### What goes along -/

/-- A change of tracks takes the lyrics along as the tracks left so far ask for, the last of them
being the one that the change leaves. -/
structure Carries (before after : Follower) (left : List Departure) (change : TrackChange) :
    Prop where
  previous : change.previous = before.current
  current : change.current = after.current
  apart : change.current ≠ change.previous
  closes : change.closeLyrics =
    if before.panel? change.previous = some true then some change.previous else none
  opens : change.openLyrics =
    if (before.panel? change.current).isSome = true ∧ lastPanel left = some true then
      some change.current
    else none
  closed : after.panel? change.previous = (before.panel? change.previous).map fun _ => false
  opened : change.openLyrics = some change.current → after.panel? change.current = some true
  untouched : ∀ index, index ≠ change.previous →
    (index = change.current → change.openLyrics = none) →
    after.panel? index = before.panel? index

/-- A change of tracks closes the panel of the track left, opens the one of the track reached if that
is wanted, and touches no other one. -/
theorem panel?_moveTo (follower : Follower) {index : Nat} (apart : index ≠ follower.current)
    (other : Nat) : (follower.moveTo index).1.panel? other =
      if other = follower.current then (follower.panel? other).map fun _ => false
      else if other = index ∧ follower.leave.2 = true then (follower.panel? other).map fun _ => true
      else follower.panel? other := by
  show (follower.leave.1.reach index follower.leave.2).panel? other = _
  rw [panel?_reach, panel?_leave]
  by_cases left : other = follower.current
  · have elsewhere : ¬ (other = index ∧ follower.leave.2 = true) :=
      fun both => apart (both.1.symm.trans left)
    rw [if_neg elsewhere, if_pos left, if_pos left]
  · rw [if_neg left, if_neg left]

theorem Remembers.openLyrics_moveTo (remembers : Remembers follower left) {index : Nat}
    (apart : index ≠ follower.current) : (follower.moveTo index).2.openLyrics =
      if (follower.panel? index).isSome = true ∧
        lastPanel (left ++ [follower.departing]) = some true then some index else none := by
  refine if_congr ?_ rfl rfl
  show (follower.leave.2 && (follower.leave.1.panel? index).isSome) = true ↔ _
  rw [panel?_leave, if_neg apart, remembers.leave, Bool.and_eq_true, beq_iff_eq, and_comm]

theorem Remembers.carries (remembers : Remembers follower left) {index : Nat}
    (apart : index ≠ follower.current) :
    Carries follower (follower.moveTo index).1 (left ++ [follower.departing])
      (follower.moveTo index).2 := by
  have opens := remembers.openLyrics_moveTo apart
  refine ⟨rfl, (current_reach _ index _).symm, apart, if_congr beq_iff_eq rfl rfl, opens, ?_,
    fun opened => ?_, fun other elsewhere unopened => ?_⟩
  · show (follower.moveTo index).1.panel? follower.current = _
    rw [panel?_moveTo follower apart, if_pos rfl]
    rfl
  · show (follower.moveTo index).1.panel? index = some true
    rw [opens] at opened
    split at opened
    · rename_i wished
      have wanted : follower.leave.2 = true := by rw [remembers.leave, wished.2]; rfl
      obtain ⟨isOpen, there⟩ := Option.isSome_iff_exists.mp wished.1
      rw [panel?_moveTo follower apart, if_neg apart, if_pos ⟨rfl, wanted⟩, there]
      rfl
    · cases opened
  · have elsewhere : other ≠ follower.current := elsewhere
    rw [panel?_moveTo follower apart, if_neg elsewhere]
    split
    · -- the lyrics of the track reached are wanted, and yet not opened: there are none
      rename_i here
      obtain ⟨rfl, wanted⟩ := here
      have unopened := unopened rfl
      rw [opens, ite_eq_right_iff] at unopened
      cases there : follower.panel? other with
      | none => rfl
      | some isOpen =>
        rw [remembers.leave, beq_iff_eq] at wanted
        cases unopened ⟨Option.isSome_of_eq_some there, wanted⟩
    · rfl

/-- However panels are noted, opened, closed and passed, a change of tracks closes the panel of the
track left if it is open, and opens the panel of the track reached exactly if the last panel that was
left was open. -/
theorem observe_carries_lyrics (acts : List (Act α)) {time : α}
    {after : Follower} {change : TrackChange}
    (changed : ((start table.size).actAll table acts).observe table time = (after, some change)) :
    let before := (start table.size).actAll table acts
    Carries before after ((start table.size).departures table acts ++
      [⟨change.previous, before.panel? change.previous⟩]) change := by
  intro before
  have remembers := (remembers_start table.size).actAll table acts
  rw [List.nil_append] at remembers
  rcases before.observe_eq table time with unchanged | ⟨index, apart, moved⟩
  · cases (Prod.mk.inj (unchanged.symm.trans changed)).2
  · obtain ⟨rfl, moved⟩ := Prod.mk.inj (moved.symm.trans changed)
    obtain rfl := Option.some.inj moved
    exact remembers.carries apart

end Runs

/-- Four tracks in a row. -/
def fourTracks : TrackTable Float where
  first := ⟨⟨"dawn", "Dawn", "", 0.0, 100.0⟩, 0⟩
  others :=
    [⟨⟨"noon", "Noon", "", 100.0, 200.0⟩, 1⟩, ⟨⟨"dusk", "Dusk", "", 200.0, 300.0⟩, 2⟩,
      ⟨⟨"night", "Night", "", 300.0, 400.0⟩, 3⟩]

/-- A wish is carried over a track without a panel and fulfilled, and stays behind as an old one; but
the panel that it opened is closed again, and so the next one stays closed. -/
theorem old_wish_opens_nothing :
    let acts : List (Act Float) :=
      [.register 0 true, .register 2 false, .observe 150.0, .observe 250.0, .setOpen 2 false,
        .register 3 false]
    let before := (start fourTracks.size).actAll fourTracks acts
    before.wantsLyrics = true ∧ ∃ after,
      before.observe fourTracks 350.0 = (after, some ⟨2, 3, none, none⟩) ∧
        Carries before after
          ((start fourTracks.size).departures fourTracks acts ++ [⟨2, before.panel? 2⟩])
          ⟨2, 3, none, none⟩ := by
  intro acts before
  have wish : before.wantsLyrics = true := by decide +kernel
  have changed : before.observe fourTracks 350.0 =
      ((before.observe fourTracks 350.0).1, some ⟨2, 3, none, none⟩) := by decide +kernel
  exact ⟨wish, _, changed, observe_carries_lyrics fourTracks acts changed⟩

end Follower

end ReleasePlayer
