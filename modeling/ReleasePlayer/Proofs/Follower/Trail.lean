/-
This file proves that a follower reports the way through the tracks and nothing else. The way starts on
the first track and goes on, observation by observation, to the track that the time belongs to; what
repeats is told once, and a time that belongs to no track is passed over. Each change reported is a step
of this way. A time that belongs to the current track leaves even the lyrics alone, so it does not matter
how often a follower is asked: observations on the way that lead nowhere are not noticed, neither in the
changes nor in the follower that is left.
-/

import Mathlib.Data.List.Destutter
import ReleasePlayer.Proofs.Follower.Lyrics

namespace ReleasePlayer

namespace Follower

/-! ### The way through the tracks -/

section Trails

variable {α : Type} [Scalar α] (table : TrackTable α)

/-- The change that an act makes known, if it makes one known. -/
def change? (follower : Follower) : Act α → Option TrackChange
  | .observe time => (follower.observe table time).2
  | _ => none

/-- The changes that are made known one after the other. -/
def changes (follower : Follower) : List (Act α) → List TrackChange
  | [] => []
  | act :: later =>
    (follower.change? table act).toList ++ (follower.act table act).changes later

/-- The place of the track that an observed time belongs to. -/
def Act.place? : Act α → Option Nat
  | .observe time => (table.trackAt? time).map Track.index
  | _ => none

/-- The places of the tracks on the way from a first one, told once for as long as they repeat. -/
def trail (first : Nat) (acts : List (Act α)) : List Nat :=
  (first :: acts.filterMap (Act.place? table)).destutter (· ≠ ·)

/-- Whether a time belongs to the current track or to none. -/
def isIdle (follower : Follower) (time : α) : Bool :=
  (table.trackAt? time).all fun track => track.index == follower.current

/-- Acts among which further times are observed that lead nowhere. -/
inductive Padded : Follower → List (Act α) → List (Act α) → Prop where
  | nil (follower : Follower) : Padded follower [] []
  | act {follower : Follower} {later padded : List (Act α)} (act : Act α)
      (rest : Padded (follower.act table act) later padded) :
      Padded follower (act :: later) (act :: padded)
  | idle {follower : Follower} {acts padded : List (Act α)} {time : α}
      (isIdle : follower.isIdle table time = true) (rest : Padded follower acts padded) :
      Padded follower acts (.observe time :: padded)

variable {table}

/-! ### One act -/

/-- A time that leads nowhere leaves the follower as it is. -/
theorem observe_of_isIdle {follower : Follower} {time : α}
    (idle : follower.isIdle table time = true) :
    follower.observe table time = (follower, none) := by
  unfold isIdle at idle
  cases found : table.trackAt? time with
  | none => exact observe_of_uncovered found
  | some track =>
    rw [found, Option.all_some, beq_iff_eq] at idle
    exact observe_of_same found idle

/-- An act that leads to another track makes that known. -/
theorem change?_of_other {follower : Follower} {act : Act α} {place : Nat}
    (leads : act.place? table = some place) (other : place ≠ follower.current) :
    ∃ change, follower.change? table act = some change ∧ change.previous = follower.current ∧
      change.current = place ∧ (follower.act table act).current = place := by
  cases act with
  | register index isOpen => cases leads
  | setOpen index isOpen => cases leads
  | observe time =>
    obtain ⟨track, found, rfl⟩ := Option.map_eq_some_iff.mp leads
    have moved := observe_of_other found other
    refine ⟨(follower.moveTo track.index).2, congrArg Prod.snd moved, rfl, rfl, ?_⟩
    exact (congrArg (·.1.current) moved).trans (current_reach _ _ _)

/-- An act that leads to no other track makes nothing known. -/
theorem change?_of_same {follower : Follower} {act : Act α}
    (stays : ∀ place, act.place? table = some place → place = follower.current) :
    follower.change? table act = none ∧ (follower.act table act).current = follower.current := by
  cases act with
  | register index isOpen => exact ⟨rfl, rfl⟩
  | setOpen index isOpen =>
    refine ⟨rfl, ?_⟩
    show (follower.setOpen index isOpen).current = follower.current
    rcases follower.setOpen_eq index isOpen with noted | unchanged
    · rw [noted]
      rfl
    · rw [unchanged]
  | observe time =>
    have idle : follower.isIdle table time = true := by
      unfold isIdle
      cases found : table.trackAt? time with
      | none => rfl
      | some track =>
        rw [Option.all_some, beq_iff_eq]
        exact stays track.index (congrArg (Option.map Track.index) found)
    have unchanged := observe_of_isIdle idle
    exact ⟨congrArg Prod.snd unchanged, congrArg (·.1.current) unchanged⟩

/-! ### Runs -/

theorem trail_cons_of_other {act : Act α} {first place : Nat}
    (leads : act.place? table = some place) (other : place ≠ first) (later : List (Act α)) :
    trail table first (act :: later) = first :: trail table place later := by
  unfold trail
  rw [List.filterMap_cons_some leads, List.destutter_cons', List.destutter_cons',
    List.destutter'_cons_pos _ other.symm]

theorem trail_cons_of_same {act : Act α} {first : Nat}
    (stays : ∀ place, act.place? table = some place → place = first) (later : List (Act α)) :
    trail table first (act :: later) = trail table first later := by
  unfold trail
  cases leads : act.place? table with
  | none => rw [List.filterMap_cons_none leads]
  | some place =>
    obtain rfl := stays place leads
    rw [List.filterMap_cons_some leads, List.destutter_cons', List.destutter_cons',
      List.destutter'_cons_neg _ (not_not.mpr rfl)]

/-- A way begins on its first track. -/
theorem trail_eq_cons (first : Nat) (acts : List (Act α)) :
    ∃ later, trail table first acts = first :: later := by
  induction acts generalizing first with
  | nil => exact ⟨[], rfl⟩
  | cons act later inductionHypothesis =>
    by_cases stays : ∀ place, act.place? table = some place → place = first
    · rw [trail_cons_of_same stays]
      exact inductionHypothesis first
    · push Not at stays
      obtain ⟨place, leads, other⟩ := stays
      exact ⟨_, trail_cons_of_other leads other later⟩

variable (table) in
/-- The changes are the steps of the way, and the follower ends where the way does. -/
theorem changes_eq_steps (follower : Follower) (acts : List (Act α)) :
    (follower.changes table acts).map (fun change => (change.previous, change.current)) =
        (trail table follower.current acts).zip (trail table follower.current acts).tail ∧
      (trail table follower.current acts).getLast? =
        some (follower.actAll table acts).current := by
  induction acts generalizing follower with
  | nil => exact ⟨rfl, rfl⟩
  | cons act later inductionHypothesis =>
    obtain ⟨steps, ends⟩ := inductionHypothesis (follower.act table act)
    by_cases stays : ∀ place, act.place? table = some place → place = follower.current
    · obtain ⟨nothing, same⟩ := change?_of_same stays
      rw [trail_cons_of_same stays, ← same]
      refine ⟨?_, ends⟩
      unfold changes
      rw [nothing]
      exact steps
    · push Not at stays
      obtain ⟨place, leads, other⟩ := stays
      obtain ⟨change, known, previous, current, reached⟩ := change?_of_other leads other
      rw [reached] at steps ends
      obtain ⟨rest, begins⟩ : ∃ rest, trail table place later = place :: rest :=
        trail_eq_cons place later
      rw [trail_cons_of_other leads other]
      rw [begins] at steps ends ⊢
      refine ⟨?_, ?_⟩
      · unfold changes
        rw [known, Option.toList_some, List.singleton_append, List.map_cons, steps, previous, current]
        rfl
      · rw [List.getLast?_cons_cons]
        exact ends

/-- What leads nowhere is not noticed. -/
theorem Padded.unnoticed {follower : Follower} {acts padded : List (Act α)}
    (interspersed : Padded table follower acts padded) :
    follower.changes table padded = follower.changes table acts ∧
      follower.actAll table padded = follower.actAll table acts := by
  induction interspersed with
  | nil => exact ⟨rfl, rfl⟩
  | @act follower later padded act _ inductionHypothesis =>
    obtain ⟨sameChanges, sameEnd⟩ := inductionHypothesis
    refine ⟨?_, sameEnd⟩
    unfold changes
    rw [sameChanges]
  | @idle follower acts padded time idle _ inductionHypothesis =>
    have unchanged := observe_of_isIdle idle
    have same : follower.act table (.observe time) = follower := congrArg Prod.fst unchanged
    have nothing : follower.change? table (.observe time) = none := congrArg Prod.snd unchanged
    obtain ⟨sameChanges, sameEnd⟩ := inductionHypothesis
    refine ⟨?_, ?_⟩
    · show (follower.change? table (.observe time)).toList ++
        (follower.act table (.observe time)).changes table padded = _
      rw [nothing, same]
      exact sameChanges
    · show (follower.act table (.observe time)).actAll table padded = _
      rw [same]
      exact sameEnd

variable (table)

/-- Whatever times are observed and whatever is noted of panels in between, the changes made known are
the steps of the way through the tracks, the follower ends on the last track of it, and times that lead
nowhere may be observed in between without changing what is made known or what is left. -/
theorem changes_follow_trail (acts : List (Act α)) :
    let first := start table.size
    let way := trail table 0 acts
    let ended := first.actAll table acts
    (first.changes table acts).map (fun change => (change.previous, change.current)) =
        way.zip way.tail ∧
      way.getLast? = some ended.current ∧
      ∀ padded, Padded table first acts padded →
        first.changes table padded = first.changes table acts ∧
          first.actAll table padded = ended := by
  intro first way ended
  obtain ⟨steps, ends⟩ := first.changes_eq_steps table acts
  exact ⟨steps, ends, fun _ interspersed => interspersed.unnoticed⟩

end Trails

/-- The listener comes back to the first track, whose open panel was closed on the way. -/
theorem way_and_back :
    let acts : List (Act Float) :=
      [.register 0 true, .register 2 false, .observe 150.0, .observe 250.0, .observe 50.0]
    let padded : List (Act Float) :=
      [.observe (0.0 / 0.0), .register 0 true, .observe 99.0, .register 2 false, .observe 150.0,
        .observe 900.0, .observe 100.0, .observe 250.0, .observe 50.0, .observe (0.0 - 1.0)]
    let first := start fourTracks.size
    let way := trail fourTracks 0 acts
    let ended := first.actAll fourTracks acts
    way = [0, 1, 2, 0] ∧ Padded fourTracks first acts padded ∧
      (first.changes fourTracks acts).map (fun change => (change.previous, change.current)) =
        way.zip way.tail ∧
      way.getLast? = some ended.current ∧
      first.changes fourTracks padded = first.changes fourTracks acts ∧
      first.actAll fourTracks padded = ended := by
  intro acts padded first way ended
  have interspersed : Padded fourTracks first acts padded := by
    refine .idle (by decide +kernel) (.act _ (.idle (by decide +kernel) (.act _ (.act _ ?_))))
    refine .idle (by decide +kernel) (.idle (by decide +kernel) (.act _ (.act _ ?_)))
    exact .idle (by decide +kernel) (.nil _)
  obtain ⟨steps, ends, unnoticed⟩ := changes_follow_trail fourTracks acts
  exact ⟨by decide +kernel, interspersed, steps, ends, unnoticed padded interspersed⟩

end Follower

end ReleasePlayer
