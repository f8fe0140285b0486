/-
This file proves that a button shows exactly one of the three classes at any time, whatever else it
is marked with. Swaps may overlap: one that is asked for while the same one is pending is accepted
again, and when it ends it adds its class though the class that it leaves is long gone. This does no
harm, since the swaps pending are always some that arrived already and then some from the class shown:
an end either adds the class that is there anyway, or takes the button on to the next one.
-/

import Mathlib.Logic.ExistsUnique
import Mathlib.Logic.Function.Basic
import ReleasePlayer.Proofs.Page.Button

namespace ReleasePlayer

namespace ControlClass

theorem name_injective : Function.Injective name := by
  intro first second same
  cases first <;> cases second <;> first | rfl | exact absurd same (by decide)

theorem name_ne_transition (shown : ControlClass) : shown.name ≠ Page.Classes.transition := by
  cases shown <;> decide

end ControlClass

namespace Page

namespace Classes

variable {classes : Classes} {shown : ControlClass}

theorem mem_add (classes : Classes) (name other : String) :
    other ∈ classes.add name ↔ other ∈ classes ∨ other = name := by
  unfold add
  split <;> rename_i there
  · rw [List.contains_iff_mem] at there
    exact ⟨Or.inl, fun either => either.elim id fun same => same ▸ there⟩
  · rw [List.mem_append, List.mem_singleton]

theorem mem_remove (classes : Classes) (name other : String) :
    other ∈ classes.remove name ↔ other ∈ classes ∧ other ≠ name := by
  unfold remove
  rw [List.mem_filter, bne_iff_ne]

theorem mem_endSwap (classes : Classes) (before after : ControlClass) (other : String) :
    other ∈ classes.endSwap before after ↔
      (other ∈ classes ∧ other ≠ before.name ∨ other = after.name) ∧ other ≠ transition := by
  unfold endSwap
  rw [mem_remove, mem_add, mem_remove]

/-- An element has the class and neither of the other two. -/
def Shows (classes : Classes) (shown : ControlClass) : Prop :=
  ∀ other : ControlClass, other.name ∈ classes ↔ other = shown

theorem exists_shows (one : ∃! shown : ControlClass, shown.name ∈ classes) :
    ∃ shown, classes.Shows shown := by
  obtain ⟨shown, there, only⟩ := one
  exact ⟨shown, fun other => ⟨only other, fun same => same ▸ there⟩⟩

theorem Shows.existsUnique (shows : classes.Shows shown) :
    ∃! shown : ControlClass, shown.name ∈ classes :=
  ⟨shown, (shows shown).mpr rfl, fun other there => (shows other).mp there⟩

theorem Shows.add_transition (shows : classes.Shows shown) :
    (classes.add transition).Shows shown := by
  intro other
  rw [mem_add, ← shows other]
  exact ⟨fun either => either.resolve_right other.name_ne_transition, Or.inl⟩

/-- A swap that ends in the class shown leaves that class alone. -/
theorem Shows.endSwap_arrived (shows : classes.Shows shown) (before : ControlClass) :
    (classes.endSwap before shown).Shows shown := by
  intro other
  rw [mem_endSwap, shows other, ControlClass.name_injective.eq_iff]
  refine ⟨fun held => held.1.elim And.left id, fun same => ⟨Or.inr same, ?_⟩⟩
  exact other.name_ne_transition

/-- A swap that leaves the class shown ends in its own class alone. -/
theorem Shows.endSwap_shown (shows : classes.Shows shown) (after : ControlClass) :
    (classes.endSwap shown after).Shows after := by
  intro other
  rw [mem_endSwap, shows other, ControlClass.name_injective.ne_iff,
    ControlClass.name_injective.eq_iff]
  refine ⟨fun held => held.1.resolve_left fun left => left.2 left.1, fun same => ⟨Or.inr same, ?_⟩⟩
  exact other.name_ne_transition

/-- After the end of a swap an element is not in transition. -/
theorem transition_not_mem_endSwap (classes : Classes) (before after : ControlClass) :
    transition ∉ classes.endSwap before after :=
  fun there => ((mem_endSwap classes before after transition).mp there).2 rfl

end Classes

/-! ### Buttons among requests -/

/-- Something that happens to a button. -/
inductive ButtonEvent where
  /-- It is asked to go on from a class to the next one. -/
  | ask (before : ControlClass)
  /-- The oldest swap pending ends. -/
  | expire
deriving DecidableEq, Repr

namespace Button

/-- The button after an event. -/
def happen (button : Button) : ButtonEvent → Button
  | .ask before => button.ask (before, before.next)
  | .expire => button.expire

/-- The button after one event after the other. -/
def happenAll (button : Button) (events : List ButtonEvent) : Button := events.foldl happen button

/-- A button shows a class and no other, and is not in transition unless a swap is pending. -/
structure ShowsOne (button : Button) (shown : ControlClass) : Prop where
  shows : button.classes.Shows shown
  lined : ∃ aim, Lined button.pending shown aim
  still : button.pending = [] → Classes.transition ∉ button.classes

variable {button : Button} {shown : ControlClass}

theorem ShowsOne.ask (showsOne : ShowsOne button shown) (before : ControlClass) :
    ShowsOne (button.ask (before, before.next)) shown := by
  unfold Button.ask Classes.startSwap?
  by_cases left : before = shown
  · subst left
    rw [if_pos (List.contains_iff_mem.mpr ((showsOne.shows before).mpr rfl))]
    obtain ⟨aim, lined⟩ := showsOne.lined
    exact ⟨showsOne.shows.add_transition, ⟨before.next, lined.append⟩,
      fun settled => absurd (List.append_eq_nil_iff.mp settled).2 (List.cons_ne_nil _ _)⟩
  · rw [if_neg fun there => left ((showsOne.shows before).mp (List.contains_iff_mem.mp there))]
    exact showsOne

theorem ShowsOne.expire (showsOne : ShowsOne button shown) :
    ∃ later, ShowsOne button.expire later := by
  unfold Button.expire
  cases pending : button.pending with
  | nil => exact ⟨shown, showsOne⟩
  | cons swap later =>
    have still := button.classes.transition_not_mem_endSwap swap.1 swap.2
    obtain ⟨aim, lined⟩ := showsOne.lined
    rw [pending] at lined
    rcases lined.tail with ⟨arrived, behind⟩ | ⟨rfl, behind⟩
    · subst arrived
      exact ⟨swap.2, showsOne.shows.endSwap_arrived swap.1, ⟨aim, behind⟩, fun _ => still⟩
    · exact ⟨shown.next, showsOne.shows.endSwap_shown shown.next, ⟨aim, behind⟩, fun _ => still⟩

theorem ShowsOne.happenAll (showsOne : ShowsOne button shown) (events : List ButtonEvent) :
    ∃ later, ShowsOne (button.happenAll events) later := by
  induction events generalizing button shown with
  | nil => exact ⟨shown, showsOne⟩
  | cons event more inductionHypothesis =>
    cases event with
    | ask before => exact inductionHypothesis (showsOne.ask before)
    | expire =>
      obtain ⟨later, ended⟩ := showsOne.expire
      exact inductionHypothesis ended

/-- However requests and ends of swaps follow each other, a button that shows one class at first
always shows one class, and it is not in transition unless a swap is pending. -/
theorem existsUnique_class_of_happenAll {classes : Classes}
    (one : ∃! shown : ControlClass, shown.name ∈ classes)
    (still : Classes.transition ∉ classes) (events : List ButtonEvent) :
    (∃! shown : ControlClass,
        shown.name ∈ ((⟨classes, []⟩ : Button).happenAll events).classes) ∧
      (((⟨classes, []⟩ : Button).happenAll events).pending = [] →
        Classes.transition ∉ ((⟨classes, []⟩ : Button).happenAll events).classes) := by
  obtain ⟨shown, shows⟩ := Classes.exists_shows one
  have initially : ShowsOne ⟨classes, []⟩ shown :=
    ⟨shows, ⟨shown, lined_nil shown⟩, fun _ => still⟩
  obtain ⟨later, kept⟩ := initially.happenAll events
  exact ⟨kept.shows.existsUnique, kept.still⟩

/-- The swaps of a button overlap: it is told twice that it can be played, and by the time the second
of these two swaps ends it has been asked to go on already. -/
theorem existsUnique_class_of_overlap :
    let classes : Classes := ["play-toggle", "loading"]
    let events : List ButtonEvent := [.ask .loading, .ask .play, .ask .loading, .expire, .ask .play,
      .ask .play, .expire]
    ((∃! shown : ControlClass, shown.name ∈ classes) ∧ Classes.transition ∉ classes) ∧
      (∃! shown : ControlClass,
        shown.name ∈ ((⟨classes, []⟩ : Button).happenAll events).classes) ∧
      (((⟨classes, []⟩ : Button).happenAll events).pending = [] →
        Classes.transition ∉ ((⟨classes, []⟩ : Button).happenAll events).classes) := by
  have one : ∃! shown : ControlClass, shown.name ∈ (["play-toggle", "loading"] : Classes) :=
    ⟨.loading, by decide, fun other => by cases other <;> decide⟩
  have still : Classes.transition ∉ (["play-toggle", "loading"] : Classes) := by decide
  exact ⟨⟨one, still⟩, existsUnique_class_of_happenAll one still _⟩

end Button

end Page

end ReleasePlayer
