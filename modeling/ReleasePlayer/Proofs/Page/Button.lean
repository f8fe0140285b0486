/-
This file follows the class of one button through swaps that end later than they start. The player
asks for three swaps only, which lead from class to class in a fixed order, and swaps end in the
order in which they started. What is proved here is that such a button always shows exactly one
class and is on its way to exactly one: a swap from any other class is dropped, and a swap from the
class shown decides where the button is going, once and for all.
-/

import ReleasePlayer.Page.Classes

namespace ReleasePlayer

/-! ### The order of the classes -/

namespace ControlClass

/-- The class to which a swap leads. -/
def next : ControlClass → ControlClass
  | loading => play
  | play => pause
  | pause => play

theorem next_ne_loading (shown : ControlClass) : shown.next ≠ loading := by
  cases shown <;> decide

end ControlClass

namespace Page

/-! ### Buttons -/

/-- A swap: the class that is left, and the one that is reached. -/
abbrev ClassSwap := ControlClass × ControlClass

/-- A button and its swaps that did not end yet, the oldest first. -/
structure Button where
  classes : Classes
  pending : List ClassSwap
deriving DecidableEq, Repr

namespace Button

/-- A button with one class and nothing pending. -/
def showing (shown : ControlClass) : Button := ⟨[shown.name], []⟩

/-- Starts a swap if the button has the class that is left. -/
def ask (button : Button) (swap : ClassSwap) : Button :=
  match button.classes.startSwap? swap.1 with
  | some classes => { classes, pending := button.pending ++ [swap] }
  | none => button

theorem ask_of_some {button : Button} {swap : ClassSwap} {classes : Classes}
    (starts : button.classes.startSwap? swap.1 = some classes) :
    button.ask swap = ⟨classes, button.pending ++ [swap]⟩ := by
  unfold ask
  rw [starts]

theorem ask_of_none {button : Button} {swap : ClassSwap}
    (lacks : button.classes.startSwap? swap.1 = none) : button.ask swap = button := by
  unfold ask
  rw [lacks]

/-- Starts swaps one after the other. -/
def askAll (button : Button) (swaps : List ClassSwap) : Button := swaps.foldl ask button

/-- Ends the oldest swap. -/
def expire (button : Button) : Button :=
  match button.pending with
  | [] => button
  | swap :: later => { classes := button.classes.endSwap swap.1 swap.2, pending := later }

/-! ### Swaps in line -/

/-- While a class is shown, the swaps pending are some that arrived already and then some from the
class shown, and they lead to a class. -/
def Lined (pending : List ClassSwap) (shown aim : ControlClass) : Prop :=
  ∃ arrived ahead, pending = arrived ++ List.replicate ahead (shown, shown.next) ∧
    (∀ swap ∈ arrived, swap.2 = shown) ∧
    aim = if ahead = 0 then shown else shown.next

theorem lined_nil (shown : ControlClass) : Lined [] shown shown :=
  ⟨[], 0, rfl, fun _ member => absurd member List.not_mem_nil, rfl⟩

/-- A further swap from the class shown comes last and decides where the swaps lead. -/
theorem Lined.append {pending : List ClassSwap} {shown aim : ControlClass}
    (lined : Lined pending shown aim) :
    Lined (pending ++ [(shown, shown.next)]) shown shown.next := by
  obtain ⟨arrived, ahead, rfl, arrival, -⟩ := lined
  exact ⟨arrived, ahead + 1, by rw [List.append_assoc, List.replicate_succ'], arrival, rfl⟩

/-- The oldest swap arrived already, or it is from the class shown; then those behind it have
arrived once it ends. -/
theorem Lined.tail {swap : ClassSwap} {later : List ClassSwap} {shown aim : ControlClass}
    (lined : Lined (swap :: later) shown aim) :
    swap.2 = shown ∧ Lined later shown aim ∨
      swap = (shown, shown.next) ∧ Lined later shown.next aim := by
  obtain ⟨arrived, ahead, pending, arrival, towards⟩ := lined
  cases arrived with
  | cons first more =>
    obtain ⟨rfl, rfl⟩ := List.cons.inj pending
    exact Or.inl ⟨arrival _ List.mem_cons_self,
      more, ahead, rfl, fun other member => arrival other (List.mem_cons_of_mem _ member), towards⟩
  | nil =>
    cases ahead with
    | zero => cases pending
    | succ ahead =>
      obtain ⟨rfl, rfl⟩ := List.cons.inj pending
      refine Or.inr ⟨rfl, List.replicate ahead (shown, shown.next), 0, ?_, ?_, towards⟩
      · exact (List.append_nil _).symm
      · intro swap member
        obtain rfl := List.eq_of_mem_replicate member
        rfl

/-! ### Where a button is going -/

/-- A button shows a class and is going to show another, or the same, which is where the swaps pending
lead. -/
structure Going (button : Button) (shown aim : ControlClass) : Prop where
  classes : button.classes = [shown.name] ∨ button.classes = [shown.name, Classes.transition]
  pending : Lined button.pending shown aim
  settled : button.pending = [] → button.classes = [shown.name]

variable {button : Button} {shown aim : ControlClass}

theorem going_showing (shown : ControlClass) : Going (showing shown) shown shown where
  classes := Or.inl rfl
  pending := lined_nil shown
  settled _ := rfl

theorem Going.aim_eq (going : Going button shown aim) : aim = shown ∨ aim = shown.next := by
  obtain ⟨arrived, ahead, -, -, rfl⟩ := going.pending
  split
  · exact Or.inl rfl
  · exact Or.inr rfl

/-- Once nothing is pending, a button is where it was going. -/
theorem Going.aim_of_settled (going : Going button shown aim) (settled : button.pending = []) :
    aim = shown := by
  obtain ⟨arrived, ahead, pending, -, rfl⟩ := going.pending
  rw [settled] at pending
  have none : List.replicate ahead (shown, shown.next) = [] :=
    (List.append_eq_nil_iff.mp pending.symm).2
  rw [if_pos ((List.replicate_eq_nil_iff _).mp none)]

/-- Once nothing is pending, a button shows what it was going to show. -/
theorem Going.classes_eq (going : Going button shown aim) (settled : button.pending = []) :
    button.classes = [aim.name] := by
  rw [going.aim_of_settled settled]
  exact going.settled settled

theorem Going.contains (going : Going button shown aim) (before : ControlClass) :
    button.classes.contains before.name = decide (before = shown) := by
  rcases going.classes with classes | classes <;> rw [classes] <;>
    cases shown <;> cases before <;> rfl

/-! ### Starting swaps -/

/-- A swap from a class that is not shown is dropped. -/
theorem Going.ask_other (going : Going button shown aim) {swap : ClassSwap}
    (other : swap.1 ≠ shown) : button.ask swap = button := by
  refine ask_of_none ?_
  unfold Classes.startSwap?
  rw [going.contains, decide_eq_false other]
  rfl

/-- A swap from the class that is shown decides where the button is going. -/
theorem Going.ask_shown (going : Going button shown aim) :
    Going (button.ask (shown, shown.next)) shown shown.next := by
  have starts : button.classes.startSwap? shown = some (button.classes.add Classes.transition) := by
    unfold Classes.startSwap?
    rw [going.contains, decide_eq_true rfl]
    rfl
  rw [ask_of_some starts]
  refine ⟨Or.inr ?_, going.pending.append, fun settled => ?_⟩
  · rcases going.classes with classes | classes <;> rw [classes] <;> cases shown <;> rfl
  · exact absurd (List.append_eq_nil_iff.mp settled).2 (List.cons_ne_nil _ _)

/-! ### Ending swaps -/

/-- A swap that arrived already only takes the button out of transition. -/
theorem endSwap_arrived {classes : Classes} (before : ControlClass)
    (one : classes = [shown.name] ∨ classes = [shown.name, Classes.transition]) :
    classes.endSwap before shown = [shown.name] := by
  rcases one with rfl | rfl <;> cases shown <;> cases before <;> rfl

theorem endSwap_shown {classes : Classes}
    (one : classes = [shown.name] ∨ classes = [shown.name, Classes.transition]) :
    classes.endSwap shown shown.next = [shown.next.name] := by
  rcases one with rfl | rfl <;> cases shown <;> rfl

/-- The end of a swap may change what a button shows, but not where it is going. -/
theorem Going.expire (going : Going button shown aim) :
    ∃ later, (later = shown ∨ later = shown.next) ∧ Going button.expire later aim := by
  unfold Button.expire
  cases pending : button.pending with
  | nil => exact ⟨shown, Or.inl rfl, going⟩
  | cons swap later =>
    have lined := going.pending
    rw [pending] at lined
    rcases lined.tail with ⟨arrived, behind⟩ | ⟨rfl, behind⟩
    · obtain ⟨before, after⟩ := swap
      obtain rfl : after = shown := arrived
      have ended := endSwap_arrived before going.classes
      exact ⟨after, Or.inl rfl, Or.inl ended, behind, fun _ => ended⟩
    · have ended := endSwap_shown going.classes
      exact ⟨shown.next, Or.inr rfl, Or.inl ended, behind, fun _ => ended⟩

end Button

end Page

end ReleasePlayer
