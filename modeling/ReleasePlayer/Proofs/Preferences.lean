/-
This file says when preferences last. A store may refuse to write, and then nothing is kept. If there
are stores that accept every write, that go on to accept, and that read back under each key what was
written there last, then the volume and the switch are found again as they were written: they have a
key of their own each, so that writing the one leaves the other alone. Of two stores it says when they
agree on a key for good, whatever is written elsewhere, and whether or not they accept it.
-/

import ReleasePlayer.InMemory.Store
import ReleasePlayer.Preferences

namespace ReleasePlayer

/-- The stores that are picked out accept and keep whatever is written. -/
structure PreferenceStore.Lasting {S : Type} [PreferenceStore S] (accepts : S → Prop) : Prop where
  write {store : S} : accepts store → ∀ key value, ∃ written,
    PreferenceStore.write store key value = .ok written ∧ accepts written ∧
      ∀ other, PreferenceStore.read written other =
        if other = key then some value else PreferenceStore.read store other

theorem InMemory.Store.lasting :
    PreferenceStore.Lasting fun store : InMemory.Store => store.isReadOnly = false where
  write {store} writable key value :=
    ⟨{ store with entries := Keyed.put store.entries key value },
      if_neg (by rw [writable]; decide), writable, Keyed.lookup_put store.entries key value⟩

/-- A store may refuse to write, but what it accepts it reads back, and it leaves the rest alone. -/
class PreferenceStore.Honest (S : Type) [PreferenceStore S] : Prop where
  read_of_write {store written : S} {key value : String} :
    PreferenceStore.write store key value = .ok written → ∀ other,
      PreferenceStore.read written other =
        if other = key then some value else PreferenceStore.read store other

instance : PreferenceStore.Honest InMemory.Store where
  read_of_write {store written key value} accepted other := by
    have answer : PreferenceStore.write store key value =
        if store.isReadOnly then .error (.storage ("store is read-only, can't write " ++ key))
        else .ok { store with entries := Keyed.put store.entries key value } := rfl
    rw [answer] at accepted
    split at accepted
    · cases accepted
    · obtain rfl := Except.ok.inj accepted
      exact Keyed.lookup_put store.entries key value other

namespace Preferences

variable {α S : Type} [Scalar α] [PreferenceStore S] {accepts : S → Prop} {store : S}

omit [Scalar α] in
theorem read_write (lasting : PreferenceStore.Lasting accepts) (accepting : accepts store)
    (key value failure : String) :
    accepts (write store key value failure).1 ∧
      ∀ other, PreferenceStore.read (write store key value failure).1 other =
        if other = key then some value else PreferenceStore.read store other := by
  obtain ⟨written, succeeded, goesOn, found⟩ := lasting.write accepting key value
  unfold write
  rw [succeeded]
  exact ⟨goesOn, found⟩

omit [Scalar α] in
/-- Writing to an honest store changes nothing but the text under the key, if that. -/
theorem read_write_cases [PreferenceStore.Honest S] (store : S) (key value failure : String) :
    (write store key value failure).1 = store ∨
      ∀ other, PreferenceStore.read (write store key value failure).1 other =
        if other = key then some value else PreferenceStore.read store other := by
  unfold write
  split
  · rename_i written accepted
    exact Or.inr (PreferenceStore.Honest.read_of_write accepted)
  · exact Or.inl rfl

/-! ### The volume -/

theorem accepts_storeVolume (lasting : PreferenceStore.Lasting accepts)
    (accepting : accepts store) (volume : α) : accepts (storeVolume store volume).1 :=
  (read_write lasting accepting _ _ _).1

theorem read_storeVolume (lasting : PreferenceStore.Lasting accepts) (accepting : accepts store)
    (volume : α) : PreferenceStore.read (storeVolume store volume).1 volumeKey =
      some (Scalar.text volume) := by
  unfold storeVolume
  rw [(read_write lasting accepting _ _ _).2, if_pos rfl]

theorem loadReplaygain_storeVolume (lasting : PreferenceStore.Lasting accepts)
    (accepting : accepts store) (volume : α) :
    loadReplaygain (storeVolume store volume).1 = loadReplaygain store := by
  unfold loadReplaygain storeVolume
  rw [(read_write lasting accepting _ _ _).2, if_neg (by decide)]

/-- A volume whose text can be read back is loaded as it was written. -/
theorem loadVolume_of_read {volume : α}
    (written : PreferenceStore.read store volumeKey = some (Scalar.text volume))
    (legible : Scalar.read (Text.trim (Scalar.text volume)) = some volume)
    (finite : Scalar.isFinite volume = true) (nonneg : (0.0 : α) ≤ volume) :
    loadVolume store = (volume, []) := by
  have said : volumeOf? (Scalar.text volume) = some volume := by
    unfold volumeOf?
    rw [legible]
    show (if Scalar.isFinite volume then some (Scalar.atLeastZero volume) else none) = _
    rw [if_pos finite]
    exact congrArg some (if_pos nonneg)
  unfold loadVolume
  rw [written]
  dsimp only
  rw [said]

/-! ### The switch -/

omit [Scalar α] in
theorem accepts_storeReplaygain (lasting : PreferenceStore.Lasting accepts)
    (accepting : accepts store) (isOn : Bool) : accepts (storeReplaygain store isOn).1 :=
  (read_write lasting accepting _ _ _).1

omit [Scalar α] in
theorem loadReplaygain_storeReplaygain (lasting : PreferenceStore.Lasting accepts)
    (accepting : accepts store) (isOn : Bool) :
    loadReplaygain (storeReplaygain store isOn).1 = isOn := by
  unfold loadReplaygain storeReplaygain
  rw [(read_write lasting accepting _ _ _).2, if_pos rfl]
  cases isOn <;> decide

/-- Nothing is read but what is under the two keys. -/
theorem load_congr {S' : Type} [PreferenceStore S'] {other : S'}
    (volume : PreferenceStore.read other volumeKey = PreferenceStore.read store volumeKey)
    (replaygain :
      PreferenceStore.read other replaygainKey = PreferenceStore.read store replaygainKey) :
    (load other : Preferences α × _) = load store := by
  unfold load loadVolume loadReplaygain
  rw [volume, replaygain]

end Preferences

/-! ### Two stores -/

/-- Stores that are alike say the same under a key. They stay alike when the same is written there to
both; writing it there again changes nothing, nor does writing elsewhere. -/
structure PreferenceStore.Agreeing {S : Type} [PreferenceStore S] (key : String)
    (alike : S → S → Prop) : Prop where
  equivalence : Equivalence alike
  read {store other : S} : alike store other →
    PreferenceStore.read store key = PreferenceStore.read other key
  write {store other : S} : alike store other → ∀ value failure,
    alike (Preferences.write store key value failure).1 (Preferences.write other key value failure).1
  again (store : S) (value failure : String) :
    alike (Preferences.write (Preferences.write store key value failure).1 key value failure).1
      (Preferences.write store key value failure).1
  elsewhere {place : String} : place ≠ key → ∀ (store : S) (value failure : String),
    alike (Preferences.write store place value failure).1 store

namespace InMemory.Store

/-- Both stores refuse to write, or neither does, and they say the same under a key. -/
def Alike (key : String) (store other : Store) : Prop :=
  store.isReadOnly = other.isReadOnly ∧ store.entries.lookup key = other.entries.lookup key

/-- What is written to a store in memory is kept, unless the store refuses. -/
theorem write_eq (store : Store) (key value failure : String) :
    (Preferences.write store key value failure).1 =
      if store.isReadOnly then store
      else { store with entries := Keyed.put store.entries key value } := by
  have answer : PreferenceStore.write store key value =
      if store.isReadOnly then .error (.storage ("store is read-only, can't write " ++ key))
      else .ok { store with entries := Keyed.put store.entries key value } := rfl
  unfold Preferences.write
  rw [answer]
  by_cases refusing : store.isReadOnly = true
  · rw [if_pos refusing, if_pos refusing]
  · rw [if_neg refusing, if_neg refusing]

theorem isReadOnly_write (store : Store) (key value failure : String) :
    (Preferences.write store key value failure).1.isReadOnly = store.isReadOnly := by
  rw [write_eq]
  split <;> rfl

theorem lookup_write (store : Store) (key value failure other : String) :
    (Preferences.write store key value failure).1.entries.lookup other =
      if store.isReadOnly = false ∧ other = key then some value
      else store.entries.lookup other := by
  rw [write_eq]
  cases store.isReadOnly with
  | true => simp only [if_true, Bool.true_eq_false, false_and, if_false]
  | false =>
    simp only [Bool.false_eq_true, if_false, true_and]
    exact Keyed.lookup_put store.entries key value other

theorem agreeing (key : String) : PreferenceStore.Agreeing key (Alike key) where
  equivalence := ⟨fun _ => ⟨rfl, rfl⟩, fun alike => ⟨alike.1.symm, alike.2.symm⟩,
    fun first second => ⟨first.1.trans second.1, first.2.trans second.2⟩⟩
  read alike := alike.2
  write alike value failure := by
    refine ⟨?_, ?_⟩
    · rw [isReadOnly_write, isReadOnly_write, alike.1]
    · rw [lookup_write, lookup_write, alike.1, alike.2]
  again store value failure := by
    refine ⟨isReadOnly_write _ key value failure, ?_⟩
    rw [lookup_write, lookup_write, isReadOnly_write]
    split <;> rfl
  elsewhere apart store value failure := by
    refine ⟨isReadOnly_write _ _ _ _, ?_⟩
    rw [lookup_write, if_neg fun both => apart both.2.symm]

end InMemory.Store

end ReleasePlayer
