/-
This file holds preferences in memory. A store can be made to refuse every write.
-/

import ReleasePlayer.Keyed
import ReleasePlayer.Surroundings

namespace ReleasePlayer.InMemory

structure Store where
  entries : List (String × String)
  isReadOnly : Bool
deriving DecidableEq, Repr

/-- A store with entries; of two under one key the later counts. -/
def Store.ofEntries (entries : List (String × String)) (isReadOnly : Bool) : Store :=
  ⟨entries.foldl (fun kept entry => Keyed.put kept entry.1 entry.2) [], isReadOnly⟩

instance : PreferenceStore Store where
  read store key := store.entries.lookup key
  write store key value :=
    if store.isReadOnly then
      .error (.storage ("store is read-only, can't write " ++ key))
    else .ok { store with entries := Keyed.put store.entries key value }

end ReleasePlayer.InMemory
