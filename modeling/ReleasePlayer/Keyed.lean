/-
This file holds lists of values under keys. Putting a value under a key replaces what was there in
its place, so that the order of the keys is the one in which they first came.
-/

namespace ReleasePlayer.Keyed

variable {β : Type}

/-- Puts a value under a key: in the place of what was there, or else at the end. -/
def put (entries : List (String × β)) (key : String) (value : β) : List (String × β) :=
  match entries with
  | [] => [(key, value)]
  | entry :: more => if entry.1 = key then (key, value) :: more else entry :: put more key value

/-- What was put under a key is found there, and under every other key what was there before. -/
theorem lookup_put (entries : List (String × β)) (key : String) (value : β) (other : String) :
    (put entries key value).lookup other =
      if other = key then some value else entries.lookup other := by
  induction entries with
  | nil =>
    rw [put, List.lookup_cons]
    by_cases same : other = key
    · rw [beq_iff_eq.2 same, if_pos same]
    · rw [beq_false_of_ne same, if_neg same]
  | cons entry more ih =>
    obtain ⟨name, held⟩ := entry
    rw [put, List.lookup_cons]
    by_cases found : name = key
    · subst found
      rw [if_pos rfl, List.lookup_cons]
      by_cases same : other = name
      · rw [beq_iff_eq.2 same, if_pos same]
      · rw [beq_false_of_ne same, if_neg same]
    · rw [if_neg found, List.lookup_cons, ih]
      by_cases here : other = name
      · have apart : other ≠ key := fun same => found (here.symm.trans same)
        rw [beq_iff_eq.2 here, if_neg apart, if_neg apart]
      · rw [beq_false_of_ne here]

theorem map_fst_put (entries : List (String × β)) (key : String) (value : β) :
    (put entries key value).map Prod.fst =
      if key ∈ entries.map Prod.fst then entries.map Prod.fst else entries.map Prod.fst ++ [key] := by
  induction entries with
  | nil => rfl
  | cons entry more ih =>
    rw [put, List.map_cons]
    by_cases found : entry.1 = key
    · have here : key ∈ entry.1 :: more.map Prod.fst := found ▸ List.mem_cons_self
      rw [if_pos found, if_pos here, List.map_cons, found]
    · have elsewhere : key ∈ entry.1 :: more.map Prod.fst ↔ key ∈ more.map Prod.fst :=
        List.mem_cons.trans (or_iff_right (Ne.symm found))
      rw [if_neg found, List.map_cons, ih]
      simp only [elsewhere]
      split <;> rfl

/-- No key comes twice. -/
theorem nodup_put {entries : List (String × β)} (unique : (entries.map Prod.fst).Nodup)
    (key : String) (value : β) : ((put entries key value).map Prod.fst).Nodup := by
  rw [map_fst_put]
  split
  · exact unique
  · rename_i missing
    refine List.nodup_append.mpr ⟨unique, List.pairwise_singleton _ key, fun name member other last => ?_⟩
    rw [List.mem_singleton.mp last]
    exact fun same => missing (same ▸ member)

/-- Where no key comes twice, every value is found under its key. -/
theorem lookup_of_mem {entries : List (String × β)} (unique : (entries.map Prod.fst).Nodup)
    {key : String} {value : β} (member : (key, value) ∈ entries) :
    entries.lookup key = some value := by
  obtain ⟨before, after, rfl⟩ := List.append_of_mem member
  refine List.lookup_eq_some_iff.mpr ⟨before, after, rfl, fun entry earlier => bne_iff_ne.mpr ?_⟩
  rw [List.map_append, List.map_cons] at unique
  exact ((List.nodup_append.mp unique).2.2 entry.1 (List.mem_map_of_mem earlier) key
    List.mem_cons_self).symm

end ReleasePlayer.Keyed
