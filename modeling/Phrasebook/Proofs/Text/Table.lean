import Phrasebook.Text.Table
import Mathlib.Data.List.Nodup
import Mathlib.Data.List.Perm.Basic
import Mathlib.Data.String.Basic

/-!
Reading behind a write. Both kinds of tables, in the order of entry and sorted, answer the last
value that was put under a key and keep what they answer for all other keys. An insertion into a
sorted table keeps the order of the keys, and a table that is sorted already is the one that its
entries are inserted into.
-/

namespace Phrasebook.Text

universe u
variable {α : Type u}

theorem lookup_entry (key held : String) (value : α) (rest : List (String × α)) :
    List.lookup key ((held, value) :: rest) =
      if key = held then some value else rest.lookup key := by
  by_cases h : key = held
  · simp [h]
  · have different : (key == held) = false := by simpa using h
    simp [List.lookup_cons, different, h]

theorem lookup_put (key other : String) (value : α) (table : List (String × α)) :
    (put key value table).lookup other = if other = key then some value
      else table.lookup other := by
  induction table with
  | nil => simp [put, lookup_entry]
  | cons entry rest ih =>
    obtain ⟨held, old⟩ := entry
    by_cases hk : key = held
    · subst held
      by_cases h : other = key <;> simp [put, lookup_entry, h]
    · by_cases h : other = held
      · subst other
        simp [put, hk, Ne.symm hk]
      · simp [put, hk, lookup_entry, h, ih]

theorem mem_put {key : String} {value : α} {table : List (String × α)} {entry : String × α}
    (listed : entry ∈ put key value table) : entry = (key, value) ∨ entry ∈ table := by
  induction table with
  | nil => exact .inl (List.mem_singleton.mp listed)
  | cons first rest ih =>
    obtain ⟨other, old⟩ := first
    rw [put] at listed
    split at listed
    · exact (List.mem_cons.mp listed).imp_right (List.mem_cons_of_mem _)
    · rcases List.mem_cons.mp listed with same | listed
      · exact .inr (same ▸ List.mem_cons_self)
      · exact (ih listed).imp_right (List.mem_cons_of_mem _)

theorem keys_put (key : String) (value : α) (table : List (String × α)) :
    (put key value table).map (·.1) =
      if key ∈ table.map (·.1) then table.map (·.1) else table.map (·.1) ++ [key] := by
  induction table with
  | nil => rfl
  | cons first rest ih =>
    obtain ⟨held, old⟩ := first
    rw [put]
    by_cases same : key = held
    · subst held
      simp
    · rw [if_neg same, List.map_cons, ih, List.map_cons]
      by_cases listed : key ∈ rest.map (·.1)
      · rw [if_pos listed, if_pos (List.mem_cons_of_mem _ listed)]
      · rw [if_neg listed, if_neg fun member => (List.mem_cons.mp member).elim same listed]
        rfl

theorem nodup_put {key : String} (value : α) {table : List (String × α)}
    (distinct : (table.map (·.1)).Nodup) : ((put key value table).map (·.1)).Nodup := by
  rw [keys_put]
  split
  · exact distinct
  · rename_i fresh
    refine List.nodup_append.mpr
      ⟨distinct, List.nodup_singleton _, fun a old b new same => fresh ?_⟩
    rwa [← List.mem_singleton.mp new, ← same]

/-- The place of a key in a table. A value that is put under the key goes there and nowhere else. -/
theorem put_at_lookup {key : String} {old : α} {table : List (String × α)}
    (held : table.lookup key = some old) :
    ∃ front back, table = front ++ (key, old) :: back ∧
      ∀ value, put key value table = front ++ (key, value) :: back := by
  induction table with
  | nil => simp at held
  | cons entry rest ih =>
    obtain ⟨other, first⟩ := entry
    rw [lookup_entry] at held
    by_cases same : key = other
    · subst other
      obtain rfl : first = old := by simpa using held
      exact ⟨[], rest, rfl, fun value => by simp [put]⟩
    · obtain ⟨front, back, parts, placed⟩ := ih (by simpa [same] using held)
      refine ⟨(other, first) :: front, back, by rw [parts]; rfl, fun value => ?_⟩
      rw [put, if_neg same, placed value]
      rfl

/-- A value that is put again changes nothing. -/
theorem put_of_lookup {key : String} {value : α} {table : List (String × α)}
    (held : table.lookup key = some value) : put key value table = table := by
  obtain ⟨front, back, parts, placed⟩ := put_at_lookup held
  rw [placed value, ← parts]

theorem not_mem_keys_of_lookup {key : String} {table : List (String × α)}
    (free : table.lookup key = none) : key ∉ table.map (·.1) := by
  induction table with
  | nil => simp
  | cons entry rest ih =>
    obtain ⟨other, old⟩ := entry
    rw [lookup_entry] at free
    have different : key ≠ other := fun same => by simp [same] at free
    simpa [different] using ih (by simpa [different] using free)

/-- A new key goes to the end. -/
theorem put_fresh {key : String} (value : α) {table : List (String × α)}
    (fresh : key ∉ table.map (·.1)) : put key value table = table ++ [(key, value)] := by
  induction table with
  | nil => rfl
  | cons entry rest ih =>
    obtain ⟨held, old⟩ := entry
    have other : key ≠ held := fun same => fresh (by simp [same])
    rw [put, if_neg other, ih fun listed => fresh (List.mem_cons_of_mem _ listed)]
    rfl

/-- Pairs under new keys go behind a table as they are. -/
theorem foldl_put_append {front back : List (String × α)}
    (distinct : ((front ++ back).map (·.1)).Nodup) :
    back.foldl (fun table pair => put pair.1 pair.2 table) front = front ++ back := by
  induction back generalizing front with
  | nil => simp
  | cons pair back ih =>
    have fresh : pair.1 ∉ front.map (·.1) := by
      rw [List.map_append, List.map_cons, List.nodup_append] at distinct
      exact fun listed => distinct.2.2 _ listed _ List.mem_cons_self rfl
    have next := @ih (front ++ [(pair.1, pair.2)]) (by simpa using distinct)
    rw [List.foldl_cons, put_fresh _ fresh, next, List.append_assoc, List.singleton_append]

/-- A table holds nothing but what was put into it, each key once. -/
theorem foldl_put {pairs table : List (String × α)} (distinct : (table.map (·.1)).Nodup) :
    let all := pairs.foldl (fun table pair => put pair.1 pair.2 table) table
    (all.map (·.1)).Nodup ∧ ∀ entry ∈ all, entry ∈ table ∨ entry ∈ pairs := by
  induction pairs generalizing table with
  | nil => exact ⟨distinct, fun _ listed => .inl listed⟩
  | cons pair pairs ih =>
    obtain ⟨keys, entries⟩ := ih (nodup_put pair.2 distinct)
    refine ⟨keys, fun entry listed => ?_⟩
    rcases entries entry listed with earlier | later
    · rcases mem_put earlier with rfl | old
      · exact .inr List.mem_cons_self
      · exact .inl old
    · exact .inr (List.mem_cons_of_mem _ later)

theorem nodup_tableOf (pairs : List (String × α)) : ((tableOf pairs).map (·.1)).Nodup :=
  (@foldl_put α pairs [] List.nodup_nil).1

theorem mem_tableOf {pairs : List (String × α)} {entry : String × α}
    (listed : entry ∈ tableOf pairs) : entry ∈ pairs :=
  ((@foldl_put α pairs [] List.nodup_nil).2 entry listed).resolve_left List.not_mem_nil

theorem tableOf_of_nodup {pairs : List (String × α)} (distinct : (pairs.map (·.1)).Nodup) :
    tableOf pairs = pairs := @foldl_put_append _ [] pairs distinct

/-- The first value of a key is never replaced. -/
theorem lookup_putNew (key other : String) (value : α) (table : List (String × α)) :
    (putNew key value table).lookup other =
      if other = key then some ((table.lookup key).getD value) else table.lookup other := by
  unfold putNew
  cases held : table.lookup key with
  | none => simp [lookup_put]
  | some old =>
    by_cases h : other = key
    · subst other
      simp [held]
    · simp [h]

theorem lookup_insertSorted (key other : String) (value : α) (table : List (String × α)) :
    (insertSorted key value table).lookup other =
      if other = key then some value else table.lookup other := by
  induction table with
  | nil => simp [insertSorted, lookup_entry]
  | cons entry rest ih =>
    obtain ⟨held, old⟩ := entry
    by_cases hk : key = held
    · subst held
      by_cases h : other = key <;> simp [insertSorted, lookup_entry, h]
    · by_cases less : key < held
      · simp [insertSorted, hk, less, lookup_entry]
      · by_cases h : other = held
        · subst other
          simp [insertSorted, hk, less, Ne.symm hk]
        · simp [insertSorted, hk, less, lookup_entry, h, ih]

/-- A new key is the only one that an insertion adds. -/
theorem keys_insertSorted {key : String} (value : α) {table : List (String × α)}
    (fresh : key ∉ table.map (·.1)) :
    ((insertSorted key value table).map (·.1)).Perm (key :: table.map (·.1)) := by
  induction table with
  | nil => exact .refl _
  | cons entry rest ih =>
    obtain ⟨held, old⟩ := entry
    have hk : key ≠ held := fun h => fresh (by simp [h])
    have hrest : key ∉ rest.map (·.1) := fun h => fresh (by simp [h])
    by_cases less : key < held
    · simp [insertSorted, hk, less]
    · simp only [insertSorted, hk, less, if_false, List.map_cons]
      exact ((ih hrest).cons held).trans (.swap key held _)

theorem mem_keys_of_lookup {key : String} {value : α} {table : List (String × α)}
    (held : table.lookup key = some value) : key ∈ table.map (·.1) := by
  induction table with
  | nil => simp at held
  | cons entry rest ih =>
    obtain ⟨other, old⟩ := entry
    rw [lookup_entry] at held
    by_cases h : key = other
    · simp [h]
    · exact List.mem_cons_of_mem _ (ih (by simpa [h] using held))

universe v
variable {β : Type v}

/-- The keys rise, so that no two of them are the same. -/
def Rising (table : List (String × α)) : Prop := table.Pairwise (·.1 < ·.1)

theorem Rising.nil : Rising ([] : List (String × α)) := List.Pairwise.nil

theorem mem_insertSorted {key : String} {value : α} {table : List (String × α)} {entry : String × α}
    (found : entry ∈ insertSorted key value table) : entry = (key, value) ∨ entry ∈ table := by
  induction table with
  | nil => exact .inl (List.mem_singleton.mp found)
  | cons first rest ih =>
    obtain ⟨held, old⟩ := first
    rw [insertSorted] at found
    split at found
    · rcases List.mem_cons.mp found with new | later
      · exact .inl new
      · exact .inr (List.mem_cons_of_mem _ later)
    · split at found
      · exact List.mem_cons.mp found
      · rcases List.mem_cons.mp found with same | later
        · exact .inr (by rw [same]; exact List.mem_cons_self)
        · exact (ih later).imp_right (List.mem_cons_of_mem _)

theorem Rising.insertSorted (key : String) (value : α) {table : List (String × α)}
    (rising : Rising table) : Rising (insertSorted key value table) := by
  induction table with
  | nil => exact List.pairwise_singleton _ _
  | cons first rest ih =>
    obtain ⟨held, old⟩ := first
    obtain ⟨below, rest_rising⟩ := List.pairwise_cons.mp rising
    rw [Text.insertSorted]
    split
    · rename_i same
      subst same
      exact List.pairwise_cons.mpr ⟨below, rest_rising⟩
    · rename_i different
      split
      · rename_i less
        refine List.pairwise_cons.mpr ⟨?_, rising⟩
        intro entry member
        rcases List.mem_cons.mp member with rfl | later
        · exact less
        · exact lt_trans less (below entry later)
      · rename_i notLess
        refine List.pairwise_cons.mpr ⟨?_, ih rest_rising⟩
        intro entry member
        rcases mem_insertSorted member with rfl | later
        · exact lt_of_le_of_ne (not_lt.mp notLess) (Ne.symm different)
        · exact below entry later

theorem rising_foldl {γ : Type v} (item : γ → String × α) (items : List γ)
    {table : List (String × α)} (rising : Rising table) :
    Rising (items.foldl (fun t i => Text.insertSorted (item i).1 (item i).2 t) table) := by
  induction items generalizing table with
  | nil => exact rising
  | cons first items ih => exact ih (rising.insertSorted _ _)

theorem rising_sortedTable (pairs : List (String × α)) : Rising (sortedTable pairs) :=
  rising_foldl (fun pair => pair) pairs Rising.nil

/-- An entry above all others goes to the end. -/
theorem insertSorted_above {key : String} (value : α) {table : List (String × α)}
    (above : ∀ entry ∈ table, entry.1 < key) :
    insertSorted key value table = table ++ [(key, value)] := by
  induction table with
  | nil => rfl
  | cons first rest ih =>
    obtain ⟨held, old⟩ := first
    have less : held < key := above (held, old) List.mem_cons_self
    rw [insertSorted, if_neg (ne_of_gt less), if_neg (lt_asymm less),
      ih fun entry member => above entry (List.mem_cons_of_mem _ member)]
    rfl

/-- Inserting a rising table behind another one puts it there as it is. -/
theorem foldl_insertSorted_append {front back : List (String × α)}
    (rising : Rising (front ++ back)) :
    back.foldl (fun t entry => insertSorted entry.1 entry.2 t) front = front ++ back := by
  induction back generalizing front with
  | nil => simp
  | cons entry back ih =>
    have above : ∀ other ∈ front, other.1 < entry.1 := fun other member =>
      (List.pairwise_append.mp rising).2.2 other member entry List.mem_cons_self
    have next := ih (show Rising ((front ++ [entry]) ++ back) by simpa using rising)
    rw [List.foldl_cons, insertSorted_above _ above, next, List.append_assoc, List.singleton_append]

theorem Rising.map (f : String → α → β) {table : List (String × α)} (rising : Rising table) :
    Rising (table.map fun entry => (entry.1, f entry.1 entry.2)) :=
  List.Pairwise.map _ (fun _ _ less => less) rising

theorem lookup_map_entries (f : String → α → β) (key : String)
    (table : List (String × α)) :
    (table.map fun entry => (entry.1, f entry.1 entry.2)).lookup key =
      (table.lookup key).map (f key) := by
  induction table with
  | nil => rfl
  | cons entry rest ih =>
    obtain ⟨held, value⟩ := entry
    rw [List.map_cons, lookup_entry, lookup_entry, ih]
    by_cases same : key = held
    · subst same
      simp
    · simp [same]

/-- A table that is built from pairs has a value for each of their keys. -/
theorem lookup_sortedTable_isSome {pairs : List (String × α)} {key : String}
    (listed : key ∈ pairs.map (·.1)) : ((sortedTable pairs).lookup key).isSome := by
  have keeps : ∀ (rest : List (String × α)) (table : List (String × α)), (table.lookup key).isSome →
      ((rest.foldl (fun table pair => insertSorted pair.1 pair.2 table) table).lookup key).isSome :=
      by
    intro rest
    induction rest with
    | nil => exact fun _ held => held
    | cons pair rest ih =>
      intro table held
      refine ih _ ?_
      rw [lookup_insertSorted]
      split
      · rfl
      · exact held
  have adds : ∀ (rest : List (String × α)) (table : List (String × α)), key ∈ rest.map (·.1) →
      ((rest.foldl (fun table pair => insertSorted pair.1 pair.2 table) table).lookup key).isSome :=
      by
    intro rest
    induction rest with
    | nil => exact fun _ none => by cases none
    | cons pair rest ih =>
      intro table listed
      rcases List.mem_cons.mp listed with rfl | later
      · refine keeps rest _ ?_
        rw [lookup_insertSorted, if_pos rfl]
        rfl
      · exact ih _ later
  exact adds pairs [] listed

theorem mem_sortedTable {pairs : List (String × α)} {entry : String × α}
    (found : entry ∈ sortedTable pairs) : entry ∈ pairs := by
  have scan : ∀ (rest : List (String × α)) (table : List (String × α)),
      entry ∈ rest.foldl (fun table pair => insertSorted pair.1 pair.2 table) table →
        entry ∈ table ∨ entry ∈ rest := by
    intro rest
    induction rest with
    | nil => exact fun _ found => .inl found
    | cons pair rest ih =>
      intro table found
      rcases ih _ found with earlier | later
      · exact (mem_insertSorted earlier).elim
          (fun same => .inr (by rw [same]; exact List.mem_cons_self)) .inl
      · exact .inr (List.mem_cons_of_mem _ later)
  exact (scan pairs [] found).resolve_left (by simp)

/-- An entry that a look-up finds. -/
theorem mem_of_lookup {key : String} {value : α} {table : List (String × α)}
    (held : table.lookup key = some value) : (key, value) ∈ table := by
  obtain ⟨before, after, whole, -⟩ := List.lookup_eq_some_iff.mp held
  rw [whole]
  simp

/-- Where every key stands once, a look-up finds each entry. -/
theorem lookup_of_mem {key : String} {value : α} {table : List (String × α)}
    (distinct : (table.map (·.1)).Nodup) (listed : (key, value) ∈ table) :
    table.lookup key = some value := by
  induction table with
  | nil => cases listed
  | cons entry rest ih =>
    obtain ⟨held, old⟩ := entry
    obtain ⟨fresh, distinct⟩ := List.nodup_cons.mp distinct
    rw [lookup_entry]
    rcases List.mem_cons.mp listed with same | listed
    · obtain ⟨rfl, rfl⟩ := Prod.mk.inj same
      exact if_pos rfl
    · have other : key ≠ held := fun same => fresh (List.mem_map.mpr ⟨_, listed, same⟩)
      rw [if_neg other, ih distinct listed]

end Phrasebook.Text
