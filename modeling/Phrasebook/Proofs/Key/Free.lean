import Phrasebook.Key.Assigner
import Phrasebook.Proofs.Occurrence.Location
import Phrasebook.Proofs.Text.Table
import Mathlib.Data.List.Dedup
import Mathlib.Data.List.Perm.Subperm
import Mathlib.Order.Bounds.Defs

/-!
Keys that are free. A key is taken only where another phrase has it or where it was given by hand,
so that of more keys than are noted one is free; and a base key with different counters behind it is
never the same key. The search for a free counter therefore ends with one before it has tried as
many keys as are noted.
-/

namespace Phrasebook.Key.Assigner

/-- The keys that phrases have and those given by hand. -/
def notedKeys (a : Assigner) : List String := a.byKey.map (·.1) ++ a.rules.overrides.map (·.2)

theorem mem_notedKeys_of_not_isFree {a : Assigner} {phrase key : String}
    (taken : a.isFree phrase key = false) : key ∈ a.notedKeys := by
  unfold isFree at taken
  rw [Bool.and_eq_false_iff] at taken
  rcases taken with held | given
  · refine List.mem_append_left _ ?_
    split at held
    · exact Text.mem_keys_of_lookup ‹_›
    · cases held
  · rw [Bool.not_eq_false', List.any_eq_true] at given
    obtain ⟨pair, listed, same⟩ := given
    exact List.mem_append_right _ (List.mem_map.mpr ⟨pair, listed, by simpa using same⟩)

theorem numbered_inj {base : String} {m n : Nat}
    (same : numbered base m = numbered base n) : m = n := by
  have chars := congrArg String.toList same
  rw [numbered, numbered, String.toList_append, String.toList_append] at chars
  exact toList_natural_inj (List.append_cancel_left chars)

/-- Of more keys behind one base than are noted one is free. -/
theorem exists_free_counter (a : Assigner) (phrase base : String) (last : Nat) :
    ∃ n, last < n ∧ n ≤ last + a.notedKeys.length + 1 ∧
    a.isFree phrase (numbered base n) = true := by
  by_contra none
  have taken : ∀ n ∈ List.range' (last + 1) (a.notedKeys.length + 1),
      numbered base n ∈ a.notedKeys := by
    intro n listed
    obtain ⟨above, below⟩ := List.mem_range'_1.mp listed
    refine @mem_notedKeys_of_not_isFree a phrase _ (Bool.eq_false_iff.mpr fun free => none ?_)
    exact ⟨n, by omega, by omega, free⟩
  have distinct : ((List.range' (last + 1) (a.notedKeys.length + 1)).map (numbered base)).Nodup :=
    List.Nodup.map (fun _ _ => numbered_inj) List.nodup_range'
  have within : (List.range' (last + 1) (a.notedKeys.length + 1)).map
      (numbered base) ⊆ a.notedKeys := by
    intro key listed
    obtain ⟨n, counted, rfl⟩ := List.mem_map.mp listed
    exact taken n counted
  have fewer := (List.subperm_of_subset distinct within).length_le
  rw [List.length_map, List.length_range'] at fewer
  omega

/-- The search tries the counters one after the other, and none before its answer is free. -/
theorem freeCounter_steps (a : Assigner) (phrase base : String) (fuel last : Nat) :
    last < a.freeCounter phrase base fuel last ∧
      a.freeCounter phrase base fuel last ≤ last + fuel + 1 ∧
      (∀ n, last < n → n < a.freeCounter phrase base fuel last →
        a.isFree phrase (numbered base n) = false) ∧
      (a.freeCounter phrase base fuel last ≤ last + fuel →
        a.isFree phrase (numbered base (a.freeCounter phrase base fuel last)) = true) := by
  fun_induction freeCounter a phrase base fuel last with
  | case1 last => exact ⟨by omega, by omega, fun n above below => by omega, fun below => by omega⟩
  | case2 fuel last free => exact ⟨by omega, by omega, fun n above below => by omega, fun _ => free⟩
  | case3 fuel last taken ih =>
    obtain ⟨above, below, before, ends⟩ := ih
    refine ⟨by omega, by omega, fun n first later => ?_, fun within => ends (by omega)⟩
    by_cases next : n = last + 1
    · subst next
      exact Bool.eq_false_iff.mpr taken
    · exact before n (by omega) later

/-- The search ends with a free key. -/
theorem isFree_freeCounter (a : Assigner) (phrase base : String) (last : Nat) :
    a.isFree phrase (numbered base
      (a.freeCounter phrase base (a.byKey.length + a.rules.overrides.length) last)) = true := by
  have count : a.notedKeys.length = a.byKey.length + a.rules.overrides.length := by
    simp [notedKeys]
  obtain ⟨n, above, below, free⟩ := exists_free_counter a phrase base last
  rw [count] at below
  obtain ⟨-, most, before, ends⟩ :=
    freeCounter_steps a phrase base (a.byKey.length + a.rules.overrides.length) last
  generalize a.freeCounter phrase base (a.byKey.length + a.rules.overrides.length) last = found at *
  by_cases within : found ≤ last + (a.byKey.length + a.rules.overrides.length)
  · exact ends within
  · -- The last counter is not tried, but all others were, and were taken.
    by_cases same : n = found
    · exact same ▸ free
    · rw [before n above (by omega)] at free
      cases free

/-- A new key is free, and is its base or has a counter behind it. -/
theorem unique_free (a : Assigner) (base phrase : String) :
    a.isFree phrase (a.unique base phrase).1 = true ∧
      ((a.unique base phrase).1 = base ∨ ∃ n, (a.unique base phrase).1 = numbered base n) := by
  unfold unique
  split
  · rename_i free
    exact ⟨free, .inl rfl⟩
  · exact ⟨isFree_freeCounter a phrase base _, .inr ⟨_, rfl⟩⟩

/-- The counter that the search behind a base key was left with, zero if there was none. -/
def lastCounter (a : Assigner) (base : String) : Nat := (a.counters.lookup base).getD 0

/-- The different keys that phrases have, and the different ones given by hand. -/
def takenCount (a : Assigner) : Nat :=
  (a.byKey.map (·.1)).dedup.length + (a.rules.overrides.map (·.2)).dedup.length

theorem unique_of_taken {a : Assigner} {base phrase : String}
    (taken : a.isFree phrase base = false) :
    let counter := a.freeCounter phrase base (a.byKey.length + a.rules.overrides.length)
      (a.lastCounter base)
    a.unique base phrase =
    (numbered base counter, { a with counters := Text.put base counter a.counters }) :=
  if_neg (ne_true_of_eq_false taken)

theorem numbered_ne_base (base : String) (n : Nat) : numbered base n ≠ base := by
  intro same
  have chars := congrArg String.toList same
  rw [numbered, String.toList_append, List.append_right_eq_self] at chars
  simp at chars

theorem isFree_iff {a : Assigner} {phrase key : String} : a.isFree phrase key = true ↔
    (∀ holder, a.byKey.lookup key = some holder → holder = phrase) ∧
    key ∉ a.rules.overrides.map (·.2) := by
  unfold isFree
  rw [Bool.and_eq_true]
  refine and_congr ?_ ?_
  · cases a.byKey.lookup key <;> simp
  · simp only [Bool.not_eq_true', List.any_eq_false, beq_iff_eq, List.mem_map, not_exists, not_and]

/-- Different keys that are taken are no more than the different keys that are noted. -/
theorem length_le_takenCount {a : Assigner} {phrase : String} {keys : List String}
    (distinct : keys.Nodup) (taken : ∀ key ∈ keys, a.isFree phrase key = false) :
    keys.length ≤ a.takenCount := by
  have within : keys ⊆ (a.byKey.map (·.1)).dedup ++ (a.rules.overrides.map (·.2)).dedup := by
    intro key member
    simpa [notedKeys] using mem_notedKeys_of_not_isFree (taken key member)
  have fewer := (List.subperm_of_subset distinct within).length_le
  rwa [List.length_append] at fewer

/-- The keys that have been tried when the search comes to a counter: the base key and the ones with
a lower counter. -/
def triedKeys (base : String) (last counter : Nat) : List String :=
  base :: (List.range' (last + 1) (counter - last - 1)).map (numbered base)

theorem nodup_triedKeys (base : String) (last counter : Nat) :
    (triedKeys base last counter).Nodup := by
  refine List.nodup_cons.mpr ⟨fun member =>
    ?_, List.Nodup.map (fun _ _ => numbered_inj) List.nodup_range'⟩
  obtain ⟨n, -, same⟩ := List.mem_map.mp member
  exact numbered_ne_base base n same

/-- A search ends in any state. The key that comes out is held by no other phrase and was given to
none by hand. It is the base key if that is free; otherwise it has the first counter behind it that
the search behind this base has not come to before and with which it is free, and all keys that were
tried on the way, the base key included, are different and taken, so that they are no more than the
keys that are noted. -/
theorem unique_search (a : Assigner) (base phrase : String) :
    (∀ holder, a.byKey.lookup (a.unique base phrase).1 = some holder → holder = phrase) ∧
    (a.unique base phrase).1 ∉ a.rules.overrides.map (·.2) ∧
    (a.isFree phrase base = true ∧ a.unique base phrase = (base, a) ∨
      a.isFree phrase base = false ∧ ∃ counter,
        IsLeast {n | a.lastCounter base < n ∧ a.isFree phrase (numbered base n) = true} counter ∧
        (∀ key ∈ triedKeys base (a.lastCounter base) counter, a.isFree phrase key = false) ∧
        (triedKeys base (a.lastCounter base) counter).length ≤ a.takenCount ∧
        a.unique base phrase =
          (numbered base counter, { a with counters := Text.put base counter a.counters })) := by
  obtain ⟨held, given⟩ := isFree_iff.mp (a.unique_free base phrase).1
  refine ⟨held, given, ?_⟩
  by_cases free : a.isFree phrase base = true
  · exact .inl ⟨free, if_pos free⟩
  have taken := eq_false_of_ne_true free
  obtain ⟨above, -, before, -⟩ :=
    freeCounter_steps a phrase base (a.byKey.length + a.rules.overrides.length) (a.lastCounter base)
  have ends := a.isFree_freeCounter phrase base (a.lastCounter base)
  have found := unique_of_taken taken
  generalize a.freeCounter phrase base _ (a.lastCounter base) = counter at above before ends found
  have tried : ∀ key ∈ triedKeys base (a.lastCounter base) counter,
      a.isFree phrase key = false := by
    refine List.forall_mem_cons.mpr ⟨taken, fun key member => ?_⟩
    obtain ⟨n, within, rfl⟩ := List.mem_map.mp member
    obtain ⟨behind, below⟩ := List.mem_range'_1.mp within
    exact before n behind (by omega)
  refine .inr ⟨taken, counter, ⟨⟨above, ends⟩, fun n ⟨behind, open_⟩ => ?_⟩, tried,
    length_le_takenCount (nodup_triedKeys ..) tried, found⟩
  by_contra below
  rw [before n behind (Nat.lt_of_not_le below)] at open_
  cases open_

/-- The search goes on behind the counter of an earlier call, though a lower one is free. -/
theorem unique_search_counted :
    let a : Assigner := {
      rules :=
        { overrides := [("再见", "Common.bye4")]
          strategy := .hash
          modules := []
          defaultModule := "Common" }
      byKey := [("Common.bye", "拜拜")]
      counters := [("Common.bye", 3)] }
    a.isFree "回见" (numbered "Common.bye" 1) = true ∧
      (a.unique "Common.bye" "回见").1 = "Common.bye5" ∧
      ∀ holder, a.byKey.lookup "Common.bye5" = some holder → holder = "回见" := by
  intro a
  have found : (a.unique "Common.bye" "回见").1 = "Common.bye5" := by decide
  exact ⟨by decide, found, found ▸ (unique_search a "Common.bye" "回见").1⟩

end Phrasebook.Key.Assigner
