import Phrasebook.Locale.Template
import Phrasebook.Proofs.Text.Table

/-!
Templates that are made anew for a tree. A phrase takes over the last translation that is not blank,
whatever section it comes from; the phrases of the tree are the entries, and all others that have a
translation are retained. In a history of a template it is made anew for one tree after another, and
in between the translations of phrases that it holds are edited. No phrase ever stands in both
sections, so that a translation is never in doubt and stays in effect until it is edited, whether
its phrase is in use or not.
-/

namespace Phrasebook.Template

open Text

/-- The template for a tree, with the translations of the one whose place it takes. -/
def regenerated (tree : ResourceTree) (previous : Template) : Template :=
  (ofTree tree).mergePrevious previous

/-- The texts of the leaves of a tree. -/
def phrases (tree : ResourceTree) : List String := tree.leaves.map fun (_, phrase) => phrase

/-- A phrase stands in a table. -/
def Listed (phrase : String) (table : List (String × String)) : Prop := phrase ∈ table.map (·.1)

variable {phrase : String} {table : List (String × String)}

theorem isSome_lookup_iff : (table.lookup phrase).isSome ↔ Listed phrase table := by
  rw [List.lookup_isSome_iff, Listed, List.mem_map]
  exact exists_congr fun entry => and_congr_right fun _ => by rw [beq_iff_eq, eq_comm]

theorem lookup_eq_none_iff : table.lookup phrase = none ↔ ¬Listed phrase table := by
  rw [← isSome_lookup_iff, Bool.not_eq_true, Option.isSome_eq_false_iff, Option.isNone_iff_eq_none]

theorem listed_insertSorted_iff {other translation : String} :
    Listed phrase (insertSorted other translation table) ↔ phrase = other ∨
      Listed phrase table := by
  rw [← isSome_lookup_iff, ← isSome_lookup_iff, lookup_insertSorted]
  by_cases same : phrase = other <;> simp [same]

/-- An entry that is in place keeps the phrases of the table as they are. -/
theorem listed_insertSorted_of_listed {other translation : String} (listed : Listed other table) :
    Listed phrase (insertSorted other translation table) ↔ Listed phrase table := by
  rw [listed_insertSorted_iff]
  exact or_iff_right_of_imp fun same => same ▸ listed

theorem value_of_rising (rising : Rising table) {translation : String}
    (member : (phrase, translation) ∈ table) : table.lookup phrase = some translation := by
  induction table with
  | nil => cases member
  | cons first rest ih =>
    obtain ⟨held, value⟩ := first
    obtain ⟨below, rest_rising⟩ := List.pairwise_cons.mp rising
    rw [lookup_entry]
    rcases List.mem_cons.mp member with same | later
    · cases same
      exact if_pos rfl
    · have less : held < phrase := below _ later
      rw [if_neg (ne_of_gt less), ih rest_rising later]

/-- The last translation of a phrase that is not blank. -/
def carried (phrase : String) : List (String × String) → Option String
  | [] => none
  | (other, translation) :: rest =>
    (carried phrase rest).or (if phrase = other ∧ translation ≠ "" then some translation else none)

theorem carried_append (front back : List (String × String)) :
    carried phrase (front ++ back) = (carried phrase back).or (carried phrase front) := by
  induction front with
  | nil => simp [carried]
  | cons entry front ih => rw [List.cons_append, carried, carried, ih, Option.or_assoc]

theorem mem_of_carried {translation : String} (found : carried phrase table = some translation) :
    (phrase, translation) ∈ table := by
  induction table with
  | nil => cases found
  | cons entry table ih =>
    rcases Option.or_eq_some_iff.mp found with later | ⟨-, own⟩
    · exact List.mem_cons_of_mem _ (ih later)
    · split at own
      · rename_i here
        rw [here.1, ← Option.some.inj own]
        exact List.mem_cons_self
      · cases own

theorem carried_eq_none (absent : ¬Listed phrase table) : carried phrase table = none :=
  Option.eq_none_iff_forall_ne_some.mpr fun _ found =>
    absent (List.mem_map.mpr ⟨_, mem_of_carried found, rfl⟩)

theorem carried_ne_blank {translation : String} (found : carried phrase table = some translation) :
    translation ≠ "" := by
  induction table with
  | nil => cases found
  | cons entry table ih =>
    rcases Option.or_eq_some_iff.mp found with later | ⟨-, own⟩
    · exact ih later
    · split at own
      · rename_i filled
        exact Option.some.inj own ▸ filled.2
      · cases own

/-- A sorted table has at most one translation of a phrase to take over. -/
theorem carried_of_rising (rising : Rising table) :
    carried phrase table = (table.lookup phrase).filter (· ≠ "") := by
  induction table with
  | nil => rfl
  | cons entry table ih =>
    obtain ⟨held, translation⟩ := entry
    obtain ⟨below, rest_rising⟩ := List.pairwise_cons.mp rising
    rw [carried, lookup_entry]
    by_cases same : phrase = held
    · subst same
      have single : ¬Listed phrase table := by
        intro listed
        obtain ⟨other, member, again⟩ := List.mem_map.mp listed
        exact absurd (below other member) (again ▸ lt_irrefl _)
      rw [carried_eq_none single, if_pos rfl]
      by_cases blank : translation = "" <;> simp [blank, Option.filter]
    · rw [ih rest_rising, if_neg same, if_neg fun both => same both.1, Option.or_none]

theorem carried_sections {t : Template} (entries_rising : Rising t.entries)
    (retained_rising : Rising t.retained) :
    carried phrase (t.entries ++ t.retained) =
      ((t.retained.lookup phrase).filter (· ≠ "")).or
        ((t.entries.lookup phrase).filter (· ≠ "")) := by
  rw [carried_append, carried_of_rising retained_rising, carried_of_rising entries_rising]

/-- One translation is taken over by the phrase that it belongs to, if that is in use. -/
theorem lookup_entries_carry (t : Template) (other translation : String) :
    (t.carry other translation).entries.lookup phrase =
      if phrase = other ∧ translation ≠ "" then (t.entries.lookup phrase).map fun _ => translation
      else t.entries.lookup phrase := by
  unfold carry
  by_cases blank : translation = ""
  · simp [blank]
  · rw [if_neg (by simpa using blank)]
    by_cases inUse : (t.entries.lookup other).isSome
    · rw [if_pos inUse, lookup_insertSorted]
      by_cases same : phrase = other
      · subst same
        obtain ⟨own, found⟩ := Option.isSome_iff_exists.mp inUse
        simp [blank, found]
      · simp [same]
    · rw [if_neg inUse]
      by_cases same : phrase = other
      · subst same
        have absent : t.entries.lookup phrase = none := Option.not_isSome_iff_eq_none.mp inUse
        simp [absent]
      · simp [same]

/-- It is retained if the phrase is not in use. -/
theorem lookup_retained_carry (t : Template) (other translation : String) :
    (t.carry other translation).retained.lookup phrase =
      if phrase = other ∧ translation ≠ "" ∧ t.entries.lookup phrase = none then some translation
      else t.retained.lookup phrase := by
  unfold carry
  by_cases blank : translation = ""
  · simp [blank]
  · rw [if_neg (by simpa using blank)]
    by_cases inUse : (t.entries.lookup other).isSome
    · rw [if_pos inUse, if_neg]
      rintro ⟨rfl, -, absent⟩
      rw [absent] at inUse
      cases inUse
    · rw [if_neg inUse, lookup_insertSorted]
      have absent : t.entries.lookup other = none := Option.not_isSome_iff_eq_none.mp inUse
      by_cases same : phrase = other
      · subst same
        simp [blank, absent]
      · simp [same]

theorem rising_carry {t : Template} (entries_rising : Rising t.entries)
    (retained_rising : Rising t.retained) (other translation : String) :
    Rising (t.carry other translation).entries ∧ Rising (t.carry other translation).retained := by
  unfold carry
  split
  · exact ⟨entries_rising, retained_rising⟩
  · split
    · exact ⟨entries_rising.insertSorted _ _, retained_rising⟩
    · exact ⟨entries_rising, retained_rising.insertSorted _ _⟩

/-- Takes over the translations of a table, one by one. -/
def carryAll (t : Template) (table : List (String × String)) : Template :=
  table.foldl (fun t entry => t.carry entry.1 entry.2) t

theorem mergePrevious_eq (t previous : Template) :
    t.mergePrevious previous = t.carryAll (previous.entries ++ previous.retained) := rfl

theorem lookup_entries_carryAll (t : Template) (table : List (String × String)) :
    (t.carryAll table).entries.lookup phrase =
      (t.entries.lookup phrase).map fun own => (carried phrase table).getD own := by
  induction table generalizing t with
  | nil => simp [carryAll, carried]
  | cons entry table ih =>
    rw [carryAll, List.foldl_cons]
    refine (ih _).trans ?_
    rw [lookup_entries_carry, carried]
    split
    · rw [Option.map_map]
      cases carried phrase table <;> rfl
    · rw [Option.or_none]

theorem lookup_retained_carryAll (t : Template) (table : List (String × String)) :
    (t.carryAll table).retained.lookup phrase =
      if (t.entries.lookup phrase).isSome then t.retained.lookup phrase
      else (carried phrase table).or (t.retained.lookup phrase) := by
  induction table generalizing t with
  | nil => simp [carryAll, carried]
  | cons entry table ih =>
    have kept : ((t.carry entry.1 entry.2).entries.lookup phrase).isSome =
        (t.entries.lookup phrase).isSome := by
      rw [lookup_entries_carry]
      split <;> simp
    rw [carryAll, List.foldl_cons]
    refine (ih _).trans ?_
    rw [kept, lookup_retained_carry, carried]
    cases own : t.entries.lookup phrase with
    | some translation => simp
    | none =>
      rw [Option.or_assoc]
      by_cases same : phrase = entry.1 ∧ entry.2 ≠ "" <;> simp [same]

theorem rising_carryAll {t : Template} (entries_rising : Rising t.entries)
    (retained_rising : Rising t.retained) (table : List (String × String)) :
    Rising (t.carryAll table).entries ∧ Rising (t.carryAll table).retained := by
  induction table generalizing t with
  | nil => exact ⟨entries_rising, retained_rising⟩
  | cons entry table ih =>
    obtain ⟨entries_rising, retained_rising⟩ :=
      rising_carry entries_rising retained_rising entry.1 entry.2
    exact ih entries_rising retained_rising

variable {tree : ResourceTree} {previous : Template}

theorem lookup_ofTree : (ofTree tree).entries.lookup phrase =
    if phrase ∈ phrases tree then some "" else none := by
  have keys : (tree.leaves.map fun (_, phrase) => (phrase, "")).map (·.1) = phrases tree := by
    simp [phrases]
  split
  · rename_i listed
    rw [← keys] at listed
    obtain ⟨value, found⟩ := Option.isSome_iff_exists.mp (lookup_sortedTable_isSome listed)
    obtain ⟨leaf, -, made⟩ := List.mem_map.mp (mem_sortedTable (mem_of_lookup found))
    cases made
    exact found
  · rename_i absent
    refine lookup_eq_none_iff.mpr fun listed => absent ?_
    obtain ⟨entry, member, rfl⟩ := List.mem_map.mp listed
    rw [← keys]
    exact List.mem_map_of_mem (mem_sortedTable member)

theorem rising_regenerated :
    Rising (regenerated tree previous).entries ∧ Rising (regenerated tree previous).retained :=
  rising_carryAll (rising_sortedTable _) .nil _

/-- The entries are the phrases of the tree, each with the translation that it takes over. -/
theorem lookup_entries_regenerated : (regenerated tree previous).entries.lookup phrase =
    if phrase ∈ phrases tree then
      some ((carried phrase (previous.entries ++ previous.retained)).getD "")
    else none := by
  rw [regenerated, mergePrevious_eq, lookup_entries_carryAll, lookup_ofTree]
  split <;> rfl

theorem listed_entries_regenerated_iff :
    Listed phrase (regenerated tree previous).entries ↔ phrase ∈ phrases tree := by
  rw [← isSome_lookup_iff, lookup_entries_regenerated]
  split <;> simp_all

/-- Other phrases are retained if they have a translation to take over. -/
theorem lookup_retained_regenerated : (regenerated tree previous).retained.lookup phrase =
    if phrase ∈ phrases tree then none
    else carried phrase (previous.entries ++ previous.retained) := by
  have none : (ofTree tree).retained.lookup phrase = none := rfl
  rw [regenerated, mergePrevious_eq, lookup_retained_carryAll, lookup_ofTree, none, Option.or_none]
  split <;> rfl

/-- What a phrase takes over is its translation. -/
theorem lookup_regenerated : (regenerated tree previous).lookup phrase =
    match carried phrase (previous.entries ++ previous.retained) with
    | some translation => .translated translation
    | none => if phrase ∈ phrases tree then .empty else .missing := by
  have filled : ∀ translation, carried phrase (previous.entries ++ previous.retained) =
    some translation →
      translation.isEmpty = false := fun _ found => by simpa using carried_ne_blank found
  rw [lookup, lookup_entries_regenerated, lookup_retained_regenerated]
  cases found : carried phrase (previous.entries ++ previous.retained) with
  | none => by_cases inUse : phrase ∈ phrases tree <;> simp [inUse]
  | some translation =>
    have shown := filled translation found
    by_cases inUse : phrase ∈ phrases tree <;> simp [inUse, shown]

inductive Change
  | regenerate (tree : ResourceTree)
  | edit (phrase translation : String)

/-- Sets the translation of a phrase that the template holds, in the section where it stands. -/
def edited (t : Template) (phrase translation : String) : Template :=
  if (t.entries.lookup phrase).isSome then t.fill phrase translation
  else if (t.retained.lookup phrase).isSome then
    { t with retained := insertSorted phrase translation t.retained }
  else t

def change (t : Template) : Change → Template
  | .regenerate tree => regenerated tree t
  | .edit phrase translation => t.edited phrase translation

def after (t : Template) (changes : List Change) : Template := changes.foldl change t

/-- Both sections are sorted, and no phrase stands in both. -/
structure Separate (t : Template) : Prop where
  entries_rising : Rising t.entries
  retained_rising : Rising t.retained
  apart : ∀ phrase, Listed phrase t.entries → ¬Listed phrase t.retained

variable {t : Template} {phrase text : String}

theorem separate_regenerated (tree : ResourceTree) (previous : Template) :
    Separate (regenerated tree previous) := by
  refine ⟨rising_regenerated.1, rising_regenerated.2, fun phrase inUse => ?_⟩
  rw [← isSome_lookup_iff, lookup_entries_regenerated] at inUse
  rw [← lookup_eq_none_iff, lookup_retained_regenerated]
  split at inUse
  · rename_i listed
    exact if_pos listed
  · cases inUse

theorem Separate.edited (separate : Separate t) (phrase translation : String) :
    Separate (t.edited phrase translation) := by
  obtain ⟨entries_rising, retained_rising, apart⟩ := separate
  unfold Template.edited
  split
  · rename_i inUse
    have listed := isSome_lookup_iff.mp inUse
    refine ⟨entries_rising.insertSorted _ _, retained_rising, fun other member => apart other ?_⟩
    exact (listed_insertSorted_of_listed listed).mp member
  · split
    · rename_i kept
      have listed := isSome_lookup_iff.mp kept
      refine ⟨entries_rising, retained_rising.insertSorted _ _, fun other member => ?_⟩
      rw [listed_insertSorted_of_listed listed]
      exact apart other member
    · exact ⟨entries_rising, retained_rising, apart⟩

theorem Separate.change (separate : Separate t) (c : Change) : Separate (t.change c) := by
  cases c with
  | regenerate tree => exact separate_regenerated tree t
  | edit phrase translation => exact separate.edited phrase translation

theorem lookup_eq_translated_iff : t.lookup phrase = .translated text ↔
    text ≠ "" ∧ (t.entries.lookup phrase = some text ∨
      t.entries.lookup phrase = none ∧ t.retained.lookup phrase = some text) := by
  have shown (value : String) :
      (if value.isEmpty then Lookup.empty else .translated value) = .translated text ↔
        text ≠ "" ∧ value = text := by
    by_cases blank : value = ""
    · subst blank
      rw [if_pos (String.isEmpty_iff.mpr rfl)]
      exact ⟨nofun, fun both => absurd both.2.symm both.1⟩
    · rw [if_neg (by simpa using blank), Lookup.translated.injEq]
      exact ⟨fun same => ⟨same ▸ blank, same⟩, And.right⟩
  unfold lookup
  cases first : t.entries.lookup phrase with
  | some value =>
    refine (shown value).trans ?_
    simp
  | none =>
    cases second : t.retained.lookup phrase with
    | some value =>
      refine (shown value).trans ?_
      simp
    | none => simp

/-- Of a phrase that stands in one section only, the translation in effect is the one that is taken
over. -/
theorem carried_of_lookup (separate : Separate t) (inEffect : t.lookup phrase = .translated text) :
    carried phrase (t.entries ++ t.retained) = some text := by
  obtain ⟨filled, found⟩ := lookup_eq_translated_iff.mp inEffect
  rw [carried_sections separate.entries_rising separate.retained_rising]
  rcases found with inUse | ⟨unused, kept⟩
  · have listed : Listed phrase t.entries := isSome_lookup_iff.mp (by rw [inUse]; rfl)
    rw [inUse, lookup_eq_none_iff.mpr (separate.apart phrase listed)]
    simp [Option.filter, filled]
  · rw [unused, kept]
    simp [Option.filter, filled]

theorem lookup_edited {other : String} (different : phrase ≠ other) (translation : String) :
    (t.edited other translation).lookup phrase = t.lookup phrase := by
  unfold edited
  split
  · simp only [lookup, fill, lookup_insertSorted, if_neg different]
  · split
    · simp only [lookup, lookup_insertSorted, if_neg different]
    · rfl

/-- A translation stays in effect if it is not the one that is edited. -/
theorem lookup_change (separate : Separate t)
    (inEffect : t.lookup phrase = .translated text) {c : Change}
    (untouched : ∀ translation, c ≠ .edit phrase translation) :
    (t.change c).lookup phrase = .translated text := by
  cases c with
  | regenerate tree =>
    have taken := carried_of_lookup separate inEffect
    rw [change, lookup_regenerated, taken]
  | edit other translation =>
    have different : phrase ≠ other := fun same => untouched translation (same ▸ rfl)
    rw [change, lookup_edited different, inEffect]

theorem filled_of_mem_regenerated {tree : ResourceTree} {previous : Template}
    {entry : String × String} (member : entry ∈ (regenerated tree previous).retained) :
    entry.2 ≠ "" := by
  have found := value_of_rising rising_regenerated.2 member
  rw [lookup_retained_regenerated] at found
  split at found
  · cases found
  · exact carried_ne_blank found

theorem Separate.after (separate : Separate t) (changes : List Change) :
    Separate (t.after changes) := by
  induction changes generalizing t with
  | nil => exact separate
  | cons c changes ih => exact ih (separate.change c)

theorem lookup_after (separate : Separate t) (inEffect : t.lookup phrase = .translated text)
    {changes : List Change} (untouched : ∀ translation, .edit phrase translation ∉ changes) :
    (t.after changes).lookup phrase = .translated text := by
  induction changes generalizing t with
  | nil => exact inEffect
  | cons c changes ih =>
    have other : ∀ translation, c ≠ .edit phrase translation := by
      rintro translation rfl
      exact untouched translation List.mem_cons_self
    refine ih (separate.change c) (lookup_change separate inEffect other)
      fun translation member => ?_
    exact untouched translation (List.mem_cons_of_mem _ member)

theorem separate_empty : Separate {} := ⟨.nil, .nil, by simp [Listed]⟩

/-- Whatever has been done to a template since it was empty: its sections share no phrase. Made
anew, its entries are the phrases of the tree, each one once, all that is retained has a
translation, and what was in effect still is. It stays so through all further changes until it is
edited. -/
theorem translations_kept_until_edited (changes : List Change) :
    let t := after {} changes
    (∀ phrase, ¬(Listed phrase t.entries ∧ Listed phrase t.retained)) ∧
      (∀ tree, let next := t.change (.regenerate tree)
        Rising next.entries ∧ (∀ phrase, Listed phrase next.entries ↔ phrase ∈ phrases tree) ∧
          (∀ entry ∈ next.retained, entry.2 ≠ "") ∧
          ∀ phrase text, t.lookup phrase = .translated text →
            next.lookup phrase = .translated text) ∧
      ∀ later phrase text, t.lookup phrase = .translated text →
        (∀ translation, .edit phrase translation ∉ later) →
          (t.after later).lookup phrase = .translated text := by
  intro t
  have separate : Separate t := separate_empty.after changes
  refine ⟨fun phrase both => separate.apart phrase both.1 both.2, fun tree => ?_, ?_⟩
  · refine ⟨rising_regenerated.1, fun phrase => listed_entries_regenerated_iff,
      fun entry => filled_of_mem_regenerated, fun phrase text inEffect => ?_⟩
    exact lookup_change separate inEffect (by simp)
  · intro later phrase text inEffect untouched
    exact lookup_after separate inEffect untouched

end Phrasebook.Template
