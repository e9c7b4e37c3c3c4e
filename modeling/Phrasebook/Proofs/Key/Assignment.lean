import Phrasebook.Key.Assigner
import Phrasebook.Proofs.Resource.Growth
import Phrasebook.Proofs.Text.Table
import Mathlib.Data.List.Nodup
import Mathlib.Logic.Basic
import Mathlib.Data.List.Basic

/-!
What a run of the assigner gives. Every occurrence either gets a key or is left without one; the key
of an occurrence holds its phrase in the tree that comes out; and two occurrences have the same key
exactly when they have the same phrase. No rule, no tree to begin with and no failure on the way
makes a difference to this. The tree has what every insertion keeps, and its modules are those that
were there and those of the keys that the run gives.
-/

namespace Phrasebook.Key.Assigner

/-- The key that a phrase will have from now on: the one given by hand, else its first one. -/
def settled? (a : Assigner) (phrase : String) : Option String :=
  match a.rules.overrides.lookup phrase with
  | some key => some key
  | none => a.byText.lookup phrase

theorem settled?_record (a : Assigner) (key phrase other : String) :
    (a.record key phrase).settled? other =
      if other = phrase then some ((a.settled? phrase).getD key) else a.settled? other := by
  simp only [settled?, record, Text.lookup_putNew]
  by_cases h : other = phrase
  · subst other
    cases a.rules.overrides.lookup phrase <;> simp
  · simp [h]

theorem keyFor_of_settled {a : Assigner} {phrase key : String} (file : String)
    (settled : a.settled? phrase = some key) : a.keyFor file phrase = (key, a) := by
  unfold settled? at settled
  unfold keyFor
  cases given : a.rules.overrides.lookup phrase with
  | some chosen =>
    have same : chosen = key := by simpa [given] using settled
    simp [same]
  | none =>
    have noted : a.byText.lookup phrase = some key := by simpa [given] using settled
    simp [noted]

/-- Looking for a key changes nothing but counters. -/
theorem keyFor_counters (a : Assigner) (file phrase : String) :
    ∃ counters, (a.keyFor file phrase).2 = { a with counters } := by
  unfold keyFor unique
  split
  · exact ⟨a.counters, rfl⟩
  · split
    · exact ⟨a.counters, rfl⟩
    · dsimp only
      split
      · exact ⟨a.counters, rfl⟩
      · exact ⟨_, rfl⟩

/-- Nothing that one state says of a key or of a phrase is taken back in the other. -/
structure Extends (a b : Assigner) : Prop where
  texts : ∀ key phrase, a.tree.text? key = some phrase → b.tree.text? key = some phrase
  keys : ∀ phrase key, a.settled? phrase = some key → b.settled? phrase = some key

/-- All that one step can do. It either fails and keeps everything but counters, or it puts the
phrase into the tree under a key, which is the one that the phrase has if it has one. -/
theorem assignOne_steps (a : Assigner) (o : Occurrence) :
    (∃ counters conflict, a.assignOne o = ({ a with counters }, .error conflict)) ∨
    ∃ counters key tree,
      a.assignOne o =
        (({ a with counters, tree } : Assigner).record key o.text, .ok ⟨key, o.captured⟩) ∧
      a.tree.insert key o.text = .ok tree ∧ ∀ known, a.settled? o.text =
        some known → known = key := by
  obtain ⟨counters, after⟩ := keyFor_counters a o.file o.text
  obtain ⟨key, hkey⟩ : ∃ key, a.keyFor o.file o.text = (key, { a with counters }) :=
    ⟨_, Prod.ext rfl after⟩
  unfold assignOne
  rw [hkey]
  dsimp only
  cases put : a.tree.insert key o.text with
  | error conflict => exact .inl ⟨counters, conflict, rfl⟩
  | ok tree =>
    refine .inr ⟨counters, key, tree, rfl, put, fun known settled => ?_⟩
    rw [keyFor_of_settled o.file settled] at hkey
    exact congrArg Prod.fst hkey

/-- What a step knows of a phrase behind a success: its key, and all else as before. -/
theorem settled?_step (a : Assigner) (counters : List (String × Nat)) (tree : ResourceTree)
    {key phrase : String} (kept : ∀ known, a.settled? phrase = some known → known = key)
    (other : String) :
    (({ a with counters, tree } : Assigner).record key phrase).settled? other =
      if other = phrase then some key else a.settled? other := by
  have same : ({ a with counters, tree } : Assigner).settled? = a.settled? := rfl
  rw [settled?_record, same]
  cases settled : a.settled? phrase with
  | none => rfl
  | some known => rw [kept known settled]; rfl

/-- A step takes nothing back; if it succeeds, its key holds the phrase and stays the key of the
phrase. -/
theorem assignOne_cases (a : Assigner) (o : Occurrence) :
    (∃ counters conflict, a.assignOne o = ({ a with counters }, .error conflict)) ∨
    ∃ b key, a.assignOne o = (b, .ok ⟨key, o.captured⟩) ∧ a.Extends b ∧
      b.tree.text? key = some o.text ∧ b.settled? o.text = some key := by
  rcases assignOne_steps a o with refused | ⟨counters, key, tree, step, put, kept⟩
  · exact .inl refused
  refine .inr ⟨_, key, step, ⟨?_, ?_⟩, ?_, ?_⟩
  · intro other phrase held
    exact ResourceTree.text?_insert_of_held put held
  · intro phrase other settled
    rw [settled?_step a counters tree kept]
    split
    · rename_i same
      rw [kept other (same ▸ settled)]
    · exact settled
  · exact (ResourceTree.text?_insert put key).trans (if_pos rfl)
  · rw [settled?_step a counters tree kept, if_pos rfl]

/-- What holds when the occurrences `seen` have had their turn. -/
structure Sound (a : Assigner) (done : Assignment) (seen : List Occurrence) : Prop where
  /-- Each of them has been put in one place. -/
  places : (done.entries.map (·.1) ++ done.unassigned.map (·.1)).Perm (seen.map (·.locationKey))
  entries : ∀ o ∈ seen, ∀ entry, done.entries.lookup o.locationKey = some entry →
    a.tree.text? entry.key = some o.text ∧ a.settled? o.text = some entry.key ∧
      entry.bindings = o.captured

/-- A location that no occurrence has had is in neither place. -/
theorem Sound.not_mem {a : Assigner} {done : Assignment} {seen : List Occurrence}
    (sound : Sound a done seen) {location : String}
    (fresh : location ∉ seen.map (·.locationKey)) :
    location ∉ done.entries.map (·.1) ∧ location ∉ done.unassigned.map (·.1) := by
  have neither : location ∉ done.entries.map (·.1) ++ done.unassigned.map (·.1) :=
    fun h => fresh (sound.places.mem_iff.mp h)
  exact ⟨fun h => neither (List.mem_append_left _ h), fun h => neither (List.mem_append_right _ h)⟩

theorem Sound.extend {a b : Assigner} {done : Assignment} {seen : List Occurrence}
    (sound : Sound a done seen) (more : a.Extends b) : Sound b done seen where
  places := sound.places
  entries := fun o ho entry held =>
    have ⟨text, settled, bindings⟩ := sound.entries o ho entry held
    ⟨more.texts _ _ text, more.keys _ _ settled, bindings⟩

theorem Sound.assigned {a b : Assigner} {done : Assignment} {seen : List Occurrence}
    (sound : Sound a done seen) (more : a.Extends b) {o : Occurrence} {key : String}
    (fresh : o.locationKey ∉ seen.map (·.locationKey))
    (text : b.tree.text? key = some o.text) (settled : b.settled? o.text = some key) :
    Sound b { done with
      entries := Text.insertSorted o.locationKey ⟨key, o.captured⟩ done.entries }
    (seen ++ [o]) where
  places := by
    have added := Text.keys_insertSorted (⟨key, o.captured⟩ : KeyEntry) (sound.not_mem fresh).1
    refine (added.append_right _).trans ?_
    rw [List.map_append]
    exact (sound.places.cons o.locationKey).trans (List.perm_append_singleton _ _).symm
  entries := by
    intro other hother entry held
    rw [Text.lookup_insertSorted] at held
    rcases List.mem_append.mp hother with old | new
    · have different : other.locationKey ≠ o.locationKey :=
        fun h => fresh (h ▸ List.mem_map_of_mem old)
      rw [if_neg different] at held
      exact (sound.extend more).entries other old entry held
    · obtain rfl := List.mem_singleton.mp new
      obtain rfl : (⟨key, other.captured⟩ : KeyEntry) = entry := by simpa using held
      exact ⟨text, settled, rfl⟩

theorem Sound.refused {a : Assigner} {done : Assignment} {seen : List Occurrence}
    (sound : Sound a done seen) {o : Occurrence} (conflict : KeyConflict)
    (fresh : o.locationKey ∉ seen.map (·.locationKey)) :
    Sound a { done with unassigned := done.unassigned ++ [(o.locationKey, conflict)] }
      (seen ++ [o]) where
  places := by
    rw [List.map_append, List.map_append, ← List.append_assoc]
    exact sound.places.append_right _
  entries := by
    intro other hother entry held
    rcases List.mem_append.mp hother with old | new
    · exact sound.entries other old entry held
    · obtain rfl := List.mem_singleton.mp new
      exact absurd (Text.mem_keys_of_lookup held) (sound.not_mem fresh).1

/-- A run keeps what a step keeps. -/
theorem assignFrom_sound {a : Assigner} {done : Assignment} {seen : List Occurrence}
    (rest : List Occurrence) (sound : Sound a done seen)
    (distinct : ((seen ++ rest).map (·.locationKey)).Nodup) :
    ∃ b, Sound b (a.assignFrom done rest) (seen ++ rest) ∧
    (a.assignFrom done rest).tree = b.tree := by
  induction rest generalizing a done seen with
  | nil =>
    rw [List.append_nil]
    exact ⟨a, ⟨sound.places, sound.entries⟩, rfl⟩
  | cons o rest ih =>
    have fresh : o.locationKey ∉ seen.map (·.locationKey) := by
      rw [List.map_append, List.map_cons, List.nodup_middle] at distinct
      exact fun h => (List.nodup_cons.mp distinct).1 (List.mem_append_left _ h)
    rw [List.append_cons] at distinct ⊢
    rcases assignOne_cases a o with ⟨counters, conflict, step⟩ | ⟨b, key, step, more, text, settled⟩
    · simp only [assignFrom, step]
      have kept : Extends a { a with counters } := ⟨fun _ _ h => h, fun _ _ h => h⟩
      exact ih ((sound.extend kept).refused conflict fresh) distinct
    · simp only [assignFrom, step]
      exact ih (sound.assigned more fresh text settled) distinct

/-- A run from any state on, over locations that are all different. -/
theorem assign_sound (a : Assigner) {occurrences : List Occurrence}
    (distinct : (occurrences.map (·.locationKey)).Nodup) :
    ∃ b, Sound b (a.assign occurrences) occurrences ∧ (a.assign occurrences).tree = b.tree := by
  have start : Sound a {} [] := ⟨.refl _, by simp⟩
  exact assignFrom_sound occurrences start distinct

/-- The main statement about a run. Every occurrence is in exactly one of the two tables, and these
have no other locations; an assigned key holds the phrase of its occurrence; and equal keys and
equal phrases are the same thing. -/
theorem assign_partition_and_keys (config : Config) (existing : ResourceTree)
    (occurrences : List Occurrence) (distinct : (occurrences.map (·.locationKey)).Nodup) :
    let done := ((ofRules (Rules.ofConfig config)).withExisting existing).assign occurrences
    (∀ o ∈ occurrences, Xor (o.locationKey ∈ done.entries.map (·.1))
      (o.locationKey ∈ done.unassigned.map (·.1))) ∧
    (done.entries.map (·.1) ++ done.unassigned.map (·.1)).Perm (occurrences.map (·.locationKey)) ∧
    (∀ o ∈ occurrences, ∀ entry, done.entries.lookup o.locationKey = some entry →
      done.tree.text? entry.key = some o.text ∧ entry.bindings = o.captured) ∧
    ∀ o₁ ∈ occurrences, ∀ o₂ ∈ occurrences, ∀ entry₁ entry₂,
      done.entries.lookup o₁.locationKey = some entry₁ →
      done.entries.lookup o₂.locationKey = some entry₂ →
      (entry₁.key = entry₂.key ↔ o₁.text = o₂.text) := by
  intro done
  obtain ⟨b, sound, tree⟩ :=
    assign_sound ((ofRules (Rules.ofConfig config)).withExisting existing) distinct
  refine ⟨?_, sound.places, ?_, ?_⟩
  · intro o ho
    have placed := sound.places.mem_iff.mpr (List.mem_map_of_mem ho)
    have apart := List.disjoint_of_nodup_append (sound.places.nodup_iff.mpr distinct)
    rcases List.mem_append.mp placed with assigned | left
    · exact .inl ⟨assigned, fun h => apart assigned h⟩
    · exact .inr ⟨left, fun h => apart h left⟩
  · intro o ho entry held
    obtain ⟨text, -, bindings⟩ := sound.entries o ho entry held
    exact ⟨tree ▸ text, bindings⟩
  · intro o₁ h₁ o₂ h₂ entry₁ entry₂ held₁ held₂
    obtain ⟨text₁, settled₁, -⟩ := sound.entries o₁ h₁ entry₁ held₁
    obtain ⟨text₂, settled₂, -⟩ := sound.entries o₂ h₂ entry₂ held₂
    constructor
    · intro same
      rw [same] at text₁
      exact Option.some.inj (text₁.symm.trans text₂)
    · intro same
      rw [same] at settled₁
      exact Option.some.inj (settled₁.symm.trans settled₂)

/-- Three occurrences of one phrase; the first and the last are in files of a module of their own.
-/
private def repeated : List Occurrence :=
  [("old/a.js", 1), ("src/b.js", 1), ("old/a.js", 2)].map fun (file, line) =>
    ⟨s!"{file}::file::line:{line}", file, .file, line, .literal, line - 1, ⟨0, 8⟩, .plain,
      "你好", "'你好'", []⟩

/-- A text stands where the module of the first occurrence would be, so that it is left without a
key. The second one gets a key in another module, and the third one has it, too. -/
theorem assign_partition_and_keys_blocked_first :
    let config : Config := { keyPrefixes := [⟨"old/", "Old"⟩] }
    let existing : ResourceTree := ⟨[("Old", .text "旧")]⟩
    let done := ((ofRules (Rules.ofConfig config)).withExisting existing).assign repeated
    done.entries.map (fun (location, entry) => (location, entry.key)) =
      [("old/a.js::file::line:2", "Common.textdzq5"),
        ("src/b.js::file::line:1", "Common.textdzq5")] ∧
    (done.entries.map (·.1) ++ done.unassigned.map (·.1)).Perm (repeated.map (·.locationKey)) := by
  intro config existing done
  have distinct : (repeated.map (·.locationKey)).Nodup := by decide
  exact ⟨by decide +kernel, (assign_partition_and_keys config existing repeated distinct).2.1⟩

end Phrasebook.Key.Assigner

namespace Phrasebook

/-- The module of a key is the first of its parts. -/
def IsModuleOf (key name : String) : Prop := (Text.splitDots key).head? = some name

namespace ResourceTree

/-- An insertion adds no module but that of its key. -/
theorem modules_insert {tree grown : ResourceTree} {key value : String}
    (done : tree.insert key value = .ok grown) :
    ∀ name ∈ grown.modules.map (·.1), name ∈ tree.modules.map (·.1) ∨ IsModuleOf key name := by
  have put {name : String} {node : ResourceNode} {rest : List String}
      (path : Text.splitDots key = name :: rest) {other : String}
      (listed : other ∈ (Text.put name node tree.modules).map (·.1)) :
      other ∈ tree.modules.map (·.1) ∨ IsModuleOf key other := by
    obtain ⟨entry, member, rfl⟩ := List.mem_map.mp listed
    rcases Text.mem_put member with rfl | old
    · exact .inr (by rw [IsModuleOf, path]; rfl)
    · exact .inl (List.mem_map_of_mem old)
  intro other listed
  have below := insertBelow_of_insert done
  cases path : Text.splitDots key with
  | nil => rw [path] at below; cases below
  | cons name rest =>
    rw [path] at below
    cases rest with
    | nil =>
      rw [ResourceNode.insertBelow] at below
      split at below
      · rw [← Except.ok.inj below] at listed
        exact put path listed
      · split at below
        · rw [← Except.ok.inj below] at listed
          exact .inl listed
        · cases below
      · cases below
    | cons next rest =>
      rw [ResourceNode.insertBelow] at below
      split at below
      · rw [← Except.ok.inj below] at listed
        exact put path listed
      · rename_i inner held
        cases deeper : ResourceNode.insertBelow key value [name] (next :: rest) inner with
        | error conflict => rw [deeper] at below; cases below
        | ok more =>
          rw [deeper] at below
          rw [← Except.ok.inj below] at listed
          exact put path listed
      · cases below

end ResourceTree

namespace Key.Assigner

/-- What every insertion keeps, a run keeps. -/
theorem assignFrom_tree {P : ResourceTree → Prop}
    (keeps : ∀ tree grown key value, P tree → tree.insert key value = .ok grown →
      P grown) {a : Assigner}
    (done : Assignment) (rest : List Occurrence) (start : P a.tree) :
    P (a.assignFrom done rest).tree := by
  induction rest generalizing a done with
  | nil => exact start
  | cons o rest ih =>
    rcases assignOne_steps a o with ⟨counters, conflict, step⟩ | ⟨counters, key, tree, step, put, -⟩
    · simp only [assignFrom, step]
      exact ih _ start
    · simp only [assignFrom, step]
      exact ih _ (keeps _ _ _ _ start put)

/-- The modules of a tree are among these names or are those of keys in a table. -/
def Covers (names : List String) (entries : List (String × KeyEntry))
    (tree : ResourceTree) : Prop :=
  ∀ name ∈ tree.modules.map (·.1), name ∈ names ∨
    ∃ location entry, entries.lookup location = some entry ∧ IsModuleOf entry.key name

theorem Covers.assigned {names : List String} {entries : List (String × KeyEntry)}
    {tree grown : ResourceTree} (covers : Covers names entries tree) {location key value : String}
    (bindings : List Binding) (free : entries.lookup location = none)
    (put : tree.insert key value = .ok grown) :
    Covers names (Text.insertSorted location ⟨key, bindings⟩ entries) grown := by
  intro name listed
  rcases ResourceTree.modules_insert put name listed with old | new
  · rcases covers name old with known | ⟨other, entry, held, isModule⟩
    · exact .inl known
    · have apart : other ≠ location := by
        rintro rfl
        rw [free] at held
        cases held
      exact .inr ⟨other, entry, by rw [Text.lookup_insertSorted, if_neg apart, held], isModule⟩
  · exact .inr ⟨location, _, by rw [Text.lookup_insertSorted, if_pos rfl], new⟩

theorem assignFrom_covers {names : List String} {a : Assigner} {done : Assignment}
    {rest : List Occurrence} (covers : Covers names done.entries a.tree)
    (distinct : (rest.map (·.locationKey)).Nodup)
    (free : ∀ o ∈ rest, done.entries.lookup o.locationKey = none) :
    Covers names (a.assignFrom done rest).entries (a.assignFrom done rest).tree := by
  induction rest generalizing a done with
  | nil => exact covers
  | cons o rest ih =>
    obtain ⟨fresh, distinct⟩ := List.nodup_cons.mp distinct
    have later : ∀ other ∈ rest, done.entries.lookup other.locationKey = none := fun other listed =>
      free other (List.mem_cons_of_mem _ listed)
    rcases assignOne_steps a o with ⟨counters, conflict, step⟩ | ⟨counters, key, tree, step, put, -⟩
    · simp only [assignFrom, step]
      exact ih covers distinct later
    · simp only [assignFrom, step]
      refine ih (covers.assigned _ (free o List.mem_cons_self) put) distinct fun other listed => ?_
      have apart : other.locationKey ≠ o.locationKey := fun same =>
        fresh (List.mem_map.mpr ⟨other, listed, same⟩)
      rw [Text.lookup_insertSorted, if_neg apart]
      exact later other listed

/-- The modules behind a run are those from before and those of keys that it gave. -/
theorem assign_covers (a : Assigner) {occurrences : List Occurrence}
    (distinct : (occurrences.map (·.locationKey)).Nodup) :
    Covers (a.tree.modules.map (·.1)) (a.assign occurrences).entries (a.assign occurrences).tree :=
  assignFrom_covers (fun _ listed => .inl listed) distinct fun _ _ => rfl

end Key.Assigner

end Phrasebook
