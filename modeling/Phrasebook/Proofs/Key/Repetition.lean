import Phrasebook.Proofs.Key.Assignment
import Phrasebook.Proofs.Resource.Growth

/-!
Assignment again. A run only adds to the tree that it begins with. What an assigner knows of a
phrase can be read off its rules and its tree, where the first leaf with the phrase counts; so a run
that begins with the tree of an earlier one, which left out nothing, comes to the same keys.
-/

namespace Phrasebook.Key.Assigner

/-- The state in which a run ends. -/
def after (a : Assigner) (occurrences : List Occurrence) : Assigner :=
  occurrences.foldl (fun a o => (a.assignOne o).1) a

theorem after_cons (a : Assigner) (o : Occurrence) (rest : List Occurrence) :
    a.after (o :: rest) = (a.assignOne o).1.after rest := rfl

theorem tree_assignFrom (a : Assigner) (done : Assignment) (rest : List Occurrence) :
    (a.assignFrom done rest).tree = (a.after rest).tree := by
  induction rest generalizing a done with
  | nil => rfl
  | cons o rest ih =>
    rw [after_cons, assignFrom]
    rcases step : a.assignOne o with ⟨b, conflict | entry⟩ <;> exact ih _ _

/-- What a step keeps, a run keeps. -/
theorem after_induction {P : Assigner → Prop} {a : Assigner} (rest : List Occurrence) (start : P a)
    (step : ∀ a o, P a → P (a.assignOne o).1) : P (a.after rest) := by
  induction rest generalizing a with
  | nil => exact start
  | cons o rest ih => exact ih (step a o start)

theorem Extends.refl (a : Assigner) : a.Extends a := ⟨fun _ _ h => h, fun _ _ h => h⟩

theorem Extends.trans {a b c : Assigner} (first : a.Extends b)
    (second : b.Extends c) : a.Extends c :=
  ⟨fun _ _ h => second.texts _ _ (first.texts _ _ h), fun _ _ h =>
    second.keys _ _ (first.keys _ _ h)⟩

theorem extends_after (a : Assigner) (rest : List Occurrence) : a.Extends (a.after rest) := by
  refine after_induction rest (.refl a) fun b o before => before.trans ?_
  rcases assignOne_cases b o with ⟨counters, conflict, step⟩ | ⟨c, key, step, more, -, -⟩
  · rw [step]
    exact ⟨fun _ _ h => h, fun _ _ h => h⟩
  · rw [step]
    exact more

/-- A run loses no leaf of the tree, whether or not it fails on the way. -/
theorem leaves_sublist_after (a : Assigner) (rest : List Occurrence) :
    a.tree.leaves.Sublist (a.after rest).tree.leaves := by
  refine after_induction (P := fun b => a.tree.leaves.Sublist b.tree.leaves) rest (.refl _)
    fun b o before => before.trans ?_
  rcases assignOne_steps b o with ⟨counters, conflict, step⟩ | ⟨counters, key, tree, step, put, -⟩
  · rw [step]
  · rw [step]
    exact ResourceTree.leaves_sublist_insert put

/-- The key of the first leaf that holds a phrase. -/
def firstKey? (phrase : String) (leaves : List (String × String)) : Option String :=
  (leaves.find? (·.2 == phrase)).map (·.1)

theorem firstKey?_append (phrase : String) (front back : List (String × String)) :
    firstKey? phrase (front ++ back) = (firstKey? phrase front).or (firstKey? phrase back) := by
  unfold firstKey?
  rw [List.find?_append]
  cases front.find? (·.2 == phrase) <;> rfl

theorem firstKey?_cons (phrase : String) (leaf : String × String) (rest : List (String × String)) :
    firstKey? phrase (leaf :: rest) = if leaf.2 = phrase then some leaf.1
      else firstKey? phrase rest := by
  by_cases same : leaf.2 = phrase <;> simp [firstKey?, same]

/-- The key given by hand, else that of the first leaf with the phrase. -/
def knownKey? (rules : Rules) (tree : ResourceTree) (phrase : String) : Option String :=
  match rules.overrides.lookup phrase with
  | some key => some key
  | none => firstKey? phrase tree.leaves

/-- The assigner knows of every phrase what its rules and its tree say. -/
def Follows (a : Assigner) : Prop := ∀ phrase, a.settled? phrase = knownKey? a.rules a.tree phrase

theorem byText_foldl_record (leaves : List (String × String)) (a : Assigner) (phrase : String) :
    (leaves.foldl (fun a (leaf : String × String) => a.record leaf.1 leaf.2) a).byText.lookup
      phrase = (a.byText.lookup phrase).or (firstKey? phrase leaves) := by
  induction leaves generalizing a with
  | nil => simp [firstKey?]
  | cons leaf leaves ih =>
    rw [List.foldl_cons, ih, record, Text.lookup_putNew, firstKey?_cons]
    by_cases same : phrase = leaf.2
    · subst phrase
      cases a.byText.lookup leaf.2 <;> simp
    · simp [same, Ne.symm same]

theorem rules_foldl_record (leaves : List (String × String)) (a : Assigner) :
    (leaves.foldl (fun a (leaf : String × String) => a.record leaf.1 leaf.2) a).rules = a.rules :=
  by
  induction leaves generalizing a with
  | nil => rfl
  | cons leaf leaves ih => exact ih _

theorem rules_withExisting (rules : Rules) (tree : ResourceTree) :
    ((ofRules rules).withExisting tree).rules = rules :=
  rules_foldl_record tree.leaves (ofRules rules)

theorem follows_withExisting (rules : Rules) (tree : ResourceTree) :
    ((ofRules rules).withExisting tree).Follows := by
  intro phrase
  have texts := byText_foldl_record tree.leaves (ofRules rules) phrase
  have kept := rules_foldl_record tree.leaves (ofRules rules)
  simp only [settled?, knownKey?, withExisting, kept]
  cases (ofRules rules).rules.overrides.lookup phrase with
  | some key => rfl
  | none => exact texts

/-- Behind an insertion the first leaf of the phrase has its key, if the phrase was put under the
key that it had. -/
theorem firstKey?_inserted {tree grown : ResourceTree} {key phrase : String}
    (put : tree.insert key phrase = .ok grown)
    (kept : ∀ known, firstKey? phrase tree.leaves = some known → known = key) :
    firstKey? phrase grown.leaves = some key := by
  rcases ResourceTree.insert_cases put with ⟨rfl, held⟩ | ⟨front, back, old, new⟩
  · obtain ⟨front, back, parts⟩ := List.append_of_mem (ResourceTree.mem_leaves_of_text? held)
    obtain ⟨known, first⟩ : ∃ known, firstKey? phrase grown.leaves = some known := by
      rw [parts, firstKey?_append, firstKey?_cons, if_pos rfl]
      cases firstKey? phrase front with
      | some known => exact ⟨known, rfl⟩
      | none => exact ⟨key, rfl⟩
    rw [first, kept known first]
  · rw [old, firstKey?_append] at kept
    rw [new, firstKey?_append, firstKey?_cons, if_pos rfl]
    cases first : firstKey? phrase front with
    | none => rfl
    | some known =>
      rw [first] at kept
      exact congrArg some (kept known rfl)

theorem firstKey?_insert_of_ne {tree grown : ResourceTree} {key phrase other : String}
    (put : tree.insert key phrase = .ok grown) (different : other ≠ phrase) :
    firstKey? other grown.leaves = firstKey? other tree.leaves := by
  rcases ResourceTree.insert_cases put with ⟨rfl, -⟩ | ⟨front, back, old, new⟩
  · rfl
  · rw [old, new, firstKey?_append, firstKey?_append, firstKey?_cons, if_neg (Ne.symm different)]

theorem Follows.step {a : Assigner} (follows : a.Follows) (o : Occurrence) :
    (a.assignOne o).1.Follows := by
  rcases assignOne_steps a o with ⟨counters, conflict, step⟩ |
    ⟨counters, key, tree, step, put, kept⟩
  · rw [step]
    exact follows
  rw [step]
  intro phrase
  rw [settled?_step a counters tree kept, follows phrase]
  rw [follows o.text] at kept
  simp only [record, knownKey?] at kept ⊢
  by_cases same : phrase = o.text
  · subst phrase
    rw [if_pos rfl]
    cases given : a.rules.overrides.lookup o.text with
    | some chosen =>
      rw [given] at kept
      exact congrArg some (kept chosen rfl).symm
    | none =>
      rw [given] at kept
      exact (firstKey?_inserted put kept).symm
  · rw [if_neg same, firstKey?_insert_of_ne put same]

theorem rules_after (a : Assigner) (rest : List Occurrence) : (a.after rest).rules = a.rules := by
  refine after_induction (P := fun b => b.rules = a.rules) rest rfl fun b o before => ?_
  rcases assignOne_steps b o with ⟨counters, conflict, step⟩ | ⟨counters, key, tree, step, -, -⟩ <;>
    rw [step] <;> exact before

theorem unassigned_prefix_assignFrom (a : Assigner) (done : Assignment) (rest : List Occurrence) :
    done.unassigned <+: (a.assignFrom done rest).unassigned := by
  induction rest generalizing a done with
  | nil => exact List.prefix_rfl
  | cons o rest ih =>
    rw [assignFrom]
    rcases step : a.assignOne o with ⟨b, conflict | entry⟩ <;> dsimp only
    · exact (List.prefix_append _ _).trans
        (ih b { done with unassigned := done.unassigned ++ [(o.locationKey, conflict)] })
    · exact ih b { done with entries := Text.insertSorted o.locationKey entry done.entries }

/-- A run that leaves out nothing, seen again by an assigner that knows how it ended. -/
theorem assignFrom_again {a c : Assigner} {done : Assignment} (rest : List Occurrence)
    (complete : (a.assignFrom done rest).unassigned = done.unassigned)
    (tree : c.tree = (a.after rest).tree)
    (knows : ∀ phrase key, (a.after rest).settled? phrase = some key →
      c.settled? phrase = some key) :
    c.assignFrom done rest = a.assignFrom done rest := by
  induction rest generalizing a c done with
  | nil => simp only [assignFrom, tree]; rfl
  | cons o rest ih =>
    rcases assignOne_steps a o with ⟨counters, conflict, step⟩ |
      ⟨counters, key, grown, step, put, kept⟩
    · -- a refusal stays in the list
      simp only [assignFrom, step] at complete
      have more := (unassigned_prefix_assignFrom { a with counters } { done with
        unassigned := done.unassigned ++ [(o.locationKey, conflict)] } rest).length_le
      rw [complete, List.length_append, List.length_singleton] at more
      omega
    · rw [after_cons, step] at tree knows
      simp only [assignFrom, step] at complete ⊢
      have settled := knows o.text key <| (extends_after _ rest).keys _ _ <| by
        rw [settled?_step a counters grown kept, if_pos rfl]
      have held : c.tree.text? key = some o.text := by
        rw [tree]
        exact (extends_after _ rest).texts _ _
          ((ResourceTree.text?_insert put key).trans (if_pos rfl))
      have again : c.tree.insert key o.text = .ok c.tree :=
        ResourceTree.insert_eq_self_iff.mpr ⟨ResourceTree.isKeyPath_of_insert put, held⟩
      have second : c.assignOne o = (c.record key o.text, .ok ⟨key, o.captured⟩) := by
        simp only [assignOne, keyFor_of_settled o.file settled, again]
      rw [second]
      refine ih complete tree fun phrase other known => ?_
      rw [settled?_record, settled]
      split
      · rename_i same
        exact settled ▸ same ▸ knows phrase other known
      · exact knows phrase other known

/-- The main statement about runs one behind the other. Every leaf that was there stays, with the
same text and in the same order. Where a run leaves out nothing, the next run over the same
occurrences, which begins with the tree of the first one, gives the same entries and the same tree.
-/
theorem assign_again (config : Config) (existing : ResourceTree) (occurrences : List Occurrence) :
    let assigner := fun tree => (ofRules (Rules.ofConfig config)).withExisting tree
    let done := (assigner existing).assign occurrences
    existing.leaves.Sublist done.tree.leaves ∧
    (done.unassigned = [] → (assigner done.tree).assign occurrences = done) := by
  intro assigner done
  have tree : done.tree = ((assigner existing).after occurrences).tree := tree_assignFrom _ _ _
  constructor
  · rw [tree]
    exact leaves_sublist_after (assigner existing) occurrences
  · intro complete
    refine assignFrom_again occurrences complete tree fun phrase key known => ?_
    have first : ((assigner existing).after occurrences).Follows :=
      after_induction occurrences (follows_withExisting _ existing)
        fun _ o follows => follows.step o
    rw [first phrase, rules_after, ← tree, rules_withExisting] at known
    rw [follows_withExisting (Rules.ofConfig config) done.tree phrase, rules_withExisting]
    exact known

/-- Six occurrences: a phrase that the tree holds three times, one with a key given by hand, one
whose name in the dictionary is that very key, two of one new phrase, and a phrase of another
module. -/
private def mixed : List Occurrence :=
  [("src/a.js", 1, "早上好"), ("src/a.js", 2, "确定"), ("src/a.js", 3, "确认"), ("src/a.js", 4, "再见"),
    ("old/b.js", 1, "再见"), ("old/b.js", 2, "你好")].map fun (file, line, text) =>
    ⟨s!"{file}::file::line:{line}", file, .file, line, .literal, line - 1, ⟨0, 8⟩, .plain, text,
      s!"'{text}'", []⟩

/-- The module of the last phrase comes first in the tree, so that its leaf goes in before others.
-/
theorem assign_again_mixed :
    let config : Config := { keyPrefixes := [⟨"old/", "Old"⟩] }
    let existing : ResourceTree := ⟨[("Old", .group [("b", .text "早上好"), ("c", .text "早上好")]),
      ("Common", .group [("morning", .text "早上好")])]⟩
    let assigner := fun tree => (ofRules (Rules.ofConfig config)).withExisting tree
    let done := (assigner existing).assign mixed
    done.tree.leaves = [("Old.b", "早上好"), ("Old.c", "早上好"), ("Old.textdzq5", "你好"),
      ("Common.morning", "早上好"), ("Common.confirm1", "确定"), ("Common.confirm", "确认"),
      ("Common.texteml0", "再见")] ∧
    done.unassigned = [] ∧ (assigner done.tree).assign mixed = done := by
  intro config existing assigner done
  have complete : done.unassigned = [] := by decide +kernel
  exact ⟨by decide +kernel, complete, (assign_again config existing mixed).2 complete⟩

end Phrasebook.Key.Assigner
