import Phrasebook.Proofs.Key.Path
import Phrasebook.Proofs.Resource.Merging
import Phrasebook.Resource.ModuleFile

/-!
Phrases that a tree knows. An assigner that begins with a tree takes for a phrase that is there the
key of the first leaf with it, the names on the way to that leaf with dots between them, and puts
the phrase under that key again. Where no name has a dot in it and none is empty, the leaf is found
under its key, and the phrase keeps it. A name with a dot is taken apart like any other key, so that
a text or a group may be in the way, or another phrase in the place; and below an empty name there
is no key at all. Such a phrase is left without a key.
-/

namespace Phrasebook

open Text

namespace ResourceNode

/-- Texts in groups to any depth, where each name is a single part of a key and stands once in its
group. -/
inductive Spelled : ResourceNode → Prop
  | text (value : String) : Spelled (.text value)
  | group {members : List (String × ResourceNode)} (distinct : (members.map (·.1)).Nodup)
    (names : ∀ member ∈ members, IsName member.1) (each : ∀ member ∈ members, Spelled member.2) :
    Spelled (.group members)

/-- A leaf is a text, and its key leads to it. -/
theorem Spelled.leads {node : ResourceNode} (spelled : node.Spelled) {first key value : String}
    (listed : (key, value) ∈ node.leaves first) :
    ∃ path, (∀ name ∈ path, IsName name) ∧ key = path.foldl keyBelow first ∧
      (node.descend? path).bind text? = some value := by
  induction spelled generalizing first with
  | text held =>
    obtain ⟨rfl, rfl⟩ := Prod.mk.inj (List.mem_singleton.mp listed)
    exact ⟨[], by simp, rfl, rfl⟩
  | @group members distinct names each ih =>
    rw [leaves, memberLeaves_eq] at listed
    obtain ⟨⟨name, node⟩, member, below⟩ := List.mem_flatMap.mp listed
    obtain ⟨path, parts, rfl, leads⟩ := ih _ member below
    refine ⟨name :: path, List.forall_mem_cons.mpr ⟨names _ member, parts⟩, rfl, ?_⟩
    rw [descend?_cons_of_lookup (lookup_of_mem distinct member)]
    exact leads

end ResourceNode

theorem splitDots_foldl_keyBelow {first : String} {path : List String}
    (parts : ∀ name ∈ path, IsName name) :
    splitDots (path.foldl keyBelow first) = splitDots first ++ path := by
  induction path generalizing first with
  | nil => rw [List.foldl_nil, List.append_nil]
  | cons name path ih =>
    obtain ⟨isName, parts⟩ := List.forall_mem_cons.mp parts
    rw [List.foldl_cons, ih parts, splitDots_keyBelow, isName.splitDots, List.append_assoc]
    rfl

namespace ResourceTree

/-- Modules that are groups, spelled so that a key leads to each of their texts. -/
structure Spelled (tree : ResourceTree) : Prop where
  whole : (ResourceNode.group tree.modules).Spelled
  groups : ∀ entry ∈ tree.modules, ∃ members, entry.2 = .group members

variable {tree : ResourceTree} {key phrase : String}

/-- The key of a leaf is a path that leads to its text. -/
theorem Spelled.found (spelled : tree.Spelled) (listed : (key, phrase) ∈ tree.leaves) :
    isKeyPath (splitDots key) = true ∧ tree.text? key = some phrase := by
  obtain ⟨⟨module, node⟩, member, below⟩ := List.mem_flatMap.mp listed
  cases spelled.whole with
  | group distinct names each =>
    obtain ⟨path, parts, rfl, leads⟩ := (each _ member).leads below
    have split : splitDots (path.foldl keyBelow module) = module :: path := by
      rw [splitDots_foldl_keyBelow parts, (names _ member).splitDots]
      rfl
    have deep : path ≠ [] := by
      rintro rfl
      obtain ⟨members, rfl⟩ := spelled.groups _ member
      cases leads
    refine ⟨?_, ?_⟩
    · have long := List.length_pos_iff.mpr deep
      rw [split, isKeyPath_iff]
      refine ⟨by rw [List.length_cons]; omega, fun empty => ?_⟩
      rcases List.mem_cons.mp empty with same | inside
      · exact (names _ member).1 same.symm
      · exact (parts _ inside).1 rfl
    · rw [text?, get?, split, ResourceNode.descend?_cons_of_lookup (lookup_of_mem distinct member)]
      exact leads

end ResourceTree

namespace Key.Assigner

variable {a : Assigner}

/-- The tree of a run follows the tree that it begins with. -/
theorem follows_after (a : Assigner) (rest : List Occurrence) :
    (a.after rest).tree.Follows a.tree := by
  refine after_induction (P := fun b => b.tree.Follows a.tree) rest (.refl _) fun b o before => ?_
  rcases assignOne_steps b o with ⟨counters, conflict, step⟩ | ⟨counters, key, tree, step, put, -⟩
  · rw [step]
    exact before
  · rw [step]
    exact (ResourceTree.follows_insert put).trans before

/-- A run looks at the tree of its assigner, and not at the one that is noted so far. -/
theorem assignFrom_noted (a : Assigner) (done : Assignment) (tree : ResourceTree)
    (rest : List Occurrence) : a.assignFrom { done with tree } rest = a.assignFrom done rest := by
  induction rest generalizing a done with
  | nil => rfl
  | cons o rest ih =>
    rw [assignFrom, assignFrom]
    rcases a.assignOne o with ⟨b, conflict | entry⟩
    · exact ih b { done with unassigned := done.unassigned ++ [(o.locationKey, conflict)] }
    · exact ih b { done with entries := insertSorted o.locationKey entry done.entries }

theorem assignFrom_append (a : Assigner) (done : Assignment) (front back : List Occurrence) :
    a.assignFrom done (front ++ back) =
      (a.after front).assignFrom (a.assignFrom done front) back := by
  induction front generalizing a done with
  | nil => exact (assignFrom_noted a done a.tree back).symm
  | cons o front ih =>
    rw [List.cons_append, assignFrom, assignFrom, after_cons]
    rcases a.assignOne o with ⟨b, conflict | entry⟩ <;> exact ih b _

/-- Occurrences at other locations leave what a location has. -/
theorem lookup_assignFrom {location : String} {rest : List Occurrence}
    (elsewhere : location ∉ rest.map (·.locationKey)) (a : Assigner) (done : Assignment) :
    (a.assignFrom done rest).entries.lookup location = done.entries.lookup location := by
  induction rest generalizing a done with
  | nil => rfl
  | cons o rest ih =>
    obtain ⟨other, elsewhere⟩ := List.ne_and_not_mem_of_not_mem_cons elsewhere
    rw [assignFrom]
    rcases a.assignOne o with ⟨b, conflict | entry⟩ <;> dsimp only
    · exact ih elsewhere b _
    · rw [ih elsewhere, lookup_insertSorted, if_neg other]

variable {o : Occurrence} {key : String}

/-- The step for a phrase that has a key puts the phrase under that key, if it can; and whether it
could, and why not, can be read off the tree at the end of the run. -/
theorem assignOne_known (settled : a.settled? o.text = some key) (rest : List Occurrence) :
    let left := ((a.assignOne o).1.after rest).tree
    left.Settled (key, o.text) ∧ (a.assignOne o).2 = match left.conflict? (key, o.text) with
      | none => .ok ⟨key, o.captured⟩
      | some conflict => .error conflict := by
  intro left
  have follows : left.Follows (a.assignOne o).1.tree := follows_after _ rest
  have step : (a.assignOne o).1.tree.Settled (key, o.text) ∧
      (a.assignOne o).2 = match (a.assignOne o).1.tree.conflict? (key, o.text) with
        | none => .ok ⟨key, o.captured⟩
        | some conflict => .error conflict := by
    rw [assignOne, keyFor_of_settled o.file settled]
    cases put : a.tree.insert key o.text with
    | ok grown =>
      have again : grown.insert key o.text = .ok grown := ResourceTree.insert_eq_self_iff.mpr
        ⟨ResourceTree.isKeyPath_of_insert put,
          (ResourceTree.text?_insert put key).trans (if_pos rfl)⟩
      refine ⟨.inl (by simpa [put, record] using again), ?_⟩
      simp [put, record, ResourceTree.conflict?, again]
    | error conflict =>
      refine ⟨.inr ⟨conflict, by simp [put]⟩, ?_⟩
      simp [put, ResourceTree.conflict?]
  refine ⟨step.1.follows follows, ?_⟩
  rw [step.1.conflict?_follows follows]
  exact step.2

/-- The main statement about phrases that a tree knows, where no keys are given by hand. An
occurrence of such a phrase has the key of the first leaf with it, unless the tree at the end
refuses the phrase under that key; then it is left without a key for that reason. The tree does not
refuse it if it holds it there, and that it does where it held it from the outset, and so wherever
every name of the tree is a single part of a key. -/
theorem assign_known (config : Config) (existing : ResourceTree) (occurrences : List Occurrence)
    (noneGiven : config.keyMappings = []) (distinct : (occurrences.map (·.locationKey)).Nodup) :
    let done := ((ofRules (Rules.ofConfig config)).withExisting existing).assign occurrences
    ∀ o ∈ occurrences, ∀ key, firstKey? o.text existing.leaves = some key →
      (match done.tree.conflict? (key, o.text) with
        | none => done.entries.lookup o.locationKey = some ⟨key, o.captured⟩
        | some conflict => done.entries.lookup o.locationKey = none ∧
            (o.locationKey, conflict) ∈ done.unassigned) ∧
      (done.tree.conflict? (key, o.text) = none ↔
        ResourceTree.isKeyPath (splitDots key) = true ∧ done.tree.text? key = some o.text) ∧
      (ResourceTree.isKeyPath (splitDots key) = true ∧ existing.text? key = some o.text →
        done.tree.conflict? (key, o.text) = none) ∧
      (existing.Spelled → done.tree.conflict? (key, o.text) = none) := by
  intro done o listed key known
  obtain ⟨front, back, rfl⟩ := List.append_of_mem listed
  -- The phrase has its key from the outset, and keeps it up to its turn.
  let start := (ofRules (Rules.ofConfig config)).withExisting existing
  let turn := start.after front
  have outset : start.settled? o.text = some key := by
    rw [follows_withExisting, rules_withExisting, knownKey?, overrides_ofConfig noneGiven]
    exact known
  have settled : turn.settled? o.text = some key := (extends_after start front).keys _ _ outset
  obtain ⟨final, outcome⟩ := assignOne_known settled back
  have whole : done = turn.assignFrom (start.assignFrom {} front) (o :: back) :=
    assignFrom_append start {} front (o :: back)
  have tree : done.tree = ((turn.assignOne o).1.after back).tree := by
    rw [whole, tree_assignFrom]
    rfl
  rw [← tree] at final outcome
  have follows : done.tree.Follows existing := by
    rw [show done.tree = (start.after (front ++ o :: back)).tree from tree_assignFrom _ _ _]
    exact follows_after start _
  have kept (held : ResourceTree.isKeyPath (splitDots key) = true ∧
    existing.text? key = some o.text) :
      done.tree.conflict? (key, o.text) = none :=
    final.conflict?_eq_none_iff.mpr ⟨held.1, follows.texts _ _ held.2⟩
  refine ⟨?_, final.conflict?_eq_none_iff, kept, fun spelled => kept (spelled.found ?_)⟩
  · rw [List.map_append, List.map_cons, List.nodup_middle] at distinct
    obtain ⟨others, -⟩ := List.nodup_cons.mp distinct
    rw [List.mem_append, not_or] at others
    have before : (start.assignFrom {} front).entries.lookup o.locationKey = none :=
      lookup_assignFrom others.1 start {}
    rw [assignFrom] at whole
    cases refused : done.tree.conflict? (key, o.text) with
    | none =>
      rw [refused] at outcome
      rw [show turn.assignOne o = (_, .ok ⟨key, o.captured⟩) from Prod.ext rfl outcome] at whole
      dsimp only at whole ⊢
      rw [whole, lookup_assignFrom others.2, lookup_insertSorted, if_pos rfl]
    | some conflict =>
      rw [refused] at outcome
      rw [show turn.assignOne o = (_, .error conflict) from Prod.ext rfl outcome] at whole
      dsimp only at whole ⊢
      refine ⟨by rw [whole, lookup_assignFrom others.2, before], ?_⟩
      rw [whole]
      exact (unassigned_prefix_assignFrom _ _ back).subset
        (List.mem_append_right _ List.mem_cons_self)
  · obtain ⟨leaf, found, rfl⟩ := Option.map_eq_some_iff.mp known
    have same : leaf.2 = o.text := by simpa using List.find?_some found
    rw [← same]
    exact List.mem_of_find?_eq_some found

private def lineWith (text : String) (line : Nat) : Occurrence :=
  ⟨s!"src/a.js::file::line:{line}", "src/a.js", .file, line, .literal, line - 1,
    ⟨0, 8⟩, .plain, text, s!"'{text}'", []⟩

/-- A module file may hold a text and, beside it, another one whose name is that of the first with a
dot and more behind it. Taken apart, the key of the second text leads through the first one. -/
theorem dotted_name_left :
    let module := "export default \x7b greeting: '早上好', 'greeting.evening': '晚上好' \x7d;\n"
    let members : List (String × ResourceNode) :=
      [("greeting", .text "早上好"), ("greeting.evening", .text "晚上好")]
    let existing : ResourceTree := ⟨[("Common", .group members)]⟩
    let done := ((ofRules (Rules.ofConfig { keyMappings := [] })).withExisting existing).assign
      [lineWith "晚上好" 1]
    (ModuleFile.read module).map (fun members => (ResourceNode.group members).leaves "Common") =
      .ok ((ResourceNode.group members).leaves "Common") ∧
    firstKey? "晚上好" existing.leaves = some "Common.greeting.evening" ∧ done.entries = [] ∧
    done.unassigned =
      [("src/a.js::file::line:1", .throughLeaf "Common.greeting.evening" "Common.greeting")] := by
  decide +kernel

/-- Of two leaves with one phrase the first one counts, and a name with a dot does no harm where
nothing is in the way of its parts. -/
theorem assign_known_nested :
    let existing : ResourceTree := ⟨[("Common", .group [("form", .group [("name.first", .text "名"),
      ("ok", .text "好")]), ("again", .text "好")])]⟩
    let done := ((ofRules (Rules.ofConfig { keyMappings := [] })).withExisting existing).assign
      [lineWith "名" 1, lineWith "好" 2]
    done.entries.map (·.2.key) = ["Common.form.name.first", "Common.form.ok"] ∧
    done.tree.leaves = [("Common.form.name.first", "名"), ("Common.form.ok", "好"),
      ("Common.form.name.first", "名"), ("Common.again", "好")] ∧
    done.tree.conflict? ("Common.form.ok", "好") = none := by
  intro existing done
  have distinct : ([lineWith "名" 1, lineWith "好" 2].map (·.locationKey)).Nodup := by decide +kernel
  have listed : lineWith "好" 2 ∈ [lineWith "名" 1, lineWith "好" 2] :=
    List.mem_cons_of_mem _ List.mem_cons_self
  refine ⟨by decide +kernel, by decide +kernel, ?_⟩
  exact (assign_known { keyMappings := [] } existing _ rfl distinct _ listed "Common.form.ok"
    (by decide +kernel)).2.2.1 (by decide +kernel)

end Key.Assigner

end Phrasebook
