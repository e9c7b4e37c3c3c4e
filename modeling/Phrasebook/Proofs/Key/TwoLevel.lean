import Phrasebook.Proofs.Key.Path

/-!
Trees of two levels: modules that hold texts, each under one part of a key. In such a tree a new key
never meets a text on its way or a group at its end, and a free one meets no other phrase; so a run
that begins with one and has a single part for each module leaves no occurrence without a key, and
ends with one.
-/

namespace Phrasebook

open Text

/-- A table under single parts of keys, each once, with nodes of one kind. -/
structure Named (P : ResourceNode → Prop) (members : List (String × ResourceNode)) : Prop where
  distinct : (members.map (·.1)).Nodup
  names : ∀ member ∈ members, IsName member.1
  nodes : ∀ member ∈ members, P member.2

variable {P : ResourceNode → Prop} {members : List (String × ResourceNode)} {name : String}
  {node : ResourceNode}

theorem Named.of_lookup (named : Named P members) (held : members.lookup name = some node) :
    IsName name ∧ P node :=
  ⟨named.names _ (mem_of_lookup held), named.nodes _ (mem_of_lookup held)⟩

theorem Named.put (named : Named P members) (isName : IsName name) (kind : P node) :
    Named P (Text.put name node members) where
  distinct := nodup_put node named.distinct
  names member listed := by
    rcases mem_put listed with rfl | listed
    · exact isName
    · exact named.names member listed
  nodes member listed := by
    rcases mem_put listed with rfl | listed
    · exact kind
    · exact named.nodes member listed

namespace ResourceNode

def IsText (node : ResourceNode) : Prop := ∃ value, node = .text value

def IsModule (node : ResourceNode) : Prop := ∃ members, node = .group members ∧ Named IsText members

end ResourceNode

namespace ResourceTree

open ResourceNode

variable {tree : ResourceTree} {key value : String}

/-- Only modules, which have single parts of keys as their names and hold nothing but texts under
such. -/
def TwoLevel (tree : ResourceTree) : Prop := Named IsModule tree.modules

theorem text?_keyBelow {module : String} (isModule : IsName module) (isName : IsName name) :
    tree.text? (keyBelow module name) =
      (tree.modules.lookup module).bind fun node =>
        (node.descend? [name]).bind ResourceNode.text? := by
  rw [text?, get?, splitDots_keyBelow, isModule.splitDots, isName.splitDots]
  exact textBelow?_cons _ _ _

/-- A key that holds a text has a module and one part below it. -/
theorem TwoLevel.of_text? (twoLevel : tree.TwoLevel) (held : tree.text? key = some value) :
    ∃ module name, IsName module ∧ IsName name ∧ key = keyBelow module name := by
  have whole := keyAlong_splitDots key
  change textBelow? tree.modules (splitDots key) = some value at held
  cases path : splitDots key with
  | nil =>
    rw [path] at held
    cases held
  | cons module behind =>
    rw [path, textBelow?_cons] at held
    obtain ⟨node, inTree, below⟩ := Option.bind_eq_some_iff.mp held
    obtain ⟨isModule, members, rfl, shelf⟩ := twoLevel.of_lookup inTree
    cases behind with
    | nil => cases below
    | cons name behind =>
      change textBelow? members (name :: behind) = some value at below
      rw [textBelow?_cons] at below
      obtain ⟨node, inModule, ends⟩ := Option.bind_eq_some_iff.mp below
      obtain ⟨isName, text, rfl⟩ := shelf.of_lookup inModule
      cases behind with
      | nil =>
        rw [path] at whole
        exact ⟨module, name, isModule, isName, whole.symm⟩
      | cons next behind => cases ends

theorem TwoLevel.text?_of_mem_leaves (twoLevel : tree.TwoLevel)
    (listed : (key, value) ∈ tree.leaves) : tree.text? key = some value := by
  obtain ⟨⟨module, node⟩, inTree, below⟩ := List.mem_flatMap.mp listed
  obtain ⟨members, rfl, shelf⟩ := twoLevel.nodes _ inTree
  change (key, value) ∈ memberLeaves module members at below
  rw [memberLeaves_eq] at below
  obtain ⟨⟨name, node⟩, inModule, single⟩ := List.mem_flatMap.mp below
  obtain ⟨text, rfl⟩ := shelf.nodes _ inModule
  obtain ⟨rfl, rfl⟩ := Prod.mk.inj (List.mem_singleton.mp single)
  rw [text?_keyBelow (twoLevel.names _ inTree) (shelf.names _ inModule),
    lookup_of_mem twoLevel.distinct inTree]
  simp [descend?, lookup_of_mem shelf.distinct inModule, ResourceNode.text?]

/-- Below a module of one part, a text can be put under a key that no other text has. -/
theorem TwoLevel.insert (twoLevel : tree.TwoLevel) {module : String} (isModule : IsName module)
    (isName : IsName name)
    (free : ∀ held, tree.text? (keyBelow module name) = some held → held = value) :
    ∃ grown, tree.insert (keyBelow module name) value = .ok grown ∧ grown.TwoLevel := by
  have path : splitDots (keyBelow module name) = [module, name] := by
    rw [splitDots_keyBelow, isModule.splitDots, isName.splitDots]
    rfl
  have wellFormed : isKeyPath [module, name] = true :=
    isKeyPath_iff.mpr ⟨Nat.le_refl 2, by simp [Ne.symm isModule.1, Ne.symm isName.1]⟩
  rw [text?_keyBelow isModule isName] at free
  rw [ResourceTree.insert, path, if_pos wellFormed, insertBelow]
  cases inTree : tree.modules.lookup module with
  | none =>
    have shelf : Named IsText [(name, text value)] :=
      ⟨List.nodup_singleton _, by simpa using isName, by simpa using ⟨value, rfl⟩⟩
    exact ⟨_, rfl, twoLevel.put isModule ⟨_, rfl, shelf⟩⟩
  | some node =>
    obtain ⟨-, members, rfl, shelf⟩ := twoLevel.of_lookup inTree
    rw [inTree] at free
    dsimp only
    rw [insertBelow]
    cases inModule : members.lookup name with
    | none => exact ⟨_, rfl, twoLevel.put isModule ⟨_, rfl, shelf.put isName ⟨value, rfl⟩⟩⟩
    | some node =>
      obtain ⟨-, held, rfl⟩ := shelf.of_lookup inModule
      have same : held = value := free held (by simp [descend?, inModule, ResourceNode.text?])
      dsimp only
      rw [if_pos same]
      exact ⟨_, rfl, twoLevel.put isModule ⟨_, rfl, shelf⟩⟩

end ResourceTree

namespace Key.Assigner

/-- A state in which no phrase can be left without a key. What its table of keys and its table of
phrases say is so in the tree. -/
structure Ready (a : Assigner) : Prop where
  noneGiven : a.rules.overrides = []
  modules : ∀ file, IsName (a.rules.moduleOf file)
  shape : a.tree.TwoLevel
  keys : ∀ key phrase, a.tree.text? key = some phrase → a.byKey.lookup key = some phrase
  phrases : ∀ phrase key, a.settled? phrase = some key → a.tree.text? key = some phrase

/-- A key that is free, where none are given by hand, has no other phrase. -/
theorem eq_of_isFree {a : Assigner} {phrase key held : String} (free : a.isFree phrase key = true)
    (taken : a.byKey.lookup key = some held) : held = phrase := by
  rw [isFree, taken, Bool.and_eq_true] at free
  exact beq_iff_eq.mp free.1

/-- The key for a phrase can be put into the tree, and it keeps its shape. -/
theorem Ready.insert {a : Assigner} (ready : a.Ready) (file phrase : String) :
    ∃ grown, a.tree.insert (a.keyFor file phrase).1 phrase = .ok grown ∧ grown.TwoLevel := by
  cases settled : a.settled? phrase with
  | some key =>
    have held := ready.phrases phrase key settled
    rw [keyFor_of_settled file settled]
    -- The phrase is there already, under a key that this shape allows.
    obtain ⟨module, name, isModule, isName, rfl⟩ := ready.shape.of_text? held
    refine ready.shape.insert isModule isName fun other found => ?_
    exact Option.some.inj (found.symm.trans held)
  | none =>
    obtain ⟨name, isName, new, free⟩ := a.keyFor_new file settled
    rw [new] at free ⊢
    exact ready.shape.insert (ready.modules file) isName fun held found =>
      eq_of_isFree free (ready.keys _ held found)

/-- A step gives its occurrence a key, and is ready for the next one. -/
theorem Ready.step {a : Assigner} (ready : a.Ready) (o : Occurrence) :
    ∃ b entry, a.assignOne o = (b, .ok entry) ∧ b.Ready := by
  obtain ⟨grown, put, shape⟩ := ready.insert o.file o.text
  obtain ⟨counters, after⟩ := a.keyFor_counters o.file o.text
  generalize found : (a.keyFor o.file o.text).1 = key at put
  have step : a.assignOne o =
      (({ a with counters, tree := grown } : Assigner).record key o.text,
        .ok ⟨key, o.captured⟩) := by
    rw [assignOne, show a.keyFor o.file o.text =
      (key, { a with counters }) from Prod.ext found after]
    dsimp only
    rw [put]
  have kept (known : String) (settled : a.settled? o.text = some known) : known = key := by
    rw [← found, keyFor_of_settled o.file settled]
  refine ⟨_, _, step, ready.noneGiven, ready.modules, shape, fun other phrase held => ?_,
    fun phrase other settled => ?_⟩
  · change grown.text? other = some phrase at held
    rw [ResourceTree.text?_insert put] at held
    rw [record, lookup_put]
    by_cases same : other = key
    · rw [if_pos (congrArg splitDots same)] at held
      rwa [if_pos same]
    · rw [if_neg fun parts => same (ResourceTree.splitDots_injective parts)] at held
      rw [if_neg same]
      exact ready.keys other phrase held
  · rw [settled?_step a counters grown kept] at settled
    split at settled
    · rename_i same
      rw [same, ← Option.some.inj settled]
      exact (ResourceTree.text?_insert put key).trans (if_pos rfl)
    · exact ResourceTree.text?_insert_of_held put (ready.phrases phrase other settled)

/-- A run leaves no occurrence without a key. -/
theorem Ready.assignFrom {a : Assigner} (ready : a.Ready) (done : Assignment)
    (rest : List Occurrence) :
    (a.assignFrom done rest).unassigned = done.unassigned ∧ (a.assignFrom done rest).tree.TwoLevel ∧
      ∀ location, (done.entries.lookup location).isSome ∨ location ∈ rest.map (·.locationKey) →
        ((a.assignFrom done rest).entries.lookup location).isSome := by
  induction rest generalizing a done with
  | nil => exact ⟨rfl, ready.shape, fun location known => known.resolve_right List.not_mem_nil⟩
  | cons o rest ih =>
    obtain ⟨b, entry, step, next⟩ := ready.step o
    simp only [Assigner.assignFrom, step]
    obtain ⟨unassigned, shape, entries⟩ :=
      ih next { done with entries := insertSorted o.locationKey entry done.entries }
    refine ⟨unassigned, shape, fun location known => entries location ?_⟩
    rw [lookup_insertSorted]
    by_cases here : location = o.locationKey
    · rw [if_pos here]
      exact .inl rfl
    · rw [if_neg here]
      exact known.imp_right fun listed => (List.mem_cons.mp listed).resolve_left here

/-- A key has one phrase in the table if it has one in a list of leaves. -/
theorem byKey_foldl_record {leaves : List (String × String)} {a : Assigner} {key phrase : String}
    (only : ∀ leaf ∈ leaves, leaf.1 = key → leaf.2 = phrase)
    (known : a.byKey.lookup key = some phrase ∨ (key, phrase) ∈ leaves) :
    (leaves.foldl (fun a (leaf : String × String) => a.record leaf.1 leaf.2) a).byKey.lookup key =
      some phrase := by
  induction leaves generalizing a with
  | nil => exact known.resolve_right List.not_mem_nil
  | cons leaf leaves ih =>
    refine ih (fun other listed => only other (List.mem_cons_of_mem _ listed)) ?_
    change (put leaf.1 leaf.2 a.byKey).lookup key = some phrase ∨ (key, phrase) ∈ leaves
    rw [lookup_put]
    by_cases here : key = leaf.1
    · rw [if_pos here, only leaf List.mem_cons_self here.symm]
      exact .inl rfl
    · rw [if_neg here]
      exact known.imp_right fun listed => (List.mem_cons.mp listed).resolve_left fun same =>
        here (congrArg Prod.fst same)

theorem ready_withExisting {rules : Rules} (noneGiven : rules.overrides = [])
    (modules : ∀ file, IsName (rules.moduleOf file)) {existing : ResourceTree}
    (shape : existing.TwoLevel) : ((ofRules rules).withExisting existing).Ready where
  noneGiven := by rw [rules_withExisting, noneGiven]
  modules := by rwa [rules_withExisting]
  shape := shape
  keys key phrase held := by
    refine byKey_foldl_record (fun leaf listed same => ?_)
      (.inr (ResourceTree.mem_leaves_of_text? held))
    have other : existing.text? leaf.1 = some leaf.2 := shape.text?_of_mem_leaves listed
    rw [same] at other
    exact Option.some.inj (other.symm.trans held)
  phrases phrase key settled := by
    rw [follows_withExisting, rules_withExisting, knownKey?, noneGiven] at settled
    obtain ⟨leaf, found, rfl⟩ := Option.map_eq_some_iff.mp settled
    have same : leaf.2 = phrase := by simpa using List.find?_some found
    rw [← same]
    exact shape.text?_of_mem_leaves (List.mem_of_find?_eq_some found)

/-- The main statement about trees of two levels. Where no keys are given by hand and every name of
a module is a single part of a key, a run that begins with such a tree gives every occurrence a key,
leaves none without, and ends with such a tree. -/
theorem assign_twoLevel (config : Config) (existing : ResourceTree) (occurrences : List Occurrence)
    (noneGiven : config.keyMappings = [])
    (names : ∀ name ∈ config.defaultKeyPrefix :: config.keyPrefixes.map (·.name),
      IsName (moduleName name))
    (shape : existing.TwoLevel) :
    let done := ((ofRules (Rules.ofConfig config)).withExisting existing).assign occurrences
    done.unassigned = [] ∧ done.tree.TwoLevel ∧
      ∀ o ∈ occurrences, (done.entries.lookup o.locationKey).isSome := by
  intro done
  have modules (file : String) : IsName ((Rules.ofConfig config).moduleOf file) := by
    rw [moduleOf_ofConfig]
    exact names _ (nameFor_mem config file)
  obtain ⟨unassigned, twoLevel, entries⟩ :=
    (ready_withExisting (overrides_ofConfig noneGiven) modules shape).assignFrom {} occurrences
  exact ⟨unassigned, twoLevel, fun o listed => entries _ (.inr (List.mem_map_of_mem listed))⟩

/-- Four occurrences: two phrases whose new keys are taken, one that the tree has, and one of
another module. -/
private def crowding : List Occurrence :=
  [("src/a.js", 1, "你好"), ("src/a.js", 2, "保存"), ("src/a.js", 3, "旧"), ("old/b.js", 1, "再见")].map
    fun (file, line, text) =>
      ⟨s!"{file}::file::line:{line}", file, .file, line, .literal, line - 1, ⟨0, 8⟩, .plain, text,
        s!"'{text}'", []⟩

/-- The keys that are taken are given with a counter behind them, and a module is added. -/
theorem assign_twoLevel_crowded :
    let config : Config := { keyMappings := [], keyPrefixes := [⟨"old/", " old."⟩] }
    let existing : ResourceTree :=
      ⟨[("Common", .group [("textdzq5", .text "旧"), ("save", .text "存")])]⟩
    let done := ((ofRules (Rules.ofConfig config)).withExisting existing).assign crowding
    done.tree.leaves = [("Common.textdzq5", "旧"), ("Common.save", "存"), ("Common.textdzq51", "你好"),
      ("Common.save1", "保存"), ("Old.texteml0", "再见")] ∧
    done.unassigned = [] ∧ done.tree.TwoLevel ∧
      ∀ o ∈ crowding, (done.entries.lookup o.locationKey).isSome := by
  intro config existing done
  have names : ∀ name ∈ config.defaultKeyPrefix :: config.keyPrefixes.map (·.name),
      IsName (moduleName name) := by
    decide +kernel
  have shelf : Named ResourceNode.IsText [("textdzq5", .text "旧"), ("save", .text "存")] :=
    ⟨by decide, by decide, by simp [ResourceNode.IsText]⟩
  have shape : existing.TwoLevel :=
    ⟨List.nodup_singleton _, List.forall_mem_singleton.mpr (by decide),
      List.forall_mem_singleton.mpr ⟨_, rfl, shelf⟩⟩
  exact ⟨by decide +kernel, assign_twoLevel config existing crowding rfl names shape⟩

end Key.Assigner

end Phrasebook
