import Phrasebook.Config.Check
import Phrasebook.Proofs.Key.Free
import Phrasebook.Proofs.Key.Repetition
import Phrasebook.Proofs.Result
import Phrasebook.Proofs.Text.Character
import Mathlib.Data.List.DropRight

/-!
Whether a new key is a key path. What a phrase suggests for itself, a counter behind it or not, is
one part of a key, so that all depends on the name of the module. The check of a configuration
refuses a name that consists of dots alone; but blanks around a name are taken off before the dots
at its end are, and nothing else is. A name of blanks, or one that has a dot at its front or two
dots in a row behind that, passes the check and gives keys with an empty part.
-/

namespace Phrasebook

open Text

/-- One part of a key. -/
def IsName (name : String) : Prop := name ≠ "" ∧ '.' ∉ name.toList

instance (name : String) : Decidable (IsName name) := inferInstanceAs (Decidable (_ ∧ _))

theorem IsName.splitDots {name : String} (isName : IsName name) : splitDots name = [name] := by
  rw [Text.splitDots, splitOnChar_of_not_mem isName.2, List.map_singleton, String.ofList_toList]

/-- What is written behind a name without a dot in it belongs to the name. -/
theorem IsName.append {name behind : String} (isName : IsName name) (none : '.' ∉ behind.toList) :
    IsName (name ++ behind) := by
  refine ⟨fun empty => isName.1 (String.append_eq_empty_iff.mp empty).1, fun listed => ?_⟩
  rw [String.toList_append] at listed
  exact (List.mem_append.mp listed).elim isName.2 none

theorem splitDots_keyBelow (path name : String) :
    splitDots (keyBelow path name) = splitDots path ++ splitDots name := by
  rw [splitDots, keyBelow, String.toList_append, String.toList_append, List.append_assoc]
  exact (congrArg _ (splitOnChar_append_sep '.' path.toList name.toList)).trans List.map_append

theorem empty_mem_splitDots_iff {text : String} : "" ∈ splitDots text ↔
    [] ∈ splitOnChar '.' text.toList := by
  rw [splitDots, List.mem_map]
  constructor
  · rintro ⟨piece, listed, same⟩
    rwa [String.ofList_eq_empty_iff.mp same] at listed
  · exact fun listed => ⟨[], listed, rfl⟩

theorem isKeyPath_iff {path : List String} :
    ResourceTree.isKeyPath path = true ↔ 2 ≤ path.length ∧ "" ∉ path := by
  rw [ResourceTree.isKeyPath, Bool.and_eq_true, decide_eq_true_iff, List.all_eq_true]
  refine and_congr_right fun _ => ⟨fun filled listed => ?_, fun none part listed => ?_⟩
  · cases filled "" listed
  · rw [Bool.not_eq_true', Bool.eq_false_iff, Ne, String.isEmpty_iff]
    exact fun same => none (same ▸ listed)

/-- A key is a path exactly if no part of its module's name is empty. -/
theorem isKeyPath_keyBelow_iff {path name : String} (isName : IsName name) :
    ResourceTree.isKeyPath (splitDots (keyBelow path name)) = true ↔
    [] ∉ splitOnChar '.' path.toList := by
  have some : 0 < (splitOnChar '.' path.toList).length :=
    List.length_pos_of_ne_nil (splitOnChar_ne_nil '.' _)
  have long : 2 ≤ (splitDots path ++ [name]).length := by
    rw [List.length_append, splitDots, List.length_map, List.length_singleton]
    omega
  rw [splitDots_keyBelow, isName.splitDots, isKeyPath_iff, and_iff_right long, List.mem_append,
    empty_mem_splitDots_iff, List.mem_singleton, or_iff_left (Ne.symm isName.1)]

theorem ResourceNode.insertBelow_ne_malformed {key value other : String} {passed path : List String}
    {members : List (String × ResourceNode)} (filled : path ≠ []) :
    insertBelow key value passed path members ≠ .error (.malformed other) := by
  fun_induction insertBelow key value passed path members with
  | case1 => exact absurd rfl filled
  | case7 passed name next path members inner held ih =>
    intro refused
    cases below : insertBelow key value (name :: passed) (next :: path) inner with
    | ok deeper => rw [below] at refused; cases refused
    | error conflict =>
      rw [below] at refused
      exact ih (List.cons_ne_nil _ _) (below.trans (congrArg _ (Except.error.inj refused)))
  | case2 | case3 | case4 | case5 | case6 | case8 =>
    intro refused
    cases refused

/-- A key that is no path is refused by every tree, and another one by none for that. -/
theorem ResourceTree.insert_malformed_iff {tree : ResourceTree} {key value : String} :
    tree.insert key value = .error (.malformed key) ↔ ¬ isKeyPath (splitDots key) = true := by
  constructor
  · intro refused wellFormed
    have filled : splitDots key ≠ [] := by
      intro empty
      rw [empty] at wellFormed
      cases wellFormed
    rw [insert, if_pos wellFormed] at refused
    cases below : ResourceNode.insertBelow key value [] (splitDots key) tree.modules with
    | ok grown => rw [below] at refused; cases refused
    | error conflict =>
      rw [below] at refused
      exact ResourceNode.insertBelow_ne_malformed filled
        (below.trans (congrArg _ (Except.error.inj refused)))
  · intro bad
    rw [insert, if_neg bad]

end Phrasebook

namespace Phrasebook.Key

open Text

theorem dot_not_mem_digits36 (n : Nat) : '.' ∉ digits36 n := by
  have digit : ∀ k < 36, digit36 k ≠ '.' := by decide
  fun_induction digits36 n with
  | case1 => exact List.not_mem_nil
  | case2 n _ ih =>
    intro listed
    rcases List.mem_append.mp listed with listed | last
    · exact ih listed
    · exact digit (n % 36) (Nat.mod_lt n (by decide)) (List.mem_singleton.mp last).symm

/-- What a phrase suggests for itself is one part of a key. -/
theorem isName_suggest (strategy : KeyStrategy) (phrase : String) :
    IsName (Rules.suggest strategy phrase) := by
  have words : ∀ entry ∈ dictionary, IsName entry.2 := by decide
  unfold Rules.suggest
  split
  · rename_i found
    exact words _ (mem_of_lookup found)
  · refine IsName.append (by decide) ?_
    unfold Text.hash toBase36
    split
    · decide
    · rw [String.toList_ofList]
      exact dot_not_mem_digits36 _

namespace Assigner

/-- A key that is not settled is a new one: a name below the module of the file, and free. -/
theorem keyFor_new {a : Assigner} {phrase : String} (file : String)
    (new : a.settled? phrase = none) :
    ∃ name, IsName name ∧ (a.keyFor file phrase).1 = keyBelow (a.rules.moduleOf file) name ∧
      a.isFree phrase (a.keyFor file phrase).1 = true := by
  have found : a.keyFor file phrase =
      a.unique (keyBelow (a.rules.moduleOf file) (Rules.suggest a.rules.strategy phrase))
      phrase := by
    unfold settled? at new
    unfold keyFor
    cases given : a.rules.overrides.lookup phrase with
    | some chosen => simp [given] at new
    | none =>
      have fresh : a.byText.lookup phrase = none := by simpa [given] using new
      simp only [fresh]
  have suggested := isName_suggest a.rules.strategy phrase
  obtain ⟨free, same | ⟨n, counted⟩⟩ :=
    a.unique_free (keyBelow (a.rules.moduleOf file) (Rules.suggest a.rules.strategy phrase)) phrase
  · exact ⟨_, suggested, by rw [found, same], found ▸ free⟩
  · refine ⟨_, suggested.append (not_mem_natural (by decide) n), ?_, found ▸ free⟩
    rw [found, counted, numbered, keyBelow, keyBelow, String.append_assoc]

end Assigner

/-- What counts of a name for a module: blanks around it do not, and then dots at its end do not. -/
def bareName (name : String) : List Char := (trim name.toList).rdropWhile (· == '.')

/-- A name for a module that gives an empty part: nothing of it counts, or what does begins with a
dot or has two dots in a row. -/
def Hollow (name : String) : Prop :=
  bareName name = [] ∨ (bareName name).head? = some '.' ∨ ['.', '.'] <:+: bareName name

theorem last_bareName (name : String) : (bareName name).getLast? ≠ some '.' := by
  intro last
  have filled : bareName name ≠ [] := by
    intro empty
    rw [empty] at last
    cases last
  rw [List.getLast?_eq_some_getLast filled] at last
  exact List.rdropWhile_last_not _ _ filled (beq_iff_eq.mpr (Option.some.inj last))

theorem nil_mem_splitOnChar_capitalize {text : String} :
    [] ∈ splitOnChar '.' (capitalize text).toList ↔ [] ∈ splitOnChar '.' text.toList := by
  unfold capitalize
  split
  · rename_i empty
    rw [empty]
    rfl
  · rename_i c cs spelled
    rw [spelled, String.toList_ofList]
    by_cases dot : c = '.'
    · rw [dot, Character.dot_stays.1, List.singleton_append]
    · rw [nil_mem_splitOnChar_append (Character.upper_ne_nil c) (Character.dot_not_mem_upper dot),
        ← List.singleton_append, nil_mem_splitOnChar_append (List.cons_ne_nil c [])]
      simpa using Ne.symm dot

/-- The name of a module has an empty part exactly if it was given a hollow name. -/
theorem nil_mem_splitOnChar_moduleName {name : String} :
    [] ∈ splitOnChar '.' (moduleName name).toList ↔ Hollow name := by
  have bare : moduleName name = capitalize (String.ofList (bareName name)) := rfl
  rw [bare, nil_mem_splitOnChar_capitalize, String.toList_ofList, nil_mem_splitOnChar_iff, Hollow,
    or_iff_right (last_bareName name)]

/-- The name that a configuration gives for the module of a file: that of the first rule for the
file, as it stands there. -/
def nameFor (config : Config) (file : String) : String :=
  ((config.keyPrefixes.find? fun rule => (FileMatch.read? rule.pattern).any (·.accepts file)).map
    (·.name)).getD config.defaultKeyPrefix

theorem nameFor_mem (config : Config) (file : String) :
    nameFor config file ∈ config.defaultKeyPrefix :: config.keyPrefixes.map (·.name) := by
  unfold nameFor
  cases found : config.keyPrefixes.find? fun rule =>
      (FileMatch.read? rule.pattern).any (·.accepts file) with
  | none => exact List.mem_cons_self
  | some rule =>
    exact List.mem_cons_of_mem _ (List.mem_map_of_mem (List.mem_of_find?_eq_some found))

theorem moduleOf_ofConfig (config : Config) (file : String) :
    (Rules.ofConfig config).moduleOf file = moduleName (nameFor config file) := by
  unfold Rules.moduleOf Rules.ofConfig nameFor
  simp only [List.find?_filterMap, Option.any_map]
  cases found : config.keyPrefixes.find? fun rule =>
      (FileMatch.read? rule.pattern).any (·.accepts file) with
  | none => simp only [Option.bind_none, Option.map_none, Option.getD_none]
  | some rule =>
    have accepts := List.find?_some found
    cases read : FileMatch.read? rule.pattern with
    | none =>
      rw [read] at accepts
      cases accepts
    | some files => simp only [Option.bind_some, read, Option.map_some, Option.getD_some]

/-- A rule that passes its check has a name in which something is not a dot. -/
theorem filled_of_checkRule {rule : KeyPrefixRule} (passed : Config.checkRule rule = .ok ()) :
    Config.isEmptyKeyName rule.name = false := by
  refine Bool.eq_false_iff.mpr fun empty => ?_
  unfold Config.checkRule at passed
  rw [empty] at passed
  by_cases glob : Config.hasWildcard rule.pattern = true
  · rw [glob] at passed
    cases read : Glob.read rule.pattern <;> rw [read] at passed <;> cases passed
  · rw [Bool.eq_false_iff.mpr glob] at passed
    cases passed

/-- A configuration that passes its check has no name for a module that consists of dots alone. -/
theorem filled_of_check {config : Config} (accepted : config.check = .ok ()) :
    ∀ name ∈ config.defaultKeyPrefix :: config.keyPrefixes.map (·.name),
      ∃ c ∈ name.toList, c ≠ '.' := by
  have named {name : String} (filled : Config.isEmptyKeyName name = false) :
      ∃ c ∈ name.toList, c ≠ '.' := by
    simpa [Config.isEmptyKeyName] using filled
  unfold Config.check at accepted
  cases excluded : config.excludeFiles.forM Config.checkExclude with
  | error problem =>
    rw [excluded] at accepted
    cases accepted
  | ok =>
    cases checked : config.keyPrefixes.forM Config.checkRule with
    | error problem =>
      rw [excluded, checked] at accepted
      cases accepted
    | ok =>
      refine List.forall_mem_cons.mpr
        ⟨named (Bool.eq_false_iff.mpr fun empty => ?_), fun name listed => ?_⟩
      · rw [excluded, checked, empty] at accepted
        by_cases unknown : (WritingSystem.ofName? config.targetScript).isNone = true
        · rw [unknown] at accepted
          cases accepted
        · rw [Bool.eq_false_iff.mpr unknown] at accepted
          cases accepted
      · obtain ⟨rule, given, rfl⟩ := List.mem_map.mp listed
        exact named (filled_of_checkRule (ok_of_forM checked rule given))

/-- The states that an assigner comes to from an empty tree, by giving out keys and by assigning
them. -/
inductive Reached (rules : Rules) : Assigner → Prop
  | start : Reached rules (.ofRules rules)
  | asked {a : Assigner} (file phrase : String) :
      Reached rules a → Reached rules (a.keyFor file phrase).2
  | assigned {a : Assigner} (o : Occurrence) : Reached rules a → Reached rules (a.assignOne o).1

/-- Each phrase that has a key has a key path. -/
def Pathed (a : Assigner) : Prop :=
  ∀ phrase key, a.byText.lookup phrase = some key → ResourceTree.isKeyPath (splitDots key) = true

theorem Pathed.step {a : Assigner} (pathed : Pathed a) (o : Occurrence) :
    Pathed (a.assignOne o).1 := by
  rcases a.assignOne_steps o with ⟨counters, conflict, step⟩ | ⟨counters, key, tree, step, put, -⟩
  · rw [step]
    exact pathed
  · rw [step]
    intro phrase other known
    rw [Assigner.record, lookup_putNew] at known
    split at known
    · cases held : a.byText.lookup o.text with
      | some first =>
        rw [held] at known
        exact pathed o.text other (held.trans known)
      | none =>
        rw [held] at known
        exact Option.some.inj known ▸ ResourceTree.isKeyPath_of_insert put
    · exact pathed phrase other known

theorem Reached.pathed {rules : Rules} {a : Assigner} (reached : Reached rules a) :
    a.rules = rules ∧ Pathed a := by
  induction reached with
  | start => exact ⟨rfl, fun _ _ known => by cases known⟩
  | @asked a file phrase _ ih =>
    obtain ⟨counters, after⟩ := a.keyFor_counters file phrase
    rw [after]
    exact ih
  | @assigned a o _ ih => exact ⟨(a.rules_after [o]).trans ih.1, ih.2.step o⟩

theorem overrides_ofConfig {config : Config} (noneGiven : config.keyMappings = []) :
    (Rules.ofConfig config).overrides = [] := by
  rw [Rules.ofConfig, noneGiven, List.map_nil]

theorem settled?_of_none_given {a : Assigner} (noneGiven : a.rules.overrides = [])
    (phrase : String) : a.settled? phrase = a.byText.lookup phrase := by
  rw [Assigner.settled?, noneGiven, List.lookup_nil]

/-- The main statement about the check of names. Where it accepts a configuration, the name for the
module of any file has something but dots in it. If no keys are given by hand, the key of a phrase
is refused as malformed, by every tree, exactly if the phrase has no key yet and that name is hollow
all the same. -/
theorem malformed_iff_hollow (config : Config) (accepted : config.check = .ok ())
    (noneGiven : config.keyMappings = []) {a : Assigner}
    (reached : Reached (Rules.ofConfig config) a) (file phrase : String) :
    let key := (a.keyFor file phrase).1
    (∃ c ∈ (nameFor config file).toList, c ≠ '.') ∧
    ∀ (tree : ResourceTree) (value : String), tree.insert key value = .error (.malformed key) ↔
      a.byText.lookup phrase = none ∧ Hollow (nameFor config file) := by
  intro key
  refine ⟨filled_of_check accepted _ (nameFor_mem config file), fun tree value => ?_⟩
  obtain ⟨rules, pathed⟩ := reached.pathed
  have noOverrides : a.rules.overrides = [] := by rw [rules, overrides_ofConfig noneGiven]
  have settled := settled?_of_none_given noOverrides phrase
  rw [ResourceTree.insert_malformed_iff]
  cases known : a.byText.lookup phrase with
  | some first =>
    -- A phrase has a key only since that key went into a tree.
    have same : key = first := congrArg Prod.fst (a.keyFor_of_settled file (settled.trans known))
    rw [same]
    exact iff_of_false (not_not.mpr (pathed phrase first known)) fun both => by cases both.1
  | none =>
    obtain ⟨name, isName, new, -⟩ := a.keyFor_new file (settled.trans known)
    rw [show key = _ from new, isKeyPath_keyBelow_iff isName, rules, moduleOf_ofConfig,
      nil_mem_splitOnChar_moduleName, not_not]
    exact (and_iff_right rfl).symm

/-- A name of one blank passes the check, and no key below it is a path. -/
theorem blank_name_accepted :
    let config : Config := { defaultKeyPrefix := " ", keyMappings := [] }
    config.check = .ok () ∧
    ((Assigner.ofRules (Rules.ofConfig config)).keyFor "src/a.js" "你好").1 = ".textdzq5" ∧
      ({} : ResourceTree).insert ".textdzq5" "你好" = .error (.malformed ".textdzq5") :=
  ⟨by decide +kernel, by decide +kernel, rfl⟩

/-- With the name that a configuration has from the outset, no tree refuses a key as malformed. -/
theorem malformed_iff_hollow_common :
    let config : Config := { keyMappings := [] }
    config.check = .ok () ∧ nameFor config "src/a.js" = "Common" ∧
      ∀ (tree : ResourceTree) (value : String),
        tree.insert "Common.textdzq5" value ≠ .error (.malformed "Common.textdzq5") := by
  intro config
  have accepted : config.check = .ok () := by decide +kernel
  have named : nameFor config "src/a.js" = "Common" := by decide +kernel
  have key : ((Assigner.ofRules (Rules.ofConfig config)).keyFor "src/a.js" "你好").1 =
      "Common.textdzq5" := by
    decide +kernel
  have all := (malformed_iff_hollow config accepted rfl .start "src/a.js" "你好").2
  have filled : ¬ Hollow "Common" := by
    unfold Hollow
    decide
  refine ⟨accepted, named, fun tree value refused => filled ?_⟩
  rw [← key] at refused
  exact named ▸ ((all tree value).mp refused).2

end Phrasebook.Key
