import Phrasebook.Proofs.Text.Split
import Phrasebook.Proofs.Text.Table
import Phrasebook.Resource.Basic
import Phrasebook.Resource.Leaves

/-!
Insertion into a resource tree. A text that goes in is found under its key afterwards, and the text
of every other path stays what it was. An insertion that succeeds never takes the place of a text:
it adds one leaf somewhere between the others, or, where the tree holds the text already, gives back
the very same tree. Done in place, groups are made on the way down, before it is known whether the
text can be put where the way ends; a conflict only shows where the tree had a member already, so a
failed insertion leaves no group behind.
-/

namespace Phrasebook

namespace ResourceNode

/-- The text at a path below a group. -/
def textBelow? (members : List (String × ResourceNode)) (path : List String) : Option String :=
  ((group members).descend? path).bind text?

@[simp] theorem textBelow?_nil (members : List (String × ResourceNode)) :
    textBelow? members [] = none := rfl

theorem textBelow?_cons (members : List (String × ResourceNode)) (name : String)
    (path : List String) : textBelow? members (name :: path) =
      (members.lookup name).bind fun node => (node.descend? path).bind text? := by
  cases held : members.lookup name <;> simp [textBelow?, descend?, held]

theorem chain_text (value : String) (path other : List String) :
    ((chain value path).descend? other).bind text? = if other = path then some value else none := by
  induction path generalizing other with
  | nil => cases other <;> simp [chain, descend?, text?]
  | cons name path ih =>
    cases other with
    | nil => simp [chain, descend?, text?]
    | cons first rest =>
      by_cases h : first = name
      · subst first
        simpa [chain, descend?] using ih rest
      · have different : (first == name) = false := by simpa using h
        simp [chain, descend?, List.lookup_cons, different, h]

/-- What an insertion below a group does to the text of any path. -/
theorem insertBelow_text {key value : String} {passed path : List String}
    {members grown : List (String × ResourceNode)}
    (done : insertBelow key value passed path members = .ok grown) (other : List String) :
    textBelow? grown other = if other = path then some value else textBelow? members other := by
  fun_induction insertBelow key value passed path members generalizing grown other with
  | case1 => cases done
  | case2 passed name members free =>
    cases done
    cases other with
    | nil => simp
    | cons first rest =>
      rw [textBelow?_cons, textBelow?_cons, Text.lookup_put]
      by_cases h : first = name
      · subst first
        cases rest <;> simp [descend?, text?, free]
      · simp [h]
  | case3 passed name members held =>
    cases done
    by_cases h : other = [name]
    · subst other
      simp [textBelow?_cons, held, descend?, text?]
    · simp [h]
  | case4 => cases done
  | case5 => cases done
  | case6 passed name next path members free =>
    cases done
    cases other with
    | nil => simp
    | cons first rest =>
      rw [textBelow?_cons, textBelow?_cons, Text.lookup_put]
      by_cases h : first = name
      · subst first
        simp [free, chain_text]
      · simp [h]
  | case7 passed name next path members inner held ih =>
    cases below : insertBelow key value (name :: passed) (next :: path) inner with
    | error conflict => rw [below] at done; cases done
    | ok deeper =>
      rw [below] at done
      cases done
      cases other with
      | nil => simp
      | cons first rest =>
        rw [textBelow?_cons, textBelow?_cons, Text.lookup_put]
        by_cases h : first = name
        · subst first
          simpa [held, textBelow?] using ih below rest
        · simp [h]
  | case8 => cases done

/-- A text that an insertion finds in its place is the one that it puts there. -/
theorem insertBelow_agrees {key value existing : String} {passed path : List String}
    {members grown : List (String × ResourceNode)}
    (done : insertBelow key value passed path members = .ok grown)
    (held : textBelow? members path = some existing) : existing = value := by
  fun_induction insertBelow key value passed path members generalizing grown with
  | case1 => cases done
  | case2 passed name members free => simp [textBelow?_cons, free] at held
  | case3 passed name members found =>
    simpa [textBelow?_cons, found, descend?, text?] using held.symm
  | case4 => cases done
  | case5 => cases done
  | case6 passed name next path members free => simp [textBelow?_cons, free] at held
  | case7 passed name next path members inner found ih =>
    cases below : insertBelow key value (name :: passed) (next :: path) inner with
    | error conflict => rw [below] at done; cases done
    | ok deeper =>
      rw [textBelow?_cons, found] at held
      exact ih below held
  | case8 => cases done

end ResourceNode

namespace ResourceTree

theorem insertBelow_of_insert {tree grown : ResourceTree} {key value : String}
    (done : tree.insert key value = .ok grown) :
    ResourceNode.insertBelow key value [] (Text.splitDots key) tree.modules =
      .ok grown.modules := by
  simp only [insert] at done
  split at done
  · cases below : ResourceNode.insertBelow key value [] (Text.splitDots key) tree.modules with
    | error conflict => rw [below] at done; cases done
    | ok modules => rw [below] at done; cases done; rfl
  · cases done

/-- Reading behind an insertion. -/
theorem text?_insert {tree grown : ResourceTree} {key value : String}
    (done : tree.insert key value = .ok grown) (other : String) :
    grown.text? other =
      if Text.splitDots other = Text.splitDots key then some value else tree.text? other :=
  ResourceNode.insertBelow_text (insertBelow_of_insert done) (Text.splitDots other)

/-- A tree only grows: what it holds stays under its key. -/
theorem text?_insert_of_held {tree grown : ResourceTree} {key value other existing : String}
    (done : tree.insert key value = .ok grown) (held : tree.text? other = some existing) :
    grown.text? other = some existing := by
  rw [text?_insert done]
  split
  · rename_i same
    rw [text?, get?, same] at held
    rw [ResourceNode.insertBelow_agrees (insertBelow_of_insert done) held]
  · exact held

end ResourceTree

/-- The key of a path below a group, where a function gives the keys of the group's own members. -/
def keyAlong (place : String → String) : List String → String
  | [] => place ""
  | name :: path => path.foldl keyBelow (place name)

theorem toList_foldl_keyBelow (first : String) (path : List String) :
    (path.foldl keyBelow first).toList =
      ['.'].intercalate (first.toList :: path.map String.toList) := by
  induction path generalizing first with
  | nil => simp [List.intercalate]
  | cons name path ih =>
    rw [List.foldl_cons, ih]
    cases path <;> simp [keyBelow, List.intercalate]

/-- A key is the key of its own path. -/
theorem keyAlong_splitDots (key : String) : keyAlong id (Text.splitDots key) = key := by
  have joined := Text.join_splitOnChar '.' key.toList
  apply String.toList_inj.mp
  unfold Text.splitDots
  cases pieces : Text.splitOnChar '.' key.toList with
  | nil =>
    rw [pieces] at joined
    simp [keyAlong, ← joined]
  | cons piece rest =>
    rw [pieces] at joined
    rw [List.map_cons, keyAlong, id, toList_foldl_keyBelow, ← joined]
    simp [Function.comp_def]

namespace ResourceNode

variable {members grown : List (String × ResourceNode)} {key value : String}
  {passed path : List String}

/-- The leaves of the members of a group, where a function gives the keys of these. -/
def leavesAt (place : String → String) (members : List (String × ResourceNode)) :
    List (String × String) :=
  members.flatMap fun member => member.2.leaves (place member.1)

theorem memberLeaves_eq (first : String) (members : List (String × ResourceNode)) :
    memberLeaves first members = leavesAt (keyBelow first) members := by
  induction members with
  | nil => rfl
  | cons member members ih => rw [memberLeaves, ih]; rfl

theorem leavesAt_parts (place : String → String) (front back : List (String × ResourceNode))
    (name : String) (node : ResourceNode) :
    leavesAt place (front ++ (name, node) :: back) =
      leavesAt place front ++ (node.leaves (place name) ++ leavesAt place back) := by
  simp [leavesAt]

theorem leaves_chain (first value : String) (path : List String) :
    (chain value path).leaves first = [(path.foldl keyBelow first, value)] := by
  induction path generalizing first with
  | nil => rfl
  | cons name path ih => simp [chain, leaves, memberLeaves, ih]

/-- Lists of leaves of which the second one has one more. -/
def OneMore (leaf : String × String) (leaves more : List (String × String)) : Prop :=
  ∃ front back, leaves = front ++ back ∧ more = front ++ leaf :: back

theorem OneMore.within {leaf : String × String} {leaves more : List (String × String)}
    (front back : List (String × String)) (step : OneMore leaf leaves more) :
    OneMore leaf (front ++ (leaves ++ back)) (front ++ (more ++ back)) := by
  obtain ⟨before, behind, rfl, rfl⟩ := step
  exact ⟨front ++ before, behind ++ back, by simp, by simp⟩

/-- A new member goes behind the others. -/
theorem oneMore_put {name : String} (node : ResourceNode) {leaf : String × String}
    (place : String → String) (free : members.lookup name = none)
    (single : node.leaves (place name) = [leaf]) :
    OneMore leaf (leavesAt place members) (leavesAt place (Text.put name node members)) := by
  refine ⟨leavesAt place members, [], by simp, ?_⟩
  rw [Text.put_fresh _ (Text.not_mem_keys_of_lookup free), leavesAt_parts, single]
  rfl

/-- All that an insertion below a group can do to it: nothing, if the text is there, or one more
leaf. -/
theorem insertBelow_cases (done : insertBelow key value passed path members = .ok grown)
    (place : String → String) :
    (grown = members ∧ textBelow? members path = some value) ∨
    OneMore (keyAlong place path, value) (leavesAt place members) (leavesAt place grown) := by
  fun_induction insertBelow key value passed path members generalizing grown place with
  | case1 => cases done
  | case2 passed name members free =>
    cases done
    exact .inr (oneMore_put _ place free rfl)
  | case3 passed name members held =>
    cases done
    exact .inl ⟨rfl, by simp [textBelow?_cons, held, descend?, text?]⟩
  | case4 => cases done
  | case5 => cases done
  | case6 passed name next path members free =>
    cases done
    exact .inr (oneMore_put _ place free (leaves_chain _ _ _))
  | case7 passed name next path members inner held ih =>
    cases below : insertBelow key value (name :: passed) (next :: path) inner with
    | error conflict => rw [below] at done; cases done
    | ok deeper =>
      rw [below] at done
      cases done
      rcases ih below (keyBelow (place name)) with ⟨same, found⟩ | step
      · subst deeper
        refine .inl ⟨Text.put_of_lookup held, ?_⟩
        rw [textBelow?_cons, held]
        exact found
      · obtain ⟨front, back, parts, placed⟩ := Text.put_at_lookup held
        have within := step.within (leavesAt place front) (leavesAt place back)
        rw [← memberLeaves_eq, ← memberLeaves_eq] at within
        refine .inr ?_
        dsimp only
        rw [placed, parts, leavesAt_parts, leavesAt_parts]
        exact within
  | case8 => cases done

/-- A text that is there already may be put again and changes nothing. -/
theorem insertBelow_of_held (held : textBelow? members path = some value) :
    insertBelow key value passed path members = .ok members := by
  fun_induction insertBelow key value passed path members with
  | case1 => simp at held
  | case2 passed name members free => simp [textBelow?_cons, free] at held
  | case3 => rfl
  | case4 passed name members existing found different =>
    exact absurd (by simpa [textBelow?_cons, found, descend?, text?] using held) different
  | case5 passed name members node noText found =>
    cases node with
    | text existing => exact (noText existing rfl).elim
    | scalar _ => simp [textBelow?_cons, found, descend?, text?] at held
    | group _ => simp [textBelow?_cons, found, descend?, text?] at held
  | case6 passed name next path members free => simp [textBelow?_cons, free] at held
  | case7 passed name next path members inner found ih =>
    rw [textBelow?_cons, found] at held
    rw [ih held]
    exact congrArg Except.ok (Text.put_of_lookup found)
  | case8 passed name next path members node noGroup found =>
    cases node with
    | text _ => simp [textBelow?_cons, found, descend?] at held
    | scalar _ => simp [textBelow?_cons, found, descend?] at held
    | group inner => exact (noGroup inner rfl).elim

/-- The text of a path is a leaf. -/
theorem mem_leavesAt_of_textBelow? (place : String → String)
    (held : textBelow? members path = some value) :
    (keyAlong place path, value) ∈ leavesAt place members := by
  induction path generalizing members place with
  | nil => simp at held
  | cons name path ih =>
    rw [textBelow?_cons] at held
    obtain ⟨node, found, below⟩ := Option.bind_eq_some_iff.mp held
    obtain ⟨front, back, rfl, -⟩ := Text.put_at_lookup found
    rw [leavesAt_parts]
    refine List.mem_append_right _ (List.mem_append_left _ ?_)
    cases path with
    | nil =>
      cases node with
      | text existing =>
        obtain rfl : existing = value := by simpa [descend?, text?] using below
        exact List.mem_singleton.mpr rfl
      | scalar _ => simp [descend?, text?] at below
      | group _ => simp [descend?, text?] at below
    | cons next path =>
      cases node with
      | text _ => simp [descend?] at below
      | scalar _ => simp [descend?] at below
      | group inner =>
        have deeper := @ih inner (keyBelow (place name)) below
        rw [leaves, memberLeaves_eq]
        exact deeper

end ResourceNode

namespace ResourceTree

variable {tree grown : ResourceTree} {key value : String}

/-- All that an insertion can do to a tree. -/
theorem insert_cases (done : tree.insert key value = .ok grown) :
    (grown = tree ∧ tree.text? key = some value) ∨
    ResourceNode.OneMore (key, value) tree.leaves grown.leaves := by
  have step := ResourceNode.insertBelow_cases (insertBelow_of_insert done) id
  rw [keyAlong_splitDots] at step
  exact step.imp_left fun ⟨same, held⟩ => ⟨congrArg mk same, held⟩

theorem isKeyPath_of_insert (done : tree.insert key value = .ok grown) :
    isKeyPath (Text.splitDots key) = true := by
  rw [insert] at done
  by_contra bad
  rw [if_neg bad] at done
  cases done

/-- An insertion succeeds without a change exactly if the tree holds the text under a well-formed
key. -/
theorem insert_eq_self_iff : tree.insert key value = .ok tree ↔
    isKeyPath (Text.splitDots key) = true ∧ tree.text? key = some value := by
  constructor
  · intro done
    exact ⟨isKeyPath_of_insert done, (text?_insert done key).trans (if_pos rfl)⟩
  · rintro ⟨wellFormed, held⟩
    rw [insert, if_pos wellFormed, ResourceNode.insertBelow_of_held held]
    rfl

theorem mem_leaves_of_text? (held : tree.text? key = some value) : (key, value) ∈ tree.leaves := by
  have found := ResourceNode.mem_leavesAt_of_textBelow? id held
  rw [keyAlong_splitDots] at found
  exact found

/-- No leaf is lost, and the leaves that were there keep their order. -/
theorem leaves_sublist_insert (done : tree.insert key value = .ok grown) :
    tree.leaves.Sublist grown.leaves := by
  rcases insert_cases done with ⟨rfl, -⟩ | ⟨front, back, old, new⟩
  · exact List.Sublist.refl _
  · rw [old, new]
    exact (List.Sublist.refl front).append (List.sublist_cons_self _ back)

end ResourceTree

namespace ResourceNode

/-- Walks down a path and makes the groups that are missing, then puts the text. What has been made
stays where the walk ends in a conflict. The names passed come in reverse order. -/
def fillBelow (key value : String) :
    List String → List String → List (String × ResourceNode) →
    Option KeyConflict × List (String × ResourceNode)
  | _, [], members => (some (.malformed key), members)
  | _, [name], members =>
    match members.lookup name with
    | none => (none, Text.put name (text value) members)
    | some (text existing) =>
      if existing = value then (none, members) else (some (.occupied key existing), members)
    | some _ => (some (.isGroup key), members)
  | passed, name :: next :: path, members =>
    match (members.lookup name).getD (group []) with
    | group inner =>
      let (conflict, inner) := fillBelow key value (name :: passed) (next :: path) inner
      (conflict, Text.put name (group inner) members)
    | _ => (some (.throughLeaf key (".".intercalate (name :: passed).reverse)), members)

variable {key value : String} {passed path : List String}
  {members grown : List (String × ResourceNode)}

/-- Below a group that has just been made nothing is in the way. -/
theorem fillBelow_empty (key value : String) (passed : List String) (name : String)
    (path : List String) :
    fillBelow key value passed (name :: path) [] = (none, [(name, chain value path)]) := by
  induction path generalizing passed name with
  | nil => rfl
  | cons next path ih =>
    rw [fillBelow, List.lookup_nil, Option.getD_none]
    dsimp only
    rw [ih]
    rfl

/-- Filling in place is inserting, where a conflict gives the members back as they were. -/
theorem fillBelow_eq (key value : String) (passed path : List String)
    (members : List (String × ResourceNode)) : fillBelow key value passed path members =
      match insertBelow key value passed path members with
      | .ok grown => (none, grown)
      | .error conflict => (some conflict, members) := by
  fun_induction insertBelow key value passed path members with
  | case1 => rfl
  | case2 passed name members free => simp only [fillBelow, free]
  | case3 passed name members held => simp [fillBelow, held]
  | case4 passed name members existing held different => simp [fillBelow, held, different]
  | case5 passed name members node noText held =>
    cases node with
    | text existing => exact (noText existing rfl).elim
    | scalar _ => simp only [fillBelow, held]
    | group _ => simp only [fillBelow, held]
  | case6 passed name next path members free =>
    rw [fillBelow, free, Option.getD_none]
    dsimp only
    rw [fillBelow_empty]
    rfl
  | case7 passed name next path members inner held ih =>
    rw [fillBelow, held, Option.getD_some]
    dsimp only
    rw [ih]
    cases insertBelow key value (name :: passed) (next :: path) inner with
    | ok deeper => rfl
    | error conflict => exact congrArg (some conflict, ·) (Text.put_of_lookup held)
  | case8 passed name next path members node noGroup held =>
    cases node with
    | text _ => simp only [fillBelow, held, Option.getD_some]
    | scalar _ => simp only [fillBelow, held, Option.getD_some]
    | group inner => exact (noGroup inner rfl).elim

/-- An insertion that finds something in its place changes nothing. -/
theorem insertBelow_of_present {node : ResourceNode}
    (done : insertBelow key value passed path members = .ok grown)
    (present : (group members).descend? path = some node) : grown = members := by
  fun_induction insertBelow key value passed path members generalizing grown with
  | case1 => cases done
  | case2 passed name members free => simp [descend?, free] at present
  | case3 => exact (Except.ok.inj done).symm
  | case4 => cases done
  | case5 => cases done
  | case6 passed name next path members free => simp [descend?, free] at present
  | case7 passed name next path members inner held ih =>
    cases below : insertBelow key value (name :: passed) (next :: path) inner with
    | error conflict => rw [below] at done; cases done
    | ok deeper =>
      rw [below] at done
      rw [descend?, held] at present
      obtain rfl := ih below present
      rw [← Except.ok.inj done]
      exact Text.put_of_lookup held
  | case8 => cases done

end ResourceNode

namespace ResourceTree

/-- Inserts in place: the conflict, if there is one, and the tree as it then is. -/
def insertInPlace (tree : ResourceTree) (key value : String) : Option KeyConflict × ResourceTree :=
  let path := Text.splitDots key
  if isKeyPath path then
    let (conflict, modules) := ResourceNode.fillBelow key value [] path tree.modules
    (conflict, ⟨modules⟩)
  else (some (.malformed key), tree)

theorem insertInPlace_eq (tree : ResourceTree) (key value : String) :
    tree.insertInPlace key value =
      match tree.insert key value with
      | .ok grown => (none, grown)
      | .error conflict => (some conflict, tree) := by
  unfold insertInPlace insert
  dsimp only
  split
  · rw [ResourceNode.fillBelow_eq]
    cases ResourceNode.insertBelow key value [] (Text.splitDots key) tree.modules <;> rfl
  · rfl

theorem splitDots_injective {key other : String}
    (same : Text.splitDots other = Text.splitDots key) : other = key := by
  rw [← keyAlong_splitDots other, same, keyAlong_splitDots]

/-- What an insertion comes to: a conflict and the very same tree, or a tree that holds the text
under the key, every other text under its own, and all leaves in their order with at most the new
one between them. -/
def Inserted (tree : ResourceTree) (key value : String) : Option KeyConflict × ResourceTree → Prop
  | (some conflict, left) => tree.insert key value = .error conflict ∧ left = tree
  | (none, grown) => tree.insert key value = .ok grown ∧ grown.text? key = some value ∧
      (∀ other, other ≠ key → grown.text? other = tree.text? other) ∧
      (∀ node, tree.get? key = some node → grown = tree) ∧
      (tree.get? key = none → ResourceNode.OneMore (key, value) tree.leaves grown.leaves)

/-- Inserting in place either fails and leaves the tree as it was, with no group that was made on
the way, or puts the text under its key and changes nothing else. -/
theorem insertInPlace_inserted (tree : ResourceTree) (key value : String) :
    tree.Inserted key value (tree.insertInPlace key value) := by
  rw [insertInPlace_eq]
  cases done : tree.insert key value with
  | error conflict => exact ⟨done, rfl⟩
  | ok grown =>
    refine ⟨done, (text?_insert done key).trans (if_pos rfl), fun other different =>
      ?_, fun node present => ?_, fun absent => ?_⟩
    · rw [text?_insert done, if_neg fun same => different (splitDots_injective same)]
    · exact congrArg mk (ResourceNode.insertBelow_of_present (insertBelow_of_insert done) present)
    · refine (insert_cases done).resolve_left ?_
      rintro ⟨-, held⟩
      rw [text?, absent] at held
      cases held

/-- The way down ends at the text, before any group is made. -/
example : ((ResourceTree.mk [("User", .group [("name", .text "a")])]).insertInPlace
  "User.name.first.x" "b").1 =
    some (.throughLeaf "User.name.first.x" "User.name") := by decide

end ResourceTree

end Phrasebook
