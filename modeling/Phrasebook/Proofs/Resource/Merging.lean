import Phrasebook.Proofs.Resource.Growth

/-!
Merging of resource trees. A tree that grows keeps a group where it had one and every other node as
it was, so that what an insertion meets on its way, and what refuses it, stays there. A leaf that is
refused once is refused by every later tree for the same reason, and one that went in is there from
then on; so the conflicts of a merge can be read off the tree that it ends with, and a second merge
finds nothing to do.
-/

namespace Phrasebook

namespace ResourceNode

/-- What takes the place of a node: a group for a group, and for any other node the node itself. -/
def Stays : ResourceNode → ResourceNode → Prop
  | group _, new => ∃ members, new = group members
  | old, new => new = old

theorem Stays.refl (node : ResourceNode) : node.Stays node := by
  cases node with
  | group members => exact ⟨members, rfl⟩
  | text | scalar => rfl

theorem Stays.trans {a b c : ResourceNode} (first : a.Stays b)
    (second : b.Stays c) : a.Stays c := by
  cases a with
  | group members =>
    obtain ⟨members, rfl⟩ := first
    exact second
  | text | scalar =>
    obtain rfl : b = _ := first
    exact second

/-- Below the one node, whatever is at a path stays at that path below the other one. -/
def GrowsInto (old new : ResourceNode) : Prop :=
  ∀ path node, old.descend? path = some node →
    ∃ kept, new.descend? path = some kept ∧ node.Stays kept

theorem GrowsInto.refl (node : ResourceNode) : node.GrowsInto node :=
  fun _ found here => ⟨found, here, .refl found⟩

theorem GrowsInto.trans {a b c : ResourceNode} (first : a.GrowsInto b) (second : b.GrowsInto c) :
    a.GrowsInto c := by
  intro path node found
  obtain ⟨kept, there, stays⟩ := first path node found
  obtain ⟨later, again, remains⟩ := second path kept there
  exact ⟨later, again, stays.trans remains⟩

theorem descend?_nil (node : ResourceNode) : node.descend? [] = some node := by
  cases node <;> rfl

theorem GrowsInto.stays {old new : ResourceNode} (grows : old.GrowsInto new) : old.Stays new := by
  obtain ⟨kept, here, stays⟩ := grows [] old (descend?_nil old)
  rw [descend?_nil] at here
  exact Option.some.inj here ▸ stays

theorem descend?_cons_of_lookup {members : List (String × ResourceNode)} {name : String}
    {node : ResourceNode} (held : members.lookup name = some node) (path : List String) :
    (group members).descend? (name :: path) = node.descend? path := by
  rw [descend?, held, Option.bind_some]

variable {members grown : List (String × ResourceNode)} {name key value : String}
  {passed path : List String} {node : ResourceNode} {conflict : KeyConflict}

/-- A member that grows, or is new, makes its group grow. -/
theorem growsInto_put (below : ∀ old, members.lookup name = some old → old.GrowsInto node) :
    (group members).GrowsInto (group (Text.put name node members)) := by
  intro path found here
  cases path with
  | nil =>
    obtain rfl := Option.some.inj ((descend?_nil _).symm.trans here)
    exact ⟨_, rfl, ⟨_, rfl⟩⟩
  | cons first rest =>
    rw [descend?, Option.bind_eq_some_iff] at here
    obtain ⟨old, held, here⟩ := here
    have placed := Text.lookup_put name first node members
    by_cases same : first = name
    · subst first
      rw [if_pos rfl] at placed
      rw [descend?_cons_of_lookup placed]
      exact below old held rest found here
    · rw [if_neg same, held] at placed
      rw [descend?_cons_of_lookup placed]
      exact ⟨found, here, .refl found⟩

/-- An insertion makes the group grow that it goes into. -/
theorem insertBelow_growsInto (done : insertBelow key value passed path members = .ok grown) :
    (group members).GrowsInto (group grown) := by
  have fresh {members : List (String × ResourceNode)} {name : String} (node : ResourceNode)
      (free : members.lookup name = none) :
      (group members).GrowsInto (group (Text.put name node members)) :=
    growsInto_put fun old held => by rw [free] at held; cases held
  fun_induction insertBelow key value passed path members generalizing grown with
  | case1 => cases done
  | case2 passed name members free =>
    cases done
    exact fresh _ free
  | case3 =>
    cases done
    exact .refl _
  | case4 => cases done
  | case5 => cases done
  | case6 passed name next path members free =>
    cases done
    exact fresh _ free
  | case7 passed name next path members inner held ih =>
    cases below : insertBelow key value (name :: passed) (next :: path) inner with
    | error conflict => rw [below] at done; cases done
    | ok deeper =>
      rw [below] at done
      cases done
      refine growsInto_put fun old found => ?_
      obtain rfl : group inner = old := Option.some.inj (held.symm.trans found)
      exact ih below
  | case8 => cases done

/-- A member of a group is still there in what the group grows into, and has grown itself. -/
theorem GrowsInto.member (grows : (group members).GrowsInto (group grown))
    (held : members.lookup name = some node) :
    ∃ new, grown.lookup name = some new ∧ node.GrowsInto new := by
  obtain ⟨new, there, -⟩ := grows [name] node (by rw [descend?_cons_of_lookup held, descend?_nil])
  rw [descend?, Option.bind_eq_some_iff] at there
  obtain ⟨_, found, same⟩ := there
  obtain rfl := Option.some.inj ((descend?_nil _).symm.trans same)
  refine ⟨_, found, fun path inner here => ?_⟩
  obtain ⟨kept, later, stays⟩ := grows (name :: path) inner (by rwa [descend?_cons_of_lookup held])
  rw [descend?_cons_of_lookup found] at later
  exact ⟨kept, later, stays⟩

/-- What refuses an insertion refuses it, for the same reason, however the group grows. -/
theorem insertBelow_refused (refused : insertBelow key value passed path members = .error conflict)
    (grows : (group members).GrowsInto (group grown)) :
    insertBelow key value passed path grown = .error conflict := by
  fun_induction insertBelow key value passed path members generalizing grown with
  | case1 => exact refused
  | case2 => cases refused
  | case3 => cases refused
  | case4 passed name members existing held different =>
    obtain ⟨new, found, below⟩ := grows.member held
    obtain rfl : new = text existing := below.stays
    rw [insertBelow, found]
    dsimp only
    rw [if_neg different]
    exact refused
  | case5 passed name members node noText held =>
    obtain ⟨new, found, below⟩ := grows.member held
    have stays := below.stays
    rw [insertBelow, found]
    cases node with
    | text existing => exact (noText existing rfl).elim
    | scalar other =>
      obtain rfl : new = scalar other := stays
      exact refused
    | group inner =>
      obtain ⟨more, rfl⟩ := stays
      exact refused
  | case6 => cases refused
  | case7 passed name next path members inner held ih =>
    obtain ⟨new, found, below⟩ := grows.member held
    obtain ⟨more, rfl⟩ := below.stays
    cases deeper : insertBelow key value (name :: passed) (next :: path) inner with
    | ok grown => rw [deeper] at refused; cases refused
    | error reason =>
      rw [deeper] at refused
      obtain rfl : reason = conflict := Except.error.inj refused
      rw [insertBelow, found]
      dsimp only
      rw [ih deeper below]
      rfl
  | case8 passed name next path members node noGroup held =>
    obtain ⟨new, found, below⟩ := grows.member held
    have stays := below.stays
    rw [insertBelow, found]
    cases node with
    | text existing =>
      obtain rfl : new = text existing := stays
      exact refused
    | scalar other =>
      obtain rfl : new = scalar other := stays
      exact refused
    | group inner => exact (noGroup inner rfl).elim

end ResourceNode

namespace ResourceTree

variable {tree grown : ResourceTree} {key value : String} {conflict : KeyConflict}

/-- How a tree stands to one that it was before some insertions: every leaf is kept in its order,
every text under its key, and whatever was refused is refused for the same reason. -/
structure Follows (grown tree : ResourceTree) : Prop where
  leaves : tree.leaves.Sublist grown.leaves
  texts : ∀ key text, tree.text? key = some text → grown.text? key = some text
  refusals : ∀ key value conflict, tree.insert key value = .error conflict →
    grown.insert key value = .error conflict

theorem Follows.refl (tree : ResourceTree) : tree.Follows tree :=
  ⟨.refl _, fun _ _ held => held, fun _ _ _ refused => refused⟩

theorem Follows.trans {a b c : ResourceTree} (later : c.Follows b)
    (first : b.Follows a) : c.Follows a :=
  ⟨first.leaves.trans later.leaves, fun key text held =>
    later.texts key text (first.texts key text held),
    fun key value conflict refused =>
      later.refusals key value conflict (first.refusals key value conflict refused)⟩

theorem insert_refused_iff : tree.insert key value = .error conflict ↔
    (isKeyPath (Text.splitDots key) = true ∧
      ResourceNode.insertBelow key value [] (Text.splitDots key) tree.modules = .error conflict) ∨
    (¬ isKeyPath (Text.splitDots key) = true ∧ conflict = .malformed key) := by
  rw [insert]
  split
  · rename_i wellFormed
    cases ResourceNode.insertBelow key value [] (Text.splitDots key) tree.modules <;>
      simp [wellFormed, Except.map]
  · rename_i bad
    simp [bad, eq_comm]

theorem follows_insert (put : tree.insert key value = .ok grown) : grown.Follows tree where
  leaves := leaves_sublist_insert put
  texts _ _ held := text?_insert_of_held put held
  refusals other text conflict refused := by
    have grows := ResourceNode.insertBelow_growsInto (insertBelow_of_insert put)
    rw [insert_refused_iff] at refused ⊢
    exact refused.imp_left fun below => ⟨below.1, ResourceNode.insertBelow_refused below.2 grows⟩

/-- Why a tree refuses a leaf, if it does. -/
def conflict? (tree : ResourceTree) (leaf : String × String) : Option KeyConflict :=
  match tree.insert leaf.1 leaf.2 with
  | .ok _ => none
  | .error conflict => some conflict

/-- A tree in which a leaf changes nothing: it holds the leaf's text under the leaf's key, or
refuses it. -/
def Settled (tree : ResourceTree) (leaf : String × String) : Prop :=
  tree.insert leaf.1 leaf.2 = .ok tree ∨ ∃ conflict, tree.insert leaf.1 leaf.2 = .error conflict

theorem Settled.follows {leaf : String × String} (settled : tree.Settled leaf)
    (follows : grown.Follows tree) : grown.Settled leaf := by
  rcases settled with put | ⟨conflict, refused⟩
  · obtain ⟨wellFormed, held⟩ := insert_eq_self_iff.mp put
    exact .inl (insert_eq_self_iff.mpr ⟨wellFormed, follows.texts _ _ held⟩)
  · exact .inr ⟨conflict, follows.refusals _ _ _ refused⟩

theorem Settled.conflict?_follows {leaf : String × String} (settled : tree.Settled leaf)
    (follows : grown.Follows tree) : grown.conflict? leaf = tree.conflict? leaf := by
  rcases settled with put | ⟨conflict, refused⟩
  · obtain ⟨wellFormed, held⟩ := insert_eq_self_iff.mp put
    have again := insert_eq_self_iff.mpr ⟨wellFormed, follows.texts _ _ held⟩
    rw [conflict?, conflict?, put, again]
  · rw [conflict?, conflict?, refused, follows.refusals _ _ _ refused]

theorem Settled.conflict?_eq_none_iff {leaf : String × String} (settled : tree.Settled leaf) :
    tree.conflict? leaf = none ↔
      isKeyPath (Text.splitDots leaf.1) = true ∧ tree.text? leaf.1 = some leaf.2 := by
  rw [← insert_eq_self_iff, conflict?]
  rcases settled with put | ⟨conflict, refused⟩
  · rw [put]
    exact iff_of_true rfl rfl
  · rw [refused]
    exact iff_of_false nofun nofun

/-- What comes out of an insertion of leaves, one after another. -/
structure Merged (tree : ResourceTree) (leaves : List (String × String))
    (result : ResourceTree × List KeyConflict) : Prop where
  follows : result.1.Follows tree
  settled : ∀ leaf ∈ leaves, result.1.Settled leaf
  conflicts : result.2 = leaves.filterMap result.1.conflict?

theorem insertAll_merged (tree : ResourceTree) (leaves : List (String × String)) :
    tree.Merged leaves (tree.insertAll leaves) := by
  induction leaves generalizing tree with
  | nil => exact ⟨.refl tree, by simp, rfl⟩
  | cons leaf leaves ih =>
    obtain ⟨key, value⟩ := leaf
    rw [insertAll]
    cases put : tree.insert key value with
    | ok grown =>
      obtain ⟨follows, settled, conflicts⟩ := ih grown
      -- The leaf that has just gone in is there, whatever comes behind it.
      have held : grown.Settled (key, value) := .inl <| insert_eq_self_iff.mpr
        ⟨isKeyPath_of_insert put, (text?_insert put key).trans (if_pos rfl)⟩
      have none : (grown.insertAll leaves).1.conflict? (key, value) = none := by
        rw [held.conflict?_follows follows, held.conflict?_eq_none_iff]
        exact ⟨isKeyPath_of_insert put, (text?_insert put key).trans (if_pos rfl)⟩
      refine ⟨follows.trans (follows_insert put), ?_, ?_⟩
      · exact List.forall_mem_cons.mpr ⟨held.follows follows, settled⟩
      · dsimp only
        rw [List.filterMap_cons_none none]
        exact conflicts
    | error conflict =>
      obtain ⟨follows, settled, conflicts⟩ := ih tree
      have refused : tree.Settled (key, value) := .inr ⟨conflict, put⟩
      have some : (tree.insertAll leaves).1.conflict? (key, value) = some conflict := by
        rw [refused.conflict?_follows follows, conflict?, put]
      refine ⟨follows, ?_, ?_⟩
      · exact List.forall_mem_cons.mpr ⟨refused.follows follows, settled⟩
      · dsimp only
        rw [List.filterMap_cons_some some, ← conflicts]

/-- Leaves that change nothing, inserted all of them, change nothing. -/
theorem insertAll_of_settled {leaves : List (String × String)}
    (settled : ∀ leaf ∈ leaves, tree.Settled leaf) :
    tree.insertAll leaves = (tree, leaves.filterMap tree.conflict?) := by
  induction leaves with
  | nil => rfl
  | cons leaf leaves ih =>
    obtain ⟨key, value⟩ := leaf
    obtain ⟨here, rest⟩ := List.forall_mem_cons.mp settled
    rw [insertAll]
    rcases here with put | ⟨conflict, refused⟩
    · have none : tree.conflict? (key, value) = none := by rw [conflict?, put]
      rw [put, List.filterMap_cons_none none]
      exact ih rest
    · have some : tree.conflict? (key, value) = some conflict := by rw [conflict?, refused]
      rw [refused, List.filterMap_cons_some some]
      dsimp only
      rw [ih rest]

/-- The main statement about merging. No leaf of the tree is lost and no text of it changed. Each
leaf of the other tree, in their order, adds one conflict or none: none exactly if its key is a path
and holds its text in the end. Merging the same tree again changes nothing and gives the same
conflicts. -/
theorem mergeMissing_settles (tree other : ResourceTree) :
    let merged := tree.mergeMissing other
    tree.leaves.Sublist merged.1.leaves ∧
    (∀ key text, tree.text? key = some text → merged.1.text? key = some text) ∧
    merged.2 = other.leaves.filterMap merged.1.conflict? ∧
    (∀ leaf ∈ other.leaves, merged.1.conflict? leaf = none ↔
      isKeyPath (Text.splitDots leaf.1) = true ∧ merged.1.text? leaf.1 = some leaf.2) ∧
    merged.1.mergeMissing other = merged := by
  intro merged
  obtain ⟨follows, settled, conflicts⟩ : tree.Merged other.leaves merged :=
    insertAll_merged tree other.leaves
  refine ⟨follows.leaves, follows.texts, conflicts, fun leaf listed => ?_, ?_⟩
  · exact (settled leaf listed).conflict?_eq_none_iff
  · rw [mergeMissing, insertAll_of_settled settled, ← conflicts]

/-- A group that the merge itself makes refuses a later leaf of the same merge, and again the next
time. -/
example :
    let tree : ResourceTree := ⟨[("A", .group [("x", .text "1")])]⟩
    let other : ResourceTree :=
      ⟨[("A", .group [("b.c", .text "2"), ("b", .text "3"), ("x", .text "4")])]⟩
    (tree.mergeMissing other).2 = [.isGroup "A.b", .occupied "A.x" "1"] := by decide

end ResourceTree

end Phrasebook
