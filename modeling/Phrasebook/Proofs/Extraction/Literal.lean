import Phrasebook.Extraction.Literal

/-!
The search of a syntax tree for literals: what each node and each role contributes.
-/

namespace Phrasebook.LiteralFinding

open Script

variable {settings : Settings} {comments : List Span}

/-- Only strings and template literals are found. -/
theorem kind_of_ofNode? {scope : Scope} {kind : Kind} {span : Span} {parts : List Tree}
    {finding : LiteralFinding}
    (found : ofNode? settings comments scope kind span parts = some finding) :
    (∃ value, kind = .string value) ∨ ∃ chunks, kind = .template chunks := by
  unfold ofNode? at found
  split at found
  · exact .inl ⟨_, rfl⟩
  · exact .inr ⟨_, rfl⟩
  · cases found

/-- What the finding of a literal says about its place. -/
theorem place_of_ofNode? {scope : Scope} {kind : Kind} {span : Span} {parts : List Tree}
    {finding : LiteralFinding}
    (found : ofNode? settings comments scope kind span parts = some finding) :
    finding.span = span ∧ finding.scope = scope ∧
    finding.skipped = exclusion comments scope span := by
  unfold ofNode? at found
  split at found
  · split at found
    · obtain rfl := Option.some.inj found
      exact ⟨rfl, rfl, rfl⟩
    · cases found
  · simp only at found
    split at found
    · obtain rfl := Option.some.inj found
      exact ⟨rfl, rfl, rfl⟩
    · cases found
  · cases found

theorem ofParts_searched (scope : Scope) (roles : List Role) (tree : Tree) (trees : List Tree) :
    ofParts settings comments (.searched scope :: roles) (tree :: trees) =
      ofTree settings comments scope tree ++ ofParts settings comments roles trees := by
  obtain ⟨kind, span, parts⟩ := tree
  rw [ofParts]

theorem ofParts_nil (trees : List Tree) : ofParts settings comments [] trees = [] := by
  cases trees <;> rfl

theorem ofParts_passedOver (roles : List Role) (tree : Tree) (trees : List Tree) :
    ofParts settings comments (.passedOver :: roles) (tree :: trees) =
      ofParts settings comments roles trees := by
  obtain ⟨kind, span, parts⟩ := tree
  rw [ofParts]
  rfl

theorem ofTree_of_none {scope : Scope} {kind : Kind} {span : Span} {parts : List Tree}
    (missed : ofNode? settings comments scope kind span parts = none) :
    ofTree settings comments scope (.node kind span parts) =
      ofParts settings comments (rolesOf settings scope kind parts) parts := by
  rw [ofTree, missed]

theorem ofParts_loadArgument (scope : Scope) (roles : List Role) (tree : Tree) (trees : List Tree) :
    ofParts settings comments (.loadArgument scope :: roles) (tree :: trees) =
      (match moduleName? tree with
        | some (span, value) => ofSource settings span value
        | none => ofTree settings comments scope tree) ++
            ofParts settings comments roles trees := by
  obtain ⟨kind, span, parts⟩ := tree
  cases named : moduleName? (.node kind span parts) with
  | none => rw [ofParts, named]
  | some place => rw [ofParts, named]

/-- Only a string, also a spread one, names a module. -/
theorem moduleName?_eq_none_iff (tree : Tree) : moduleName? tree = none ↔
    (∀ value, tree.kind ≠ .string value) ∧
      ∀ part, tree.kind = .spread → tree.parts = [part] → ∀ value, part.kind ≠ .string value := by
  obtain ⟨kind, span, parts⟩ := tree
  constructor
  · intro other
    refine ⟨?_, ?_⟩
    · rintro value same
      obtain rfl : kind = .string value := same
      cases other
    · rintro ⟨inner, _, _⟩ same shape value string
      obtain rfl : kind = .spread := same
      obtain rfl : parts = _ := shape
      obtain rfl : inner = .string value := string
      cases other
  · rintro ⟨plain, spread⟩
    unfold moduleName?
    split
    · rename_i value _ _ same
      exact (plain value (Tree.node.inj same).1).elim
    · rename_i value _ _ same
      exact (spread _ (Tree.node.inj same).1 (Tree.node.inj same).2.2 value rfl).elim
    · rfl

end Phrasebook.LiteralFinding
