import Mathlib.Data.List.Forall2
import Phrasebook.Proofs.Extraction.Literal

/-!
The search for literals, said by the nodes above a literal: which literals are reached, and why a
reached one is left alone. The search itself carries a scope down the tree; here each literal comes
with the steps that lead to it, and the rules are conditions on these.
-/

namespace Phrasebook.LiteralFinding

open Script

/-- A node above a place, and which of its parts leads there. -/
structure Step where
  kind : Kind
  parts : List Tree
  index : Nat

/-- A node of a script with the steps to it, the innermost first. -/
structure Place where
  path : List Step
  tree : Tree

/-- What stands at a part: a node, or the nodes in a list of arguments or between the chunks of a
template literal. -/
inductive Layout
  | whole (path : List Step)
  | inside (path : List Step)

/-- The steps at which a part begins to be searched. -/
def Layout.path : Layout → List Step
  | whole path | inside path => path

/-- How places stand at the parts of a node. The literal behind a tag and the arguments of a call
that loads a module are no places of their own. -/
def layouts (path : List Step) (kind : Kind) (parts : List Tree) : List Layout :=
  let step (index : Nat) : List Step := ⟨kind, parts, index⟩ :: path
  match kind, parts with
  | .taggedTemplate, [_, _, _] => [.whole (step 0), .inside (step 1), .whole (step 2)]
  | .call .plain, [callee, _, _] =>
    if isModuleLoad callee then [.whole (step 0), .inside (step 1), .whole (step 2)]
    else [.whole (step 0), .whole (step 1), .whole (step 2)]
  | _, parts => (List.range parts.length).map fun index => .whole (step index)

mutual

/-- The places of a tree, a node before its parts and these in their order. -/
def placesOf (path : List Step) : Tree → List Place
  | .node kind span parts =>
    ⟨path, .node kind span parts⟩ :: placesIn (layouts path kind parts) parts

def placesIn : List Layout → List Tree → List Place
  | .whole path :: layouts, .node kind span parts :: trees =>
    placesOf path (.node kind span parts) ++ placesIn layouts trees
  | .inside path :: layouts, .node _ _ parts :: trees =>
    placesIn (parts.map fun _ => .whole path) parts ++ placesIn layouts trees
  | _, _ => []

end

/-- The places of a script in the order of traversal. -/
def places (script : Document) : List Place :=
  placesIn (script.items.map fun _ => .whole []) script.items

namespace Step

variable (settings : Settings)

/-- The arguments of a call that loads a module. -/
def loads : Step → Bool
  | ⟨.call .plain, [callee, _, _], 1⟩ => isModuleLoad callee
  | _ => false

/-- The source of an import or of a re-export. -/
def names : Step → Bool
  | ⟨.importDeclaration _, _, 1⟩ | ⟨.exportNamed _, _, 1⟩ | ⟨.exportAll _, _, 0⟩ => true
  | _ => false

/-- What the search leaves out: import and export declarations, enumerations, the key of a property,
the callee of a call that loads a module, and what is in a literal that is found itself. -/
def excluded : Step → Bool
  | ⟨.importDeclaration _, _, _⟩ | ⟨.exportNamed _, _, _⟩ | ⟨.exportAll _, _, _⟩ => true
  | ⟨.enumDeclaration _ _ _, _, _⟩ => true
  | ⟨.keyValue, [_, _], 0⟩ => true
  | ⟨.call .plain, [callee, _, _], 0⟩ => isModuleLoad callee
  | ⟨.template chunks, _, _⟩ => (chunks.map chunkText).any settings.writing.occursIn
  | ⟨.string _, _, _⟩ => true
  | _ => false

/-- The type arguments of a call that loads a module or of a tag. -/
def typed : Step → Bool
  | ⟨.call .plain, [callee, _, _], 2⟩ => isModuleLoad callee
  | ⟨.taggedTemplate, [_, _, _], 2⟩ => true
  | _ => false

/-- A call on a member of a diagnostic object. -/
def diagnoses : Step → Bool
  | ⟨.call .plain, [callee, _, _], _⟩ => isDiagnosticCallee settings callee
  | _ => false

/-- The variable or the value of a property that is named like a route configuration. -/
def routes : Step → Bool
  | ⟨.declarator _, [target, _], _⟩ => isRouteVariable settings target
  | ⟨.keyValue, [key, _], 1⟩ => settings.isRouteName (propertyName key)
  | _ => false

def lists : Step → Bool
  | ⟨.array, _, _⟩ => true
  | _ => false

/-- The value of the property for metadata, unless its name is that of a route configuration. -/
def describes : Step → Bool
  | ⟨.keyValue, [key, _], 1⟩ =>
    propertyName key == "meta" && !settings.isRouteName (propertyName key)
  | _ => false

end Step

variable (settings : Settings)

/-- Whether the search goes along the steps. -/
def Open (path : List Step) : Prop :=
  ∀ step ∈ path, step.excluded settings = false ∧ step.typed = false

instance (path : List Step) : Decidable (Open settings path) :=
  inferInstanceAs (Decidable (∀ step ∈ path, _))

/-- Whether a string at the end of the steps is an argument that names a module, maybe a spread one.
-/
def namesLoaded : List Step → Bool
  | ⟨.spread, [_], _⟩ :: step :: _ => step.loads
  | step :: _ => step.loads
  | [] => false

/-- Whether the place is the name of a module. -/
def Place.isSpecifier (place : Place) : Bool :=
  match place.tree.kind with
  | .moduleSource _ => true
  | .string _ => namesLoaded place.path
  | _ => false

/-- Whether the place is a literal that is reached, or the source of a declaration, and holds text
of the writing system. -/
def Place.isReached (place : Place) : Bool :=
  match place.tree.kind with
  | .moduleSource value =>
    place.path.head?.any Step.names && Open settings place.path.tail &&
      value.any settings.writing.occursIn
  | .string value => Open settings place.path && value.any settings.writing.occursIn
  | .template chunks =>
    Open settings place.path && (chunks.map chunkText).any settings.writing.occursIn
  | _ => false

/-- A step above the place is a diagnostic call. -/
def InDiagnosticCall (path : List Step) : Prop := ∃ step ∈ path, step.diagnoses settings = true

/-- Metadata in an array in a route configuration. -/
def InMetadata (path : List Step) : Prop :=
  ∃ inner array outer, [inner, array, outer].Sublist path ∧ inner.describes settings = true ∧
  array.lists = true ∧ outer.routes settings = true

/-- The texts of a literal: of a string or a source, or of the chunks of a template literal. -/
def chunksOf : Kind → List String
  | .template chunks => chunks.map chunkText
  | .string value | .moduleSource value => value.toList
  | _ => []

def siteOf : Kind → Site
  | .template _ => .templateLiteral
  | _ => .literal

/-- The expressions between the chunks of a template literal. -/
def expressionsOf : Tree → List Tree
  | .node (.template _) _ parts => parts
  | _ => []

/-- Why the literal at a place is left alone, or that it is not. -/
structure Reasoned (comments : List Span) (place : Place) (reason : Option SkipReason) : Prop where
  specifier : reason = some .moduleSpecifier ↔ place.isSpecifier = true
  comment : reason = some .comment ↔
    place.isSpecifier = false ∧ ∃ comment ∈ comments, comment.covers place.tree.span = true
  diagnostic : reason = some .diagnosticCall ↔ place.isSpecifier = false ∧
    (∀ comment ∈ comments, comment.covers place.tree.span = false) ∧
    InDiagnosticCall settings place.path
  metadata : reason = some .routeMetadata ↔ place.isSpecifier = false ∧
    (∀ comment ∈ comments, comment.covers place.tree.span = false) ∧
    ¬ InDiagnosticCall settings place.path ∧ InMetadata settings place.path
  candidate : reason = none ↔ place.isSpecifier = false ∧
    (∀ comment ∈ comments, comment.covers place.tree.span = false) ∧
    ¬ InDiagnosticCall settings place.path ∧ ¬ InMetadata settings place.path

/-- What a finding says of the literal at a place. -/
structure Settles (comments : List Span) (place : Place) (finding : LiteralFinding) : Prop where
  span : finding.span = place.tree.span
  site : finding.site = siteOf place.tree.kind
  chunks : finding.chunks = chunksOf place.tree.kind
  expressions : finding.expressions = expressionsOf place.tree
  reason : Reasoned settings comments place finding.skipped

/-- The scope that the search has at the end of the steps. -/
structure ScopeIs (path : List Step) (scope : Scope) : Prop where
  diagnostic : scope.diagnostic = true ↔ InDiagnosticCall settings path
  routes : scope.routes = true ↔ ∃ outer ∈ path, outer.routes settings = true
  routeList : scope.routeList = true ↔ ∃ array outer, [array, outer].Sublist path ∧
    array.lists = true ∧ outer.routes settings = true
  metadata : scope.metadata = true ↔ InMetadata settings path

/-- The scope below one more step. -/
def Step.scopeBelow (scope : Scope) (step : Step) : Scope where
  diagnostic := scope.diagnostic || step.diagnoses settings
  routes := scope.routes || step.routes settings
  routeList := scope.routeList || (step.lists && scope.routes)
  metadata := scope.metadata || (step.describes settings && scope.routeList)

variable {settings} {comments : List Span} {path : List Step} {scope : Scope} {step : Step}

theorem scopeIs_start : ScopeIs settings [] {} := by
  constructor <;> simp [InDiagnosticCall, InMetadata]

theorem ScopeIs.below (here : ScopeIs settings path scope) (step : Step) :
    ScopeIs settings (step :: path) (step.scopeBelow settings scope) := by
  constructor
  · simp only [Step.scopeBelow, InDiagnosticCall, Bool.or_eq_true, here.diagnostic,
      List.exists_mem_cons_iff]
    exact or_comm
  · simp only [Step.scopeBelow, Bool.or_eq_true, here.routes, List.exists_mem_cons_iff]
    exact or_comm
  · simp only [Step.scopeBelow, Bool.or_eq_true, Bool.and_eq_true, here.routeList, here.routes,
      List.sublist_cons_iff]
    constructor
    · rintro (⟨array, outer, inside, lists, routes⟩ | ⟨lists, outer, member, routes⟩)
      · exact ⟨array, outer, .inl inside, lists, routes⟩
      · exact ⟨step, outer, .inr ⟨_, rfl, List.singleton_sublist.mpr member⟩, lists, routes⟩
    · rintro ⟨array, outer, inside | ⟨rest, same, inside⟩, lists, routes⟩
      · exact .inl ⟨array, outer, inside, lists, routes⟩
      · obtain ⟨rfl, rfl⟩ := List.cons.inj same
        exact .inr ⟨lists, outer, List.singleton_sublist.mp inside, routes⟩
  · simp only [Step.scopeBelow, Bool.or_eq_true, Bool.and_eq_true, here.routeList,
      here.metadata, InMetadata]
    constructor
    · rintro (⟨inner, array, outer, inside, tests⟩ | ⟨describes, array, outer, inside, tests⟩)
      · exact ⟨inner, array, outer, inside.cons _, tests⟩
      · exact ⟨step, array, outer, inside.cons_cons _, describes, tests⟩
    · rintro ⟨inner, array, outer, inside, describes, tests⟩
      rcases List.sublist_cons_iff.mp inside with inside | ⟨rest, same, inside⟩
      · exact .inl ⟨inner, array, outer, inside, describes, tests⟩
      · obtain ⟨rfl, rfl⟩ := List.cons.inj same
        exact .inr ⟨describes, array, outer, inside, tests⟩

theorem ScopeIs.routes_of_routeList (here : ScopeIs settings path scope)
    (listed : scope.routeList = true) : scope.routes = true := by
  obtain ⟨array, outer, inside, -, routes⟩ := here.routeList.mp listed
  exact here.routes.mpr ⟨outer, inside.subset (by simp), routes⟩

/-- The scope of a property's value is that below the step to it. -/
theorem ScopeIs.scopeBelow_property (here : ScopeIs settings path scope) (key value : Tree) :
    Step.scopeBelow settings scope ⟨.keyValue, [key, value], 1⟩ =
      propertyScope settings scope key := by
  have both : (scope.routes && scope.routeList) = scope.routeList := by
    cases listed : scope.routeList
    · exact Bool.and_false _
    · rw [here.routes_of_routeList listed]
      rfl
  simp only [Step.scopeBelow, Step.diagnoses, Step.routes, Step.lists,
    Step.describes, Bool.or_false, Bool.false_and, propertyScope, Bool.and_assoc, both]
  split
  · rename_i routed
    simp [routed]
  · rename_i other
    rw [eq_false_of_ne_true other]
    cases described : propertyName key == "meta" && scope.routeList <;> simp [described]

variable (settings) in
theorem Step.scopeBelow_array (scope : Scope) (parts : List Tree) (index : Nat) :
    Step.scopeBelow settings scope ⟨.array, parts, index⟩ =
      if scope.routes then { scope with routeList := true } else scope := by
  obtain ⟨diagnostic, routes, routeList, metadata⟩ := scope
  cases routes <;> simp [scopeBelow, diagnoses, Step.routes, lists, describes]

/-- A step that is nothing special leaves the scope as it is. -/
theorem Step.scopeBelow_of_plain (diagnoses : step.diagnoses settings = false)
    (routes : step.routes settings = false) (lists : step.lists = false)
    (describes : step.describes settings = false) : step.scopeBelow settings scope = scope := by
  simp [Step.scopeBelow, diagnoses, routes, lists, describes]

/-- Whether the last step closes a part that is no source, or the way there is closed. -/
def Shut (settings : Settings) (path : List Step) : Prop := ∃ step outer, path = step :: outer ∧
  (((step.excluded settings = true ∨ step.typed = true) ∧ step.names = false) ∨
    ¬ Open settings outer)

theorem Shut.not_open (shut : Shut settings path) : ¬ Open settings path := by
  obtain ⟨step, outer, rfl, ⟨closed, -⟩ | closed⟩ := shut
  · intro free
    obtain ⟨included, untyped⟩ := free step List.mem_cons_self
    rcases closed with closed | closed
    · rw [included] at closed
      cases closed
    · rw [untyped] at closed
      cases closed
  · exact fun free => closed fun step member => free step (List.mem_cons_of_mem _ member)

theorem Shut.below (shut : Shut settings path) (step : Step) : Shut settings (step :: path) :=
  ⟨step, path, rfl, .inr shut.not_open⟩

theorem Shut.not_isReached (shut : Shut settings path) (tree : Tree) :
    Place.isReached settings ⟨path, tree⟩ = false := by
  have closed := shut.not_open
  obtain ⟨step, outer, rfl, last⟩ := shut
  have source : (step.names && decide (Open settings outer)) = false := by
    rcases last with ⟨-, unnamed⟩ | way
    · rw [unnamed, Bool.false_and]
    · rw [decide_eq_false way, Bool.and_false]
  unfold Place.isReached
  simp only
  split
  · rw [List.head?_cons, Option.any_some, List.tail_cons, source, Bool.false_and]
  · rw [decide_eq_false closed, Bool.false_and]
  · rw [decide_eq_false closed, Bool.false_and]
  · rfl

theorem path_of_mem_layouts {kind : Kind} {parts : List Tree} :
    ∀ layout ∈ layouts path kind parts, ∃ step, layout.path = step :: path := by
  intro layout member
  unfold layouts at member
  simp only at member
  split at member
  · simp only [List.mem_cons, List.not_mem_nil, or_false] at member
    rcases member with rfl | rfl | rfl <;> exact ⟨_, rfl⟩
  · split at member <;>
    · simp only [List.mem_cons, List.not_mem_nil, or_false] at member
      rcases member with rfl | rfl | rfl <;> exact ⟨_, rfl⟩
  · obtain ⟨index, -, rfl⟩ := List.mem_map.mp member
    exact ⟨_, rfl⟩

variable (settings) in
mutual

theorem filter_placesOf_shut {path : List Step} (shut : Shut settings path) :
    ∀ tree, (placesOf path tree).filter (Place.isReached settings) = []
  | .node kind span parts => by
    rw [placesOf, List.filter_cons_of_neg (by rw [shut.not_isReached]; exact Bool.false_ne_true)]
    refine filter_placesIn_shut (fun layout member => ?_) parts
    obtain ⟨step, same⟩ := path_of_mem_layouts layout member
    rw [same]
    exact shut.below step

theorem filter_placesIn_shut : ∀ {layouts}, (∀ layout ∈ layouts, Shut settings layout.path) →
    ∀ parts, (placesIn layouts parts).filter (Place.isReached settings) = []
  | [], _, parts => by cases parts <;> rfl
  | .whole path :: layouts, shut, [] => rfl
  | .inside path :: layouts, shut, [] => rfl
  | .whole path :: layouts, shut, .node kind span parts :: trees => by
    have here : Shut settings path := shut _ List.mem_cons_self
    rw [placesIn, List.filter_append, filter_placesOf_shut here,
      filter_placesIn_shut fun layout member => shut layout (List.mem_cons_of_mem _ member)]
    rfl
  | .inside path :: layouts, shut, .node kind span parts :: trees => by
    have within : ∀ layout ∈ parts.map fun _ => Layout.whole path, Shut settings layout.path := by
      intro layout member
      obtain ⟨part, -, rfl⟩ := List.mem_map.mp member
      have here : Shut settings path := shut (.inside path) List.mem_cons_self
      exact here
    rw [placesIn, List.filter_append, filter_placesIn_shut within,
      filter_placesIn_shut fun layout member => shut layout (List.mem_cons_of_mem _ member)]
    rfl

end

/-- A string at the place is no argument that names a module, and neither is a spread one in it. -/
def Unnamed (path : List Step) (tree : Tree) : Prop :=
  (namesLoaded path = true → ∀ value, tree.kind ≠ .string value) ∧
    (path.head?.any Step.loads = true → moduleName? tree = none)

/-- How the search of a part fits to the place where it stands. -/
inductive Fits (settings : Settings) : Layout → Role → Tree → Prop
  | searched {path : List Step} {scope : Scope} {tree : Tree} : Open settings path →
      ScopeIs settings path scope → Unnamed path tree →
      Fits settings (.whole path) (.searched scope) tree
  | tagged {path : List Step} {scope : Scope} {tree : Tree} : Open settings path →
      ScopeIs settings path scope → (∀ tree, Unnamed path tree) →
      Fits settings (.inside path) (.tagged scope) tree
  | arguments {path : List Step} {scope : Scope} {tree : Tree} : Open settings path →
      ScopeIs settings path scope → path.head?.any Step.loads = true →
      Fits settings (.inside path) (.loadArguments scope) tree
  | argument {path : List Step} {scope : Scope} {tree : Tree} : Open settings path →
      ScopeIs settings path scope → path.head?.any Step.loads = true →
      Fits settings (.whole path) (.loadArgument scope) tree
  | source {path : List Step} {tree : Tree} :
      ¬ Open settings path → path.head?.any Step.names = true →
      Open settings path.tail → Fits settings (.whole path) .source tree
  | passedOver {path : List Step} {tree : Tree} : Shut settings path →
      Fits settings (.whole path) .passedOver tree

/-- All parts that have a role fit, and the others are not reached. -/
inductive AllFit (settings : Settings) : List Layout → List Role → List Tree → Prop
  | nil {layouts : List Layout} {trees : List Tree} :
      (∀ layout ∈ layouts, Shut settings layout.path) → AllFit settings layouts [] trees
  | cons {layout : Layout} {role : Role} {tree : Tree} {layouts : List Layout} {roles : List Role}
      {trees : List Tree} : Fits settings layout role tree → AllFit settings layouts roles trees →
      AllFit settings (layout :: layouts) (role :: roles) (tree :: trees)
  | spare {roles : List Role} : AllFit settings [] roles []

variable (comments) in
/-- The reasons to leave a literal alone, said by the steps to it. -/
theorem exclusion_iff (inside : ScopeIs settings path scope) (span : Span) :
    (exclusion comments scope span = some .comment ↔
      ∃ comment ∈ comments, comment.covers span = true) ∧
    (exclusion comments scope span = some .diagnosticCall ↔
      (∀ comment ∈ comments, comment.covers span = false) ∧ InDiagnosticCall settings path) ∧
    (exclusion comments scope span = some .routeMetadata ↔
      (∀ comment ∈ comments, comment.covers span = false) ∧ ¬ InDiagnosticCall settings path ∧
        InMetadata settings path) ∧
    (exclusion comments scope span = none ↔ (∀ comment ∈ comments, comment.covers span = false) ∧
      ¬ InDiagnosticCall settings path ∧ ¬ InMetadata settings path) ∧
    exclusion comments scope span ≠ some .moduleSpecifier := by
  have covered : (∀ comment ∈ comments, comment.covers span = false) ↔
      ¬ ∃ comment ∈ comments, comment.covers span = true := by simp
  rw [covered, ← inside.diagnostic, ← inside.metadata, ← List.any_eq_true (l := comments)]
  unfold exclusion
  split_ifs <;> simp_all

theorem literal_of_ofNode? {kind : Kind} {span : Span} {parts : List Tree}
    {finding : LiteralFinding}
    (found : ofNode? settings comments scope kind span parts = some finding) :
    finding.site = siteOf kind ∧ finding.chunks = chunksOf kind ∧
      finding.expressions = expressionsOf (.node kind span parts) := by
  unfold ofNode? at found
  split at found
  · split at found
    · obtain rfl := Option.some.inj found
      exact ⟨rfl, rfl, rfl⟩
    · cases found
  · simp only at found
    split at found
    · obtain rfl := Option.some.inj found
      exact ⟨rfl, rfl, rfl⟩
    · cases found
  · cases found

theorem settles_of_ofNode? {kind : Kind} {span : Span} {parts : List Tree}
    {finding : LiteralFinding} (inside : ScopeIs settings path scope)
    (unnamed : namesLoaded path = true → ∀ value, kind ≠ .string value)
    (found : ofNode? settings comments scope kind span parts = some finding) :
    Settles settings comments ⟨path, .node kind span parts⟩ finding := by
  obtain ⟨comment, diagnostic, metadata, candidate, specifier⟩ :=
    exclusion_iff comments inside span
  have plain : Place.isSpecifier ⟨path, .node kind span parts⟩ = false := by
    rcases kind_of_ofNode? found with ⟨value, rfl⟩ | ⟨chunks, rfl⟩
    · exact eq_false_of_ne_true fun named => unnamed named value rfl
    · rfl
  obtain ⟨same, -, skipped⟩ := place_of_ofNode? found
  obtain ⟨site, chunks, expressions⟩ := literal_of_ofNode? found
  refine ⟨same, site, chunks, expressions, ?_⟩
  rw [skipped]
  constructor
  · rw [plain]
    exact iff_of_false specifier Bool.false_ne_true
  · rw [plain, comment]
    exact (and_iff_right rfl).symm
  · rw [plain, diagnostic]
    exact (and_iff_right rfl).symm
  · rw [plain, metadata]
    exact (and_iff_right rfl).symm
  · rw [plain, candidate]
    exact (and_iff_right rfl).symm

variable (settings) in
theorem Step.excluded_of_names (names : step.names = true) : step.excluded settings = true := by
  unfold Step.names at names
  split at names
  · rfl
  · rfl
  · rfl
  · cases names

variable (comments scope) in
/-- Where the search goes, it finds the literals that are reached. -/
theorem isReached_eq (kind : Kind) (span : Span) (parts : List Tree) (free : Open settings path) :
    Place.isReached settings ⟨path, .node kind span parts⟩ =
      (ofNode? settings comments scope kind span parts).isSome := by
  have unnamed : path.head?.any Step.names = false := by
    cases path with
    | nil => rfl
    | cons step path =>
      refine eq_false_of_ne_true fun names => ?_
      have excluded := Step.excluded_of_names settings names
      rw [(free step List.mem_cons_self).1] at excluded
      cases excluded
  unfold Place.isReached ofNode?
  simp only [Tree.kind, unnamed, decide_eq_true free, Bool.true_and, Bool.false_and]
  cases kind with
  | string value =>
    cases value with
    | none => rfl
    | some value => cases occurs : settings.writing.occursIn value <;> simp [occurs]
  | template chunks =>
    simp only
    split <;> simp_all
  | _ => rfl

theorem Open.below (free : Open settings path) (excluded : step.excluded settings = false)
    (typed : step.typed = false) : Open settings (step :: path) :=
  List.forall_mem_cons.mpr ⟨⟨excluded, typed⟩, free⟩

theorem unnamed_below (tree : Tree) (loads : step.loads = false) (spread : step.kind ≠ .spread) :
    Unnamed (step :: path) tree := by
  have head : namesLoaded (step :: path) = false := by
    obtain ⟨kind, parts, index⟩ := step
    unfold namesLoaded
    split
    · rename_i same
      exact (spread (Step.mk.inj (List.cons.inj same).1).1).elim
    · rename_i same
      rw [← (List.cons.inj same).1]
      exact loads
    · rfl
  refine ⟨fun named => ?_, fun named => ?_⟩
  · rw [head] at named
    cases named
  · rw [List.head?_cons, Option.any_some, loads] at named
    cases named

/-- Parts that are all searched alike. -/
theorem allFit_everywhere {parts : List Tree} (f : Nat → List Step) (scope : Scope)
    (fits : ∀ index tree, tree ∈ parts → Fits settings (.whole (f index)) (.searched scope) tree) :
    AllFit settings ((List.range parts.length).map fun index => .whole (f index))
      (everywhere scope parts) parts := by
  induction parts generalizing f with
  | nil => exact .nil (by simp)
  | cons tree parts ih =>
    rw [List.length_cons, List.range_succ_eq_map, List.map_cons, List.map_map,
      everywhere, List.map_cons]
    refine .cons (fits 0 tree List.mem_cons_self) ?_
    exact ih (fun index => f (index + 1)) fun index tree member =>
      fits (index + 1) tree (List.mem_cons_of_mem _ member)

/-- Parts at the end of the same steps. -/
theorem allFit_inside {role : Role} {parts : List Tree}
    (fits : ∀ tree ∈ parts, Fits settings (.whole path) role tree) :
    AllFit settings (parts.map fun _ => .whole path) (parts.map fun _ => role) parts := by
  induction parts with
  | nil => exact .nil (by simp)
  | cons tree parts ih =>
    obtain ⟨first, others⟩ := List.forall_mem_cons.mp fits
    exact .cons first (ih others)

theorem layouts_eq {kind : Kind} {parts : List Tree}
    (tagged : ∀ a b c, kind = .taggedTemplate → parts = [a, b, c] → False)
    (plainCall : ∀ a b c, kind = .call .plain → parts = [a, b, c] → False) (path : List Step) :
    layouts path kind parts =
      (List.range parts.length).map fun index => .whole (⟨kind, parts, index⟩ :: path) := by
  unfold layouts
  simp only

/-- Parts none of which is searched. -/
theorem allFit_nil_of_shut {kind : Kind} {parts : List Tree}
    (shut : ∀ index, Shut settings (⟨kind, parts, index⟩ :: path)) :
    ∀ layout ∈ (List.range parts.length).map fun index =>
      Layout.whole (⟨kind, parts, index⟩ :: path), Shut settings layout.path := by
  intro layout member
  obtain ⟨index, -, rfl⟩ := List.mem_map.mp member
  exact shut index

theorem isDiagnosticCallee_of_load {callee : Tree} (load : isModuleLoad callee = true) :
    isDiagnosticCallee settings callee = false := by
  unfold isModuleLoad at load
  split at load
  · rfl
  · rfl
  · cases load

variable (settings) in
theorem Step.call_of_not_load {callee : Tree} (arguments types : Tree) (index : Nat)
    (plain : isModuleLoad callee = false) :
    Step.excluded settings ⟨.call .plain, [callee, arguments, types], index⟩ = false ∧
      Step.typed ⟨.call .plain, [callee, arguments, types], index⟩ = false ∧
      Step.loads ⟨.call .plain, [callee, arguments, types], index⟩ = false := by
  refine ⟨?_, ?_, ?_⟩
  · unfold Step.excluded
    split <;> simp_all
  · unfold Step.typed
    split <;> simp_all
  · unfold Step.loads
    split <;> simp_all

/-- A node that is nothing special: its parts are all searched alike. -/
structure Plain (kind : Kind) (parts : List Tree) : Prop where
  string : ∀ value, kind = .string value → False
  tagged : ∀ tag literal types, kind = .taggedTemplate → parts = [tag, literal, types] → False
  call : ∀ callee arguments types, kind = .call .plain → parts = [callee, arguments, types] → False
  importing : ∀ typeOnly, kind = .importDeclaration typeOnly → False
  exporting : ∀ typeOnly, kind = .exportNamed typeOnly → False
  exportingAll : ∀ typeOnly, kind = .exportAll typeOnly → False
  enum : ∀ name constant declared, kind = .enumDeclaration name constant declared → False
  declarator : ∀ definite target value, kind = .declarator definite →
    parts = [target, value] → False
  property : ∀ key value, kind = .keyValue → parts = [key, value] → False
  array : kind = .array → False

namespace Plain

variable {kind : Kind} {parts : List Tree} (plain : Plain kind parts) (index : Nat)

include plain

theorem typed : Step.typed ⟨kind, parts, index⟩ = false := by
  unfold Step.typed
  split
  · rename_i same
    obtain ⟨rfl, rfl, -⟩ := Step.mk.inj same
    exact (plain.call _ _ _ rfl rfl).elim
  · rename_i same
    obtain ⟨rfl, rfl, -⟩ := Step.mk.inj same
    exact (plain.tagged _ _ _ rfl rfl).elim
  · rfl

theorem loads : Step.loads ⟨kind, parts, index⟩ = false := by
  unfold Step.loads
  split
  · rename_i same
    obtain ⟨rfl, rfl, -⟩ := Step.mk.inj same
    exact (plain.call _ _ _ rfl rfl).elim
  · rfl

theorem scopeBelow : Step.scopeBelow settings scope ⟨kind, parts, index⟩ = scope := by
  refine Step.scopeBelow_of_plain ?_ ?_ ?_ ?_
  · unfold Step.diagnoses
    split
    · rename_i same
      obtain ⟨rfl, rfl, -⟩ := Step.mk.inj same
      exact (plain.call _ _ _ rfl rfl).elim
    · rfl
  · unfold Step.routes
    split
    · rename_i same
      obtain ⟨rfl, rfl, -⟩ := Step.mk.inj same
      exact (plain.declarator _ _ _ rfl rfl).elim
    · rename_i same
      obtain ⟨rfl, rfl, -⟩ := Step.mk.inj same
      exact (plain.property _ _ rfl rfl).elim
    · rfl
  · unfold Step.lists
    split
    · rename_i same
      exact (plain.array (Step.mk.inj same).1).elim
    · rfl
  · unfold Step.describes
    split
    · rename_i same
      obtain ⟨rfl, rfl, -⟩ := Step.mk.inj same
      exact (plain.property _ _ rfl rfl).elim
    · rfl

theorem excluded {span : Span} (missed : ofNode? settings comments scope kind span parts = none) :
    Step.excluded settings ⟨kind, parts, index⟩ = false := by
  unfold Step.excluded
  split
  case h_1 same => exact (plain.importing _ (Step.mk.inj same).1).elim
  case h_2 same => exact (plain.exporting _ (Step.mk.inj same).1).elim
  case h_3 same => exact (plain.exportingAll _ (Step.mk.inj same).1).elim
  case h_4 same => exact (plain.enum _ _ _ (Step.mk.inj same).1).elim
  case h_5 same =>
    obtain ⟨rfl, rfl, -⟩ := Step.mk.inj same
    exact (plain.property _ _ rfl rfl).elim
  case h_6 same =>
    obtain ⟨rfl, rfl, -⟩ := Step.mk.inj same
    exact (plain.call _ _ _ rfl rfl).elim
  case h_7 chunks _ _ same =>
    obtain rfl := (Step.mk.inj same).1
    refine eq_false_of_ne_true fun occurs => ?_
    rw [ofNode?] at missed
    simp only [occurs, if_true] at missed
    cases missed
  case h_8 same => exact (plain.string _ (Step.mk.inj same).1).elim
  case h_9 => rfl

end Plain

theorem Shut.of_closed (closed : step.excluded settings = true ∨ step.typed = true)
    (unnamed : step.names = false) : Shut settings (step :: path) :=
  ⟨step, path, rfl, .inl ⟨closed, unnamed⟩⟩

theorem Open.not_excluded (free : Open settings (step :: path)) : step.excluded settings = false :=
  (free step List.mem_cons_self).1

/-- A source and what follows it, behind parts that are passed over. -/
theorem allFit_source {kind : Kind} {parts : List Tree} (free : Open settings path)
    (tagged : kind ≠ .taggedTemplate) (call : kind ≠ .call .plain)
    (excluded : ∀ index, Step.excluded settings ⟨kind, parts, index⟩ = true)
    (source : Step.names ⟨kind, parts, 1⟩ = true)
    (others : ∀ index, index ≠ 1 → Step.names ⟨kind, parts, index⟩ = false) :
    AllFit settings (layouts path kind parts) [.passedOver, .source] parts := by
  have shut {index : Nat} (other : index ≠ 1) : Shut settings (⟨kind, parts, index⟩ :: path) :=
    .of_closed (.inl (excluded index)) (others index other)
  rw [layouts_eq (fun _ _ _ same => (tagged same).elim) fun _ _ _ same => (call same).elim]
  match parts with
  | [] => exact .spare
  | [specifiers] => exact .cons (.passedOver (shut Nat.zero_ne_one)) .spare
  | specifiers :: named :: attributes =>
    have closed :
        ¬ Open settings (⟨kind, specifiers :: named :: attributes, 1⟩ :: path) := fun way =>
      Bool.false_ne_true (way.not_excluded.symm.trans (excluded 1))
    rw [List.length_cons, List.length_cons, List.range_succ_eq_map,
      List.range_succ_eq_map, List.map_cons, List.map_cons, List.map_cons,
        List.map_map, List.map_map]
    refine .cons (.passedOver (shut Nat.zero_ne_one)) (.cons (.source closed source free) (.nil ?_))
    intro layout member
    obtain ⟨index, -, rfl⟩ := List.mem_map.mp member
    exact shut (by simp)

/-- The source of a declaration that exports everything comes first. -/
theorem allFit_exportAll {typeOnly : Bool} {parts : List Tree} (free : Open settings path) :
    AllFit settings (layouts path (.exportAll typeOnly) parts) [.source] parts := by
  rw [layouts_eq (by simp) (by simp)]
  cases parts with
  | nil => exact .spare
  | cons source others =>
    rw [List.length_cons, List.range_succ_eq_map, List.map_cons, List.map_map]
    have closed : ¬ Open settings (⟨.exportAll typeOnly, source :: others, 0⟩ :: path) := fun way =>
      nomatch way.not_excluded
    refine .cons (.source closed rfl free) (.nil fun layout member => ?_)
    obtain ⟨index, -, rfl⟩ := List.mem_map.mp member
    exact .of_closed (.inl rfl) rfl

/-- A part that is searched with the scope below the step to it. -/
theorem fits_below (step : Step) (free : Open settings path)
    (inside : ScopeIs settings path scope) (tree : Tree) (excluded : step.excluded settings = false)
    (typed : step.typed = false) (loads : step.loads = false) (spread : step.kind ≠ .spread) :
    Fits settings (.whole (step :: path)) (.searched (step.scopeBelow settings scope)) tree :=
  .searched (free.below excluded typed) (inside.below step) (unnamed_below tree loads spread)

/-- The tag is searched, then the parts of the literal, but not the type arguments. -/
theorem allFit_taggedTemplate (free : Open settings path) (inside : ScopeIs settings path scope)
    (tag literal types : Tree) :
    AllFit settings (layouts path .taggedTemplate [tag, literal, types])
      [.searched scope, .tagged scope] [tag, literal, types] := by
  have plain (index : Nat) :
      Step.scopeBelow settings scope ⟨.taggedTemplate, [tag, literal, types], index⟩ = scope :=
    Step.scopeBelow_of_plain rfl rfl rfl rfl
  have first := fits_below ⟨.taggedTemplate, [tag, literal, types], 0⟩ free inside tag rfl rfl rfl
    (by simp)
  have second := inside.below ⟨.taggedTemplate, [tag, literal, types], 1⟩
  rw [plain] at first second
  refine .cons first (.cons (.tagged (free.below rfl rfl) second fun tree => ?_)
    (.nil fun layout member => ?_))
  · exact unnamed_below tree rfl (by simp)
  · rw [List.mem_singleton.mp member]
    exact .of_closed (.inr rfl) rfl

/-- Of a call that loads a module only the arguments are looked at. -/
theorem allFit_load (free : Open settings path)
    (inside : ScopeIs settings path scope) {callee : Tree} (arguments types : Tree)
    (load : isModuleLoad callee = true) :
    AllFit settings (layouts path (.call .plain) [callee, arguments, types])
      [.passedOver, .loadArguments scope] [callee, arguments, types] := by
  have diagnoses (index : Nat) :
      Step.diagnoses settings ⟨.call .plain, [callee, arguments, types], index⟩ = false :=
    isDiagnosticCallee_of_load load
  have second := inside.below ⟨.call .plain, [callee, arguments, types], 1⟩
  rw [Step.scopeBelow_of_plain (diagnoses 1) rfl rfl rfl] at second
  have stands : layouts path (.call .plain) [callee, arguments, types] =
      [.whole (⟨.call .plain, [callee, arguments, types], 0⟩ :: path),
        .inside (⟨.call .plain, [callee, arguments, types], 1⟩ :: path),
        .whole (⟨.call .plain, [callee, arguments, types], 2⟩ :: path)] := if_pos load
  rw [stands]
  refine .cons (.passedOver (.of_closed (.inl load) rfl))
    (.cons (.arguments (free.below rfl rfl) second load) (.nil fun layout member => ?_))
  rw [List.mem_singleton.mp member]
  exact .of_closed (.inr load) rfl

/-- All parts of another call are searched, in a diagnostic call as such. -/
theorem allFit_call (free : Open settings path)
    (inside : ScopeIs settings path scope) {callee : Tree} (arguments types : Tree)
    (plain : isModuleLoad callee = false) :
    AllFit settings (layouts path (.call .plain) [callee, arguments, types])
      (everywhere (if isDiagnosticCallee settings callee
        then { scope with diagnostic := true } else scope) [callee, arguments, types])
    [callee, arguments, types] := by
  have stands : layouts path (.call .plain) [callee, arguments, types] =
      (List.range 3).map fun index =>
      .whole (⟨.call .plain, [callee, arguments, types], index⟩ :: path) :=
    if_neg (ne_true_of_eq_false plain)
  have below (index : Nat) :
      Step.scopeBelow settings scope ⟨.call .plain, [callee, arguments, types], index⟩ =
        if isDiagnosticCallee settings callee
        then { scope with diagnostic := true } else scope := by
    simp only [Step.scopeBelow, Step.diagnoses, Step.routes, Step.lists,
      Step.describes, Bool.or_false, Bool.false_and]
    split <;> simp_all
  rw [stands]
  refine @allFit_everywhere settings [callee, arguments, types] _ _ fun index tree _ => ?_
  rw [← below index]
  obtain ⟨excluded, typed, loads⟩ := Step.call_of_not_load settings arguments types index plain
  exact fits_below _ free inside tree excluded typed loads (by simp)

theorem allFit_declarator (free : Open settings path)
    (inside : ScopeIs settings path scope) (definite : Bool) (target value : Tree) :
    AllFit settings (layouts path (.declarator definite) [target, value])
      (everywhere (if isRouteVariable settings target then { scope with routes := true } else scope)
        [target, value]) [target, value] := by
  have below (index : Nat) :
      Step.scopeBelow settings scope ⟨.declarator definite, [target, value], index⟩ =
        if isRouteVariable settings target then { scope with routes := true } else scope := by
    simp only [Step.scopeBelow, Step.diagnoses, Step.routes, Step.lists,
      Step.describes, Bool.or_false, Bool.false_and]
    split <;> simp_all
  rw [layouts_eq (by simp) (by simp)]
  refine allFit_everywhere _ _ fun index tree _ => ?_
  rw [← below index]
  exact fits_below _ free inside tree rfl rfl rfl (by simp)

/-- The key of a property is passed over. -/
theorem allFit_property (free : Open settings path) (inside : ScopeIs settings path scope)
    (key value : Tree) :
    AllFit settings (layouts path .keyValue [key, value])
      [.passedOver, .searched (propertyScope settings scope key)] [key, value] := by
  rw [layouts_eq (by simp) (by simp), ← inside.scopeBelow_property key value]
  have second := fits_below ⟨.keyValue, [key, value], 1⟩ free inside value rfl rfl rfl (by simp)
  exact .cons (.passedOver (.of_closed (.inl rfl) rfl)) (.cons second (.nil (by simp)))

theorem allFit_array (free : Open settings path) (inside : ScopeIs settings path scope)
    (parts : List Tree) : AllFit settings (layouts path .array parts)
      (everywhere (if scope.routes then { scope with routeList := true } else scope) parts) parts :=
  by
  rw [layouts_eq (by simp) (by simp)]
  refine allFit_everywhere _ _ fun index tree _ => ?_
  rw [← Step.scopeBelow_array settings scope parts index]
  exact fits_below _ free inside tree rfl rfl rfl (by simp)

/-- What is spread at a place that names no module names none itself. -/
theorem Unnamed.spread {span : Span} {parts : List Tree} {tree : Tree} {index : Nat}
    (unnamed : Unnamed path (.node .spread span parts)) (member : tree ∈ parts) :
    Unnamed (⟨.spread, parts, index⟩ :: path) tree := by
  refine ⟨fun named value same => ?_, fun named => ?_⟩
  · unfold namesLoaded at named
    split at named
    · rename_i part _ step outer shape
      obtain ⟨same_step, rfl⟩ := List.cons.inj shape
      obtain rfl : parts = [part] := (Step.mk.inj same_step).2.1
      obtain rfl := List.mem_singleton.mp member
      obtain ⟨inner, _, _⟩ := tree
      obtain rfl : inner = .string value := same
      cases unnamed.2 named
    · rename_i shape
      rw [← (List.cons.inj shape).1] at named
      cases named
    · cases named
  · cases named

/-- All parts of a node that is nothing special are searched alike. -/
theorem Plain.allFit {kind : Kind} {span : Span} {parts : List Tree} (plain : Plain kind parts)
    (free : Open settings path) (inside : ScopeIs settings path scope)
    (unnamed : Unnamed path (.node kind span parts))
    (missed : ofNode? settings comments scope kind span parts = none) :
    AllFit settings (layouts path kind parts) (everywhere scope parts) parts := by
  rw [layouts_eq plain.tagged plain.call]
  refine allFit_everywhere _ _ fun index tree member => ?_
  have there := inside.below ⟨kind, parts, index⟩
  rw [plain.scopeBelow] at there
  refine .searched (free.below (plain.excluded index missed) (plain.typed index)) there ?_
  by_cases spread : kind = .spread
  · subst spread
    exact unnamed.spread member
  · exact unnamed_below tree (plain.loads index) spread

/-- The roles of the parts of a node fit to where they stand. -/
theorem allFit_rolesOf {kind : Kind} {span : Span} {parts : List Tree} (free : Open settings path)
    (inside : ScopeIs settings path scope) (unnamed : Unnamed path (.node kind span parts))
    (missed : ofNode? settings comments scope kind span parts = none) :
    AllFit settings (layouts path kind parts) (rolesOf settings scope kind parts) parts := by
  fun_cases rolesOf settings scope kind parts with
  | case1 | case8 =>
    rw [layouts_eq (by simp) (by simp)]
    exact .nil (allFit_nil_of_shut fun index => .of_closed (.inl rfl) rfl)
  | case2 tag literal types => exact allFit_taggedTemplate free inside tag literal types
  | case3 callee arguments types load => exact allFit_load free inside arguments types load
  | case4 callee arguments types load =>
    exact allFit_call free inside arguments types (eq_false_of_ne_true load)
  | case5 | case6 =>
    refine allFit_source free (by simp) (by simp) (fun _ => rfl) rfl fun index other => ?_
    unfold Step.names
    split <;> simp_all
  | case7 => exact allFit_exportAll free
  | case9 definite target value => exact allFit_declarator free inside definite target value
  | case10 key value => exact allFit_property free inside key value
  | case11 => exact allFit_array free inside parts
  | case12 kind parts string tagged call importing exporting exportingAll enum
      declarator property array =>
    have plain : Plain kind parts :=
      ⟨string, tagged, call, importing, exporting, exportingAll, enum, declarator, property, array⟩
    exact plain.allFit free inside unnamed missed

theorem settles_source {kind : Kind} {span : Span} {parts : List Tree} {value : Option String}
    (named : Place.isSpecifier ⟨path, .node kind span parts⟩ = true)
    (literal : siteOf kind = .literal ∧ chunksOf kind = value.toList ∧
      expressionsOf (.node kind span parts) = [])
    (reached : Place.isReached settings ⟨path, .node kind span parts⟩ =
      value.any settings.writing.occursIn) :
    List.Forall₂ (Settles settings comments)
      ([⟨path, .node kind span parts⟩].filter (Place.isReached settings))
        (ofSource settings span value) := by
  obtain ⟨site, chunks, expressions⟩ := literal
  cases value with
  | none =>
    rw [List.filter_cons_of_neg (by rw [reached]; exact Bool.false_ne_true)]
    exact .nil
  | some value =>
    rw [Option.any_some] at reached
    rw [ofSource]
    split
    · rename_i occurs
      rw [List.filter_cons_of_pos (by rw [reached, occurs])]
      refine .cons ⟨rfl, site.symm, chunks.symm, expressions.symm, ?_⟩ .nil
      constructor <;> simp [named]
    · rename_i occurs
      rw [List.filter_cons_of_neg (by rw [reached]; exact occurs)]
      exact .nil

/-- A string that names a module to load. -/
theorem settles_named (comments : List Span) (free : Open settings path)
    (named : namesLoaded path = true) (value : Option String) (span : Span) (parts : List Tree) :
    List.Forall₂ (Settles settings comments)
      ((placesOf path (.node (.string value) span parts)).filter (Place.isReached settings))
      (ofSource settings span value) := by
  have reached : Place.isReached settings ⟨path, .node (.string value) span parts⟩ =
      value.any settings.writing.occursIn := by
    simp [Place.isReached, Tree.kind, free]
  have below : (placesIn (layouts path (.string value) parts) parts).filter
      (Place.isReached settings) = [] := by
    rw [layouts_eq (by simp) (by simp)]
    exact filter_placesIn_shut settings (allFit_nil_of_shut fun index =>
      ⟨_, _, rfl, .inl ⟨.inl rfl, rfl⟩⟩) parts
  rw [placesOf, ← List.singleton_append, List.filter_append, below, List.append_nil]
  exact settles_source named ⟨rfl, rfl, rfl⟩ reached

/-- Nothing is reached in a literal that is found. -/
theorem filter_placesIn_literal {kind : Kind} {span : Span} {parts : List Tree}
    {finding : LiteralFinding}
    (found : ofNode? settings comments scope kind span parts = some finding) :
    (placesIn (layouts path kind parts) parts).filter (Place.isReached settings) = [] := by
  have excluded (index : Nat) : Step.excluded settings ⟨kind, parts, index⟩ = true ∧
      Step.names ⟨kind, parts, index⟩ = false := by
    unfold ofNode? at found
    split at found
    · exact ⟨rfl, rfl⟩
    · simp only at found
      split at found
      · exact ⟨‹_›, rfl⟩
      · cases found
    · cases found
  have stands : layouts path kind parts =
      (List.range parts.length).map fun index => .whole (⟨kind, parts, index⟩ :: path) := by
    rcases kind_of_ofNode? found with ⟨value, rfl⟩ | ⟨chunks, rfl⟩ <;>
      exact layouts_eq (by simp) (by simp) path
  rw [stands]
  exact filter_placesIn_shut settings (allFit_nil_of_shut fun index =>
    ⟨_, _, rfl, .inl ⟨.inl (excluded index).1, (excluded index).2⟩⟩) parts

/-- An argument that names a module to load is such a string itself, or spreads one. -/
theorem settles_moduleName {tree : Tree} {span : Span} {value : Option String}
    (free : Open settings path) (loads : path.head?.any Step.loads = true)
    (named : moduleName? tree = some (span, value)) :
    List.Forall₂ (Settles settings comments)
      ((placesOf path tree).filter (Place.isReached settings)) (ofSource settings span value) := by
  obtain ⟨step, outer, rfl⟩ : ∃ step outer, path = step :: outer := by
    cases path with
    | nil => cases loads
    | cons step outer => exact ⟨step, outer, rfl⟩
  have loads : step.loads = true := loads
  unfold moduleName? at named
  split at named
  · obtain ⟨rfl, rfl⟩ := Prod.mk.inj (Option.some.inj named)
    have head : namesLoaded (step :: outer) = true := by
      unfold namesLoaded
      split
      · rename_i same
        rw [(List.cons.inj same).1] at loads
        cases loads
      · rename_i same
        rwa [← (List.cons.inj same).1]
      · contradiction
    exact settles_named comments free head _ _ _
  · rename_i value inner within
    obtain ⟨rfl, rfl⟩ := Prod.mk.inj (Option.some.inj named)
    have way :
        Open settings (⟨.spread, [.node (.string value) inner within], 0⟩ :: step :: outer) :=
      free.below rfl rfl
    have below := settles_named comments way loads value inner within
    rw [placesOf, List.filter_cons_of_neg Bool.false_ne_true, layouts_eq (by simp) (by simp)]
    simpa [placesIn] using below
  · cases named

theorem settles_moduleSource (closed : ¬ Open settings path)
    (names : path.head?.any Step.names = true) (free : Open settings path.tail) (kind : Kind)
    (span : Span) (parts : List Tree) : List.Forall₂ (Settles settings comments)
      ((placesOf path (.node kind span parts)).filter (Place.isReached settings))
      (match kind with
        | .moduleSource value => ofSource settings span value
        | _ => []) := by
  have below : (placesIn (layouts path kind parts) parts).filter
      (Place.isReached settings) = [] := by
    refine filter_placesIn_shut settings (fun layout member => ?_) parts
    obtain ⟨step, same⟩ := path_of_mem_layouts layout member
    rw [same]
    exact ⟨step, path, rfl, .inr closed⟩
  rw [placesOf, ← List.singleton_append, List.filter_append, below, List.append_nil]
  split
  · refine settles_source rfl ⟨rfl, rfl, rfl⟩ ?_
    simp [Place.isReached, Tree.kind, names, free]
  · rename_i other
    have missed : Place.isReached settings ⟨path, .node kind span parts⟩ = false := by
      unfold Place.isReached
      simp only [Tree.kind]
      split
      · exact (other _ rfl).elim
      · rw [decide_eq_false closed, Bool.false_and]
      · rw [decide_eq_false closed, Bool.false_and]
      · rfl
    rw [List.filter_cons_of_neg (by rw [missed]; exact Bool.false_ne_true)]
    exact .nil

variable (settings comments) in
mutual

/-- The findings of a tree settle its reached places one by one. -/
theorem settles_ofTree {path : List Step} {scope : Scope} (free : Open settings path)
    (inside : ScopeIs settings path scope) : ∀ tree, Unnamed path tree →
      List.Forall₂ (Settles settings comments)
        ((placesOf path tree).filter (Place.isReached settings))
          (ofTree settings comments scope tree)
  | .node kind span parts, unnamed => by
    have reached := isReached_eq comments scope kind span parts free
    cases found : ofNode? settings comments scope kind span parts with
    | some finding =>
      have below : (placesIn (layouts path kind parts) parts).filter
          (Place.isReached settings) = [] :=
        filter_placesIn_literal found
      rw [found] at reached
      rw [ofTree, found, placesOf, List.filter_cons_of_pos reached, below]
      exact .cons
        (settles_of_ofNode? inside (fun named value same => unnamed.1 named value same) found) .nil
    | none =>
      rw [found] at reached
      rw [ofTree_of_none found, placesOf,
        List.filter_cons_of_neg (by rw [reached]; exact Bool.false_ne_true)]
      exact settles_ofParts parts (allFit_rolesOf free inside unnamed found)

theorem settles_ofParts : ∀ trees {layouts roles}, AllFit settings layouts roles trees →
    List.Forall₂ (Settles settings comments)
      ((placesIn layouts trees).filter (Place.isReached settings))
        (ofParts settings comments roles trees)
  | [], _, _, fit => by
    cases fit with
    | nil shut =>
      rw [filter_placesIn_shut settings shut]
      exact .nil
    | spare =>
      rename_i roles
      cases roles <;> exact .nil
  | .node kind span parts :: trees, _, _, fit => by
    cases fit with
    | nil shut =>
      rw [filter_placesIn_shut settings shut, ofParts_nil]
      exact .nil
    | cons fits rest =>
      have others := settles_ofParts trees rest
      cases fits with
      | searched free inside unnamed =>
        rw [placesIn, List.filter_append, ofParts_searched]
        exact List.rel_append (settles_ofTree free inside _ unnamed) others
      | tagged free inside unnamed =>
        rw [placesIn, List.filter_append, ofParts]
        refine List.rel_append (settles_ofParts parts (allFit_inside fun tree _ => ?_)) others
        exact .searched free inside (unnamed tree)
      | arguments free inside loads =>
        rw [placesIn, List.filter_append, ofParts]
        refine List.rel_append (settles_ofParts parts (allFit_inside fun tree _ => ?_)) others
        exact .argument free inside loads
      | argument free inside loads =>
        rw [placesIn, List.filter_append, ofParts_loadArgument]
        refine List.rel_append ?_ others
        cases named : moduleName? (.node kind span parts) with
        | none =>
          have unnamed := (moduleName?_eq_none_iff _).mp named
          exact settles_ofTree free inside _ ⟨fun _ => unnamed.1, fun _ => named⟩
        | some place =>
          obtain ⟨span, value⟩ := place
          exact settles_moduleName free loads named
      | source closed names free =>
        rw [placesIn, List.filter_append]
        refine List.rel_append ?_ others
        exact settles_moduleSource closed names free kind span parts
      | passedOver shut =>
        rw [placesIn, List.filter_append, filter_placesOf_shut settings shut, ofParts_passedOver]
        exact others

end

end Phrasebook.LiteralFinding
