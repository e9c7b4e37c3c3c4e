import Phrasebook.Proofs.Script.Grammar.Class
import Phrasebook.Proofs.Script.Grammar.Access
import Phrasebook.Proofs.Script.Grammar.Target
import Phrasebook.Script.Grammar.Expression

/-!
The productions of expressions come to expressions that lie in the text.
-/

namespace Phrasebook.Script.Grammar

open Phrasebook.Script.Parser

variable {text : List Char} {rec : Productions} {first mark : Nat} {α : Type} [Content α] [Layout α]

/-- A look at a token finds something with a property. -/
structure Finds {α : Type} (P : α → Prop) (p : Parser α) : Prop where
  run (c : Context) (s : State) : ∃ a, p c s = .ok a s ∧ P a

theorem Finds.pure {α : Type} {P : α → Prop} {a : α} (holds : P a) : Finds P (pure a) :=
  ⟨fun _ _ => ⟨a, rfl, holds⟩⟩

theorem Finds.onLexeme {α : Type} {P : Lexeme → α → Prop} {f : Lexeme → Parser α} {s : State}
    (rest : Finds (P s.lexeme) (f s.lexeme)) (c : Context) :
    ∃ a, (lexeme >>= f) c s = .ok a s ∧ P s.lexeme a := by
  rw [run_of_ok (a := s.lexeme) (t := s) rfl rfl]
  exact rest.run c s

/-- The place behind an operator is behind the beginning of the token. -/
abbrev ReachesOperator (here : Lexeme) (found : Option (Operator × Nat × Cursor)) : Prop :=
  ∀ operator precedence stop, found = some (operator, precedence, stop) → here.start.Onward stop

theorem run_operator? (c : Context) {s : State} (sound : s.Sound text) :
    ∃ found, operator? c s = .ok found s ∧ ReachesOperator s.lexeme found := by
  have behind := sound.fits.onward
  have greater := onward_readGreater s.lexeme.start
  have fixed {mark : Mark} {place : Cursor} (onward : s.lexeme.start.Onward place) :
      ReachesOperator s.lexeme (mark.precedence?.map fun p => (.mark mark, p, place)) := by
    intro operator precedence stop found
    obtain ⟨_, -, same⟩ := Option.map_eq_some_iff.mp found
    cases same
    exact onward
  refine Finds.onLexeme ?_ c
  dsimp only
  split
  · exact .pure (fixed greater)
  · exact .pure (fixed behind)
  · exact .pure fun _ _ _ same => by cases same; exact behind
  · refine ⟨fun c s => ⟨_, run_of_ok (a := c) (t := s) rfl rfl, ?_⟩⟩
    split
    · exact fun _ _ _ same => by cases same; exact behind
    · exact nofun
  · exact .pure nofun

instance quiet_operator? : Quiet operator? := by
  unfold operator?
  refine .onResult fun here => ?_
  dsimp only
  split <;> infer_instance

/-- What follows a look at an operator goes on behind it. -/
theorem lays_onOperator {f : Option (Operator × Nat × Cursor) → Parser α}
    (missing : Lays text first (.upon mark) (f none))
    (found : ∀ (here : Lexeme) operator precedence (stop :
      {stop : Cursor // here.start.Onward stop}),
        LaysAt text first mark here (f (some (operator, precedence, stop.val)))) :
    Lays text first (.upon mark) (operator? >>= f) where
  outcome c s sound edge holds := by
    obtain ⟨result, read, reaches⟩ := run_operator? c sound
    rw [run_of_ok read rfl]
    cases result with
    | none => exact missing.outcome c s sound edge holds
    | some triple =>
      obtain ⟨operator, precedence, stop⟩ := triple
      exact (found s.lexeme operator precedence
        ⟨stop, reaches operator precedence stop rfl⟩).outcome c s sound edge holds.1 holds.2 rfl

theorem steady_onOperator {β : Type} [Content β] {f : Option (Operator × Nat × Cursor) → Parser β}
    (missing : Steady text (f none))
    (found : ∀ (here : Lexeme) operator precedence (stop :
      {stop : Cursor // here.start.Onward stop}), SteadyAt text here
        (f (some (operator, precedence, stop.val)))) : Steady text (operator? >>= f) where
  outcome c s sound := by
    obtain ⟨result, read, reaches⟩ := run_operator? c sound
    rw [run_of_ok read rfl]
    cases result with
    | none => exact missing.outcome c s sound
    | some triple =>
      obtain ⟨operator, precedence, stop⟩ := triple
      exact (found s.lexeme operator precedence
        ⟨stop, reaches operator precedence stop rfl⟩).outcome c s sound rfl

/-- The place behind an operator that assigns is behind the beginning of the token. -/
abbrev ReachesAssignment (here : Lexeme) (found : Option (Mark × Cursor)) : Prop :=
  ∀ mark stop, found = some (mark, stop) → here.start.Onward stop

theorem run_assignmentOperator? (c : Context) {s : State} (sound : s.Sound text) :
    ∃ found, assignmentOperator? c s = .ok found s ∧ ReachesAssignment s.lexeme found := by
  have behind := sound.fits.onward
  have greater := onward_readGreater s.lexeme.start
  have fixed {mark : Mark} {place : Cursor} (onward : s.lexeme.start.Onward place) :
      ReachesAssignment s.lexeme (if mark.isAssignment then some (mark, place) else none) := by
    intro other stop found
    split at found
    · cases found
      exact onward
    · cases found
  refine Finds.onLexeme ?_ c
  split
  · exact .pure (fixed greater)
  · exact .pure (fixed behind)
  · exact .pure nofun

theorem outcome_liftTree {left : Tree} {mark : Mark} (c : Context) {s : State}
    (sound : s.Sound text) (fine : left.Sound text) :
    Outcome text s (fun tree t => tree.Sound text ∧ t = s) (liftTree (left.asTarget mark) c s) := by
  have target : Content.Sound text (left.asTarget mark) := Tree.sound_asTarget fine
  unfold liftTree
  cases made : left.asTarget mark with
  | error e => exact ⟨sound, .refl s⟩
  | ok tree => exact .ok sound ⟨target tree made, rfl⟩

variable [SoundProductions text rec]

omit [SoundProductions text rec] in
/-- Behind a left side either it alone is there, or an assignment to it. -/
theorem outcome_assignmentRest {left : Tree} {c : Context} {s : State} {P : Tree → State → Prop}
    (sound : s.Sound text) (fine : left.Sound text) (alone : P left s)
    (whole : ∀ mark stop target, s.lexeme.start.Onward stop → target.Sound text → Outcome text s P
      ((do
        resumeAt stop
        let right ← rec .assignment
        node (.assignment mark) first [target, right] : Parser Tree) c s)) :
    Outcome text s P (assignmentRest rec first left c s) := by
  obtain ⟨found, read, reaches⟩ := run_assignmentOperator? c sound
  unfold assignmentRest
  rw [run_of_ok read rfl]
  cases found with
  | none => exact .ok sound alone
  | some pair =>
    obtain ⟨mark, stop⟩ := pair
    refine (outcome_liftTree c sound fine).bind fun target t reached onward ⟨made, same⟩ => ?_
    subst same
    exact whole mark stop target (reaches mark stop rfl) made

instance lays_assignmentRest {left : {tree : Tree // Layout.Laid text first tree}} :
    Lays text first (.upon left.val.span.start) (assignmentRest rec first left.val) where
  outcome c s sound edge holds := by
    refine outcome_assignmentRest sound left.property.sound ⟨left.property, holds.2⟩
      fun mark stop target onward fine => ?_
    have : Reaches s.lexeme stop := ⟨onward⟩
    have : Fine text target := ⟨fine⟩
    have rest : LaysAt text first left.val.span.start s.lexeme (do
      resumeAt stop
      let right ← rec .assignment
      node (.assignment mark) first [target, right]) := LaysAt.resume
    exact rest.outcome c s sound edge holds.1 holds.2 rfl

instance steady_assignmentRest {left : Tree} [fine : Fine text left] :
    Steady text (assignmentRest rec first left) where
  outcome c s sound := by
    refine outcome_assignmentRest sound fine.sound fine.sound fun mark stop target onward fine => ?_
    have : Reaches s.lexeme stop := ⟨onward⟩
    have : Fine text target := ⟨fine⟩
    have rest : SteadyAt text s.lexeme (do
      resumeAt stop
      let right ← rec .assignment
      node (.assignment mark) first [target, right]) := SteadyAt.resume
    exact rest.outcome c s sound rfl

/-- The right side of an operator, which lies somewhere in the text. -/
instance lays_rightSide {bound : Nat} {f : Tree → Parser α}
    [rest : ∀ right : {tree : Tree // Content.Sound text tree},
      Lays text first (.past mark) (f right.val)] :
    Lays text first (.past mark) (do
      let operand ← rec .unary
      let right ← rec (.operators operand bound)
      f right) := by
  have right : Steady text (do let operand ← rec .unary; rec (.operators operand bound)) :=
    Lays.steady_of_here fun _ => inferInstance
  have whole : Lays text first (.past mark)
      ((do let operand ← rec .unary; rec (.operators operand bound)) >>= f) :=
    Lays.steady
  rwa [bind_assoc] at whole

instance lays_binary : Lays text first .here (binary rec) := by
  unfold binary
  exact .onStart (.onTree inferInstance fun left => inferInstance)

instance lays_operatorStep {bound : Nat} {left : {tree : Tree // Layout.Laid text first tree}} :
    Lays text first (.upon left.val.span.start) (operatorStep rec bound left.val) := by
  unfold operatorStep leaf
  extract_lets place rest
  have rest : Lays text first (.upon left.val.span.start) (rest ()) := by
    dsimp only [rest, place]
    exact lays_onOperator inferInstance fun here operator precedence stop => inferInstance
  dsimp only [place]
  refine .onResult fun typed => .onResult fun broken =>
    .onBranch (.onEaten ?_ (.onEaten ?_ rest)) rest
  · exact .onResult fun isConst => .onBranch (.onValue fun type => inferInstance)
      (.onValue fun type => inferInstance)
  · exact .onValue fun type => inferInstance

instance lays_operators {bound : Nat} {left : {tree : Tree // Layout.Laid text first tree}} :
    Lays text first (.upon left.val.span.start) (operators rec left.val bound) := by
  unfold operators
  infer_instance

instance steady_operatorStep {bound : Nat} {left : Tree} [Fine text left] :
    Steady text (operatorStep rec bound left) := by
  unfold operatorStep leaf
  extract_lets place rest
  have rest : Steady text (rest ()) := by
    dsimp only [rest, place]
    exact steady_onOperator inferInstance fun here operator precedence stop => inferInstance
  refine .onValue fun typed => .onValue fun broken => .onBranch (.onTest ?_ (.onTest ?_ rest)) rest
  · exact .onTest (.onValue fun type => inferInstance) (.onValue fun type => inferInstance)
  · exact .onValue fun type => inferInstance

instance steady_operators {bound : Nat} {left : Tree} [Fine text left] :
    Steady text (operators rec left bound) := by
  unfold operators
  infer_instance

instance lays_awaitExpression : Lays text first .here (awaitExpression rec) := by
  unfold awaitExpression
  refine .onStart (.of_upon (.onRead fun _ => .onResult fun star => ?_))
  exact .onBranch .unexpected_bind (.onResult fun context => .onResult fun alone =>
    .onBranch inferInstance inferInstance)

instance lays_typeAssertion : Lays text first .here (typeAssertion rec) := by
  unfold typeAssertion leaf
  refine .onStart (.of_upon (.onRead fun _ => .onResult fun isConst => .onBranch ?_ ?_))
  all_goals exact .onValue fun type => inferInstance

instance lays_updateFrom {operand : {tree : Tree // Layout.Laid text first tree}} :
    Lays text first (.upon operand.val.span.start) (updateFrom first operand.val) := by
  unfold updateFrom
  refine .onResult fun broken => ?_
  split
  · infer_instance
  · refine .onResult fun token => ?_
    split <;> infer_instance

instance lays_unary : Lays text first .here (unary rec) := by
  unfold unary
  refine .onStart (.onResult fun current => .onResult fun markup => .onResult fun typed =>
    .onResult fun less => ?_)
  split
  · infer_instance
  · split
    · infer_instance
    · split <;> infer_instance

instance : Content ParenItem where
  Sound text item := match item with
    | .expression tree => Tree.Sound text tree
    | .pattern tree => Tree.Sound text tree

instance fine_expression {tree : Tree} [fine : Fine text tree] :
    Fine text (ParenItem.expression tree) := ⟨fine.sound⟩

instance fine_pattern {tree : Tree} [fine : Fine text tree] :
    Fine text (ParenItem.pattern tree) := ⟨fine.sound⟩

theorem sound_asParameter : ∀ {item : ParenItem}, Content.Sound text item →
    Content.Sound text item.asParameter
  | .pattern _, sound => fun _ same => Except.ok.inj same ▸ sound
  | .expression tree, sound => by
    unfold ParenItem.asParameter
    split
    · contradiction
    · rename_i same
      cases same
      refine Content.sound_bind
        (Tree.sound_asPattern _ (Tree.Sound.parts sound _ List.mem_cons_self)) fun a fine => ?_
      have : Fine text a := ⟨fine⟩
      exact Content.sound_ok
    · rename_i same
      cases same
      exact Tree.sound_asPattern _ sound

theorem sound_mapM {α β : Type} [Content α] [Content β] {f : α → Except SyntaxError β}
    (each : ∀ a, Content.Sound text a → Content.Sound text (f a)) :
    ∀ {as : List α}, Content.Sound text as → Content.Sound text (as.mapM f)
  | [], _ => by
    rw [List.mapM_nil]
    exact Content.sound_ok
  | a :: as, sound => by
    rw [List.mapM_cons]
    refine Content.sound_bind (each a (sound a List.mem_cons_self)) fun b fine => ?_
    refine Content.sound_bind (sound_mapM each fun a m =>
      sound a (List.mem_cons_of_mem _ m)) fun bs more => ?_
    have : Fine text b := ⟨fine⟩
    have : Fine text bs := ⟨more⟩
    exact Content.sound_ok

instance steady_asParameters {items : List ParenItem} [fine : Fine text items] :
    Steady text (asParameters items) := by
  have sound := sound_mapM (fun _ => sound_asParameter) fine.sound
  unfold asParameters
  split
  · rename_i trees done
    have : Fine text trees := ⟨sound trees done⟩
    infer_instance
  · infer_instance

instance quiet_atOptionalMark : Quiet atOptionalMark := by
  unfold atOptionalMark
  infer_instance

instance lays_arrowRest {async : Bool} {items typeParams type : Tree} [Fine text items]
    [Fine text typeParams] [Fine text type] :
    Lays text first (.past mark) (arrowRest rec first async items typeParams type) := by
  unfold arrowRest
  infer_instance

instance steady_binary : Steady text (binary rec) := Lays.steady_of_here fun _ => inferInstance

instance steady_parenHead {spreads : Bool} : Steady text (parenHead rec first spreads) := by
  unfold parenHead
  extract_lets rest
  have rest (plain : {plain : Bool // Content.Sound text plain}) :
      Steady text (rest plain.val) := by
    refine .onBranch (.onTest (.onValue fun inner => inferInstance) ?_) inferInstance
    exact .onStart fun itemStart => .onValue fun left => inferInstance
  exact .onBranch (.onValue fun next => .onValue rest) (.onValue rest)

instance steady_liftTree {result : Except SyntaxError Tree} [fine : Fine text result] :
    Steady text (liftTree result) := by
  unfold liftTree
  split
  · rename_i tree
    have : Fine text tree := ⟨fine.sound tree rfl⟩
    infer_instance
  · infer_instance

instance fine_asParameter {item : ParenItem} [fine : Fine text item] : Fine text item.asParameter :=
  ⟨sound_asParameter fine.sound⟩

instance steady_typedParameter {head : Tree} {optional : Bool} [Fine text head] :
    Steady text (typedParameter rec first head optional) := by
  unfold typedParameter
  refine .onValue fun target => .onBranch inferInstance
    (.onValue fun type => .onTest ?_ inferInstance)
  exact .onValue fun value => inferInstance

instance steady_typedParenItem : Steady text (typedParenItem rec) := by
  unfold typedParenItem
  refine .onStart fun first => .onValue fun _ => .onValue fun spreads => .onValue fun head =>
    .onValue fun optional => ?_
  extract_lets typed rest
  have typed (head : {head : Tree // Content.Sound text head}) : Steady text (typed head.val) :=
    .onValue fun colon => inferInstance
  have rest : Steady text (rest ()) := by
    refine .onTest (.onValue fun consequent =>
      .onNext (.onValue fun alternative => .onValue typed)) (.onValue typed)
  exact .onBranch (.onNext (.onBranch rest inferInstance)) rest

instance steady_parenItem : Steady text (parenItem rec) := by
  unfold parenItem
  infer_instance

instance lays_branchArrow? {async : Bool} {items : List ParenItem} [Fine text items] :
    Lays text first (.past mark) (branchArrow? rec first async items) := by
  unfold branchArrow?
  refine .onResult fun typed => .onResult fun context => .onResult fun colon =>
    .onBranch (.onAttempt ?_) inferInstance
  refine .onValue fun _ => .onValue fun type => .onValue fun _ => .onValue fun parameters =>
    .onTree inferInstance ?_
  exact fun tree => inferInstance

instance tentative_branchArrow? {async : Bool} {items : List ParenItem} :
    Tentative (branchArrow? rec first async items) := by
  unfold branchArrow?
  infer_instance

instance lays_continueArrow {tree : {tree : Tree // Layout.Laid text first tree}} :
    Lays text first (.upon tree.val.span.start) (continueArrow rec tree.val) := by
  obtain ⟨tree, laid⟩ := tree
  dsimp only
  unfold continueArrow
  split
  · rename_i async span items inner parts typeParams type
    have operators := @SoundProductions.operators text rec _ first ⟨_, laid⟩ 0
    have whole := IsLaid.val ⟨_, laid⟩
    infer_instance
  · have := IsLaid.val ⟨tree, laid⟩
    infer_instance

instance lays_parenExpression {items : List ParenItem} [fine : Fine text items] :
    Lays text first (.past mark) (parenExpression first items) := by
  unfold parenExpression
  refine .onPart (Steady.mapM (fun item fine => ?_) fine.sound) fun trees sound => ?_
  · split
    · infer_instance
    · rename_i tree _
      have : Fine text tree := ⟨fine⟩
      infer_instance
    · infer_instance
  · have : Fine text trees := ⟨sound⟩
    split <;> infer_instance

instance fine_trees {items : List ParenItem} [fine : Fine text items] :
    Fine text (items.map ParenItem.tree) where
  sound tree member := by
    obtain ⟨item, among, rfl⟩ := List.mem_map.mp member
    have sound := fine.sound item among
    cases item <;> exact sound

instance lays_parens {async canArrow : Bool} :
    Lays text first (.upon mark) (parens rec first async canArrow) := by
  unfold parens
  refine .onRead fun _ => .onValue fun items =>
    .onTentative inferInstance (fun tree => inferInstance) ?_
  refine .onResult fun typed => .onResult fun context => .onResult fun colon =>
    .onEither fun type => ?_
  refine .onResult fun arrow => .onBranch (.onResult fun broken => ?_)
    (.onBranch inferInstance inferInstance)
  refine .onBranch inferInstance
    (.onBranch inferInstance (.onValue fun _ => .onValue fun parameters => ?_))
  exact .onTree inferInstance fun tree => inferInstance

instance lays_genericAsyncArrow? : Lays text first .here (genericAsyncArrow? rec first) := by
  unfold genericAsyncArrow?
  refine .onAttempt
    (.of_upon (.onRead fun _ => .onValue fun typeParams => .onValue fun items => ?_))
  exact .onEaten (.onValue fun type => inferInstance) (.onValue fun type => inferInstance)

instance tentative_genericAsyncArrow? : Tentative (genericAsyncArrow? rec first) := by
  unfold genericAsyncArrow?
  infer_instance

instance quiet_admitsVariable {w : String} {escaped : Bool} : Quiet (admitsVariable w escaped) := by
  unfold admitsVariable
  infer_instance

instance steady_variableName : Steady text variableName := by
  unfold variableName
  refine .onToken fun token => ?_
  split <;> infer_instance

instance consumes_variableName : Consumes text variableName := by
  unfold variableName
  refine @Consumes.bind_quiet _ _ _ _ _ _ fun token => ?_
  split <;> infer_instance

instance lays_nameOrArrow {canArrow : Bool} : Lays text first .here (nameOrArrow rec canArrow) := by
  unfold nameOrArrow
  refine .onStart
    (.of_upon (.onRead fun name => .onTree inferInstance fun tree => .onResult fun broken => ?_))
  refine .onResult fun named =>
    .onBranch (.onResult fun context => .onResult fun isOf => .onResult fun next => ?_) ?_
  · refine .onBranch inferInstance (.onResult fun start => .onRead fun parameter =>
      .onValue fun target => ?_)
    exact .onValue fun _ => inferInstance
  · refine .onResult fun broken => .onResult fun arrow =>
      .onBranch (.onValue fun target => ?_) inferInstance
    exact .onRead fun _ => inferInstance

instance lays_arrayLiteral : Lays text first .here (arrayLiteral rec) := by
  unfold arrayLiteral
  refine .onStart (.of_upon (.onRead fun _ => ?_))
  have element : Steady text (do
      if (← isMark .closeBracket) || (← atEnd) then return none
      let here ← start
      if ← eatMark .comma then return some (← node .hole here [])
      let element ← spreadOrExpression rec
      unless ← isMark .closeBracket do expectMark .comma
      return some element) :=
    .onValue fun closed => .onValue fun ended => .onBranch inferInstance (.onStart fun here =>
      .onTest inferInstance (.onValue fun element => inferInstance))
  exact .onValue fun elements => inferInstance

instance steady_objectMethod {key : Tree} {kind : Kind} {flags : FunctionFlags}
    [Fine.IsFalse kind.isLiteral] [Fine text key] :
    Steady text (objectMethod rec first key kind flags) := by
  unfold objectMethod
  infer_instance

instance steady_shorthandOrMethod {key : Tree} : Steady text (shorthandOrMethod rec first key) := by
  unfold shorthandOrMethod
  split
  · rename_i name _ _
    refine .onNext (.onResult fun assigned _ => ?_)
    split
    · infer_instance
    · refine .onResult fun ends _ => ?_
      split
      · infer_instance
      · split <;> infer_instance
  · infer_instance

instance steady_objectProperty : Steady text (objectProperty rec) := by
  unfold objectProperty
  refine .onStart fun first => .onTest (.onValue fun inner => inferInstance) ?_
  refine .onTest (.onValue fun key => inferInstance) (.onValue fun typed => ?_)
  extract_lets rest
  have rest : Steady text (rest ()) := by
    refine .onValue fun key => .onTest (.onValue fun value => inferInstance)
      (.onTest inferInstance ?_)
    exact .onValue fun typed => .onValue fun less => .onBranch inferInstance inferInstance
  exact .onBranch (.onNext rest) rest

instance lays_objectLiteral : Lays text first .here (objectLiteral rec) := by
  unfold objectLiteral
  infer_instance

omit [SoundProductions text rec] in
instance lays_leaf {kind : Kind} [Fine.IsFalse kind.isLiteral] :
    Lays text first .here (leaf kind) := by
  unfold leaf
  infer_instance

omit [SoundProductions text rec] in
/-- A regular expression may turn out to have no end, and then its token changes. -/
instance lays_patternLiteral : Lays text first .here patternLiteral where
  outcome c s sound edge holds := by
    unfold patternLiteral
    rw [run_of_ok (a := s.lexeme) (t := s) rfl rfl]
    dsimp only
    cases read : readPattern (s.lexeme.start.drop 1).rest (s.lexeme.start.drop 1).position with
    | error e =>
      exact ⟨⟨sound.place, .of_plain sound.fits.onward (fun _ => nofun) nofun,
        sound.last, sound.behind⟩, ⟨Nat.le_refl _, Nat.le_refl _⟩⟩
    | ok stop =>
      have onward : s.lexeme.start.Onward stop :=
        (Cursor.onward_drop 1 _).trans (onward_readPattern read)
      refine (outcome_resumeAt sound onward).bind fun _ t reached _ stopped => ?_
      subst holds
      exact .ok reached
        (Lays.reached_node rfl (fun _ member => absurd member List.not_mem_nil) reached edge
        (Nat.le_refl _) stopped.1)

instance lays_asyncOperand {canArrow : Bool} :
    Lays text first .here (asyncOperand rec first canArrow) := by
  unfold asyncOperand
  refine .onResult fun next => .onBranch (.of_upon (.onRead fun _ => inferInstance))
    (.onResult fun typed => ?_)
  extract_lets rest
  have rest : Lays text first .here (rest ()) :=
    .onBranch (.of_upon (.onRead fun _ => inferInstance)) inferInstance
  exact .onBranch (.onTentative inferInstance (fun tree => inferInstance) rest) rest

omit [SoundProductions text rec] in
theorem laysAt_string {here : Lexeme} {value : Option String} (begins : here.start.position = first)
    (token : here.token = .string value) : LaysAt text first mark here (leaf (.string value)) where
  outcome c s sound _ _ _ same := by
    subst same begins
    exact (outcome_string (c := c) (.inl rfl) sound token).mono fun _ _ _ _ laid => laid.1

theorem laysAt_template {here : Lexeme} {tagged : Bool} (begins : here.start.position = first)
    (token : here.token = .mark .backtick) : LaysAt text first mark here (template rec tagged) where
  outcome c s sound _ _ _ same := by
    subst same begins
    exact (outcome_template sound token).mono fun _ _ _ _ laid => laid.1

instance lays_primary : Lays text first .here (primary rec) := by
  unfold primary
  refine .onStart (.onResult fun context => .onToken fun here begins => ?_)
  split
  case h_1 => exact laysAt_string begins ‹_›
  case h_10 => exact laysAt_template begins ‹_›
  case h_11 =>
    have named : Lays text first (.upon first) (nameOrArrow rec false) :=
      .of_later fun _ => inferInstance
    exact .of_here begins inferInstance
  all_goals exact .of_here begins inferInstance

instance lays_importExpression {noCall : Bool} :
    Lays text first .here (importExpression rec noCall) := by
  unfold importExpression
  infer_instance

instance steady_typeArgumentsOfCall? : Steady text (typeArgumentsOfCall? rec) := by
  unfold typeArgumentsOfCall?
  infer_instance

instance lays_newExpression : Lays text first .here (newExpression rec) := by
  unfold newExpression
  have inner : Lays text first (.past first) (do
      let inner ← rec .callee
      if isArrow inner then return inner
      if inChain inner then fail .unexpectedToken first
      let types ← typeArgumentsOfCall? rec
      if ← isMark .openParen then
        let arguments ← callArguments rec true
        subscripts rec true false (← node .new first [inner, arguments, types.getD .absent])
      else node .new first [inner, .absent, .absent]) :=
    have : Lays text first (.upon first) (rec .callee) := .of_later SoundProductions.callee
    .onWhole inferInstance fun _ => inferInstance
  infer_instance

instance lays_callee : Lays text first .here (callee rec) := by
  unfold callee
  refine .onResult fun new => .onBranch inferInstance
    (.onResult fun super => .onBranch inferInstance ?_)
  refine .onResult fun imports => .onBranch inferInstance (.onTree inferInstance fun operand => ?_)
  exact .onBranch inferInstance inferInstance

instance lays_accessFrom {head : {tree : Tree // Layout.Laid text first tree}} :
    Lays text first (.upon head.val.span.start) (accessFrom rec first head.val) := by
  obtain ⟨head, laid⟩ := head
  have whole := IsLaid.val ⟨head, laid⟩
  have fine : Fine text head := ⟨laid.sound⟩
  unfold accessFrom
  refine .onBranch inferInstance (.onPart inferInstance fun types sound => ?_)
  have : Fine text types := ⟨sound⟩
  split
  · infer_instance
  · infer_instance

instance lays_access : Lays text first .here (access rec) := by
  unfold access
  refine .onStart (.onResult fun markup => .onResult fun less =>
    .onBranch (.of_upon (.onRead fun _ => ?_)) ?_)
  · exact .onTree inferInstance fun tree => inferInstance
  · refine .onResult fun super =>
      .onBranch inferInstance (.onResult fun imports => .onBranch inferInstance ?_)
    exact .onTree inferInstance fun head => inferInstance

instance lays_conditionalFrom {test : {tree : Tree // Layout.Laid text first tree}} :
    Lays text first (.upon test.val.span.start) (conditionalFrom rec first test.val) := by
  unfold conditionalFrom
  infer_instance

instance lays_conditional : Lays text first .here (conditional rec) := by
  unfold conditional
  infer_instance

instance lays_yieldExpression : Lays text first .here (yieldExpression rec) := by
  unfold yieldExpression
  refine .onStart (.of_upon (.onRead fun _ => .onResult fun ended => .onBranch inferInstance ?_))
  exact .onEaten (.onResult fun token => inferInstance)
    (.onResult fun token => .onBranch inferInstance inferInstance)

instance tentative_genericArrow? : Tentative (genericArrow? rec) := by
  unfold genericArrow?
  infer_instance

instance lays_genericArrow? : Lays text first .here (genericArrow? rec) := by
  unfold genericArrow?
  refine .onStart (.onResult fun typed => .onResult fun less => .onResult fun next => ?_)
  split
  · refine @Lays.withReader _ _ _ _ _ _ _ _ (@Lays.attempt _ _ _ _ (.of_upon ?_))
    refine .onPart inferInstance fun typeParams fine => ?_
    have : Fine text typeParams := ⟨fine⟩
    refine .onTree (.of_later SoundProductions.assignment) fun ⟨arrow, laid⟩ => ?_
    dsimp only
    split
    · rename_i async span items body old type
      have parts := laid.sound.parts
      have : Fine text items := ⟨parts _ (by simp)⟩
      have : Fine text body := ⟨parts _ (by simp)⟩
      have : Fine text type := ⟨parts _ (by simp)⟩
      have ordered : first ≤ span.stop := Nat.le_trans laid.start laid.lies.ordered
      have : IsLaid text first span.start
          (.node (.arrow async) ⟨first, span.stop⟩ [items, body, typeParams, type] : Tree) :=
        ⟨fun edge le => ⟨⟨Fine.node.sound, Nat.le_refl _, edge, laid.lies.stop, ordered⟩, le⟩⟩
      change Lays text first (.upon span.start) _
      infer_instance
    · infer_instance
  · infer_instance

instance lays_assignment : Lays text first .here (assignment rec) := by
  unfold assignment
  infer_instance

end Phrasebook.Script.Grammar
