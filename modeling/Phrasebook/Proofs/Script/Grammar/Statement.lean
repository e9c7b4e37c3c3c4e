import Phrasebook.Proofs.Script.Grammar.Expression
import Phrasebook.Script.Grammar.Statement

/-!
The productions of declarations and statements keep to the text.
-/

namespace Phrasebook.Script.Grammar

open Phrasebook.Script.Parser

section Declarations

variable {text : List Char} {rec : Productions} {first : Nat} {decorators : List Tree}

instance quiet_atVariables : Quiet atVariables := by
  unfold atVariables
  refine .onResult fun token => ?_
  split <;> infer_instance

variable [SoundProductions text rec]

instance steady_declarator {kind : VariableKind} {inLoop : Bool} :
    Steady text (declarator rec kind inLoop) := by
  unfold declarator
  refine .onStart fun first => .onValue fun isLet => ?_
  extract_lets rest
  have rest : Steady text (rest ()) := by
    refine .onValue fun target => ?_
    extract_lets isName
    refine .onValue fun _ => .onEither fun definite => .onValue fun type => ?_
    extract_lets typed
    have : Fine text typed := Fine.ite
    refine .onValue fun _ => .onEither fun loops =>
      .onBranch (.onValue fun value => inferInstance) ?_
    refine .onTest (.onValue fun value => inferInstance) (.onValue fun context => ?_)
    exact .onBranch (.onValue fun value => inferInstance) inferInstance
  exact .onBranch inferInstance rest

instance steady_skipStatement : Steady text (skipStatement rec) := by
  unfold skipStatement
  refine .onNext (@Steady.loop _ _ _ _ _ (fun _ => ?_) inferInstance)
  refine .onResult fun ended _ => .onBranch inferInstance (.onToken fun token => ?_)
  split
  · infer_instance
  · refine .onNext (.onToken fun token => ?_)
    split <;> infer_instance

omit [SoundProductions text rec] in
instance steady_mayAllowIn {α : Type} [Content α] {p : Prop} [Decidable p] {q : Parser α}
    [steady : Steady text q] : Steady text ((if p then id else withIn) q) := by
  split
  · exact steady
  · infer_instance

instance steady_variableList {inLoop : Bool} : Steady text (variableList rec first inLoop) := by
  unfold variableList
  refine .onToken fun token => ?_
  extract_lets rest
  have rest (kind : {kind : VariableKind // Content.Sound text kind}) :
      Steady text (rest kind.val) := by
    refine .onNext ?_
    extract_lets next
    have : Steady text next := .onValue fun closed => .onValue fun ended =>
      .onBranch inferInstance inferInstance
    refine .onValue fun head => .onEither fun more => .onValue fun _ => ?_
    exact .onCheck (.onValue fun context => inferInstance)
  split
  case h_4 => infer_instance
  all_goals exact .onValue rest

instance steady_resourceList? : Steady text (resourceList? rec first) := by
  unfold resourceList?
  refine .onTest (.onNext ?_) inferInstance
  extract_lets next
  have : Steady text next := .onValue fun closed => .onValue fun ended =>
    .onBranch inferInstance inferInstance
  exact .onValue fun head => .onEither fun more => inferInstance

instance steady_enumMember : Steady text (enumMember rec) := by
  unfold enumMember
  exact .onStart fun first => .onValue fun key => .onValue fun _ =>
    .onEither fun value => inferInstance

instance steady_enumDeclaration {constant : Bool} :
    Steady text (enumDeclaration rec first constant) := by
  unfold enumDeclaration
  infer_instance

instance steady_interfaceDeclaration : Steady text (interfaceDeclaration rec first) := by
  unfold interfaceDeclaration
  refine .onValue fun name => .onValue fun typeParams => .onValue fun _ =>
    .onEither fun parents => ?_
  exact .onValue fun members => inferInstance

instance steady_typeAlias : Steady text (typeAlias rec first) := by
  unfold typeAlias
  infer_instance

instance steady_moduleBlock : Steady text (moduleBlock rec) := by
  unfold moduleBlock
  exact .onStart fun first => .onNext (.onValue fun items => inferInstance)

instance steady_moduleDeclaration : Steady text (moduleDeclaration rec first) := by
  unfold moduleDeclaration
  refine .onHere fun here => ?_
  split
  · refine .string_bind (.inr rfl) ‹_› fun name sound => ?_
    have : Fine text name := ⟨sound⟩
    refine .onValue fun _ => .onBranch (.onValue fun body => inferInstance)
      (.onNext (.onValue fun body => ?_))
    infer_instance
  · exact Steady.at inferInstance

instance steady_globalDeclaration {name : Tree} [Fine text name] :
    Steady text (globalDeclaration rec first name) := by
  unfold globalDeclaration
  refine .onValue fun _ => .onBranch (.onValue fun body => inferInstance)
    (.onNext (.onValue fun body => ?_))
  infer_instance

instance steady_typedDeclaration? {word : String} {current : Bool} [Fine text decorators] :
    Steady text (typedDeclaration? rec first word current decorators) := by
  unfold typedDeclaration?
  dsimp only
  refine .onResult fun broken _ => ?_
  split
  case h_4 =>
    refine .onBranch inferInstance (.onNext (.onToken fun token => ?_))
    split <;> infer_instance
  all_goals infer_instance

instance steady_ambientDeclaration? [Fine text decorators] :
    Steady text (ambientDeclaration? rec first decorators) := by
  unfold ambientDeclaration?
  refine @Steady.withReader _ _ _ _ _ (.onToken fun token => ?_)
  split <;> infer_instance

instance steady_declarationBehind? {word : Tree} [Fine text word] [Fine text decorators] :
    Steady text (declarationBehind? rec first word decorators) := by
  unfold declarationBehind?
  split <;> infer_instance

end Declarations

section Statements

variable {text : List Char} {rec : Productions} {first : Nat} {decorators : List Tree}

instance steady_labelPart? : Steady text labelPart? := by
  unfold labelPart?
  infer_instance

instance quiet_atEach : Quiet atEach := by
  unfold atEach
  infer_instance

instance quiet_atImportExpression : Quiet atImportExpression := by
  unfold atImportExpression
  infer_instance

instance steady_asStatement {α : Type} [Content α] {p : Parser α} [Steady text p] :
    Steady text (asStatement p) :=
  Steady.withReader

variable [SoundProductions text rec]

instance steady_parenthesized : Steady text (parenthesized rec) := by
  unfold parenthesized
  infer_instance

instance steady_ifRest : Steady text (ifRest rec first) := by
  unfold ifRest
  refine .onValue fun test => .onValue fun consequent => .onValue fun _ =>
    .onEither fun alternative => ?_
  infer_instance

instance steady_doRest : Steady text (doRest rec first) := by
  unfold doRest
  infer_instance

instance steady_switchRest : Steady text (switchRest rec first) := by
  unfold switchRest
  refine .onValue fun subject => .onNext (.onPart ?_ fun cases sound => ?_)
  · refine @Steady.collect _ _ _ _ (.onStart fun caseStart => .onValue fun _ => ?_)
    extract_lets rest
    have rest (test : {test : Option Tree // Content.Sound text test}) :
        Steady text (rest test.val) := by
      obtain ⟨_ | test, sound⟩ := test
      · exact Steady.pure
      · have : Fine text test := ⟨sound test rfl⟩
        exact .onNext (.onValue fun statements => inferInstance)
    exact .onBranch (.onValue fun test => .onValue rest) (.onTest (.onValue rest) (.onValue rest))
  · have : Fine text cases := ⟨sound⟩
    infer_instance

instance steady_catchClause? : Steady text (catchClause? rec) := by
  unfold catchClause?
  refine .onStart fun first => .onTest ?_ inferInstance
  refine .onTest (.onValue fun target => .onValue fun type =>
    .onNext (.onValue fun parameter => ?_)) ?_
  · exact .onValue fun body => inferInstance
  · exact .onValue fun parameter => .onValue fun body => inferInstance

instance steady_finalizer? : Steady text (finalizer? rec) := by
  unfold finalizer?
  infer_instance

instance steady_tryRest : Steady text (tryRest rec first) := by
  unfold tryRest
  infer_instance

instance steady_strayHandler : Steady text (strayHandler rec first) := by
  unfold strayHandler
  infer_instance

instance : Content LoopHead where
  Sound text head := match head with
    | .counted parts => Content.Sound text parts
    | .each kind _ left right =>
      (∀ await, (kind await).isLiteral = false) ∧ left.Sound text ∧ right.Sound text

instance fine_counted {parts : List Tree} [fine : Fine text parts] :
    Fine text (LoopHead.counted parts) := ⟨fine.sound⟩

instance fine_each {kind : Bool → Kind} {isOf : Bool} {left right : Tree}
    [plain : ∀ await, Fine.IsFalse (kind await).isLiteral] [before : Fine text left]
    [behind : Fine text right] : Fine text (LoopHead.each kind isOf left right) :=
  ⟨fun await => (plain await).eq, before.sound, behind.sound⟩

instance steady_eachHead {left : Tree} [Fine text left] : Steady text (eachHead rec left) := by
  unfold eachHead
  infer_instance

instance steady_countedHead {init : Tree} [Fine text init] :
    Steady text (countedHead rec init) := by
  unfold countedHead
  have update (test : {test : Tree // Content.Sound text test}) : Steady text (do
      let update ← if ← isMark .closeParen then pure .absent else withIn (expression rec)
      return LoopHead.counted [init, test.val, update]) :=
    .onValue fun closed => .onEither fun update => inferInstance
  exact .onTest (.onValue update) (.onValue fun test => .onNext (.onValue update))

instance steady_loopResource? : Steady text (loopResource? rec first) := by
  unfold loopResource?
  refine .onTest (@Steady.attempt _ _ _ _ (.onValue fun _ => .onTest ?_ inferInstance))
    inferInstance
  refine .onNext (.onTest inferInstance (.onStart fun inner => .onValue fun target => ?_))
  exact .onValue fun part => .onValue fun tree => inferInstance

instance steady_loopHead : Steady text (loopHead rec) := by
  unfold loopHead
  refine .onStart fun first => .onOption inferInstance (fun left => inferInstance) ?_
  refine .onResult fun declares _ => .onBranch inferInstance ?_
  refine .onResult fun empty _ => .onBranch inferInstance ?_
  refine .onResult fun init sound => .onResult fun each _ => ?_
  have : Fine text init := ⟨sound⟩
  split
  · split
    · rename_i left done
      have : Fine text left := ⟨Tree.sound_asPattern _ sound left done⟩
      infer_instance
    · infer_instance
  · infer_instance

instance steady_forRest : Steady text (forRest rec first) := by
  unfold forRest
  refine .onResult fun await _ =>
    .onNext (.onResult fun head sound => .onNext (.onResult fun body fine => ?_))
  have : Fine text body := ⟨fine⟩
  dsimp only
  split
  · rename_i parts
    have : Fine text parts := ⟨sound⟩
    infer_instance
  · rename_i kind isOf left right
    have (await : Bool) : Fine.IsFalse (kind await).isLiteral := ⟨sound.1 await⟩
    have : Fine text left := ⟨sound.2.1⟩
    have : Fine text right := ⟨sound.2.2⟩
    infer_instance

instance steady_expressionEnd {tree : Tree} [Fine text tree] :
    Steady text (expressionEnd rec first tree) := by
  unfold expressionEnd
  infer_instance

instance steady_expressionStatement [Fine text decorators] :
    Steady text (expressionStatement rec first decorators) := by
  unfold expressionStatement
  refine .onValue fun tree => .onValue fun typed => .onEither fun declaration => ?_
  obtain ⟨_ | declaration, sound⟩ := declaration
  · exact .onTest (.onValue fun isFunction => .onValue fun body => inferInstance) inferInstance
  · have : Fine text declaration := ⟨sound declaration rfl⟩
    exact Steady.pure

instance steady_awaitExpression : Steady text (awaitExpression rec) :=
  Lays.steady_of_here fun _ => inferInstance

instance steady_awaitStatement : Steady text (awaitStatement rec first) := by
  unfold awaitStatement
  infer_instance

instance steady_statementRest {declarations : Bool} [Fine text decorators] :
    Steady text (statementRest rec first declarations decorators) := by
  unfold statementRest
  refine .onToken fun token => ?_
  split <;> infer_instance

instance steady_importStatement : Steady text (importStatement rec first) := by
  unfold importStatement
  infer_instance

instance steady_statement {declarations : Bool} : Steady text (statement rec declarations) := by
  unfold statement
  infer_instance

end Statements

end Phrasebook.Script.Grammar
