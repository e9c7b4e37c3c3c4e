import Phrasebook.Proofs.Script.Grammar.Access
import Phrasebook.Script.Grammar.Class

/-!
The productions of patterns, functions and classes keep to the text.
-/

namespace Phrasebook.Script.Grammar

open Phrasebook.Script.Parser

section Functions

variable {text : List Char} {rec : Productions} {first : Nat}

/-- A pattern with a type is sound if both are. -/
instance fine_withType {pattern type : Tree} {optional : Bool} [fine : Fine text pattern]
    [Fine text type] : Fine text (withType pattern optional type) := by
  unfold withType
  have sound := fine.sound
  split
  case h_5 => infer_instance
  case h_1 => infer_instance
  all_goals
    have : Fine text ‹Tree› := ⟨Tree.Sound.parts sound _ List.mem_cons_self⟩
    infer_instance

instance steady_inFunction {α : Type} [Content α] {flags : FunctionFlags}
    {p : Parser α} [Steady text p] : Steady text (inFunction flags p) :=
  Steady.withReader

theorem reads_functionHead : Steady text functionHead ∧ Consumes text functionHead := by
  unfold functionHead
  refine Consumes.andThen (.onValue fun generator => .onStart fun first => .onTest inferInstance ?_)
  exact .onValue fun typed => .onValue fun _ =>
    .onBranch inferInstance (.onValue fun name => inferInstance)

instance steady_functionHead : Steady text functionHead := reads_functionHead.1

instance consumes_functionHead : Consumes text functionHead := reads_functionHead.2

variable [SoundProductions text rec]

instance steady_bindingElement : Steady text (bindingElement rec) := by
  unfold bindingElement
  infer_instance

instance steady_restBinding : Steady text (restBinding rec first) := by
  unfold restBinding
  infer_instance

instance patterned_arrayBinding : Patterned text (arrayBinding rec) := by
  unfold arrayBinding
  refine .onValue fun first => .onValue fun _ => ?_
  have element : Steady text (do
      if (← isMark .closeBracket) || (← atEnd) then return none
      let first ← start
      if ← eatMark .comma then return some (← node .hole first [])
      let element ← if ← eatMark .dots then restBinding rec first else bindingElement rec
      unless ← isMark .closeBracket do expectMark .comma
      return some element) :=
    .onValue fun closed => .onValue fun ended => .onBranch inferInstance (.onStart fun first =>
      .onTest inferInstance (.onValue fun _ => .onEither fun element => inferInstance))
  exact .onValue fun elements => inferInstance

instance patterned_objectBinding : Patterned text (objectBinding rec) := by
  unfold objectBinding
  refine .onPart inferInstance fun first _ => .onPart inferInstance fun _ _ => ?_
  refine .onPart (@Steady.listUntil _ _ _ _ _ ?_) fun properties fine => ?_
  · refine .onStart fun first => .onResult fun rest _ => .onBranch inferInstance ?_
    refine .onResult fun key sound => .onResult fun colon _ => .onBranch ?_ ?_
    · have : Fine text key := ⟨sound⟩
      infer_instance
    · split <;> infer_instance
  · have : Fine text properties := ⟨fine⟩
    infer_instance

instance patterned_binding : Patterned text (binding rec) := by
  unfold binding
  refine .onPart inferInstance fun first _ => .onPart inferInstance fun token _ => ?_
  split <;> infer_instance

instance steady_block : Steady text (block rec) := by
  unfold block
  infer_instance

instance steady_functionBody {flags : FunctionFlags} : Steady text (functionBody rec flags) := by
  unfold functionBody
  infer_instance

instance steady_arrowBody {async : Bool} : Steady text (arrowBody rec async) := by
  unfold arrowBody
  infer_instance

instance steady_decorator : Steady text (decorator rec) := by
  have named : Steady text (do
      let nameStart ← start
      let name ← declaredName
      let head ← node (.identifier name) nameStart []
      subscripts rec false true head) := Lays.steady_of_here fun _ => inferInstance
  unfold decorator
  refine .onStart fun first => .onNext (.onResult fun grouped _ => ?_)
  split
  · infer_instance
  · have whole := Steady.onPart (f := fun part => node .decorator first [part])
        named fun part sound =>
      have : Fine text part := ⟨sound⟩
      inferInstance
    simpa only [bind_assoc] using whole

instance steady_decorators : Steady text (decorators rec) := by
  unfold decorators
  infer_instance

instance steady_parameterPattern : Steady text (parameterPattern rec) := by
  unfold parameterPattern
  refine .onStart fun first => .onValue fun target => .onValue fun _ => .onEither fun optional => ?_
  exact .onValue fun type => .onTest (.onValue fun value => inferInstance) inferInstance

instance steady_parameter : Steady text (parameter rec) := by
  unfold parameter
  refine .onStart fun first => .onValue fun decorators => .onStart fun patternStart => .onTest ?_ ?_
  · refine .onValue fun target => .onValue fun _ =>
      .onBranch (.onValue fun value => .onValue fun target => ?_) ?_
    · exact .onValue fun type => inferInstance
    · exact .onValue fun target => .onValue fun type => inferInstance
  · exact .onValue fun _ => .onEither fun modifiers => .onValue fun target => inferInstance

instance steady_parameters : Steady text (parameters rec) := by
  unfold parameters
  infer_instance

instance patterned_functionRest {flags : FunctionFlags} :
    Patterned text (functionRest rec first flags) := by
  unfold functionRest
  refine .onPart (@Steady.withReader _ _ _ _ _ ?_) fun head sound => ?_
  · exact .onValue fun typeParams => .onValue fun items => .onValue fun _ =>
      .onEither fun type => inferInstance
  · have : Fine text head := ⟨sound⟩
    infer_instance

instance lays_functionExpression {mark : Nat} {async : Bool} :
    Lays text first (.upon mark) (functionExpression rec first async) := by
  unfold functionExpression
  infer_instance

instance steady_functionDeclaration {async nameless declared : Bool} :
    Steady text (functionDeclaration rec first async nameless declared) := by
  unfold functionDeclaration
  infer_instance

end Functions

section Classes

variable {text : List Char} {rec : Productions} {first : Nat} {modifiers : Modifiers}
  {decorators : List Tree} {key : Tree}

instance quiet_atMethod : Quiet atMethod := by
  unfold atMethod
  infer_instance

instance quiet_atProperty {lineEnds : Bool} : Quiet (atProperty lineEnds) := by
  unfold atProperty
  infer_instance

instance steady_memberModifier? : Steady text memberModifier? := by
  unfold memberModifier?
  refine .onResult fun words _ => ?_
  split
  all_goals
    refine .onResult fun words _ => .onToken fun token => ?_
    split <;> infer_instance

variable [SoundProductions text rec]

instance steady_methodRest {accessor : Option AccessorKind} {optional : Bool}
    {flags : FunctionFlags} [Fine text key] [Fine text decorators] :
    Steady text (methodRest rec first key modifiers accessor optional flags decorators) := by
  unfold methodRest
  refine .onPattern fun function sound plain => ?_
  have : Fine text function := ⟨sound⟩
  dsimp only
  split
  · rename_i kind span items old body typeParams type
    have : Fine.IsFalse kind.isLiteral := ⟨plain⟩
    have parts := sound.parts
    have : Fine text items := ⟨parts _ (by simp)⟩
    have : Fine text body := ⟨parts _ (by simp)⟩
    have : Fine text typeParams := ⟨parts _ (by simp)⟩
    have : Fine text type := ⟨parts _ (by simp)⟩
    infer_instance
  · infer_instance

instance steady_propertyRest {optional : Bool} [Fine text key] [Fine text decorators] :
    Steady text (propertyRest rec first key modifiers optional decorators) := by
  unfold propertyRest
  refine .onValue fun _ => .onEither fun definite => .onValue fun type => .onValue fun _ =>
    .onEither fun value => ?_
  infer_instance

instance steady_constructorRest [Fine text key] :
    Steady text (constructorRest rec first key modifiers) := by
  unfold constructorRest
  infer_instance

instance steady_memberRest [Fine text decorators] :
    Steady text (memberRest rec first modifiers decorators) := by
  unfold memberRest
  refine .onTest (.onValue fun key => inferInstance)
    (.onValue fun key => .onValue fun _ => .onEither fun optional => ?_)
  refine .onTest inferInstance (.onValue fun broken => .onValue fun star => .onValue fun ends =>
    .onValue fun ends => ?_)
  refine .onBranch inferInstance (.onValue fun broken =>
    .onBranch ?async (.onBranch ?accessor ?named))
  case async =>
    exact .onValue fun generator => .onValue fun key => .onValue fun _ =>
      .onEither fun optional => inferInstance
  case accessor => exact .onValue fun key => inferInstance
  case named => exact .onValue fun broken => .onBranch (.onValue fun key =>
    inferInstance) inferInstance

instance steady_classMember : Steady text (classMember rec) := by
  unfold classMember
  refine .onStart fun first => .onValue fun decorators => .onValue fun modifiers =>
    .onValue fun here => ?_
  refine .onValue fun next => .onBranch (.onNext (.onValue fun body => inferInstance))
    (.onValue fun typed => ?_)
  exact .onValue fun listed => .onBranch inferInstance inferInstance

instance steady_heritage : Steady text (heritage rec) := by
  unfold heritage
  infer_instance

instance steady_heritages : Steady text (heritages rec) := by
  unfold heritages
  infer_instance

theorem reads_classRest {isAbstract nameless : Bool} [Fine text decorators] :
    Steady text (classRest rec isAbstract nameless decorators) ∧
      Consumes text (classRest rec isAbstract nameless decorators) := by
  unfold classRest
  refine Consumes.andThen (.onStart fun nameStart => .onToken fun token => ?_)
  extract_lets body named
  have body (name : {name : Tree // Content.Sound text name}) : Steady text (body name.val) := by
    refine .onStart fun classStart => .onValue fun typeParams => .onValue fun _ => ?_
    extract_lets body
    have body (parents : {parents : Tree × Tree // Content.Sound text parents}) :
        Steady text (body parents.val) := by
      refine .onValue fun _ => .onEither fun interfaces =>
        .onNext (.onValue fun members => .onNext ?_)
      exact .onValue fun body => inferInstance
    refine .onBranch (.onValue fun parent => .onValue fun _ => ?_) (.onValue body)
    exact .onBranch (.onValue fun types => .onValue body) (.onValue fun types => .onValue body)
  have named (isNamed : {isNamed : Bool // Content.Sound text isNamed}) :
      Steady text (named isNamed.val) :=
    .onBranch (.onValue fun name => .onValue body) (.onBranch (.onValue body) inferInstance)
  split
  · exact .onValue fun heads => .onValue fun typed => .onValue named
  · exact .onValue named

instance steady_classRest {isAbstract nameless : Bool} [Fine text decorators] :
    Steady text (classRest rec isAbstract nameless decorators) :=
  reads_classRest.1

instance consumes_classRest {isAbstract nameless : Bool} [Fine text decorators] :
    Consumes text (classRest rec isAbstract nameless decorators) :=
  reads_classRest.2

instance lays_classExpression {mark : Nat} [Fine text decorators] :
    Lays text first (.upon mark) (classExpression rec first decorators) := by
  unfold classExpression
  infer_instance

instance steady_classDeclaration {isAbstract nameless declared : Bool} [Fine text decorators] :
    Steady text (classDeclaration rec first isAbstract nameless declared decorators) := by
  unfold classDeclaration
  infer_instance

end Classes

end Phrasebook.Script.Grammar
