import Phrasebook.Proofs.Script.Laid
import Phrasebook.Script.Grammar.Type

/-!
The productions of names and of types keep to the text.
-/

namespace Phrasebook.Script.Grammar

open Phrasebook.Script.Parser

section Names

variable {text : List Char} {rec : Productions} {first : Nat}

instance quiet_atVariable : Quiet atVariable := by
  unfold atVariable
  infer_instance

instance quiet_wordBefore {word : String} {test : Token → Bool} : Quiet (wordBefore word test) := by
  unfold wordBefore
  infer_instance

instance steady_anyWord : Steady text anyWord := by
  unfold anyWord
  refine .onToken fun token => ?_
  split <;> infer_instance

instance steady_declaredName : Steady text declaredName := by
  unfold declaredName
  refine .onToken fun token => ?_
  split <;> infer_instance

instance consumes_declaredName : Consumes text declaredName := by
  unfold declaredName
  refine @Consumes.bind_quiet _ _ _ _ _ _ fun token => ?_
  split <;> infer_instance

instance steady_accessName : Steady text accessName := by
  unfold accessName
  refine .onStart fun first => .onToken fun token => ?_
  split <;> infer_instance

instance steady_modifier? {words : List String} : Steady text (modifier? words) := by
  unfold modifier?
  refine .onToken fun token => ?_
  split <;> infer_instance

variable [SoundProductions text rec]

instance steady_computedName : Steady text (computedName rec first) := by
  unfold computedName
  refine .onNext (.onValue fun expression => .onValue fun _ => .onEither fun more => ?_)
  infer_instance

instance steady_propertyName : Steady text (propertyName rec) := by
  unfold propertyName
  refine .onStart fun first => .onToken fun token => ?_
  split <;> infer_instance

instance steady_memberName : Steady text (memberName rec) := by
  unfold memberName
  refine .onToken fun token => ?_
  split <;> infer_instance

end Names

section Types

variable {text : List Char} {rec : Productions} {first : Nat}

instance quiet_atAngle : Quiet atAngle := by
  unfold atAngle
  infer_instance

instance steady_entityName : Steady text entityName := by
  unfold entityName
  refine .onStart fun first => .onValue fun name => ?_
  infer_instance

instance steady_typeSemicolon : Steady text typeSemicolon := by
  unfold typeSemicolon
  infer_instance

instance steady_signMark? : Steady text signMark? := by
  unfold signMark?
  infer_instance

instance steady_signed? {eat : Parser Bool} [Steady text eat] : Steady text (signed? eat) := by
  unfold signed?
  infer_instance

instance quiet_startsMappedType : Quiet startsMappedType := by
  unfold startsMappedType
  infer_instance

instance quiet_startsFunctionType : Quiet startsFunctionType := by
  unfold startsFunctionType
  infer_instance

instance steady_openAngle : Steady text openAngle := by
  have half : Steady text (do resumeAt ((← lexeme).start.drop 1)) := ⟨fun _ _ sound =>
    (outcome_resumeAt sound (Cursor.onward_drop 1 _)).mono fun _ _ _ _ _ => trivial⟩
  unfold openAngle
  refine .onToken fun token => ?_
  split
  · infer_instance
  · exact half
  · infer_instance

instance consumes_openAngle : Consumes text openAngle :=
  .of_outcome fun c s sound => by
    have behind (n : Nat) : Outcome text s (fun _ t => s.Past t)
        (resumeAt (s.lexeme.start.drop n) c s) :=
      (outcome_resumeAt sound (Cursor.onward_drop n _)).mono fun _ _ _ _ past => past.1
    unfold openAngle
    rw [run_of_ok (x := token) (a := s.lexeme.token) (t := s) rfl rfl]
    cases s.lexeme.token with
    | mark m =>
      cases m with
      | less => exact (Steady.outcome_advance sound).mono fun _ _ _ _ past => past.1
      | shiftLeft => exact behind 1
      | _ => exact Steady.outcome_unexpected sound
    | _ => exact Steady.outcome_unexpected sound

instance steady_literal {kind : Kind} [Fine.IsFalse kind.isLiteral] :
    Steady text (literal kind first) := by
  unfold literal
  infer_instance

variable [SoundProductions text rec]

instance steady_typeArguments : Steady text (typeArguments rec) := by
  unfold typeArguments
  infer_instance

instance consumes_typeArguments : Consumes text (typeArguments rec) := by
  unfold typeArguments
  infer_instance

instance steady_typeArguments? : Steady text (typeArguments? rec) := by
  unfold typeArguments?
  infer_instance

instance steady_typeParameter : Steady text (typeParameter rec) := by
  unfold typeParameter
  refine .onStart fun first => .onValue fun modifiers => .onValue fun name => ?_
  refine .onValue fun _ => .onEither fun constraint => .onValue fun _ => .onEither fun default => ?_
  infer_instance

instance steady_typeParameters : Steady text (typeParameters rec) := by
  unfold typeParameters
  infer_instance

instance steady_typeParameters? : Steady text (typeParameters? rec) := by
  unfold typeParameters?
  infer_instance

instance steady_annotation? : Steady text (annotation? rec) := by
  unfold annotation?
  infer_instance

instance steady_resultType : Steady text (resultType rec) := by
  unfold resultType
  refine .onStart fun first => .onOption (@Steady.attempt _ _ _ _ ?_) (fun _ => inferInstance) ?_
  · refine .onTest (.onNext (.onValue fun name => .onValue fun _ => .onEither fun part => ?_))
      inferInstance
    infer_instance
  refine .onOption (@Steady.attempt _ _ _ _ (.onToken fun token => ?_))
    (fun _ => inferInstance) inferInstance
  split <;> infer_instance

instance steady_signatureParameters : Steady text (signatureParameters rec) := by
  unfold signatureParameters
  refine .onStart fun _ =>
    .onNext (.onPart (@Steady.listUntil _ _ _ _ _ ?_) fun parameters sound => ?_)
  · refine .onStart fun first => .onPart inferInstance fun rest _ => .onBranch inferInstance ?_
    refine .onPattern fun target sound plain => .onResult fun optional _ =>
      .onResult fun type fine => ?_
    have : Fine text target := ⟨sound⟩
    have : Fine text type := ⟨fine⟩
    split
    · infer_instance
    · have : Fine.IsFalse (Kind.isLiteral ‹Kind›) := ⟨plain⟩
      have : Fine text ‹Tree› := ⟨sound.parts _ List.mem_cons_self⟩
      infer_instance
    · infer_instance
  · have : Fine text parameters := ⟨sound⟩
    infer_instance

instance steady_indexSignature? {modifiers : Modifiers} :
    Steady text (indexSignature? rec first modifiers) := by
  unfold indexSignature?
  refine .onTest (.onNext (.onStart fun place => .onValue fun name =>
    .onNext (.onValue fun key => ?_))) inferInstance
  refine .onValue fun parameter => .onNext (.onValue fun type => ?_)
  infer_instance

instance steady_signatureKey : Steady text (signatureKey rec) := by
  unfold signatureKey
  refine .onHere fun here => ?_
  split
  case h_1 token => exact .string (.inl rfl) token
  all_goals exact Steady.at inferInstance

instance steady_accessorSignature? : Steady text (accessorSignature? rec first) := by
  unfold accessorSignature?
  refine @Steady.attempt _ _ _ _ (.onValue fun _ => ?_)
  extract_lets signature
  have rest (accessor : AccessorKind) : Steady text (signature accessor) := by
    refine .onValue fun key => .onValue fun parameters => .onEither fun type => .onNext ?_
    infer_instance
  split
  · exact .onValue fun _ => rest _
  · exact .onNext (.onValue fun _ => rest _)

instance steady_callSignature {isConstructor : Bool} :
    Steady text (callSignature rec first isConstructor) := by
  unfold callSignature
  refine .onValue fun names => .onValue fun parameters => .onValue fun _ => .onEither fun type => ?_
  infer_instance

instance quiet_wordBeforeParens : Quiet typeMember.wordBeforeParens := by
  unfold typeMember.wordBeforeParens
  infer_instance

instance steady_typeMember : Steady text (typeMember rec) := by
  unfold typeMember
  refine .onStart fun first => .onTest inferInstance
    (.onTest inferInstance (.onValue fun readonly => ?_))
  refine .onOption inferInstance (fun _ => inferInstance) (.onEither fun ⟨accessor, fine⟩ => ?_)
  cases accessor with
  | some tree =>
    have : Fine text tree := ⟨fine tree rfl⟩
    infer_instance
  | none =>
    refine .onValue fun key => .onValue fun optional =>
      .onTest (.onValue fun names => ?_) (.onValue fun type => ?_)
    · exact .onValue fun parameters => .onValue fun _ => .onEither fun type => .onNext inferInstance
    · infer_instance

instance steady_typeMembers : Steady text (typeMembers rec) := by
  unfold typeMembers
  infer_instance

instance steady_mappedType : Steady text (mappedType rec) := by
  unfold mappedType
  refine .onStart fun first =>
    .onNext (.onValue fun readonly => .onNext (.onValue fun name => .onNext ?_))
  refine .onValue fun constraint => .onValue fun _ => .onEither fun renamed =>
    .onNext (.onValue fun optional => ?_)
  infer_instance

instance steady_tupleMember : Steady text (tupleMember rec) := by
  unfold tupleMember
  infer_instance

instance steady_importOptions : Steady text (importOptions rec) := by
  unfold importOptions
  refine .onNext
    (.onNext (.onNext (.onValue fun _ => .onCheck (.onValue fun attributes => .onCheck ?_))))
  infer_instance

instance steady_importType : Steady text (importType rec) := by
  unfold importType
  refine .onStart fun first => .onNext (.onNext (.onHere fun here => ?_))
  split
  · exact .string_bind (.inr rfl) ‹_› fun tree sound =>
      have : Fine text tree := ⟨sound⟩
      .onValue fun _ => .onEither fun attributes =>
        .onNext (.onValue fun _ => .onEither fun qualifier => inferInstance)
  · exact Steady.at inferInstance

/-- The chunks of a template are read from a place that the current token begins before. -/
theorem outcome_templateTypeParts (fuel : Nat) :
    ∀ {place : Cursor} {c : Context} {s : State}, s.Sound text → s.lexeme.start.Onward place →
    Outcome text s (fun parts _ => Content.Sound text parts)
      (templateTypeParts rec fuel place c s) := by
  induction fuel with
  | zero => exact fun sound _ => Steady.outcome (p := fail _ _) _ _ sound
  | succ fuel ih =>
    intro place c s sound onward
    unfold templateTypeParts
    cases read : readChunk (place.rest.length + 1) place.rest place.position (some []) with
    | error e => exact Steady.outcome (p := throw e) _ _ sound
    | ok chunk =>
      obtain ⟨inner, reads⟩ := reads_readChunk read
      have resumed := outcome_resumeAt (c := c) sound (onward.trans ⟨_, reads⟩)
      dsimp only
      cases chunk.ending with
      | backtick =>
        exact resumed.bind fun _ t reached _ _ => Steady.outcome (p := pure _) _ _ reached
      | expression =>
        refine resumed.bind fun _ t reached _ _ => @Steady.outcome _ _ _ _ ?_ c t reached
        refine .onResult fun type fine => .onResult fun closed _ => ?_
        have : Fine text type := ⟨fine⟩
        split
        case' isFalse => refine .onNext ?_
        all_goals
          refine .onLexeme fun here => ⟨fun c s sound begins => ?_⟩
          subst begins
          refine (ih sound sound.fits.onward).bind fun parts t reached _ fine => ?_
          have : Fine text parts := ⟨fine⟩
          exact Steady.outcome (p := pure _) _ _ reached

instance steady_primaryType : Steady text (primaryType rec) := by
  unfold primaryType
  refine .onStart fun first => .onToken fun token => ?_
  split
  case h_4 =>
    refine .onNext (.onStart fun digits => .onToken fun token => ?_)
    split <;> infer_instance
  case h_5 =>
    refine .onResult fun context _ => .onLexeme fun here => ⟨fun c s sound begins => ?_⟩
    subst begins
    refine (outcome_templateTypeParts context.limit sound sound.fits.onward).bind
      fun parts t reached _ fine => ?_
    have : Fine text parts := ⟨fine⟩
    exact Steady.outcome (p := node _ _ parts.2) _ _ reached
  case h_12 =>
    refine .onNext (.onValue fun _ => .onEither fun entity => .onValue fun _ =>
      .onEither fun arguments => ?_)
    infer_instance
  case h_13 =>
    refine .onValue fun next => .onBranch inferInstance (.onValue fun entity => ?_)
    exact .onValue fun _ => .onEither fun arguments => inferInstance
  all_goals infer_instance

instance steady_postfixType : Steady text (postfixType rec) := by
  unfold postfixType
  refine .onStart fun first => .onValue fun head => @Steady.loop _ _ _ _ _ (fun type => ?_) _
  refine .onValue fun _ => .onValue fun _ => .onBranch inferInstance (.onNext (.onTest ?_ ?_))
  · infer_instance
  · infer_instance

instance steady_inferType : Steady text (inferType rec first) := by
  unfold inferType
  infer_instance

instance steady_operatorType : Steady text (operatorType rec) := by
  unfold operatorType
  refine .onStart fun first => .onToken fun token => ?_
  split <;> infer_instance

instance steady_joined {kind : Kind} {mark : Mark} {operand : Parser Tree}
    [Fine.IsFalse kind.isLiteral] [Steady text operand] :
    Steady text (joined kind mark operand) := by
  unfold joined
  infer_instance

instance steady_unionType : Steady text (unionType rec) := by
  unfold unionType
  infer_instance

instance steady_functionType {isAbstract isConstructor : Bool} :
    Steady text (functionType rec isAbstract isConstructor first) := by
  unfold functionType
  infer_instance

instance steady_plainType : Steady text (plainType rec) := by
  unfold plainType
  exact .onStart fun first => .onTest inferInstance
    (.onTest inferInstance (.onTest inferInstance inferInstance))

instance steady_type : Steady text (type rec) := by
  unfold type
  refine .onStart fun first => .onValue fun checked => .onValue fun _ => .onValue fun _ =>
    .onTest ?_ inferInstance
  refine .onValue fun bound =>
    .onNext (.onValue fun consequent => .onNext (.onValue fun alternative => ?_))
  infer_instance

end Types

end Phrasebook.Script.Grammar
