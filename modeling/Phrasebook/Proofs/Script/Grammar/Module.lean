import Phrasebook.Proofs.Script.Grammar.Statement
import Phrasebook.Script.Grammar.Module

/-!
The productions of modules keep to the text.
-/

namespace Phrasebook.Script.Grammar

open Phrasebook.Script.Parser

variable {text : List Char} {rec : Productions} {first : Nat} {decorators : List Tree}

instance steady_moduleSource : Steady text moduleSource := by
  unfold moduleSource
  refine .onHere fun here => ?_
  split
  · exact .string (.inr rfl) ‹_›
  · exact Steady.at inferInstance

instance steady_listedName : Steady text listedName := by
  unfold listedName
  refine .onStart fun first => .onToken fun token => ?_
  split <;> infer_instance

instance quiet_isWordNext : Quiet isWordNext := by
  unfold isWordNext
  infer_instance

instance quiet_listedType : Quiet listedType := by
  unfold listedType
  refine .onResult fun typed => .onResult fun here =>
    .onBranch (.onResult fun next => ?_) inferInstance
  refine .onBranch inferInstance ?_
  split <;> infer_instance

theorem steady_mayAdvance {α : Type} [Content α] {p : Prop} [Decidable p] {q : Parser α}
    (rest : Steady text q) : Steady text (if p then do advance; q else q) := by
  split
  · exact .onNext rest
  · exact rest

instance steady_importSpecifier : Steady text importSpecifier := by
  unfold importSpecifier
  refine .onStart fun first => .onResult fun typeOnly _ => steady_mayAdvance ?_
  refine .onResult fun outer sound => .onResult fun renamed _ => ?_
  have : Fine text outer := ⟨sound⟩
  dsimp only
  split
  · infer_instance
  · split <;> infer_instance

instance steady_importEquals {name : String} {exported typeOnly : Bool} :
    Steady text (importEquals first name exported typeOnly) := by
  unfold importEquals
  infer_instance

instance steady_importList : Steady text importList := by
  unfold importList
  infer_instance

instance quiet_marksTypeImport : Quiet marksTypeImport := by
  unfold marksTypeImport
  infer_instance

instance steady_exportSpecifier : Steady text exportSpecifier := by
  unfold exportSpecifier
  refine .onStart fun first => .onResult fun typeOnly _ => steady_mayAdvance ?_
  exact .onValue fun inner => .onValue fun _ => .onEither fun outer => inferInstance

variable [SoundProductions text rec]

instance steady_attributes? : Steady text (attributes? rec) := by
  unfold attributes?
  infer_instance

instance steady_fromClause : Steady text (fromClause rec) := by
  unfold fromClause
  infer_instance

instance steady_importRest : Steady text (importRest rec first) := by
  unfold importRest
  refine .onToken fun token => ?_
  split
  · exact .onValue fun source => .onValue fun attributes => inferInstance
  · refine .onValue fun typed => .onValue fun named => ?_
    extract_lets rest
    have rest (typeOnly : {typeOnly : Bool // Content.Sound text typeOnly}) :
        Steady text (rest typeOnly.val) := by
      refine .onStart fun nameStart => .onValue fun _ => .onEither fun name? => ?_
      extract_lets listed
      have listed (defaults : {defaults : List Tree // Content.Sound text defaults}) :
          Steady text (listed defaults.val) :=
        .onValue fun names => .onValue fun source => inferInstance
      obtain ⟨_ | name, _⟩ := name?
      · exact .onValue listed
      · refine .onValue fun typed => .onValue fun assigned =>
          .onBranch inferInstance (.onValue fun specifier => ?_)
        exact .onValue fun _ => .onCheck (.onValue listed)
    exact .onBranch (.onValue fun marks => steady_mayAdvance (.onValue rest)) (.onValue rest)

instance steady_exportList {typeOnly : Bool} : Steady text (exportList rec first typeOnly) := by
  unfold exportList
  refine .onStart fun listStart =>
    .onTest (.onTest (.onValue fun outer => .onValue fun specifier => ?_) ?_) (.onNext ?_)
  · exact .onValue fun source => inferInstance
  · exact .onValue fun source => inferInstance
  · exact .onValue fun specifiers => .onTest (.onValue fun source => inferInstance) inferInstance

instance steady_ownDecorators {inner : Nat} :
    Steady text (exportDefault.decorators? rec inner) := by
  unfold exportDefault.decorators?
  infer_instance

instance steady_exportDefault [Fine text decorators] :
    Steady text (exportDefault rec first decorators) := by
  unfold exportDefault
  refine .onStart fun inner => .onValue fun _ => .onEither fun isAbstract => .onValue fun isAsync =>
    .onValue fun own => ?_
  refine .onBranch (.onNext (.onValue fun tree => inferInstance))
    (.onValue fun typed => .onValue fun named => ?_)
  refine .onBranch (.onNext (.onValue fun tree => inferInstance))
    (.onTest (.onValue fun tree => inferInstance) ?_)
  refine .onBranch (.onNext (.onValue fun tree => inferInstance))
    (.onTest (.onValue fun tree => inferInstance) ?_)
  exact .onValue fun tree => inferInstance

instance steady_typedExport? [Fine text decorators] :
    Steady text (typedExport? rec first decorators) := by
  unfold typedExport?
  refine .onResult fun typed _ => .onBranch ?_ inferInstance
  refine .onStart fun inner => .onOption inferInstance (fun tree => inferInstance)
    (.onToken fun token => ?_)
  extract_lets rest
  have rest (declared : {declared : Option Tree // Content.Sound text declared}) :
      Steady text (rest declared.val) := by
    obtain ⟨_ | tree, sound⟩ := declared
    · refine .onTest (.onValue fun typeOnly =>
        steady_mayAdvance (.onValue fun name => inferInstance)) ?_
      exact .onTest (.onValue fun tree => inferInstance)
        (.onTest (.onNext (.onValue fun name => inferInstance)) inferInstance)
    · have : Fine text tree := ⟨sound tree rfl⟩
      exact .onValue fun tree => inferInstance
  split
  · exact .onValue rest
  · exact .onValue rest

instance steady_exportRest [Fine text decorators] :
    Steady text (exportRest rec first decorators) := by
  unfold exportRest
  refine .onOption inferInstance (fun tree => inferInstance)
    (.onValue fun _ => .onEither fun typeOnly => ?_)
  refine .onTest inferInstance (.onValue fun own => .onStart fun inner =>
    .onBranch inferInstance ?_)
  refine .onTest (.onValue fun tree => inferInstance)
    (.onTest (.onNext (.onValue fun tree => inferInstance)) ?_)
  refine .onTest (.onValue fun tree => inferInstance)
    (.onValue fun typed => .onValue fun named => .onValue fun next => ?_)
  refine .onBranch (.onNext (.onNext (.onValue fun tree => inferInstance)))
    (.onTest ?_ inferInstance)
  exact .onValue fun tree => inferInstance

instance steady_moduleItem : Steady text (moduleItem rec) := by
  unfold moduleItem
  refine @steady_asStatement _ _ _ _ (.onStart fun first => .onValue fun decorators =>
    .onTest inferInstance ?_)
  refine .onTest (.onNext inferInstance) (.onTest (.onValue fun typed => ?_) inferInstance)
  exact .onBranch inferInstance (.onNext inferInstance)

end Phrasebook.Script.Grammar
