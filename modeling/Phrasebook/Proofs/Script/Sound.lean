import Phrasebook.Proofs.Script.Grammar.Module
import Phrasebook.Script.Parse

/-!
What is read of a script lies in it: every string stands in its source from the opening quote on,
every template literal from one backtick to the other with one chunk more than it has expressions,
and every expression in a template literal lies between two places of the source.
-/

namespace Phrasebook.Script

open Grammar Phrasebook.Script.Parser

variable {text : List Char}

/-- Productions made of sound ones are sound. -/
theorem sound_produce {rec : Productions} [SoundProductions text rec] :
    SoundProductions text (produce rec) where
  moduleItem := steady_moduleItem
  statement _ := steady_statement
  binding := patterned_binding
  type := steady_type
  typeOperand := steady_operatorType
  assignment _ := lays_assignment
  unary _ := lays_unary
  operators _ _ _ := lays_operators
  operatorsOf {left} _ sound :=
    have : Fine text left := ⟨sound⟩
    steady_operators
  access _ := lays_access
  callee _ := lays_callee
  element _ := lays_element

/-- Productions that may not be nested at all have no result. -/
theorem outcome_tooDeep {goal : Goal} {P : Tree → State → Prop} {c : Context} {s : State}
    (sound : s.Sound text) : Outcome text s P (productions 0 goal c s) :=
  ⟨sound, .refl s⟩

theorem sound_productions : ∀ depth, SoundProductions text (productions depth)
  | 0 => {
    moduleItem := ⟨fun _ _ => outcome_tooDeep⟩
    statement := fun _ => ⟨fun _ _ => outcome_tooDeep⟩
    binding := ⟨fun _ _ => outcome_tooDeep⟩
    type := ⟨fun _ _ => outcome_tooDeep⟩
    typeOperand := ⟨fun _ _ => outcome_tooDeep⟩
    assignment := fun _ => ⟨fun _ _ sound _ _ => outcome_tooDeep sound⟩
    unary := fun _ => ⟨fun _ _ sound _ _ => outcome_tooDeep sound⟩
    operators := fun _ _ _ => ⟨fun _ _ sound _ _ => outcome_tooDeep sound⟩
    operatorsOf := fun _ _ => ⟨fun _ _ => outcome_tooDeep⟩
    access := fun _ => ⟨fun _ _ sound _ _ => outcome_tooDeep sound⟩
    callee := fun _ => ⟨fun _ _ sound _ _ => outcome_tooDeep sound⟩
    element := fun _ => ⟨fun _ _ sound _ _ => outcome_tooDeep sound⟩ }
  | depth + 1 =>
    have := sound_productions depth
    sound_produce

theorem steady_moduleItems (depth : Nat) : Steady text (moduleItems depth) := by
  have : SoundProductions text (productions depth) := sound_productions depth
  unfold moduleItems
  infer_instance

theorem onward_skipInterpreter (cs : List Char) : Cursor.Onward ⟨cs, 0⟩ (skipInterpreter cs) := by
  unfold skipInterpreter
  split
  · rename_i rest
    exact .trans (b := ⟨rest, 2⟩) ⟨['#', '!'], rfl, rfl⟩ (Cursor.onward_takeWhile ..)
  · exact .refl _

theorem Edge.zero : Edge text 0 := ⟨_, .refl _, rfl⟩

theorem dropByteOrderMark_of_unmarked (unmarked : text.head? ≠ some '\ufeff') :
    dropByteOrderMark text = text := by
  unfold dropByteOrderMark
  split
  · exact absurd rfl unmarked
  · rfl

theorem source_of_parse {dialect : Dialect} {script : List Char} {document : Document}
    (parsed : parse dialect script = .ok document) :
    document.source = dropByteOrderMark script := by
  unfold parse at parsed
  dsimp only at parsed
  split at parsed
  · obtain rfl := Except.ok.inj parsed
    rfl
  · cases parsed

/-- Everything read of a script is sound in any text that has what is read of it at its place. -/
theorem sound_of_parse_from {dialect : Dialect} {script : List Char} {document : Document}
    (parsed : parse dialect script = .ok document)
    (reaches : Cursor.Onward ⟨text, 0⟩ (skipInterpreter (dropByteOrderMark script))) :
    ∀ item ∈ document.items, item.Sound text := by
  unfold parse at parsed
  dsimp only at parsed
  generalize dropByteOrderMark script = source at parsed reaches
  have onward := reaches.trans (onward_nextLexeme (skipInterpreter source) true)
  have fits := fits_nextLexeme (skipInterpreter source) true
  generalize nextLexeme (skipInterpreter source) true = lexed at parsed onward fits
  obtain ⟨lexeme, comments⟩ := lexed
  have outcome := (steady_moduleItems (16 * (source.length + 2))).outcome
    { dialect := dialect, limit := source.length + 2 } ⟨lexeme, 0, comments⟩
    ⟨onward, fits, .zero, Nat.zero_le _⟩
  split at parsed
  · rename_i items state read
    rw [show moduleItems _ _ _ = _ from read] at outcome
    obtain rfl := Except.ok.inj parsed
    exact outcome.2.2
  · cases parsed

/-- Everything read of a script is sound in its source. -/
theorem sound_of_parse {dialect : Dialect} {script : List Char} {document : Document}
    (parsed : parse dialect script = .ok document) :
    document.source = dropByteOrderMark script ∧
    ∀ item ∈ document.items, item.Sound document.source := by
  have same := source_of_parse parsed
  exact ⟨same, sound_of_parse_from parsed (same ▸ onward_skipInterpreter document.source)⟩

end Phrasebook.Script
