import Phrasebook.Proofs.Script.Grammar.Type
import Phrasebook.Script.Grammar.Access

/-!
The productions of what follows an expression keep to the text, and so do template literals and
markup elements.
-/

namespace Phrasebook.Script.Grammar

open Phrasebook.Script.Parser

section Accesses

variable {text : List Char} {rec : Productions} {first : Nat}

instance quiet_endsTypeArguments : Quiet endsTypeArguments := by
  unfold endsTypeArguments
  refine .onResult fun listed => .onBranch inferInstance
    (.onResult fun broken => .onBranch inferInstance ?_)
  refine .onResult fun token => ?_
  split <;> infer_instance

variable [SoundProductions text rec]

instance lays_expression : Lays text first .here (expression rec) where
  outcome c s sound edge holds := by
    have each (s : State) (sound : s.Sound text) : Outcome text s
        (fun found t => Content.Sound text found ∧ (found ≠ none → s.Past t))
        ((do if ← eatMark .comma then return some (← rec .assignment) else return none) c s) :=
      (Eats.outcome c s sound).bind fun eaten t reached _ how => by
        cases eaten with
        | false => exact .ok reached ⟨nofun, fun found => absurd rfl found⟩
        | true =>
          refine (Steady.outcome c t reached).bind fun tree u done onward fine =>
            .ok done ⟨?_, fun _ => ?_⟩
          · exact fun _ member => Option.some.inj member ▸ fine
          · exact how.onward onward
    unfold expression
    rw [run_of_ok (a := first) (t := s) (by rw [← holds]; rfl) rfl]
    refine (Lays.outcome c s sound edge holds).bind fun head t reached onward laid => ?_
    refine (outcome_collectFrom each c.limit reached).bind fun more u done further fine => ?_
    split
    · exact .ok done ⟨laid.1, Layout.mono further.start laid.2⟩
    · rename_i filled
      have past : s.Past u := onward.past (fine.2 fun empty => filled (by rw [empty]; rfl))
      have : Fine text head := ⟨laid.1.sound⟩
      have : Fine text more := ⟨fine.1⟩
      have holds : (Phase.past first).Holds first u := ⟨Nat.le_refl _, holds ▸ past⟩
      exact Lays.outcome c u done edge holds

instance lays_spreadOrExpression : Lays text first .here (spreadOrExpression rec) := by
  unfold spreadOrExpression
  infer_instance

instance steady_expression : Steady text (expression rec) :=
  Lays.steady_of_here fun _ => inferInstance

instance steady_spreadOrExpression : Steady text (spreadOrExpression rec) :=
  Lays.steady_of_here fun _ => inferInstance

instance steady_callArgument {lastComma : Bool} : Steady text (callArgument rec lastComma) := by
  unfold callArgument
  infer_instance

instance steady_callArguments {lastComma : Bool} : Steady text (callArguments rec lastComma) := by
  unfold callArguments
  infer_instance

instance consumes_callArguments {lastComma : Bool} :
    Consumes text (callArguments rec lastComma) := by
  unfold callArguments
  infer_instance

/-- What lies between the backticks of a template literal: its expressions, and one chunk more. -/
structure Between (text : List Char) (place : Cursor) (stop : Nat) (chunks : List TemplateChunk)
    (parts : List Tree) : Prop where
  count : chunks.length = parts.length + 1
  sound : ∀ part ∈ parts, part.Sound text
  lie : ∀ part ∈ parts, Lies text part.span
  reads : ∃ inner b, Cursor.Reads place (inner ++ ['\x60']) b ∧ b.position = stop

theorem outcome_templateParts {tagged : Bool} (fuel : Nat) :
    ∀ {place : Cursor} {c : Context} {s : State}, s.Sound text → s.lexeme.start.Onward place →
    Outcome text s (fun parts t => Between text place t.lastStop parts.1 parts.2)
      (templateParts rec tagged fuel place c s) := by
  induction fuel with
  | zero => exact fun sound _ => ⟨sound, .refl _⟩
  | succ fuel ih =>
    intro place c s sound onward
    unfold templateParts
    cases read : readChunk (place.rest.length + 1) place.rest place.position (some []) with
    | error e => exact ⟨sound, .refl _⟩
    | ok chunk =>
      obtain ⟨inner, reads⟩ := reads_readChunk read
      have resumed := outcome_resumeAt (c := c) sound (onward.trans ⟨_, reads⟩)
      dsimp only
      split
      · exact ⟨sound, .refl _⟩
      · cases ending : chunk.ending with
        | backtick =>
          rw [ending] at reads
          refine resumed.bind fun _ t reached _ stopped =>
            .ok reached ⟨rfl, ?_, ?_, _, _, reads, stopped.2.symm⟩
          · exact fun _ member => nomatch member
          · exact fun _ member => nomatch member
        | expression =>
          rw [ending] at reads
          refine resumed.bind fun _ t reached _ stopped => ?_
          have inside : Lays text t.lexeme.start.position .here (withIn (expression rec)) :=
            inferInstance
          refine (inside.outcome c t reached reached.edge rfl).bind
            fun part u read further laid => ?_
          obtain ⟨closed, looked⟩ := Quiet.isMark.run c u
          rw [run_of_ok looked rfl]
          cases closed with
          | false =>
            exact (Steady.outcome_unexpected read).bind fun _ _ _ _ (never : False) => never.elim
          | true =>
            rw [if_pos rfl, run_of_ok (a := u.lexeme) (t := u) rfl rfl]
            refine (ih read read.fits.onward).bind fun more v done onto between => ?_
            obtain ⟨behind, b, moved, stop⟩ := between.reads
            -- The expression stands between the two places where the text of the literal is read.
            have apart : chunk.stop.Onward u.lexeme.stop := by
              refine .trans (.of_le (sound.place.trans (onward.trans ⟨_, reads⟩)) read.place ?_)
                read.fits.onward
              rw [← stopped.2]
              exact Nat.le_trans reached.behind further.start
            obtain ⟨expression, apart⟩ := apart
            refine .ok done
              ⟨?_, ?_, ?_, inner ++ ['$', '\x7b'] ++ expression ++ behind, b, ?_, stop⟩
            · simp [between.count]
            · exact List.forall_mem_cons.mpr ⟨laid.1.sound, between.sound⟩
            · exact List.forall_mem_cons.mpr ⟨laid.1.lies, between.lie⟩
            · have whole := (reads.append apart).append moved
              simpa [ChunkEnd.marks] using whole

/-- A template literal at the current token. -/
theorem outcome_template {tagged : Bool} {c : Context} {s : State} (sound : s.Sound text)
    (here : s.lexeme.token = .mark .backtick) :
    Outcome text s (fun tree t => Layout.Reached text s.lexeme.start.position tree t ∧ s.Past t)
      (template rec tagged c s) := by
  unfold template
  rw [run_of_ok (a := s.lexeme.start.position) (t := s) rfl rfl,
    run_of_ok (x := read) (a := c) (t := s) rfl rfl, run_of_ok (a := s.lexeme) (t := s) rfl rfl]
  refine (outcome_templateParts c.limit sound sound.fits.onward).bind
    fun parts t reached _ between => ?_
  obtain ⟨inner, b, moved, stop⟩ := between.reads
  have opening := sound.fits.backtick here
  have past : s.Past t := by
    rw [State.Past, ← stop]
    exact (Cursor.Onward.trans ⟨_, opening⟩ ⟨_, moved⟩).le
  have literal : Backticked text ⟨s.lexeme.start.position, t.lastStop⟩ :=
    ⟨inner, s.lexeme.start, b, sound.place, opening.append moved, by rw [stop]⟩
  exact .ok reached
    ⟨⟨⟨.template literal between.count between.sound between.lie, Nat.le_refl _, sound.edge,
    reached.last, past⟩, Nat.le_trans past reached.behind⟩, past⟩

variable {α : Type} [Content α] [Layout α] {phase : Phase}

/-- A template literal is read where a backtick stands. -/
instance lays_atBacktick {tagged : Bool} {f : Tree → Parser α} {other : Parser α}
    [literal : ∀ tree : {tree : Tree // Content.Sound text tree},
      Lays text first (.past (phase.mark first)) (f tree.val)]
    [left : Lays text first phase other] :
    Lays text first phase
      (do if ← isMark .backtick then (template rec tagged >>= f) else other) where
  outcome c s sound edge holds := by
    obtain ⟨taken, looked, here⟩ := run_isMark .backtick c s
    rw [run_of_ok looked rfl]
    cases taken with
    | true =>
      refine (outcome_template sound (here rfl)).bind fun tree t reached onward laid => ?_
      exact (literal ⟨tree, laid.1.1.sound⟩).outcome c t reached edge (holds.past sound laid.2)
    | false => exact left.outcome c s sound edge holds

instance tentative_typedSubscript? {noCall : Bool} {head : Tree} :
    Tentative (typedSubscript? rec noCall head) := by
  unfold typedSubscript?
  infer_instance

variable {head : {tree : Tree // Layout.Laid text first tree}} {noCall noIndex : Bool}

instance lays_typedSubscript? : Lays text first (.upon head.val.span.start)
    (typedSubscript? rec noCall head.val) := by
  unfold typedSubscript?
  dsimp only
  infer_instance

instance lays_subscript? : Lays text first (.upon head.val.span.start)
    (subscript? rec noCall noIndex head.val) := by
  unfold subscript?
  refine .onResult fun typed => .onResult fun broken => .onResult fun negated =>
    .onBranch inferInstance ?_
  refine .onResult fun typed => .onResult fun listed =>
    .onPossible (fun tree => Lays.pure) (.onEaten ?_ ?_)
  · refine .onResult fun indexed =>
      .onBranch (.onValue fun _ => .onValue fun inner => inferInstance) ?_
    refine .onResult fun called =>
      .onBranch (.onResult fun typed => .onValue fun arguments => inferInstance) ?_
    refine .onResult fun typed => .onResult fun listed =>
      .onBranch (.onValue fun types => inferInstance) ?_
    exact .onBranch (.onValue fun name => inferInstance) (.onEaten inferInstance inferInstance)
  · refine .onResult fun indexed =>
      .onBranch (.onRead fun _ => .onValue fun inner => inferInstance) ?_
    refine .onResult fun called =>
      .onBranch (.onResult fun typed => .onRead fun arguments => inferInstance) ?_
    exact .onResult fun typed => .onResult fun listed =>
      .onBranch (.onRead fun types => inferInstance) inferInstance

instance lays_subscripts : Lays text first (.upon head.val.span.start)
    (subscripts rec noCall noIndex head.val) := by
  unfold subscripts
  refine @Lays.loop _ _ _ _ fun head => ?_
  have access : Lays text first (.upon head.val.span.start) (do
      if isHead .super head.val then
        let admitted ← isOneOf
          (if noCall then [.dot, .openBracket] else [.dot, .openBracket, .openParen])
        unless admitted do unexpected
      subscript? rec noCall noIndex head.val) :=
    .onBranch (.onResult fun admitted => .onExpected inferInstance) inferInstance
  exact .onBranch (.onResult fun called => .onBranch .unexpected_bind access) access

end Accesses

section Elements

variable {text : List Char} {rec : Productions} {first : Nat}

instance steady_tagWord : Steady text tagWord := by
  unfold tagWord
  refine .onToken fun token => ?_
  split
  · refine .onLexeme fun here => ⟨fun c s sound begins => ?_⟩
    subst begins
    exact (outcome_resumeAt sound (Cursor.onward_takeWhile ..)).bind fun _ t reached _ _ =>
      .ok reached trivial
  · infer_instance

/-- A text between quotes, from a place behind the beginning of the current token. -/
theorem outcome_quotedText {quote : Char} {rest : List Char} {position : Nat}
    {c : Context} {s : State} (narrow : quote.utf8Size = 1) (sound : s.Sound text)
    (onward : s.lexeme.start.Onward ⟨rest, position⟩) :
    Outcome text s (fun _ _ => True) (quotedText quote rest position c s) := by
  unfold quotedText
  have onward := onward.trans (Cursor.onward_takeWhile (· != quote) rest position)
  have stops := @Cursor.stops_takeWhile (· != quote) rest position
  generalize Cursor.takeWhile (· != quote) rest position = taken at onward stops
  obtain ⟨inner, ⟨_ | ⟨q, after⟩, stop⟩⟩ := taken
  · exact ⟨sound, .refl _⟩
  · obtain rfl : q = quote := by simpa using stops rfl
    have behind := Cursor.reads_cons q after stop
    rw [narrow] at behind
    exact (outcome_resumeAt sound (onward.trans ⟨_, behind⟩)).bind fun _ _ reached _ _ =>
      .ok reached trivial

theorem steadyAt_quotedText {here : Lexeme} {quote : Char} {rest : List Char}
    (narrow : quote.utf8Size = 1) (spelled : here.start.rest = quote :: rest) :
    SteadyAt text here (do
      let text ← quotedText quote rest (here.start.position + 1)
      node (.attributeText text) here.start.position []) where
  outcome c s sound begins := by
    subst begins
    have behind : s.lexeme.start.Onward ⟨rest, s.lexeme.start.position + 1⟩ :=
      ⟨[quote], spelled, by simp [Text.byteLength, narrow]⟩
    exact (outcome_quotedText narrow sound behind).bind fun _ _ reached _ _ =>
      Steady.node.outcome _ _ reached

instance steady_mismatch {α : Type} [Content α] : Steady text (mismatch : Parser α) := by
  unfold mismatch
  infer_instance

instance steady_elementName : Steady text elementName := by
  unfold elementName
  exact .onValue fun head => .onTest inferInstance (.onValue fun more => inferInstance)

variable [SoundProductions text rec]

instance steady_attributeValue : Steady text (attributeValue rec) := by
  unfold attributeValue
  refine .onLexeme fun here => ?_
  dsimp only
  split
  · exact steadyAt_quotedText rfl ‹_›
  · exact steadyAt_quotedText rfl ‹_›
  · exact Steady.at inferInstance
  · exact Lays.at inferInstance
  · exact Steady.at inferInstance

instance steady_tagAttribute : Steady text (tagAttribute rec) := by
  unfold tagAttribute
  refine .onStart fun first => .onTest (.onNext (.onValue fun inner => inferInstance))
    (.onValue fun name => ?_)
  refine .onValue fun _ => .onBranch (.onValue fun tail => .onValue fun name => ?_)
    (.onValue fun name => ?_)
  all_goals exact .onValue fun _ => .onEither fun value => inferInstance

instance steady_container : Steady text (container rec first) := by
  unfold container
  have closed (inner : {inner : Tree // Content.Sound text inner}) : Steady text (do
      unless ← isMark .closeBrace do unexpected
      return .node .container ⟨first, (← lexeme).stop.position⟩ [inner.val] : Parser Tree) :=
    .onValue fun _ => inferInstance
  exact .onTest (.onValue closed) (.onTest (.onValue fun _ => .onValue closed) (.onValue closed))

/-- Children lie nowhere in particular. -/
instance layout_children : Layout (List Tree × Option (List String)) :=
  ⟨fun text _ parts => Content.Sound text parts, fun _ _ => True, id, fun _ => id⟩

instance isLaid_children {mark : Nat} {parts : List Tree × Option (List String)}
    [fine : Fine text parts] : IsLaid text first mark parts :=
  ⟨fun _ _ => ⟨fine.sound, trivial⟩⟩

/-- Children are read from a place that the current token begins before. -/
theorem steadyAt_children (fuel : Nat) :
    ∀ {here : Lexeme} {place : Cursor}, here.start.Onward place → SteadyAt text here
      (children rec fuel place) := by
  induction fuel with
  | zero => exact fun _ => Steady.at Steady.fail
  | succ fuel ih =>
    intro here place onward
    unfold children
    have onward := onward.trans
        (Cursor.onward_takeWhile (fun c => c != '<' && c != '\x7b') place.rest place.position)
    generalize Cursor.takeWhile (fun c => c != '<' && c != '\x7b') place.rest
      place.position = taken at onward ⊢
    obtain ⟨plain, stop⟩ := taken
    have next {phase : Phase} [phase.Stable]
        {f : List Tree × Option (List String) → Parser (List Tree × Option (List String))}
        [∀ parts : {parts : List Tree × Option (List String) // Content.Sound text parts},
          Lays text stop.position phase (f parts.val)] :
        Lays text stop.position phase
            (do let here ← lexeme; let parts ← children rec fuel here.stop; f parts) :=
      Lays.onStop ih
    have behind {c : Char} {rest : List Char} (narrow : c.utf8Size = 1)
      (spelled : stop.rest = c :: rest) :
        stop.Onward ⟨rest, stop.position + 1⟩ := ⟨[c], spelled, by simp [Text.byteLength, narrow]⟩
    dsimp only
    split
    · exact .resumed onward (behind rfl ‹_›) inferInstance
    · refine .resumed onward (behind rfl ‹_›) (.onEaten (.onResult fun ended => ?_) inferInstance)
      exact .onEither fun name => inferInstance
    · exact .resumed onward (.refl _) inferInstance

/-- Children and what follows them. -/
theorem lays_onChildren {α : Type} [Content α] [Layout α] {phase : Phase}
    [phase.Stable] {fuel : Nat} {f : List Tree × Option (List String) → Parser α}
    (rest : ∀ parts : {parts : List Tree × Option (List String) // Content.Sound text parts},
      Lays text first phase (f parts.val)) :
    Lays text first phase
      (do let here ← lexeme; let parts ← children rec fuel here.stop; f parts) :=
  Lays.onStop (steadyAt_children fuel)

instance lays_element : Lays text first (.past first) (element rec first) := by
  unfold element
  refine .onResult fun ended => .onBranch ?fragment
    (.onResult fun nameStart => .onValue fun name => ?_)
  case fragment => exact .onResult fun context => lays_onChildren fun parts => inferInstance
  refine .onValue fun nameTree => .onResult fun typed => .onEither fun types =>
    .onValue fun attributes => ?_
  refine .onEaten (.onResult fun closed => .onExpected inferInstance)
    (.onResult fun closed => .onExpected ?_)
  exact .onResult fun context => lays_onChildren fun parts => .onBranch inferInstance inferInstance

end Elements

end Phrasebook.Script.Grammar
