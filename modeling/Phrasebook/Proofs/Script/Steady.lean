import Phrasebook.Proofs.Script.Lexeme
import Phrasebook.Proofs.Script.Run

/-!
Parsers that keep to the text. A steady parser goes on from one place of the text to a later one,
whether it succeeds or fails, and the literals in its result are spelled where their spans say.
Whether a parser is steady follows from its parts, so it is found by instance resolution, one
production at a time.
-/

namespace Phrasebook.Script

open Cursor Text

/-- A position between two characters of a text. -/
def Edge (text : List Char) (n : Nat) : Prop := ∃ a, Onward ⟨text, 0⟩ a ∧ a.position = n

/-- A span between two places of a text. -/
structure Lies (text : List Char) (span : Span) : Prop where
  start : Edge text span.start
  stop : Edge text span.stop
  ordered : span.start ≤ span.stop

/-- A string stands at this span, from its opening quote on. -/
def Quoted (text : List Char) (span : Span) : Prop := ∃ q ∈ ['"', '\''], ∃ cs a b,
  Onward ⟨text, 0⟩ a ∧ Reads a (q :: cs) b ∧ Spells q cs b.rest ∧ span = ⟨a.position, b.position⟩

/-- A template literal stands at this span, from one backtick to another. -/
def Backticked (text : List Char) (span : Span) : Prop := ∃ inner a b,
  Onward ⟨text, 0⟩ a ∧ Reads a ('\x60' :: inner ++ ['\x60']) b ∧ span = ⟨a.position, b.position⟩

/-- The kinds of nodes whose source is taken as it stands. -/
@[reducible] def Kind.isLiteral : Kind → Bool
  | .string _ | .moduleSource _ | .template _ => true
  | _ => false

/-- The literals of a tree are spelled at their spans, and the expressions in them lie in the text.
-/
inductive Tree.Sound (text : List Char) : Tree → Prop
  | plain {kind : Kind} {span : Span} {parts : List Tree} : kind.isLiteral = false →
    (∀ part ∈ parts, Sound text part) → Sound text (.node kind span parts)
  | string {value : Option String} {span : Span} :
      Quoted text span → Sound text (.node (.string value) span [])
  | source {value : Option String} {span : Span} : Quoted text span →
    Sound text (.node (.moduleSource value) span [])
  | template {chunks : List TemplateChunk} {span : Span} {parts : List Tree} :
      Backticked text span →
    chunks.length = parts.length + 1 → (∀ part ∈ parts, Sound text part) →
    (∀ part ∈ parts, Lies text part.span) →
    Sound text (.node (.template chunks) span parts)

theorem Tree.Sound.parts {text : List Char} {kind : Kind} {span : Span} {parts : List Tree}
    (sound : Tree.Sound text (.node kind span parts)) : ∀ part ∈ parts, Tree.Sound text part := by
  cases sound with
  | plain _ inner => exact inner
  | string | source => exact fun _ member => nomatch member
  | template _ _ inner _ => exact inner

variable {text : List Char} {α β : Type} {s t u : State} {c : Context}

/-- The state of a parser at a token of the text. -/
structure State.Sound (text : List Char) (s : State) : Prop where
  place : Onward ⟨text, 0⟩ s.lexeme.start
  fits : s.lexeme.Fits
  last : Edge text s.lastStop
  behind : s.lastStop ≤ s.lexeme.start.position

/-- A parser has got from one state to another. -/
structure State.Onward (s t : State) : Prop where
  start : s.lexeme.start.position ≤ t.lexeme.start.position
  last : s.lastStop ≤ t.lastStop

/-- A parser has got behind the place where it began. -/
def State.Past (s t : State) : Prop := s.lexeme.start.position ≤ t.lastStop

theorem State.Onward.refl (s : State) : s.Onward s := ⟨Nat.le_refl _, Nat.le_refl _⟩

theorem State.Onward.trans (first : s.Onward t) (second : t.Onward u) : s.Onward u :=
  ⟨Nat.le_trans first.start second.start, Nat.le_trans first.last second.last⟩

theorem State.Past.onward (past : s.Past t) (more : t.Onward u) : s.Past u :=
  Nat.le_trans past more.last

theorem State.Onward.past (onward : s.Onward t) (past : t.Past u) : s.Past u :=
  Nat.le_trans onward.start past

theorem Edge.of_onward {a : Cursor} (onward : Cursor.Onward ⟨text, 0⟩ a) :
    Edge text a.position := ⟨a, onward, rfl⟩

theorem State.Sound.edge (sound : s.Sound text) : Edge text s.lexeme.start.position :=
  .of_onward sound.place

/-- What a run from a state comes to: it gets to a later place, and a result has the property. -/
def Outcome (text : List Char) (s : State) (P : α → State → Prop) :
    EStateM.Result SyntaxError State α → Prop
  | .ok a t => t.Sound text ∧ s.Onward t ∧ P a t
  | .error _ t => t.Sound text ∧ s.Onward t

variable {P P' : α → State → Prop} {Q : β → State → Prop}

theorem Outcome.ok {a : α} (sound : s.Sound text) (holds : P a s) : Outcome text s P (.ok a s) :=
  ⟨sound, .refl s, holds⟩

theorem Outcome.mono {r : EStateM.Result SyntaxError State α} (outcome : Outcome text s P r)
    (imp : ∀ a t, t.Sound text → s.Onward t → P a t → P' a t) : Outcome text s P' r := by
  cases r with
  | ok a t => exact ⟨outcome.1, outcome.2.1, imp a t outcome.1 outcome.2.1 outcome.2.2⟩
  | error e t => exact outcome

theorem Outcome.from {r : EStateM.Result SyntaxError State α} (onward : s.Onward t)
    (outcome : Outcome text t P r) : Outcome text s P r := by
  cases r with
  | ok a u => exact ⟨outcome.1, onward.trans outcome.2.1, outcome.2.2⟩
  | error e u => exact ⟨outcome.1, onward.trans outcome.2⟩

theorem Outcome.bind {p : Parser α} {f : α → Parser β} (first : Outcome text s P (p c s))
    (rest : ∀ a t, t.Sound text → s.Onward t → P a t → Outcome text t Q (f a c t)) :
    Outcome text s Q ((p >>= f) c s) := by
  rw [Parser.run_bind]
  cases read : p c s with
  | ok a t =>
    rw [read] at first
    exact (rest a t first.1 first.2.1 first.2.2).from first.2.1
  | error e t =>
    rw [read] at first
    exact first

theorem run_catch (p : Parser α) (handler : SyntaxError → Parser α) (c : Context) (s : State) :
    (tryCatch p handler) c s = match p c s with
      | .ok a t => .ok a t
      | .error e t => handler e c t := by
  change EStateM.tryCatch (p c) (fun e => handler e c) s = _
  unfold EStateM.tryCatch
  cases p c s <;> rfl

theorem Outcome.tryCatch {p : Parser α} {handler : SyntaxError → Parser α}
    (first : Outcome text s P (p c s))
    (rest : ∀ e t, t.Sound text → s.Onward t → Outcome text t P (handler e c t)) :
    Outcome text s P ((tryCatch p handler : Parser α) c s) := by
  rw [run_catch]
  cases read : p c s with
  | ok a t =>
    rw [read] at first
    exact first
  | error e t =>
    rw [read] at first
    exact (rest e t first.1 first.2).from first.2

/-- Reading goes on at a place behind the beginning of the token. -/
theorem outcome_resumeAt {place : Cursor} (sound : s.Sound text)
    (onward : Cursor.Onward s.lexeme.start place) :
    Outcome text s (fun _ t => s.Past t ∧ t.lastStop = place.position)
      (Parser.resumeAt place c s) := by
  have reached : Cursor.Onward ⟨text, 0⟩ place := sound.place.trans onward
  have next := onward_nextLexeme place false
  exact ⟨⟨reached.trans next, fits_nextLexeme place false, .of_onward reached, next.le⟩,
    ⟨Nat.le_trans onward.le next.le, Nat.le_trans sound.behind onward.le⟩, onward.le, rfl⟩

/-- What it means for a result to be sound: the trees in it are. -/
class Content (α : Type) where
  Sound : List Char → α → Prop

instance (priority := low) Content.trivial : Content α := ⟨fun _ _ => True⟩

instance : Content Tree := ⟨Tree.Sound⟩

instance [Content α] : Content (Option α) := ⟨fun text o => ∀ a ∈ o, Content.Sound text a⟩

instance [Content α] : Content (List α) := ⟨fun text as => ∀ a ∈ as, Content.Sound text a⟩

instance [Content α] [Content β] : Content (α × β) :=
  ⟨fun text pair => Content.Sound text pair.1 ∧ Content.Sound text pair.2⟩

instance [Content α] : Content (Except SyntaxError α) :=
  ⟨fun text result => ∀ a, result = .ok a → Content.Sound text a⟩

/-- Results without trees. -/
class Treeless (α : Type) [Content α] : Prop where
  sound (text : List Char) (a : α) : Content.Sound text a

instance (priority := low) : @Treeless α Content.trivial :=
  @Treeless.mk α Content.trivial fun _ _ => True.intro

instance [Content α] [Treeless α] : Treeless (Option α) := ⟨fun text _ a _ => Treeless.sound text a⟩

instance [Content α] [Treeless α] : Treeless (List α) := ⟨fun text _ a _ => Treeless.sound text a⟩

instance [Content α] [Content β] [Treeless α] [Treeless β] : Treeless (α × β) :=
  ⟨fun text pair => ⟨Treeless.sound text pair.1, Treeless.sound text pair.2⟩⟩

/-- A sound result, found by its form. -/
class Fine [Content α] (text : List Char) (a : α) : Prop where
  sound : Content.Sound text a

namespace Fine

instance (priority := low) treeless [Content α] [Treeless α] {a : α} : Fine text a :=
  ⟨Treeless.sound text a⟩

instance val [Content α] (a : {a : α // Content.Sound text a}) : Fine text a.val := ⟨a.property⟩

instance nil [Content α] : Fine text ([] : List α) := ⟨fun _ member => nomatch member⟩

instance cons [Content α] {a : α} {as : List α} [head : Fine text a] [tail : Fine text as] :
    Fine text (a :: as) :=
  ⟨List.forall_mem_cons.mpr ⟨head.sound, tail.sound⟩⟩

instance append [Content α] {as bs : List α} [front : Fine text as] [back : Fine text bs] :
    Fine text (as ++ bs) :=
  ⟨List.forall_mem_append.mpr ⟨front.sound, back.sound⟩⟩

instance none [Content α] : Fine text (none : Option α) := ⟨fun _ member => nomatch member⟩

instance some [Content α] {a : α} [fine : Fine text a] : Fine text (some a) :=
  ⟨fun _ member => Option.some.inj member ▸ fine.sound⟩

instance getD [Content α] {o : Option α} {a : α} [fine : Fine text o] [default : Fine text a] :
    Fine text (o.getD a) where
  sound := by
    cases o with
    | none => exact default.sound
    | some b => exact fine.sound b rfl

instance toList [Content α] {o : Option α} [fine : Fine text o] : Fine text o.toList where
  sound a member := fine.sound a (Option.mem_toList.mp member)

instance pair [Content α] [Content β] {a : α} {b : β} [first : Fine text a] [second : Fine text b] :
    Fine text (a, b) := ⟨first.sound, second.sound⟩

instance fst [Content α] [Content β] {pair : α × β} [fine : Fine text pair] :
    Fine text pair.1 := ⟨fine.sound.1⟩

instance snd [Content α] [Content β] {pair : α × β} [fine : Fine text pair] :
    Fine text pair.2 := ⟨fine.sound.2⟩

instance ite [Content α] {p : Prop} [Decidable p] {a b : α} [Fine text a] [Fine text b] :
    Fine text (if p then a else b) where
  sound := by split <;> exact sound

/-- A test that has failed. -/
class IsFalse (b : Bool) : Prop where
  eq : b = false

instance : IsFalse false := ⟨rfl⟩

instance node {kind : Kind} {span : Span} {parts : List Tree} [plain : IsFalse kind.isLiteral]
    [fine : Fine text parts] : Fine text (Tree.node kind span parts) := ⟨.plain plain.eq fine.sound⟩

instance group {parts : List Tree} [Fine text parts] : Fine text (Tree.group parts) := node

instance absent : Fine text Tree.absent := node

end Fine

/-- A parser that keeps to the text and has a sound result. -/
class Steady [Content α] (text : List Char) (p : Parser α) : Prop where
  outcome (c : Context) (s : State) : s.Sound text →
    Outcome text s (fun a _ => Content.Sound text a) (p c s)

/-- A parser that only looks at the state. -/
class Quiet (p : Parser α) : Prop where
  run (c : Context) (s : State) : ∃ a, p c s = .ok a s

namespace Quiet

instance pure {a : α} : Quiet (pure a : Parser α) := ⟨fun _ _ => ⟨a, rfl⟩⟩

instance bind {p : Parser α} {f : α → Parser β} [Quiet p] [∀ a, Quiet (f a)] : Quiet (p >>= f) where
  run c s := by
    obtain ⟨a, read⟩ := run (p := p) c s
    rw [Parser.run_bind, read]
    exact run c s

theorem onResult {p : Parser α} {f : α → Parser β} [Quiet p] (rest : ∀ a, Quiet (f a)) :
    Quiet (p >>= f) := bind

instance ite {p : Prop} [Decidable p] {x y : Parser α} [Quiet x] [Quiet y] :
    Quiet (if p then x else y) := by
  split <;> infer_instance

theorem onBranch {p : Prop} [Decidable p] {x y : Parser α} (yes : Quiet x) (no : Quiet y) :
    Quiet (if p then x else y) :=
  ite

instance read : Quiet (read : Parser Context) := ⟨fun c _ => ⟨c, rfl⟩⟩

instance lexeme : Quiet Parser.lexeme := ⟨fun _ _ => ⟨_, rfl⟩⟩

instance token : Quiet Parser.token := ⟨fun _ _ => ⟨_, rfl⟩⟩

instance start : Quiet Parser.start := ⟨fun _ _ => ⟨_, rfl⟩⟩

instance lastStop : Quiet Parser.lastStop := ⟨fun _ _ => ⟨_, rfl⟩⟩

instance span {first : Nat} : Quiet (Parser.span first) := by
  unfold Parser.span
  infer_instance

instance node {kind : Kind} {first : Nat} {parts : List Tree} :
    Quiet (Parser.node kind first parts) := by
  unfold Parser.node
  infer_instance

instance peek : Quiet Parser.peek := by
  unfold Parser.peek
  infer_instance

instance afterBreak : Quiet Parser.afterBreak := by
  unfold Parser.afterBreak
  infer_instance

instance typed : Quiet Parser.typed := by
  unfold Parser.typed
  infer_instance

instance markup : Quiet Parser.markup := by
  unfold Parser.markup
  infer_instance

instance atEnd : Quiet Parser.atEnd := by
  unfold Parser.atEnd
  refine .onResult fun token => ?_
  split <;> infer_instance

instance isMark {m : Mark} : Quiet (Parser.isMark m) := by
  unfold Parser.isMark
  refine .onResult fun token => ?_
  split <;> infer_instance

instance isWord {w : String} : Quiet (Parser.isWord w) := by
  unfold Parser.isWord
  refine .onResult fun token => ?_
  split <;> infer_instance

instance isOneOf {ms : List Mark} : Quiet (Parser.isOneOf ms) := by
  unfold Parser.isOneOf
  refine .onResult fun token => ?_
  split <;> infer_instance

instance atSemicolon : Quiet Parser.atSemicolon := by
  unfold Parser.atSemicolon
  infer_instance

/-- Looking ahead changes nothing, wherever it gets. -/
instance ahead {p : Parser Bool} : Quiet (Parser.ahead p) where
  run c s := by
    unfold Parser.ahead
    rw [Parser.run_of_ok (a := s) (t := s) rfl rfl, Parser.run_bind, run_catch]
    cases p c s with
    | ok a t => exact ⟨a, rfl⟩
    | error e t => exact ⟨false, rfl⟩

instance map {f : α → β} {p : Parser α} [Quiet p] : Quiet (f <$> p) :=
  bind (f := fun a => Pure.pure (f a))

instance and {p q : Parser Bool} [Quiet p] [Quiet q] : Quiet (p <&&> q) := by
  unfold andM
  refine .onResult fun taken => ?_
  split <;> infer_instance

instance or {p q : Parser Bool} [Quiet p] [Quiet q] : Quiet (p <||> q) := by
  unfold orM
  refine .onResult fun taken => ?_
  split <;> infer_instance

end Quiet

namespace Steady

/-- Only a parser that changes the state can be unsteady, if there are no trees in its result. -/
instance of_quiet [Content α] [Treeless α] {p : Parser α} [quiet : Quiet p] : Steady text p where
  outcome c s sound := by
    obtain ⟨a, read⟩ := quiet.run c s
    rw [read]
    exact .ok sound (Treeless.sound text a)

instance bind [Content α] [Content β] {p : Parser α} {f : α → Parser β} [first : Steady text p]
    [rest : ∀ a : {a : α // Content.Sound text a}, Steady text (f a.val)] :
    Steady text (p >>= f) where
  outcome c s sound := (first.outcome c s sound).bind fun a t reached _ fine =>
    (rest ⟨a, fine⟩).outcome c t reached

/-- A parser whose result is not used. -/
instance (priority := high) andThen [Content α] [Content β] {p : Parser α} {q : Parser β}
    [first : Steady text p] [rest : Steady text q] : Steady text (p >>= fun _ => q) where
  outcome c s sound := (first.outcome c s sound).bind fun _ t reached _ _ =>
    rest.outcome c t reached

/-- What follows a search goes on by what has been found. -/
instance (priority := low) bind_option [Content α] [Content β] {p : Parser (Option α)}
    {f : Option α → Parser β} [first : Steady text p]
    [found : ∀ a : {a : α // Content.Sound text a}, Steady text (f (some a.val))]
    [missing : Steady text (f none)] : Steady text (p >>= f) where
  outcome c s sound := (first.outcome c s sound).bind fun result t reached _ fine => by
    cases result with
    | none => exact missing.outcome c t reached
    | some a => exact (found ⟨a, fine a rfl⟩).outcome c t reached

theorem onOption [Content α] [Content β] {p : Parser (Option α)} {f : Option α → Parser β}
    (first : Steady text p) (found : ∀ a : {a : α // Content.Sound text a},
      Steady text (f (some a.val))) (missing : Steady text (f none)) :
    Steady text (p >>= f) :=
  bind_option

instance pure [Content α] {a : α} [fine : Fine text a] : Steady text (pure a : Parser α) where
  outcome _ _ sound := .ok sound fine.sound

instance ite [Content α] {p : Prop} [Decidable p] {x y : Parser α} [Steady text x] [Steady text y] :
    Steady text (if p then x else y) := by
  split <;> infer_instance

instance map [Content α] [Content β] {f : α → β} {p : Parser α} [Steady text p]
    [∀ a : {a : α // Content.Sound text a}, Fine text (f a.val)] : Steady text (f <$> p) :=
  bind (f := fun a => Pure.pure (f a))

instance throw [Content α] {e : SyntaxError} : Steady text (throw e : Parser α) where
  outcome _ s sound := ⟨sound, .refl s⟩

instance fail [Content α] {fault : Fault} {n : Nat} :
    Steady text (Parser.fail fault n : Parser α) := throw

/-- Nothing follows a failure. -/
instance (priority := high) fail_bind [Content β] {fault : Fault} {n : Nat} {f : α → Parser β} :
    Steady text ((Parser.fail fault n : Parser α) >>= f) where
  outcome _ s sound := ⟨sound, .refl s⟩

/-- Nothing comes of an unexpected token. -/
theorem outcome_unexpected (sound : s.Sound text) : Outcome text s P (Parser.unexpected c s) := by
  unfold Parser.unexpected
  rw [Parser.run_of_ok (a := s.lexeme.token) (t := s) rfl rfl]
  cases s.lexeme.token <;> exact (⟨sound, .refl s⟩ : State.Sound text s ∧ s.Onward s)

instance unexpected [Content α] : Steady text (Parser.unexpected : Parser α) :=
  ⟨fun _ _ => outcome_unexpected⟩

/-- Nothing follows an unexpected token. -/
instance (priority := high) unexpected_bind [Content β] {f : α → Parser β} :
    Steady text ((Parser.unexpected : Parser α) >>= f) where
  outcome _ _ sound :=
    (outcome_unexpected sound (P := fun _ _ => False)).bind fun _ _ _ _ => False.elim

theorem onPart [Content α] [Content β] {p : Parser α} {f : α → Parser β} (first : Steady text p)
    (rest : ∀ a, Content.Sound text a → Steady text (f a)) : Steady text (p >>= f) :=
  have : ∀ a : {a : α // Content.Sound text a}, Steady text (f a.val) :=
    fun a => rest a.val a.property
  bind

theorem onResult [Content α] [Content β] {p : Parser α} {f : α → Parser β} [first : Steady text p]
    (rest : ∀ a, Content.Sound text a → Steady text (f a)) : Steady text (p >>= f) :=
  onPart first rest

/-- What follows a part may use the result of it. -/
theorem onValue [Content α] [Content β] {p : Parser α} {f : α → Parser β} [Steady text p]
    (rest : ∀ a : {a : α // Content.Sound text a}, Steady text (f a.val)) : Steady text (p >>= f) :=
  bind

theorem onNext [Content α] [Content β] {p : Parser α} {q : Parser β} [Steady text p]
    (rest : Steady text q) : Steady text (p >>= fun _ => q) :=
  andThen

theorem onBranch [Content α] {p : Prop} [Decidable p] {x y : Parser α} (yes : Steady text x)
    (no : Steady text y) : Steady text (if p then x else y) :=
  ite

/-- A test, and what is done by its answer. -/
theorem onTest [Content α] {test : Parser Bool} {x y : Parser α} [Steady text test]
    (yes : Steady text x) (no : Steady text y) : Steady text (do if ← test then x else y) :=
  onValue fun _ => ite

/-- One of two parts, and what follows both. -/
theorem onEither [Content α] [Content β] {c : Prop} [Decidable c] {p q : Parser α}
    {f : α → Parser β} [Steady text p] [Steady text q]
    (rest : ∀ a : {a : α // Content.Sound text a}, Steady text (f a.val)) :
    Steady text (if c then p >>= f else q >>= f) := by
  split <;> exact onValue rest

/-- A part is left out or not, and what follows is the same. -/
theorem onCheck [Content α] [Content β] {c : Prop} [Decidable c] {p : Parser β}
    {q : Parser α} [Steady text q] (rest : Steady text p) :
    Steady text (if c then p else q >>= fun _ => p) := by
  split
  · exact rest
  · exact onNext rest

theorem onToken [Content α] {f : Token → Parser α} (rest : ∀ token, Steady text (f token)) :
    Steady text (Parser.token >>= f) :=
  onResult fun token _ => rest token

theorem onStart [Content α] {f : Nat → Parser α} (rest : ∀ first, Steady text (f first)) :
    Steady text (Parser.start >>= f) :=
  onResult fun first _ => rest first

instance withReader [Content α] {change : Context → Context} {p : Parser α}
    [steady : Steady text p] : Steady text (withReader change p : Parser α) where
  outcome c s sound := steady.outcome (change c) s sound

instance withIn [Content α] {p : Parser α} [Steady text p] :
    Steady text (Parser.withIn p) := withReader

instance inBrackets [Content α] {p : Parser α} [Steady text p] :
    Steady text (Parser.inBrackets p) := withReader

instance tryCatch [Content α] {p : Parser α} {handler : SyntaxError → Parser α}
    [first : Steady text p] [rest : ∀ e, Steady text (handler e)] :
    Steady text (tryCatch p handler) where
  outcome c s sound := (first.outcome c s sound).tryCatch fun e t reached _ =>
    (rest e).outcome c t reached

instance and {p q : Parser Bool} [Steady text p] [Steady text q] : Steady text (p <&&> q) := by
  unfold andM
  refine .onValue fun taken => ?_
  split <;> infer_instance

instance or {p q : Parser Bool} [Steady text p] [Steady text q] : Steady text (p <||> q) := by
  unfold orM
  refine .onValue fun taken => ?_
  split <;> infer_instance

instance node {kind : Kind} {first : Nat} {parts : List Tree} [Fine.IsFalse kind.isLiteral]
    [Fine text parts] : Steady text (Parser.node kind first parts) := by
  unfold Parser.node
  infer_instance

/-- Goes back to the saved state unless something has been found. -/
instance attempt [Content α] {p : Parser (Option α)} [steady : Steady text p] :
    Steady text (Parser.attempt p) where
  outcome c s sound := by
    have caught :
        Steady text (MonadExcept.tryCatch p fun _ => Pure.pure none : Parser (Option α)) := tryCatch
    have caught := caught.outcome c s sound
    change Outcome text s _ ((Parser.attempt p) c s)
    unfold Parser.attempt
    rw [Parser.run_of_ok (a := s) (t := s) rfl rfl, Parser.run_bind]
    cases read : (MonadExcept.tryCatch p fun _ => Pure.pure none : Parser (Option α)) c s with
    | error e t =>
      rw [read] at caught
      exact caught
    | ok result t =>
      rw [read] at caught
      cases result with
      | none => exact .ok sound caught.2.2
      | some a => exact caught

theorem collectFrom [Content α] {step : Parser (Option α)} [Steady text step] :
    ∀ n, Steady text (Parser.collectFrom n step)
  | 0 => by
    unfold Parser.collectFrom
    infer_instance
  | n + 1 => by
    have rest : Steady text (Parser.collectFrom n step) := collectFrom n
    unfold Parser.collectFrom
    refine @bind _ _ _ _ _ _ _ _ fun ⟨found, fine⟩ => ?_
    cases found with
    | none => exact pure
    | some a =>
      have : Fine text a := ⟨fine a rfl⟩
      exact bind

instance collect [Content α] {step : Parser (Option α)} [Steady text step] :
    Steady text (Parser.collect step) where
  outcome c s sound := (collectFrom c.limit).outcome c s sound

theorem loopFrom [Content α] {step : α → Parser (Option α)}
    [∀ a : {a : α // Content.Sound text a}, Steady text (step a.val)] :
    ∀ n (a : {a : α // Content.Sound text a}), Steady text (Parser.loopFrom n step a.val)
  | 0, a => by
    unfold Parser.loopFrom
    infer_instance
  | n + 1, a => by
    unfold Parser.loopFrom
    refine @bind _ _ _ _ _ _ _ _ fun ⟨found, fine⟩ => ?_
    cases found with
    | none => exact pure
    | some b => exact loopFrom n ⟨b, fine b rfl⟩

instance loop [Content α] {step : α → Parser (Option α)} {a : α}
    [∀ a : {a : α // Content.Sound text a}, Steady text (step a.val)] [fine : Fine text a] :
    Steady text (Parser.loop step a) where
  outcome c s sound := (loopFrom c.limit ⟨a, fine.sound⟩).outcome c s sound

theorem mapM [Content α] [Content β] {f : α → Parser β}
    (each : ∀ a, Content.Sound text a → Steady text (f a)) :
    ∀ {as : List α}, Content.Sound text as → Steady text (as.mapM f)
  | [], _ => by
    rw [List.mapM_nil]
    infer_instance
  | a :: as, sound => by
    rw [List.mapM_cons]
    refine onPart (each a (sound a List.mem_cons_self)) fun b fine => ?_
    refine onPart (mapM each fun a m => sound a (List.mem_cons_of_mem _ m)) fun bs more => ?_
    have : Fine text b := ⟨fine⟩
    have : Fine text bs := ⟨more⟩
    infer_instance

/-- Reading goes on behind the token. -/
theorem outcome_advance (sound : s.Sound text) :
    Outcome text s (fun _ t => s.Past t ∧ t.lastStop = s.lexeme.stop.position)
      (Parser.advance c s) :=
  outcome_resumeAt sound sound.fits.onward

instance advance : Steady text Parser.advance where
  outcome _ _ sound := (outcome_advance sound).mono fun _ _ _ _ _ => trivial

instance eatMark {m : Mark} : Steady text (Parser.eatMark m) := by
  unfold Parser.eatMark
  infer_instance

instance eatWord {w : String} : Steady text (Parser.eatWord w) := by
  unfold Parser.eatWord
  infer_instance

instance expectMark {m : Mark} : Steady text (Parser.expectMark m) := by
  unfold Parser.expectMark
  infer_instance

instance expectWord {w : String} : Steady text (Parser.expectWord w) := by
  unfold Parser.expectWord
  infer_instance

instance eatSemicolon : Steady text Parser.eatSemicolon := by
  unfold Parser.eatSemicolon
  infer_instance

instance expectSemicolon : Steady text Parser.expectSemicolon := by
  unfold Parser.expectSemicolon
  infer_instance

instance listItem? [Content α] {close : Mark} {item : Parser α} [Steady text item] :
    Steady text (Parser.listItem? close item) := by
  unfold Parser.listItem?
  refine .onTest inferInstance (.onTest inferInstance (.onValue fun a => ?_))
  exact .onTest inferInstance (.onNext inferInstance)

instance listUntil [Content α] {close : Mark} {item : Parser α} [Steady text item] :
    Steady text (Parser.listUntil close item) := by
  unfold Parser.listUntil
  infer_instance

end Steady

end Phrasebook.Script
