import Phrasebook.Proofs.Script.Steady

/-!
Parsers of expressions, whose results lie in the text as a whole. The span of an expression begins
at a place that its parser is told, or where an expression inside it begins, and ends at the end of
a token. The parser has got to a mark, which is not before its place; how far it has got from there
says that the two ends of a span are in order.
-/

namespace Phrasebook.Script

open Cursor Text

variable {text : List Char} {α β : Type} {first : Nat}

/-- How far a parser has got from its place: the current token begins there, it begins at a mark or
later, or a token that began at a mark or later has been read. -/
inductive Phase
  | here
  | upon (mark : Nat)
  | past (mark : Nat)

def Phase.Holds (first : Nat) (s : State) : Phase → Prop
  | here => s.lexeme.start.position = first
  | upon mark => first ≤ mark ∧ mark ≤ s.lexeme.start.position
  | past mark => first ≤ mark ∧ mark ≤ s.lastStop

@[reducible] def Phase.mark (first : Nat) : Phase → Nat
  | here => first
  | upon mark => mark
  | past mark => mark

variable {mark : Nat}

/-- A phase that going on does not end. -/
class Phase.Stable (phase : Phase) : Prop where
  onward {first : Nat} {s t : State} : phase.Holds first s → s.Onward t → phase.Holds first t

instance : Phase.Stable (.upon mark) :=
  ⟨fun holds onward => ⟨holds.1, Nat.le_trans holds.2 onward.start⟩⟩

instance : Phase.Stable (.past mark) :=
  ⟨fun holds onward => ⟨holds.1, Nat.le_trans holds.2 onward.last⟩⟩

theorem Phase.Holds.upon {phase : Phase} {s : State} (sound : s.Sound text)
    (holds : phase.Holds first s) : (Phase.upon (phase.mark first)).Holds first s := by
  cases phase with
  | here => exact ⟨Nat.le_refl _, Nat.le_of_eq holds.symm⟩
  | upon mark => exact holds
  | past mark => exact ⟨holds.1, Nat.le_trans holds.2 sound.behind⟩

theorem Phase.Holds.past {phase : Phase} {s t : State} (sound : s.Sound text)
    (holds : phase.Holds first s) (past : s.Past t) :
    (Phase.past (phase.mark first)).Holds first t :=
  ⟨(holds.upon sound).1, Nat.le_trans (holds.upon sound).2 past⟩

/-- A sound tree that lies in the text, not before a place. -/
structure Tree.Laid (text : List Char) (first : Nat) (tree : Tree) : Prop where
  sound : tree.Sound text
  start : first ≤ tree.span.start
  lies : Lies text tree.span

/-- Results that hold an expression, which begins at a position or before it. -/
class Layout (α : Type) [Content α] where
  Laid : List Char → Nat → α → Prop
  Begun : Nat → α → Prop
  sound {text : List Char} {first : Nat} {a : α} : Laid text first a → Content.Sound text a
  mono {m n : Nat} {a : α} : m ≤ n → Begun m a → Begun n a

instance : Layout Tree where
  Laid := Tree.Laid
  Begun n tree := tree.span.start ≤ n
  sound := Tree.Laid.sound
  mono le begun := Nat.le_trans begun le

instance : Layout (Option Tree) where
  Laid text first found := ∀ tree ∈ found, Tree.Laid text first tree
  Begun n found := ∀ tree ∈ found, tree.span.start ≤ n
  sound laid tree found := (laid tree found).sound
  mono le begun tree found := Nat.le_trans (begun tree found) le

/-- What a parser of an expression comes to. -/
def Layout.Reached [Content α] [Layout α] (text : List Char) (first : Nat) (a : α)
    (t : State) : Prop :=
  Laid text first a ∧ Begun t.lexeme.start.position a

/-- A parser that comes to an expression from a place on, if it has got this far from there. -/
class Lays [Content α] [Layout α] (text : List Char) (first : Nat) (phase : Phase)
    (p : Parser α) : Prop where
  outcome (c : Context) (s : State) : s.Sound text → Edge text first → phase.Holds first s →
    Outcome text s (Layout.Reached text first) (p c s)

/-- An expression that begins at a mark or before it, found by its form. -/
class IsLaid [Content α] [Layout α] (text : List Char) (first mark : Nat) (a : α) : Prop where
  laid : Edge text first → first ≤ mark → Layout.Laid text first a ∧ Layout.Begun mark a

/-- A parser that reads on whenever it succeeds. -/
class Consumes (text : List Char) (p : Parser α) : Prop where
  past (c : Context) (s : State) : s.Sound text → ∀ a t, p c s = .ok a t → s.Past t

/-- A parser that reads on if it says so, and does nothing if not. -/
class Eats (text : List Char) (p : Parser Bool) : Prop where
  outcome (c : Context) (s : State) : s.Sound text →
    Outcome text s (fun eaten t => if eaten then s.Past t else t = s) (p c s)

/-- A parser that does nothing where it finds nothing. -/
class Tentative (p : Parser (Option α)) : Prop where
  same (c : Context) (s t : State) : p c s = .ok none t → t = s

/-- What a look at the current token tells. -/
theorem run_isMark (m : Mark) (c : Context) (s : State) :
    ∃ here, Parser.isMark m c s = .ok here s ∧ (here = true → s.lexeme.token = .mark m) := by
  unfold Parser.isMark
  rw [Parser.run_of_ok (x := Parser.token) (a := s.lexeme.token) (t := s) rfl rfl]
  cases s.lexeme.token with
  | mark n => exact ⟨m == n, rfl, fun same => by rw [beq_iff_eq.mp same]⟩
  | _ => exact ⟨false, rfl, nofun⟩

namespace Eats

theorem of_advance {test : Parser Bool} [quiet : Quiet test] :
    Eats text (do if ← test then Parser.advance; return true else return false) where
  outcome c s sound := by
    obtain ⟨here, read⟩ := quiet.run c s
    rw [Parser.run_of_ok read rfl]
    cases here with
    | false => exact .ok sound rfl
    | true => exact (Steady.outcome_advance sound).bind fun _ _ reached _ past => .ok reached past.1

instance eatMark {m : Mark} : Eats text (Parser.eatMark m) := of_advance

instance eatWord {w : String} : Eats text (Parser.eatWord w) := of_advance

instance and {p q : Parser Bool} [quiet : Quiet p] [eats : Eats text q] : Eats text (p <&&> q) where
  outcome c s sound := by
    unfold andM
    obtain ⟨taken, read⟩ := quiet.run c s
    rw [Parser.run_of_ok read rfl]
    cases taken with
    | true => exact eats.outcome c s sound
    | false => exact .ok sound rfl

end Eats

namespace Consumes

theorem of_outcome {p : Parser α}
    (outcome : ∀ c s, s.Sound text → Outcome text s (fun _ t => s.Past t) (p c s)) :
    Consumes text p where
  past c s sound a t read := by
    have result := outcome c s sound
    rw [read] at result
    exact result.2.2

instance advance : Consumes text Parser.advance :=
  .of_outcome fun _ _ sound => (Steady.outcome_advance sound).mono fun _ _ _ _ past => past.1

theorem of_eats {p : Parser Bool} [eats : Eats text p] :
    Consumes text (do unless ← p do Parser.unexpected) :=
  .of_outcome fun c s sound => (eats.outcome c s sound).bind fun eaten t reached _ past => by
    cases eaten with
    | true => exact .ok reached past
    | false => exact Steady.outcome_unexpected reached

instance expectMark {m : Mark} : Consumes text (Parser.expectMark m) := of_eats

instance expectWord {w : String} : Consumes text (Parser.expectWord w) := of_eats

instance bind [Content α] [Content β] {p : Parser α} {f : α → Parser β} [consumes : Consumes text p]
    [first : Steady text p] [rest : ∀ a : {a : α // Content.Sound text a}, Steady text (f a.val)] :
    Consumes text (p >>= f) :=
  .of_outcome fun c s sound => by
    rw [Parser.run_bind]
    have outcome := first.outcome c s sound
    cases read : p c s with
    | error e t =>
      rw [read] at outcome
      exact outcome
    | ok a t =>
      rw [read] at outcome
      obtain ⟨reached, onward, fine⟩ := outcome
      have past := consumes.past c s sound a t read
      exact (((rest ⟨a, fine⟩).outcome c t reached).mono fun _ _ _ more _ =>
        past.onward more).from onward

instance bind_quiet {p : Parser α} {f : α → Parser β} [quiet : Quiet p]
    [rest : ∀ a, Consumes text (f a)] : Consumes text (p >>= f) where
  past c s sound b t read := by
    obtain ⟨a, here⟩ := quiet.run c s
    rw [Parser.run_of_ok here rfl] at read
    exact (rest a).past c s sound b t read

instance unexpected : Consumes text (Parser.unexpected : Parser α) :=
  .of_outcome fun _ _ => Steady.outcome_unexpected

instance ite {p : Prop} [Decidable p] {x y : Parser α} [Consumes text x] [Consumes text y] :
    Consumes text (if p then x else y) := by
  split <;> infer_instance

end Consumes

/-- What begins with a parser that reads on does so too. -/
theorem Consumes.andThen [Content α] [Content β] {p : Parser α} {q : Parser β}
    [Consumes text p] [Steady text p] (rest : Steady text q) :
    Steady text (p >>= fun _ => q) ∧ Consumes text (p >>= fun _ => q) :=
  ⟨.onNext rest, .bind⟩

/-- Whoever finds something has read on. -/
theorem outcome_collectFrom [Content α] {step : Parser (Option α)} {c : Context}
    (each : ∀ s, s.Sound text →
      Outcome text s (fun found t => Content.Sound text found ∧ (found ≠ none → s.Past t))
        (step c s)) (n : Nat) :
    ∀ {s : State}, s.Sound text → Outcome text s
      (fun all t => Content.Sound text all ∧ (all ≠ [] → s.Past t))
        (Parser.collectFrom n step c s) := by
  have empty : Content.Sound text ([] : List α) := fun a member => absurd member List.not_mem_nil
  induction n with
  | zero => exact fun sound => .ok sound ⟨empty, fun filled => absurd rfl filled⟩
  | succ n ih =>
    intro s sound
    refine (each s sound).bind fun found t reached onward fine => ?_
    cases found with
    | none => exact .ok reached ⟨empty, fun filled => absurd rfl filled⟩
    | some a =>
      refine (ih reached).bind fun more u done further rest => .ok done ⟨?_, fun _ => ?_⟩
      · exact List.forall_mem_cons.mpr ⟨fine.1 a rfl, rest.1⟩
      · exact (fine.2 (Option.some_ne_none a)).onward further

namespace Tentative

instance attempt {p : Parser (Option α)} : Tentative (Parser.attempt p) where
  same c s t nothing := by
    unfold Parser.attempt at nothing
    rw [Parser.run_of_ok (a := s) (t := s) rfl rfl, Parser.run_bind] at nothing
    split at nothing
    · rename_i found u _
      cases found with
      | none => exact (EStateM.Result.ok.inj nothing).2.symm
      | some a => cases (EStateM.Result.ok.inj nothing).1
    · cases nothing

instance pure {found : Option α} : Tentative (pure found : Parser (Option α)) :=
  ⟨fun _ _ _ nothing => (EStateM.Result.ok.inj nothing).2.symm⟩

instance bind {p : Parser α} {f : α → Parser (Option β)} [quiet : Quiet p]
    [rest : ∀ a, Tentative (f a)] : Tentative (p >>= f) where
  same c s t nothing := by
    obtain ⟨a, here⟩ := quiet.run c s
    rw [Parser.run_of_ok here rfl] at nothing
    exact (rest a).same c s t nothing

instance ite {p : Prop} [Decidable p] {x y : Parser (Option α)} [Tentative x] [Tentative y] :
    Tentative (if p then x else y) := by
  split <;> infer_instance

instance withReader {change : Context → Context} {p : Parser (Option α)} [tentative : Tentative p] :
    Tentative (withReader change p : Parser (Option α)) :=
  ⟨fun c s t => tentative.same (change c) s t⟩

end Tentative

namespace IsLaid

instance val (tree : {tree : Tree // Layout.Laid text first tree}) :
    IsLaid text first tree.val.span.start tree.val :=
  ⟨fun _ _ => ⟨tree.property, Nat.le_refl _⟩⟩

instance some {tree : Tree} [here : IsLaid text first mark tree] :
    IsLaid text first mark (some tree) :=
  ⟨fun edge le => ⟨fun _ member => Option.some.inj member ▸ (here.laid edge le).1,
    fun _ member => Option.some.inj member ▸ (here.laid edge le).2⟩⟩

instance none : IsLaid text first mark (none : Option Tree) :=
  ⟨fun _ _ => ⟨(fun _ member => nomatch member), fun _ member => nomatch member⟩⟩

/-- A node without source. -/
instance empty {kind : Kind} {parts : List Tree} [plain : Fine.IsFalse kind.isLiteral]
    [fine : Fine text parts] : IsLaid text first mark (Tree.node kind ⟨first, first⟩ parts) :=
  ⟨fun edge le => ⟨⟨.plain plain.eq fine.sound, Nat.le_refl _, edge, edge, Nat.le_refl _⟩, le⟩⟩

end IsLaid

/-- An expression that lies in the text is sound. -/
instance Fine.laid [Content α] [Layout α] (a : {a : α // Layout.Laid text first a}) :
    Fine text a.val :=
  ⟨Layout.sound a.property⟩

namespace Lays

variable [Content α] [Layout α] [Content β] [Layout β] {phase : Phase}

/-- The expression begins at the current token. Of the rules for a part with something behind it,
those that say the most about the part are tried first. -/
instance (priority := 2000) start {f : Nat → Parser α} [rest : Lays text first .here (f first)] :
    Lays text first .here (Parser.start >>= f) where
  outcome c s sound edge holds := by
    rw [Parser.run_of_ok (a := first) (t := s) (by rw [← holds]; rfl) rfl]
    exact rest.outcome c s sound edge holds

instance (priority := 1900) eats {p : Parser Bool} {f : Bool → Parser α} [eats : Eats text p]
    [eaten : Lays text first (.past (phase.mark first)) (f true)]
    [left : Lays text first phase (f false)] : Lays text first phase (p >>= f) where
  outcome c s sound edge holds := (eats.outcome c s sound).bind fun taken t reached _ how => by
    cases taken with
    | true => exact eaten.outcome c t reached edge (holds.past sound how)
    | false =>
      obtain rfl := how
      exact left.outcome c _ sound edge holds

instance (priority := 1800) quiet {γ : Type} [Content γ] [Treeless γ] {p : Parser γ}
    {f : γ → Parser α} [quiet : Quiet p] [rest : ∀ a, Lays text first phase (f a)] :
    Lays text first phase (p >>= f) where
  outcome c s sound edge holds := by
    obtain ⟨a, read⟩ := quiet.run c s
    rw [Parser.run_of_ok read rfl]
    exact (rest a).outcome c s sound edge holds

instance (priority := 1700) consumes {γ : Type} [Content γ] {p : Parser γ} {f : γ → Parser α}
    [consumes : Consumes text p] [steady : Steady text p]
    [rest : ∀ a : {a : γ // Content.Sound text a}, Lays text first (.past mark) (f a.val)] :
    Lays text first (.upon mark) (p >>= f) where
  outcome c s sound edge holds := by
    rw [Parser.run_bind]
    have outcome := steady.outcome c s sound
    cases read : p c s with
    | error e t =>
      rw [read] at outcome
      exact outcome
    | ok a t =>
      rw [read] at outcome
      obtain ⟨reached, onward, fine⟩ := outcome
      have past := consumes.past c s sound a t read
      exact ((rest ⟨a, fine⟩).outcome c t reached edge (holds.past sound past)).from onward

/-- What follows an expression has got to its beginning. -/
theorem upon_start {tree : Tree} {t : State} (reached : Layout.Reached text first tree t) :
    (Phase.upon tree.span.start).Holds first t :=
  ⟨reached.1.start, reached.2⟩

/-- Behind an attempt that finds nothing, nothing has changed. -/
instance (priority := 1650) tentative {p : Parser (Option Tree)} {f : Option Tree → Parser β}
    [tentative : Tentative p] [part : Lays text first phase p]
    [found : ∀ tree : {tree : Tree // Layout.Laid text first tree},
      Lays text first (.upon tree.val.span.start) (f (some tree.val))]
    [missing : Lays text first phase (f none)] : Lays text first phase (p >>= f) where
  outcome c s sound edge holds := by
    rw [Parser.run_bind]
    have outcome := part.outcome c s sound edge holds
    cases read : p c s with
    | error e t =>
      rw [read] at outcome
      exact outcome
    | ok result t =>
      rw [read] at outcome
      obtain ⟨reached, onward, laid⟩ := outcome
      cases result with
      | none =>
        obtain rfl := tentative.same c s t read
        exact missing.outcome c t reached edge holds
      | some tree =>
        have laid : Layout.Reached text first tree t := ⟨laid.1 tree rfl, laid.2 tree rfl⟩
        exact ((found ⟨tree, laid.1⟩).outcome c t reached edge (upon_start laid)).from onward

instance (priority := 1600) part {p : Parser Tree} {f : Tree → Parser β}
    [part : Lays text first phase p] [rest : ∀ tree : {tree : Tree // Layout.Laid text first tree},
      Lays text first (.upon tree.val.span.start) (f tree.val)] :
    Lays text first phase (p >>= f) where
  outcome c s sound edge holds := (part.outcome c s sound edge holds).bind
      fun tree t reached _ laid =>
    (rest ⟨tree, laid.1⟩).outcome c t reached edge (upon_start laid)

instance (priority := 1500) steady {γ : Type} [Content γ] {p : Parser γ} {f : γ → Parser α}
    [stable : phase.Stable] [steady : Steady text p]
    [rest : ∀ a : {a : γ // Content.Sound text a}, Lays text first phase (f a.val)] :
    Lays text first phase (p >>= f) where
  outcome c s sound edge holds := (steady.outcome c s sound).bind fun a t reached onward fine =>
    (rest ⟨a, fine⟩).outcome c t reached edge (stable.onward holds onward)

theorem onStart {f : Nat → Parser α} (rest : Lays text first .here (f first)) :
    Lays text first .here (Parser.start >>= f) :=
  start

theorem onResult {γ : Type} [Content γ] [Treeless γ] {p : Parser γ} {f : γ → Parser α} [Quiet p]
    (rest : ∀ a, Lays text first phase (f a)) : Lays text first phase (p >>= f) :=
  quiet

theorem onPart {γ : Type} [Content γ] {p : Parser γ} {f : γ → Parser α} [phase.Stable]
    (steady : Steady text p) (rest : ∀ a, Content.Sound text a → Lays text first phase (f a)) :
    Lays text first phase (p >>= f) :=
  have : ∀ a : {a : γ // Content.Sound text a}, Lays text first phase (f a.val) :=
    fun a => rest a.val a.property
  Lays.steady

theorem onValue {γ : Type} [Content γ] {p : Parser γ} {f : γ → Parser α}
    [phase.Stable] [Steady text p] (rest : ∀ a : {a : γ // Content.Sound text a},
      Lays text first phase (f a.val)) : Lays text first phase (p >>= f) :=
  Lays.steady

/-- A mark that has been read or not. -/
theorem onEaten {p : Parser Bool} {f : Bool → Parser α} [Eats text p]
    (eaten : Lays text first (.past (phase.mark first)) (f true))
    (left : Lays text first phase (f false)) : Lays text first phase (p >>= f) :=
  eats

/-- A part that reads on, and what follows it. -/
theorem onRead {γ : Type} [Content γ] {p : Parser γ} {f : γ → Parser α}
    [Consumes text p] [Steady text p]
    (rest : ∀ a : {a : γ // Content.Sound text a}, Lays text first (.past mark) (f a.val)) :
    Lays text first (.upon mark) (p >>= f) :=
  consumes

/-- An attempt, which has done nothing if it finds nothing. -/
theorem onTentative {p : Parser (Option Tree)} {f : Option Tree → Parser β} [Tentative p]
    (part : Lays text first phase p) (found : ∀ tree : {tree : Tree // Layout.Laid text first tree},
      Lays text first (.upon tree.val.span.start) (f (some tree.val)))
    (missing : Lays text first phase (f none)) : Lays text first phase (p >>= f) :=
  tentative

theorem onTree {p : Parser Tree} {f : Tree → Parser α} (lays : Lays text first phase p)
    (rest : ∀ tree : {tree : Tree // Layout.Laid text first tree},
      Lays text first (.upon tree.val.span.start) (f tree.val)) : Lays text first phase (p >>= f) :=
  part

/-- An expression that is all there is, or a part of it. -/
theorem onWhole {p : Parser Tree} {test : Tree → Bool} {f : Tree → Parser Tree}
    [stable : phase.Stable] (part : Lays text first phase p)
    (rest : ∀ tree : {tree : Tree // Layout.Laid text first tree},
      Lays text first phase (f tree.val)) :
    Lays text first phase (do let tree ← p; if test tree then return tree else f tree) where
  outcome c s sound edge holds := (part.outcome c s sound edge holds).bind
      fun tree t reached onward laid => by
    split
    · exact .ok reached laid
    · exact (rest ⟨tree, laid.1⟩).outcome c t reached edge (stable.onward holds onward)

/-- What begins behind a place lies behind it. -/
theorem of_later {p : Parser Tree} (lays : ∀ place, Lays text place .here p) :
    Lays text first (.upon mark) p where
  outcome c s sound _ holds :=
    ((lays s.lexeme.start.position).outcome c s sound sound.edge rfl).mono
    fun _ _ _ _ reached => ⟨⟨reached.1.sound,
      Nat.le_trans (Nat.le_trans holds.1 holds.2) reached.1.start, reached.1.lies⟩, reached.2⟩

instance (priority := low) of_here {p : Parser α} [upon : Lays text first (.upon first) p] :
    Lays text first .here p where
  outcome c s sound edge holds := upon.outcome c s sound edge (holds.upon sound)

/-- What follows the beginning of an expression may be read wherever that is. -/
theorem of_upon {p : Parser α} (upon : Lays text first (.upon first) p) : Lays text first .here p :=
  of_here

instance (priority := low) of_past {p : Parser α} [upon : Lays text first (.upon mark) p] :
    Lays text first (.past mark) p where
  outcome c s sound edge holds := upon.outcome c s sound edge (holds.upon sound)

instance pure {a : α} [laid : IsLaid text first (phase.mark first) a] :
    Lays text first phase (pure a : Parser α) where
  outcome _ _ sound edge holds :=
    have upon := holds.upon sound
    have laid := laid.laid edge upon.1
    .ok sound ⟨laid.1, Layout.mono upon.2 laid.2⟩

theorem reached_node {kind : Kind} {parts : List Tree} {start : Nat} {t : State}
    (plain : kind.isLiteral = false) (fine : ∀ part ∈ parts, part.Sound text) (sound : t.Sound text)
    (edge : Edge text start) (after : first ≤ start) (before : start ≤ t.lastStop) :
    Layout.Reached text first (Tree.node kind ⟨start, t.lastStop⟩ parts) t :=
  ⟨⟨.plain plain fine, after, edge, sound.last, before⟩, Nat.le_trans before sound.behind⟩

instance node {kind : Kind} {parts : List Tree} [plain : Fine.IsFalse kind.isLiteral]
    [fine : Fine text parts] : Lays text first (.past mark) (Parser.node kind first parts) where
  outcome _ _ sound edge holds :=
    .ok sound (reached_node plain.eq fine.sound sound edge (Nat.le_refl _)
      (Nat.le_trans holds.1 holds.2))

/-- A node around an expression, from its beginning on. -/
instance node_of_head {kind : Kind} {parts : List Tree}
    {head : {tree : Tree // Layout.Laid text first tree}} [plain : Fine.IsFalse kind.isLiteral]
    [fine : Fine text parts] :
    Lays text first (.past head.val.span.start) (Parser.node kind head.val.span.start parts) where
  outcome _ _ sound _ holds :=
    .ok sound (reached_node plain.eq fine.sound sound head.property.lies.start holds.1 holds.2)

/-- A node that the current token ends. -/
instance throughToken {kind : Kind} {parts : List Tree} [plain : Fine.IsFalse kind.isLiteral]
    [fine : Fine text parts] :
    Lays text first (.upon mark)
      (do return Tree.node kind ⟨first, (← Parser.lexeme).stop.position⟩ parts) where
  outcome _ _ sound edge holds :=
    have before := Nat.le_trans holds.1 holds.2
    .ok sound ⟨⟨.plain plain.eq fine.sound, Nat.le_refl _, edge,
      .of_onward (sound.place.trans sound.fits.onward), Nat.le_trans before sound.fits.onward.le⟩,
        before⟩

instance ite {p : Prop} [Decidable p] {x y : Parser α} [Lays text first phase x]
    [Lays text first phase y] : Lays text first phase (if p then x else y) := by
  split <;> infer_instance

theorem onBranch {p : Prop} [Decidable p] {x y : Parser α} (yes : Lays text first phase x)
    (no : Lays text first phase y) : Lays text first phase (if p then x else y) :=
  ite

/-- One of two parts, and what follows both. -/
theorem onEither {c : Prop} [Decidable c] {γ : Type} [Content γ] {p q : Parser γ}
    {f : γ → Parser α} [phase.Stable] [Steady text p] [Steady text q]
    (rest : ∀ a : {a : γ // Content.Sound text a}, Lays text first phase (f a.val)) :
    Lays text first phase (if c then p >>= f else q >>= f) :=
  onBranch (onValue rest) (onValue rest)

/-- A part that is read where something may be found, and what follows it or its absence. -/
theorem onPossible {c : Prop} [Decidable c] {p : Parser (Option Tree)}
    {f : Option Tree → Parser β} [Tentative p] [Lays text first phase p]
    (found : ∀ tree : {tree : Tree // Layout.Laid text first tree},
      Lays text first (.upon tree.val.span.start) (f (some tree.val)))
    (missing : Lays text first phase (f none)) :
    Lays text first phase (if c then p >>= f else Pure.pure none >>= f) := by
  split
  · exact tentative
  · rw [pure_bind]
    exact missing

instance (priority := high) ite_true [Decidable (true = true)] {x y : Parser α}
    [taken : Lays text first phase x] : Lays text first phase (if true = true then x else y) := by
  rw [if_pos rfl]
  exact taken

instance (priority := high) ite_false [Decidable (false = true)] {x y : Parser α}
    [left : Lays text first phase y] : Lays text first phase (if false = true then x else y) := by
  rw [if_neg Bool.false_ne_true]
  exact left

instance withReader {change : Context → Context} {p : Parser α} [lays : Lays text first phase p] :
    Lays text first phase (withReader change p : Parser α) where
  outcome c s := lays.outcome (change c) s

instance withIn {p : Parser α} [Lays text first phase p] :
    Lays text first phase (Parser.withIn p) := withReader

instance throw {e : SyntaxError} : Lays text first phase (throw e : Parser α) where
  outcome _ s sound _ _ := ⟨sound, .refl s⟩

instance fail {fault : Fault} {n : Nat} :
    Lays text first phase (Parser.fail fault n : Parser α) := throw

instance unexpected : Lays text first phase (Parser.unexpected : Parser α) where
  outcome _ _ sound _ _ := Steady.outcome_unexpected sound

/-- Nothing follows an unexpected token. -/
instance (priority := 2100) unexpected_bind {γ : Type} {f : γ → Parser α} :
    Lays text first phase (Parser.unexpected >>= f) where
  outcome _ _ sound _ _ :=
    (Steady.outcome_unexpected sound).bind fun _ _ _ _ (never : False) => never.elim

/-- Nothing follows a failure. -/
instance (priority := 2100) fail_bind {γ : Type} {fault : Fault} {n : Nat} {f : γ → Parser α} :
    Lays text first phase (Parser.fail fault n >>= f) where
  outcome _ s sound _ _ := ⟨sound, .refl s⟩

/-- What is read unless the token is unexpected. -/
theorem onExpected {c : Prop} [Decidable c] {γ : Type} {p : Parser α} {f : γ → Parser α}
    (rest : Lays text first phase p) :
    Lays text first phase (if c then p else Parser.unexpected >>= f) :=
  onBranch rest unexpected_bind

instance tryCatch {p : Parser α} {handler : SyntaxError → Parser α} [part : Lays text first phase p]
    [rest : ∀ e, Lays text first (.upon (phase.mark first)) (handler e)] :
    Lays text first phase (tryCatch p handler) where
  outcome c s sound edge holds := (part.outcome c s sound edge holds).tryCatch
      fun e t reached onward =>
    (rest e).outcome c t reached edge (Phase.Stable.onward (holds.upon sound) onward)

/-- What is attempted may have got anywhere before it is taken back. -/
instance attempt {p : Parser (Option Tree)} [lays : Lays text first phase p] :
    Lays text first phase (Parser.attempt p) where
  outcome c s sound edge holds := by
    unfold Parser.attempt
    rw [Parser.run_of_ok (a := s) (t := s) rfl rfl, Parser.run_bind, run_catch]
    have outcome := lays.outcome c s sound edge holds
    have empty : IsLaid text first first (none : Option Tree) := IsLaid.none
    have nothing : Layout.Reached text first none s := ⟨(empty.laid edge (Nat.le_refl _)).1, nofun⟩
    cases read : p c s with
    | error e t => exact .ok sound nothing
    | ok result t =>
      rw [read] at outcome
      cases result with
      | none => exact .ok sound nothing
      | some tree => exact outcome

theorem onAttempt {p : Parser (Option Tree)} (part : Lays text first phase p) :
    Lays text first phase (Parser.attempt p) :=
  attempt

theorem loopFrom {step : Tree → Parser (Option Tree)}
    [next : ∀ tree : {tree : Tree // Layout.Laid text first tree},
      Lays text first (.upon tree.val.span.start) (step tree.val)] :
    ∀ n (tree : {tree : Tree // Layout.Laid text first tree}),
      Lays text first (.upon tree.val.span.start) (Parser.loopFrom n step tree.val)
  | 0, tree => by
    unfold Parser.loopFrom
    infer_instance
  | n + 1, tree => by
    unfold Parser.loopFrom
    refine ⟨fun c s sound edge holds => ?_⟩
    refine ((next tree).outcome c s sound edge holds).bind fun found t reached onward laid => ?_
    cases found with
    | none =>
      have same : Lays text first (.upon tree.val.span.start) (Pure.pure tree.val : Parser Tree) :=
        pure
      exact same.outcome c t reached edge (Phase.Stable.onward holds onward)
    | some tree =>
      have laid : Layout.Reached text first tree t := ⟨laid.1 tree rfl, laid.2 tree rfl⟩
      exact (loopFrom n ⟨tree, laid.1⟩).outcome c t reached edge (upon_start laid)

instance loop {step : Tree → Parser (Option Tree)}
    {tree : {tree : Tree // Layout.Laid text first tree}}
    [∀ tree : {tree : Tree // Layout.Laid text first tree},
      Lays text first (.upon tree.val.span.start) (step tree.val)] :
    Lays text first (.upon tree.val.span.start) (Parser.loop step tree.val) where
  outcome c s := (loopFrom c.limit tree).outcome c s

/-- An expression from the current token on. -/
theorem steady_of_here {p : Parser α} (lays : ∀ first, Lays text first .here p) :
    Steady text p where
  outcome c s sound := ((lays s.lexeme.start.position).outcome c s sound sound.edge rfl).mono
    fun _ _ _ _ laid => Layout.sound laid.1

end Lays

/-- A string at the current token. -/
theorem outcome_string {c : Context} {s : State} {kind : Kind} {value : Option String}
    (literal : kind = .string value ∨ kind = .moduleSource value) (sound : s.Sound text)
    (here : s.lexeme.token = .string value) :
    Outcome text s (fun tree t => Layout.Reached text s.lexeme.start.position tree t ∧ s.Past t)
      ((do Parser.advance; Parser.node kind s.lexeme.start.position [] : Parser Tree) c s) :=
  (Steady.outcome_advance sound).bind fun _ t reached _ ⟨past, stop⟩ => by
    obtain ⟨q, quote, cs, reads, spells⟩ := sound.fits.string value here
    have quoted : Quoted text ⟨s.lexeme.start.position, t.lastStop⟩ := by
      rw [stop]
      exact ⟨q, quote, cs, s.lexeme.start, s.lexeme.stop, sound.place, reads, spells, rfl⟩
    refine .ok reached ⟨⟨⟨?_, Nat.le_refl _, sound.edge, reached.last, past⟩,
      Nat.le_trans past reached.behind⟩, past⟩
    rcases literal with rfl | rfl
    · exact .string quoted
    · exact .source quoted

/-- A parser that keeps to the text where this is the current token. -/
class SteadyAt [Content α] (text : List Char) (here : Lexeme) (p : Parser α) : Prop where
  outcome (c : Context) (s : State) : s.Sound text → s.lexeme = here →
    Outcome text s (fun a _ => Content.Sound text a) (p c s)

variable {here : Lexeme}

/-- What is read goes by the current token. -/
theorem Steady.onLexeme [Content α] {f : Lexeme → Parser α}
    (rest : ∀ here, SteadyAt text here (f here)) : Steady text (Parser.lexeme >>= f) where
  outcome c s sound := by
    rw [Parser.run_of_ok (a := s.lexeme) (t := s) rfl rfl]
    exact (rest _).outcome c s sound rfl

theorem Steady.onHere [Content α] {f : Nat → Token → Parser α}
    (rest : ∀ here, SteadyAt text here (f here.start.position here.token)) :
    Steady text (Parser.start >>= fun first => Parser.token >>= f first) where
  outcome c s sound := by
    rw [Parser.run_of_ok (a := s.lexeme.start.position) (t := s) rfl rfl,
      Parser.run_of_ok (a := s.lexeme.token) (t := s) rfl rfl]
    exact (rest _).outcome c s sound rfl

theorem Steady.at [Content α] {p : Parser α} (steady : Steady text p) : SteadyAt text here p where
  outcome c s sound _ := steady.outcome c s sound

theorem Lays.at [Content α] [Layout α] {p : Parser α}
    (lays : Lays text here.start.position .here p) : SteadyAt text here p where
  outcome c s sound begins := by
    subst begins
    exact (lays.outcome c s sound sound.edge rfl).mono fun _ _ _ _ laid => Layout.sound laid.1

/-- What is read from the end of the current token on, with what follows it. -/
theorem Lays.onStop {γ : Type} [Content γ] [Content α] [Layout α] {phase : Phase}
    [stable : phase.Stable] {p : Cursor → Parser γ} {f : γ → Parser α}
    (steady : ∀ {here : Lexeme} {place : Cursor}, here.start.Onward place →
      SteadyAt text here (p place))
    [rest : ∀ a : {a : γ // Content.Sound text a}, Lays text first phase (f a.val)] :
    Lays text first phase (do let here ← Parser.lexeme; let a ← p here.stop; f a) where
  outcome c s sound edge holds := by
    rw [Parser.run_of_ok (a := s.lexeme) (t := s) rfl rfl]
    exact ((steady sound.fits.onward).outcome c s sound rfl).bind fun a t reached onward fine =>
      (rest ⟨a, fine⟩).outcome c t reached edge (stable.onward holds onward)

/-- What is read at a place behind the beginning of the token. -/
theorem SteadyAt.resumed [Content α] [Layout α] {a b : Cursor} {p : Parser α}
    (first : here.start.Onward a) (second : a.Onward b)
    (rest : Lays text a.position (.past a.position) p) :
    SteadyAt text here (do Parser.resumeAt b; p) where
  outcome c s sound begins := by
    subst begins
    refine (outcome_resumeAt sound (first.trans second)).bind fun _ t reached _ stopped => ?_
    have past : (Phase.past a.position).Holds a.position t :=
      ⟨Nat.le_refl _, Nat.le_trans second.le (Nat.le_of_eq stopped.2.symm)⟩
    exact (rest.outcome c t reached (.of_onward (sound.place.trans first)) past).mono
      fun _ _ _ _ laid => Layout.sound laid.1

/-- A place behind the beginning of a token. -/
class Reaches (here : Lexeme) (place : Cursor) : Prop where
  onward : here.start.Onward place

instance {here : Lexeme} {place : {place : Cursor // here.start.Onward place}} :
    Reaches here place.val :=
  ⟨place.property⟩

instance SteadyAt.resume [Content α] {place : Cursor} {p : Parser α} [reaches : Reaches here place]
    [rest : Steady text p] : SteadyAt text here (do Parser.resumeAt place; p) where
  outcome c s sound same := by
    subst same
    exact (outcome_resumeAt sound reaches.onward).bind fun _ t reached _ _ =>
      rest.outcome c t reached

instance (priority := low) SteadyAt.steady [Content α] {p : Parser α} [steady : Steady text p] :
    SteadyAt text here p :=
  steady.at

instance SteadyAt.ite [Content α] {p : Prop} [Decidable p] {x y : Parser α} [SteadyAt text here x]
    [SteadyAt text here y] : SteadyAt text here (if p then x else y) := by
  split <;> infer_instance

/-- Nothing follows an unexpected token. -/
instance SteadyAt.unexpected [Content α] {f : β → Parser α} :
    SteadyAt text here (Parser.unexpected >>= f) where
  outcome _ _ sound _ :=
    (Steady.outcome_unexpected sound).bind fun _ _ _ _ (never : False) => never.elim

theorem SteadyAt.string {kind : Kind} {value : Option String}
    (literal : kind = .string value ∨ kind = .moduleSource value)
    (token : here.token = .string value) :
    SteadyAt text here (do Parser.advance; Parser.node kind here.start.position []) where
  outcome c s sound begins := by
    subst begins
    exact (outcome_string literal sound token).mono fun _ _ _ _ laid => laid.1.1.sound

/-- What follows a string. -/
theorem SteadyAt.string_bind [Content α] {kind : Kind} {value : Option String} {f : Tree → Parser α}
    (literal : kind = .string value ∨ kind = .moduleSource value)
    (token : here.token = .string value)
    (rest : ∀ tree : Tree, tree.Sound text → Steady text (f tree)) : SteadyAt text here
      (do Parser.advance; let tree ← Parser.node kind here.start.position []; f tree) where
  outcome c s sound begins := by
    subst begins
    have whole := (outcome_string (c := c) literal sound token).bind (f := f)
        fun tree t reached _ laid =>
      (rest tree laid.1.1.sound).outcome c t reached
    rwa [bind_assoc] at whole

/-- A parser that comes to an expression, from a mark on, where this is the current token. -/
class LaysAt [Content α] [Layout α] (text : List Char) (first mark : Nat) (here : Lexeme)
    (p : Parser α) : Prop where
  outcome (c : Context) (s : State) : s.Sound text → Edge text first → first ≤ mark →
    mark ≤ here.start.position → s.lexeme = here →
    Outcome text s (Layout.Reached text first) (p c s)

namespace LaysAt

variable [Content α] [Layout α]

instance (priority := low) of_upon {p : Parser α} [upon : Lays text first (.upon mark) p] :
    LaysAt text first mark here p where
  outcome c s sound edge le upto same := upon.outcome c s sound edge ⟨le, by subst same; exact upto⟩

theorem of_here {p : Parser α} (begins : here.start.position = first)
    (lays : Lays text first .here p) : LaysAt text first mark here p where
  outcome c s sound edge _ _ same := lays.outcome c s sound edge (by subst same; exact begins)

instance resume {place : Cursor} {p : Parser α} [reaches : Reaches here place]
    [rest : Lays text first (.past mark) p] :
    LaysAt text first mark here (do Parser.resumeAt place; p) where
  outcome c s sound edge le upto same := by
    subst same
    exact (outcome_resumeAt sound reaches.onward).bind fun _ t reached _ stopped =>
      rest.outcome c t reached edge ⟨le, Nat.le_trans upto stopped.1⟩

/-- Nothing follows an unexpected token. -/
instance unexpected {f : β → Parser α} : LaysAt text first mark here (Parser.unexpected >>= f) where
  outcome _ _ sound _ _ _ _ :=
    (Steady.outcome_unexpected sound).bind fun _ _ _ _ (never : False) => never.elim

instance ite {p : Prop} [Decidable p] {x y : Parser α} [LaysAt text first mark here x]
    [LaysAt text first mark here y] : LaysAt text first mark here (if p then x else y) := by
  split <;> infer_instance

end LaysAt

/-- What is read goes by the current token. -/
theorem Lays.onToken [Content α] [Layout α] {f : Token → Parser α}
    (rest : ∀ here : Lexeme, here.start.position = first →
      LaysAt text first first here (f here.token)) :
    Lays text first .here (Parser.token >>= f) where
  outcome c s sound edge holds := by
    rw [Parser.run_of_ok (a := s.lexeme.token) (t := s) rfl rfl]
    exact (rest s.lexeme holds).outcome c s sound edge (Nat.le_refl _) (Nat.le_of_eq holds.symm) rfl

/-- A parser of patterns, none of which is a literal. -/
class Patterned (text : List Char) (p : Parser Tree) : Prop where
  outcome (c : Context) (s : State) : s.Sound text →
    Outcome text s (fun tree _ => tree.Sound text ∧ tree.kind.isLiteral = false) (p c s)

/-- Productions that keep to the text; those of expressions come to one that lies there. -/
class SoundProductions (text : List Char) (rec : Productions) : Prop where
  moduleItem : Steady text (rec .moduleItem)
  statement (declarations : Bool) : Steady text (rec (.statement declarations))
  binding : Patterned text (rec .binding)
  type : Steady text (rec .type)
  typeOperand : Steady text (rec .typeOperand)
  assignment (first : Nat) : Lays text first .here (rec .assignment)
  unary (first : Nat) : Lays text first .here (rec .unary)
  operators (first : Nat) (left : {tree : Tree // Tree.Laid text first tree}) (bound : Nat) :
    Lays text first (.upon left.val.span.start) (rec (.operators left.val bound))
  operatorsOf {left : Tree} (bound : Nat) :
    left.Sound text → Steady text (rec (.operators left bound))
  access (first : Nat) : Lays text first .here (rec .access)
  callee (first : Nat) : Lays text first .here (rec .callee)
  element (first : Nat) : Lays text first (.past first) (rec (.element first))

attribute [instance] SoundProductions.moduleItem SoundProductions.statement SoundProductions.binding
  SoundProductions.type SoundProductions.typeOperand SoundProductions.assignment
  SoundProductions.unary SoundProductions.operators SoundProductions.access SoundProductions.callee
  SoundProductions.element

instance SoundProductions.steady_operators {rec : Productions}
    [productions : SoundProductions text rec] {left : Tree} {bound : Nat} [fine : Fine text left] :
    Steady text (rec (.operators left bound)) :=
  productions.operatorsOf bound fine.sound

/-- What follows a pattern has one that is no literal. -/
theorem Steady.onPattern [Content α] {p : Parser Tree} {f : Tree → Parser α}
    [patterned : Patterned text p]
    (rest : ∀ tree : Tree, tree.Sound text → tree.kind.isLiteral = false → Steady text (f tree)) :
    Steady text (p >>= f) where
  outcome c s sound := (patterned.outcome c s sound).bind fun tree t reached _ fine =>
    (rest tree fine.1 fine.2).outcome c t reached

instance (priority := low) Patterned.steady {p : Parser Tree}
    [patterned : Patterned text p] : Steady text p :=
  ⟨fun c s sound => (patterned.outcome c s sound).mono fun _ _ _ _ fine => fine.1⟩

namespace Patterned

variable {kind : Kind} {parts : List Tree}

theorem onPart [Content α] {p : Parser α} {f : α → Parser Tree} (first : Steady text p)
    (rest : ∀ a, Content.Sound text a → Patterned text (f a)) : Patterned text (p >>= f) where
  outcome c s sound := (first.outcome c s sound).bind fun a t reached _ fine =>
    (rest a fine).outcome c t reached

instance bind [Content α] {p : Parser α} {f : α → Parser Tree} [first : Steady text p]
    [rest : ∀ a : {a : α // Content.Sound text a}, Patterned text (f a.val)] :
    Patterned text (p >>= f) :=
  onPart first fun a fine => rest ⟨a, fine⟩

theorem onValue [Content α] {p : Parser α} {f : α → Parser Tree} [Steady text p]
    (rest : ∀ a : {a : α // Content.Sound text a}, Patterned text (f a.val)) :
    Patterned text (p >>= f) :=
  bind

instance pure {span : Span} [plain : Fine.IsFalse kind.isLiteral] [fine : Fine text parts] :
    Patterned text (pure (Tree.node kind span parts)) where
  outcome _ _ sound := .ok sound ⟨.plain plain.eq fine.sound, plain.eq⟩

instance node {first : Nat} [plain : Fine.IsFalse kind.isLiteral] [fine : Fine text parts] :
    Patterned text (Parser.node kind first parts) where
  outcome _ _ sound := .ok sound ⟨.plain plain.eq fine.sound, plain.eq⟩

end Patterned

namespace Steady

variable {rec : Productions} [productions : SoundProductions text rec]

instance (priority := low) assignment : Steady text (rec .assignment) :=
  Lays.steady_of_here productions.assignment

instance (priority := low) unary : Steady text (rec .unary) := Lays.steady_of_here productions.unary

instance (priority := low) access : Steady text (rec .access) :=
  Lays.steady_of_here productions.access

end Steady

end Phrasebook.Script
