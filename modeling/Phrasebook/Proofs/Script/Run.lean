import Phrasebook.Script.Parse

/-!
Runs of the parser. An operand that a comma or a closing bracket follows is a whole expression, and
a list is read item by item.
-/

namespace Phrasebook.Script

namespace Parser

theorem run_bind {α β : Type} (x : Parser α) (f : α → Parser β) (c : Context) (s : State) :
    (x >>= f) c s = match x c s with
      | .ok a t => f a c t
      | .error e t => .error e t := by
  change EStateM.bind (x c) (fun a => f a c) s = _
  unfold EStateM.bind
  cases x c s <;> rfl

theorem run_withReader {α : Type} (change : Context → Context) (x : Parser α)
    (c : Context) (s : State) : (withReader change x) c s = x (change c) s := rfl

/-- Goes on behind a part that has been read. -/
theorem run_tryCatch {α : Type} {x : Parser α} {c : Context} {s t : State} {a : α}
    (read : x c s = .ok a t) (handler : SyntaxError → Parser α) :
    (tryCatch x handler) c s = .ok a t := by
  change EStateM.tryCatch (x c) (fun e => handler e c) s = _
  unfold EStateM.tryCatch
  rw [read]

theorem run_of_ok {α β : Type} {x : Parser α} {f : α → Parser β} {c : Context} {s t : State} {a : α}
    {r : EStateM.Result SyntaxError State β} (read : x c s = .ok a t) (rest : f a c t = r) :
    (x >>= f) c s = r := by
  rw [run_bind, read]
  exact rest

/-- Goes back where a part finds nothing. -/
theorem attempt_of_none {α : Type} {x : Parser (Option α)} {c : Context} {s t : State}
    (nothing : x c s = .ok none t) : attempt x c s = .ok none s :=
  run_of_ok (a := s) rfl (run_of_ok (run_tryCatch nothing _) rfl)

end Parser

/-- The state in which the token at a place is the current one. -/
def stateAt (place : Cursor) (comments : List Span) : State :=
  let (lexeme, more) := nextLexeme place false
  ⟨lexeme, place.position, more ++ comments⟩

namespace Grammar

open Phrasebook.Script.Parser

/-- An operand begins that is a string, a number, a truth value or an object. -/
inductive Opens : State → Prop
  | string (value start stop breaks last comments) :
    Opens ⟨⟨.string value, start, stop, breaks⟩, last, comments⟩
  | number (value start stop breaks last comments) :
    Opens ⟨⟨.number value, start, stop, breaks⟩, last, comments⟩
  | object (start stop breaks last comments) :
    Opens ⟨⟨.mark .openBrace, start, stop, breaks⟩, last, comments⟩
  | yes (start stop breaks last comments) :
    Opens ⟨⟨.word "true" false, start, stop, breaks⟩, last, comments⟩
  | no (start stop breaks last comments) :
    Opens ⟨⟨.word "false" false, start, stop, breaks⟩, last, comments⟩

/-- A mark that ends an argument of a call, a property of an object or a whole item. -/
inductive Closes : State → Prop
  | comma (start stop breaks last comments) :
    Closes ⟨⟨.mark .comma, start, stop, breaks⟩, last, comments⟩
  | paren (start stop breaks last comments) :
    Closes ⟨⟨.mark .closeParen, start, stop, breaks⟩, last, comments⟩
  | brace (start stop breaks last comments) :
    Closes ⟨⟨.mark .closeBrace, start, stop, breaks⟩, last, comments⟩
  | semicolon (start stop breaks last comments) :
    Closes ⟨⟨.mark .semicolon, start, stop, breaks⟩, last, comments⟩

/-- A string, a number, a truth value or an object. -/
inductive IsOperand : Tree → Prop
  | string (value span parts) : IsOperand (.node (.string value) span parts)
  | number (value span parts) : IsOperand (.node (.number value) span parts)
  | boolean (value span parts) : IsOperand (.node (.boolean value) span parts)
  | object (span parts) : IsOperand (.node .object span parts)

variable {rec : Productions} {c : Context} {s t : State} {tree : Tree}

theorem subscripts_of_closes (closes : Closes t) (operand : IsOperand tree) (room : 0 < c.limit)
    (noCall noIndex : Bool) : subscripts rec noCall noIndex tree c t = .ok tree t := by
  obtain ⟨dialect, limit, _, _, _, _, _, _, _, _, _⟩ := c
  obtain ⟨limit, rfl⟩ := Nat.exists_eq_add_one.mpr room
  cases closes with
  | _ start stop breaks last comments =>
    cases operand <;> cases dialect <;> cases breaks <;> cases noCall <;> cases noIndex <;> rfl

theorem callee_of_primary (opens : Opens s) (read : primary rec c s = .ok tree t)
    (closes : Closes t) (operand : IsOperand tree) (room : 0 < c.limit) :
    callee rec c s = .ok tree t := by
  have enter : callee rec c s = (primary rec >>= fun operand =>
      if isArrow operand then pure operand else subscripts rec true false operand) c s := by
    cases opens <;> rfl
  have plain : isArrow tree = false := by cases operand <;> rfl
  rw [enter]
  refine run_of_ok read ?_
  rw [plain]
  exact subscripts_of_closes closes operand room true false

theorem access_of_callee (opens : Opens s) (read : callee rec c s = .ok tree t) (closes : Closes t)
    (operand : IsOperand tree) : access rec c s = .ok tree t := by
  have enter : access rec c s = (callee rec >>= accessFrom rec s.lexeme.start.position) c s := by
    obtain ⟨dialect, _, _, _, _, _, _, _, _, _, _⟩ := c
    cases opens <;> cases dialect <;> rfl
  rw [enter]
  refine run_of_ok read ?_
  obtain ⟨dialect, _, _, _, _, _, _, _, _, _, _⟩ := c
  cases closes <;> cases operand <;> cases dialect <;> rfl

theorem unary_of_access (opens : Opens s) (read : rec .access c s = .ok tree t) (closes : Closes t)
    (operand : IsOperand tree) : unary rec c s = .ok tree t := by
  have enter : unary rec c s = (rec .access >>= updateFrom s.lexeme.start.position) c s := by
    obtain ⟨dialect, _, _, _, _, _, _, _, _, _, _⟩ := c
    cases opens <;> cases dialect <;> rfl
  rw [enter]
  refine run_of_ok read ?_
  cases closes with
  | _ start stop breaks last comments => cases operand <;> cases breaks <;> rfl

theorem operators_of_closes (closes : Closes t) (room : 0 < c.limit) :
    operators rec tree 0 c t = .ok tree t := by
  obtain ⟨dialect, limit, _, _, _, _, _, _, _, _, _⟩ := c
  obtain ⟨limit, rfl⟩ := Nat.exists_eq_add_one.mpr room
  cases closes with
  | _ start stop breaks last comments => cases dialect <;> cases breaks <;> rfl

theorem binary_of_unary (read : rec .unary c s = .ok tree t) (operand : IsOperand tree)
    (operators : rec (.operators tree 0) c t = .ok tree t) : binary rec c s = .ok tree t := by
  unfold binary
  refine run_of_ok (t := s) rfl ?_
  refine run_of_ok (run_tryCatch read _) ?_
  have plain : isArrow tree = false := by cases operand <;> rfl
  rw [plain]
  exact operators

theorem conditional_of_binary (read : binary rec c s = .ok tree t) (closes : Closes t)
    (operand : IsOperand tree) : conditional rec c s = .ok tree t := by
  have enter : conditional rec c s =
      (binary rec >>= conditionalFrom rec s.lexeme.start.position) c s := rfl
  rw [enter]
  refine run_of_ok read ?_
  cases closes <;> cases operand <;> rfl

theorem assignment_of_conditional (opens : Opens s)
    (read : conditional rec { c with arrowAt := some s.lexeme.start.position } s = .ok tree t)
    (closes : Closes t) (operand : IsOperand tree) : assignment rec c s = .ok tree t := by
  have enter : assignment rec c s =
      (withReader ({ · with arrowAt := some s.lexeme.start.position })
        (conditional rec) >>= fun tree =>
        if isFinished tree.kind then pure tree
            else assignmentRest rec s.lexeme.start.position tree) c s := by
    obtain ⟨dialect, _, _, generator, _, _, _, _, _, _, _⟩ := c
    cases opens <;> cases dialect <;> cases generator <;> rfl
  rw [enter]
  refine run_of_ok read ?_
  cases closes <;> cases operand <;> rfl

/-- An operand that a comma or a closing bracket follows is a whole expression. -/
theorem assignment_of_primary {n : Nat} (opens : Opens s)
    (read : primary (productions n)
      { c with arrowAt := some s.lexeme.start.position } s = .ok tree t)
    (closes : Closes t) (operand : IsOperand tree) (room : 0 < c.limit) :
    productions (n + 3) .assignment c s = .ok tree t := by
  let inside := { c with arrowAt := some s.lexeme.start.position }
  have access : access (productions n) inside s = .ok tree t :=
    access_of_callee opens (callee_of_primary opens read closes operand room) closes operand
  have unary : productions (n + 2) .unary inside s = .ok tree t :=
    unary_of_access opens access closes operand
  have operators : productions (n + 2) (.operators tree 0) inside t = .ok tree t :=
    operators_of_closes closes room
  have binary : binary (productions (n + 2)) inside s = .ok tree t :=
    binary_of_unary unary operand operators
  exact assignment_of_conditional opens (conditional_of_binary binary closes operand) closes operand

end Grammar

namespace Parser

variable {α : Type} {item : Parser α} {close : Mark} {c : Context}

/-- Items with commas between them are read, from the first one to the closing mark. -/
inductive ReadsItems (item : Parser α) (close : Mark) (c : Context) : State → List α → State → Prop
  | last {s t : State} {a : α} (other : isMark close c s = .ok false s)
      (more : atEnd c s = .ok false s)
    (read : item c s = .ok a t) (closed : isMark close c t = .ok true t) :
    ReadsItems item close c s [a] t
  | cons {s t u : State} {a : α} {as : List α} (other : isMark close c s = .ok false s)
    (more : atEnd c s = .ok false s) (read : item c s = .ok a t)
    (comma : t.lexeme.token = .mark .comma)
    (rest : ReadsItems item close c (stateAt t.lexeme.stop t.comments) as u) :
    ReadsItems item close c s (a :: as) u

theorem ReadsItems.closed {s t : State} {as : List α} (items : ReadsItems item close c s as t) :
    isMark close c t = .ok true t := by
  induction items with
  | last _ _ _ closed => exact closed
  | cons _ _ _ _ _ ih => exact ih

theorem expectMark_of_isMark {s : State} (here : isMark close c s = .ok true s) :
    expectMark close c s = .ok () (stateAt s.lexeme.stop s.comments) :=
  run_of_ok (run_of_ok here rfl) rfl

theorem listItem?_of_closed {s : State} (closed : isMark close c s = .ok true s) :
    listItem? close item c s = .ok none s := run_of_ok closed rfl

theorem listItem?_last {s t : State} {a : α} (other : isMark close c s = .ok false s)
    (more : atEnd c s = .ok false s) (read : item c s = .ok a t)
    (closed : isMark close c t = .ok true t) : listItem? close item c s = .ok (some a) t := by
  refine run_of_ok other (run_of_ok more (run_of_ok read (run_of_ok closed ?_)))
  rfl

theorem listItem?_comma {s t : State} {a : α} (other : isMark close c s = .ok false s)
    (more : atEnd c s = .ok false s) (read : item c s = .ok a t)
    (comma : t.lexeme.token = .mark .comma) (apart : close ≠ .comma) :
    listItem? close item c s = .ok (some a) (stateAt t.lexeme.stop t.comments) := by
  obtain ⟨⟨_, start, stop, breaks⟩, last, comments⟩ := t
  obtain rfl : _ = Token.mark .comma := comma
  have differs : isMark close c ⟨⟨.mark .comma, start, stop, breaks⟩, last, comments⟩ =
      .ok false ⟨⟨.mark .comma, start, stop, breaks⟩, last, comments⟩ := by
    cases close <;> first | rfl | exact (apart rfl).elim
  refine run_of_ok other (run_of_ok more (run_of_ok read (run_of_ok differs ?_)))
  rfl

theorem collectFrom_of_readsItems {s t : State} {as : List α}
    (items : ReadsItems item close c s as t) (apart : close ≠ .comma) {n : Nat}
    (room : as.length ≤ n) : collectFrom n (listItem? close item) c s = .ok as t := by
  induction items generalizing n with
  | last other more read closed =>
    obtain ⟨n, rfl⟩ := Nat.exists_eq_add_one.mpr room
    refine run_of_ok (listItem?_last other more read closed) ?_
    cases n with
    | zero => rfl
    | succ n => exact run_of_ok (run_of_ok (listItem?_of_closed closed) rfl) rfl
  | cons other more read comma rest ih =>
    obtain ⟨n, rfl⟩ := Nat.exists_eq_add_one.mpr (Nat.zero_lt_of_lt room)
    refine run_of_ok (listItem?_comma other more read comma apart) ?_
    exact run_of_ok (ih (Nat.le_of_succ_le_succ room)) rfl

/-- Such items make up the list up to the mark. -/
theorem listUntil_of_readsItems {s t : State} {as : List α} (items : ReadsItems item close c s as t)
    (apart : close ≠ .comma) (room : as.length ≤ c.limit) :
    listUntil close item c s = .ok as (stateAt t.lexeme.stop t.comments) := by
  have collected : collect (listItem? close item) c s = .ok as t :=
    run_of_ok (a := c) (t := s) rfl (collectFrom_of_readsItems items apart room)
  exact run_of_ok collected (run_of_ok (expectMark_of_isMark items.closed) rfl)

theorem collect_of_none {step : Parser (Option α)} {s : State} (none : step c s = .ok none s) :
    collect step c s = .ok [] s := by
  refine run_of_ok (a := c) (t := s) rfl ?_
  cases c.limit with
  | zero => rfl
  | succ limit => exact run_of_ok none rfl

/-- One result, and then nothing more. -/
theorem collect_one {step : Parser (Option α)} {s t : State} {a : α}
    (first : step c s = .ok (some a) t) (last : step c t = .ok none t) (room : 2 ≤ c.limit) :
    collect step c s = .ok [a] t := by
  obtain ⟨limit, more⟩ := Nat.exists_eq_add_of_le' room
  have run : collectFrom (limit + 2) step c s = .ok [a] t :=
    run_of_ok first (run_of_ok (run_of_ok last rfl) rfl)
  refine run_of_ok (a := c) (t := s) rfl ?_
  rw [more]
  exact run

/-- Nothing stands between two brackets. -/
theorem listUntil_of_closed {s : State} (closed : isMark close c s = .ok true s) :
    listUntil close item c s = .ok [] (stateAt s.lexeme.stop s.comments) :=
  run_of_ok (collect_of_none (listItem?_of_closed closed))
    (run_of_ok (expectMark_of_isMark closed) rfl)

end Parser

namespace Grammar

open Phrasebook.Script.Parser

variable {rec : Productions} {c : Context}

/-- A token that names a property, and the kind of the name. -/
inductive IsKey : Token → Kind → Prop
  | word (name) : IsKey (.word name false) (.name name)
  | string (value) : IsKey (.string value) (.stringName value)

variable {token : Token} {kind : Kind}

/-- A key with a colon behind it is no modifier. -/
theorem modifier?_before_colon (key : IsKey token kind) (words : List String) (start : Cursor)
    (text : List Char) (p : Nat) (breaks : Bool) (last : Nat) (comments : List Span) :
    let s : State := ⟨⟨token, start, ⟨':' :: text, p⟩, breaks⟩, last, comments⟩
    modifier? words c s = .ok none s := by
  intro s
  cases key with
  | string value => rfl
  | word name =>
    unfold modifier?
    refine run_of_ok (a := .word name false) rfl ?_
    simp only
    split
    · rfl
    · rfl

/-- A key, a colon and an expression are a property. -/
theorem objectProperty_of_assignment (key : IsKey token kind) {start : Cursor}
    {text : List Char} {p : Nat} {breaks : Bool} {last : Nat} {comments : List Span}
    {tree : Tree} {t : State}
    (read : rec .assignment c (stateAt ⟨text, p + 1⟩ comments) = .ok tree t) :
    objectProperty rec c ⟨⟨token, start, ⟨':' :: text, p⟩, breaks⟩, last, comments⟩ =
      .ok (.node .keyValue ⟨start.position, t.lastStop⟩
        [.node kind ⟨start.position, p⟩ [], tree]) t := by
  have behind : (rec .assignment >>= fun value => node .keyValue start.position
      [.node kind ⟨start.position, p⟩ [], value]) c (stateAt ⟨text, p + 1⟩ comments) =
        .ok (.node .keyValue ⟨start.position, t.lastStop⟩
          [.node kind ⟨start.position, p⟩ [], tree]) t := run_of_ok read rfl
  have modifiers := collect_of_none (c := c) (modifier?_before_colon key
    ["public", "private", "protected", "readonly"] start text p breaks last comments)
  obtain ⟨dialect, _, _, _, _, _, _, _, _, _, _⟩ := c
  cases dialect with
  | javaScript => cases key <;> exact behind
  | _ =>
    -- No spread and no generator; the typed dialects look for modifiers then.
    cases key <;>
      exact run_of_ok (a := start.position) rfl
      (run_of_ok (a := false) rfl (run_of_ok (a := false) rfl
        (run_of_ok (a := true) rfl (run_of_ok modifiers behind))))

/-- Properties in braces are an object. -/
theorem objectLiteral_of_listUntil {start place : Cursor} {breaks : Bool} {last : Nat}
    {comments : List Span} {properties : List Tree} {t : State}
    (list : listUntil .closeBrace (objectProperty rec) { c with allowIn := true }
      (stateAt place comments) = .ok properties t) :
    objectLiteral rec c ⟨⟨.mark .openBrace, start, place, breaks⟩, last, comments⟩ =
      .ok (.node .object ⟨start.position, t.lastStop⟩ properties) t := by
  unfold objectLiteral
  refine run_of_ok (a := start.position) rfl ?_
  refine run_of_ok (t := stateAt place comments) (a := ()) rfl ?_
  exact run_of_ok list rfl

end Grammar
end Phrasebook.Script
