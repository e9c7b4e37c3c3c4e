import Phrasebook.Proofs.Script.Data
import Phrasebook.Proofs.Script.Preface

/-!
Names that a script binds by imports and by declarations of variables. A script that begins with the
words by which a name is imported, if it can be read at all, imports the name by its first item.
-/

namespace Phrasebook.Script

open Text

namespace Tree

mutual

/-- Whether a pattern gives a value to a name. -/
def patternBinds (name : String) : Tree → Bool
  | node (.binding bound _) _ _ => bound == name
  | node (.shorthandPattern bound) _ _ => bound == name
  | node .group _ patterns => anyPatternBinds name patterns
  | node (.arrayPattern _) _ (elements :: _) => patternBinds name elements
  | node (.objectPattern _) _ (properties :: _) => patternBinds name properties
  | node .keyPattern _ [_, pattern] => patternBinds name pattern
  | node .withDefault _ (pattern :: _) => patternBinds name pattern
  | node .rest _ (pattern :: _) => patternBinds name pattern
  | _ => false

def anyPatternBinds (name : String) : List Tree → Bool
  | [] => false
  | pattern :: patterns => patternBinds name pattern || anyPatternBinds name patterns

end

mutual

/-- Whether a name is bound somewhere in a tree, by an import of its value or by a declaration of a
variable. -/
def binds (name : String) : Tree → Bool
  | node (.importDeclaration true) _ _ => false
  | node (.importDefault bound) _ _ => bound == name
  | node (.importNamespace bound) _ _ => bound == name
  | node (.importNamed bound typeOnly) _ _ => bound == name && !typeOnly
  | node (.importEquals bound _ typeOnly) _ _ => bound == name && !typeOnly
  | node (.declarator _) _ (pattern :: rest) =>
    patternBinds name pattern || binds name pattern || anyBinds name rest
  | node _ _ parts => anyBinds name parts

def anyBinds (name : String) : List Tree → Bool
  | [] => false
  | tree :: trees => binds name tree || anyBinds name trees

end

end Tree

/-- Whether a script binds a name somewhere. -/
def Document.binds (name : String) (script : Document) : Bool := Tree.anyBinds name script.items

example : (parse .javaScript "const \x7b a: [b = c] \x7d = d;".toList).toOption.map
    (fun script => ["a", "b", "c", "d"].map (script.binds ·)) =
    some [false, true, false, false] := by decide +kernel

/-- A name that may be imported by itself, and that no word of the grammar is. -/
structure Importable (name : String) : Prop where
  identifier : isIdentifier name = true
  word : Grammar.isVariableWord name = true
  plain : name ≠ "type"

/-- An import of the value of a module under a name. -/
def ImportsDefault (name : String) (item : Tree) : Prop :=
  ∃ span inner source attributes,
    item = .node (.importDeclaration false) span
    [.group [.node (.importDefault name) inner []], source, attributes]

theorem ImportsDefault.binds {name : String} {item : Tree} (imports : ImportsDefault name item) :
    item.binds name = true := by
  obtain ⟨span, inner, source, attributes, rfl⟩ := imports
  simp [Tree.binds, Tree.anyBinds, Tree.group]

namespace Grammar

open Phrasebook.Script.Parser

variable {rec : Productions} {c : Context} {name : String}

theorem declaredName_of_word (importable : Importable name) {start inner : Cursor}
    {breaks : Bool} {last : Nat} {comments : List Span} :
    declaredName c ⟨⟨.word name false, start, inner, breaks⟩, last, comments⟩ = .ok name
      (stateAt inner comments) := by
  have word := importable.word
  rw [isVariableWord, Bool.not_eq_true'] at word
  simp only [Bool.or_eq_false_iff] at word
  obtain ⟨⟨⟨⟨keyword, -⟩, -⟩, -⟩, await⟩ := word
  unfold declaredName
  refine run_of_ok (a := .word name false) rfl ?_
  dsimp only
  refine run_of_ok (a := c.dialect.typed) rfl ?_
  refine run_of_ok (a := c) rfl ?_
  rw [keyword, await, Bool.false_and, Bool.false_and, Bool.or_false, Bool.and_false,
    if_neg Bool.false_ne_true]
  rfl

/-- Behind the words `import` and a name the item imports the name, if it can be read. -/
theorem moduleItem_importDefault (importable : Importable name)
    {first place inner : Cursor} {breaks : Bool} {last : Nat} {comments : List Span}
    {tree : Tree} {t : State} (named : ∃ start breaks, nextLexeme place false =
      (⟨.word name false, start, inner, breaks⟩, []))
    (behind : ∃ start stop breaks, nextLexeme inner false =
      (⟨.word "from" false, start, stop, breaks⟩, []))
    (read : moduleItem rec c ⟨⟨.word "import" false, first, place, breaks⟩, last, comments⟩ =
      .ok tree t) :
    ImportsDefault name tree := by
  obtain ⟨start, breaks', named⟩ := named
  obtain ⟨start', stop, breaks'', behind⟩ := behind
  have atName : stateAt place comments =
      ⟨⟨.word name false, start, inner, breaks'⟩, place.position, comments⟩ := by
    rw [stateAt, named]
    rfl
  have atFrom : stateAt inner comments =
      ⟨⟨.word "from" false, start', stop, breaks''⟩, inner.position, comments⟩ := by
    rw [stateAt, behind]
    rfl
  let inside : Context := { c with colonEnds := false }
  have run : moduleItem rec c ⟨⟨.word "import" false, first, place, breaks⟩, last, comments⟩ =
      (fromClause rec >>= fun clause => node (.importDeclaration false) first.position
        [.group [.node (.importDefault name) ⟨start.position, inner.position⟩ []],
          clause.1, clause.2]) inside
        (stateAt inner comments) := by
    unfold moduleItem asStatement
    rw [run_withReader]
    -- No decorators and no expression.
    refine run_of_ok (a := first.position) rfl ?_
    refine run_of_ok (collect_of_none rfl) ?_
    refine run_of_ok (a := false)
      (t := ⟨⟨.word "import" false, first, place, breaks⟩, last, comments⟩) ?_ ?_
    · refine run_of_ok (a := true) rfl ?_
      change EStateM.Result.ok (isMarkToken .openParen (nextLexeme place false).1.token ||
        isMarkToken .dot (nextLexeme place false).1.token) _ = _
      rw [named]
      rfl
    refine run_of_ok (a := true) rfl ?_
    refine run_of_ok (a := ()) (t := stateAt place comments) rfl ?_
    rw [atName]
    -- The name, which is not the word that marks imports of types.
    unfold importRest
    refine run_of_ok (a := .word name false) rfl ?_
    dsimp only
    refine run_of_ok (a := c.dialect.typed) rfl ?_
    refine run_of_ok (a := false)
      (t := ⟨⟨.word name false, start, inner, breaks'⟩, place.position, comments⟩) ?_ ?_
    · exact congrArg (EStateM.Result.ok · _) (beq_eq_false_iff_ne.mpr importable.plain)
    rw [Bool.and_false, if_neg Bool.false_ne_true]
    refine run_of_ok (a := false) rfl ?_
    refine run_of_ok (a := start.position) rfl ?_
    refine run_of_ok (a := true)
      (t := ⟨⟨.word name false, start, inner, breaks'⟩, place.position, comments⟩) ?_ ?_
    · exact congrArg (EStateM.Result.ok · _) importable.word
    rw [if_pos rfl]
    refine run_of_ok (a := some name) (t := stateAt inner comments) ?_ ?_
    · change EStateM.map some (declaredName inside) _ = _
      unfold EStateM.map
      rw [declaredName_of_word importable]
    rw [atFrom]
    dsimp only
    refine run_of_ok (a := c.dialect.typed) rfl ?_
    refine run_of_ok (a := false) rfl ?_
    rw [Bool.and_false, if_neg Bool.false_ne_true]
    -- Nothing else is imported.
    refine run_of_ok (a := .node (.importDefault name) ⟨start.position, inner.position⟩ []) rfl ?_
    refine run_of_ok (a := true) rfl ?_
    rw [if_pos rfl]
    refine run_of_ok (a := [.node (.importDefault name) ⟨start.position, inner.position⟩ []]) rfl ?_
    refine run_of_ok (a := []) rfl ?_
    rfl
  rw [run, run_bind] at read
  split at read
  · rename_i clause behind _
    obtain ⟨rfl, -⟩ := EStateM.Result.ok.inj read
    exact ⟨_, _, _, _, rfl⟩
  · cases read

end Grammar

namespace Parser

/-- The results of a step begin with the first one, if there is any. -/
theorem first_of_collect {α : Type} {step : Parser (Option α)} {c : Context} {s t : State}
    {results : List α} (collected : collect step c s = .ok results t) (room : 0 < c.limit) :
    ∃ first u, step c s = .ok first u ∧ ∀ a, first = some a → ∃ rest, results = a :: rest := by
  obtain ⟨limit, more⟩ := Nat.exists_eq_add_one.mpr room
  have run : collectFrom (limit + 1) step c s = .ok results t := by
    rw [← more]
    exact collected
  rw [collectFrom, run_bind] at run
  split at run
  · rename_i result u first
    refine ⟨result, u, first, ?_⟩
    rintro a rfl
    dsimp only at run
    rw [run_bind] at run
    split at run
    · obtain ⟨rfl, -⟩ := EStateM.Result.ok.inj run
      exact ⟨_, rfl⟩
    · cases run
  · cases run

end Parser

section
open Phrasebook.Script.Parser

theorem nextLexeme_blank_identifier {text : String} (identifier : isIdentifier text = true)
    {rest : List Char} (ends : EndsWord rest) (p : Nat) :
    ∃ start, nextLexeme ⟨' ' :: (text.toList ++ rest), p⟩ false =
      (⟨.word text false, start, ⟨rest, p + 1 + byteLength text.toList⟩, false⟩, []) := by
  have blank (cs : List Char) : nextLexeme ⟨' ' :: cs, p⟩ false =
      nextLexeme ⟨cs, p + 1⟩ false := rfl
  rw [blank, nextLexeme_identifier identifier ends]
  exact ⟨_, rfl⟩

/-- A script with the words of an import in front, if it can be read, imports the name by its first
item. -/
theorem imports_of_parse {dialect : Dialect} {front rest : List Char} {name : String}
    {script : Document} (importable : Importable name) (preface : Preface front)
    (parsed : parse dialect
      (front ++ ("import ".toList ++ (name.toList ++ (" from ".toList ++ rest)))) = .ok script) :
    ∃ item items, script.items = item :: items ∧ ImportsDefault name item := by
  have blank (cs : List Char) : EndsWord (' ' :: cs) := ⟨by decide, by decide⟩
  let behind : List Char := ' ' :: ("from".toList ++ ' ' :: rest)
  let text : List Char := "import".toList ++ ' ' :: (name.toList ++ behind)
  have whole : "import ".toList ++ (name.toList ++ (" from ".toList ++ rest)) = text := rfl
  have plain : text.head? ≠ some '\ufeff' := nofun
  have unmarked : text.head? ≠ some '#' := nofun
  have source : dropByteOrderMark (front ++ text) = front ++ text :=
    dropByteOrderMark_of_unmarked (preface.unmarked plain)
  have importing : isIdentifier "import" = true := by decide
  have coming : isIdentifier "from" = true := by decide
  have first := nextLexeme_identifier importing (blank (name.toList ++ behind))
      (byteLength front) true
  obtain ⟨nameStart, named⟩ :=
    nextLexeme_blank_identifier importable.identifier (blank ("from".toList ++ ' ' :: rest))
    (byteLength front + byteLength "import".toList)
  obtain ⟨fromStart, ended⟩ := nextLexeme_blank_identifier coming (blank rest)
    (byteLength front + byteLength "import".toList + 1 + byteLength name.toList)
  unfold parse at parsed
  dsimp only at parsed
  rw [whole, source, preface.nextLexeme unmarked, first] at parsed
  generalize (front ++ text).length = size at parsed
  split at parsed
  · rename_i items state collected
    obtain rfl := Except.ok.inj parsed
    have deep : 16 * (size + 2) = 16 * size + 31 + 1 := by omega
    rw [deep] at collected
    obtain ⟨result, u, begun, same⟩ := first_of_collect collected (Nat.succ_pos _)
    -- The script is not at its end, so that the first step reads an item.
    have item : (productions (16 * size + 31 + 1) .moduleItem >>= fun item => pure (some item))
        { dialect := dialect, limit := size + 2 } ⟨⟨.word "import" false, ⟨text, byteLength front⟩,
          ⟨' ' :: (name.toList ++ behind), byteLength front + byteLength "import".toList⟩, true⟩, 0,
            []⟩ =
        .ok result u := begun
    rw [run_bind] at item
    split at item
    · rename_i tree state read
      obtain ⟨rfl, rfl⟩ := EStateM.Result.ok.inj item
      obtain ⟨rest, rfl⟩ := same tree rfl
      exact ⟨tree, rest, rfl, Grammar.moduleItem_importDefault importable ⟨_, _, named⟩
        ⟨_, _, _, ended⟩ read⟩
    · cases item
  · cases parsed

end

end Phrasebook.Script
