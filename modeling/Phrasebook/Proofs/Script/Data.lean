import Phrasebook.Proofs.Json.Reading
import Phrasebook.Proofs.Script.Run
import Phrasebook.Proofs.Script.Token

/-!
Data in scripts. A script reads texts that are quoted for JSON, and the lines between them hold
nothing but their indentation.
-/

namespace Phrasebook.Script

open Text
open Json (Escaped escapeChar escaped_escapeChar newLine quoted)

/-- A control character is read back from its number. -/
theorem readCodePoint_control {c : Char} (low : c.toNat < 0x20) (rest : List Char) (p : Nat) :
    readCodePoint
      ('0' :: '0' :: Json.hexDigit (c.toNat / 16) :: Json.hexDigit (c.toNat % 16) :: rest) p = .ok
        (c.toNat, ⟨rest, p + 4⟩) := by
  have digit : ∀ n < 16, hexValue? (Json.hexDigit n) = some n := Json.hexValue?_hexDigit
  have number : hexNumber? ['0', '0', Json.hexDigit (c.toNat / 16), Json.hexDigit (c.toNat % 16)] =
      some c.toNat := by
    simp only [hexNumber?, List.foldl_cons, List.foldl_nil, digit (c.toNat / 16) (by omega),
      digit (c.toNat % 16) (by omega), show hexValue? '0' = some 0 by decide]
    simp only [Option.pure_def, Option.bind_eq_bind, Option.bind_some, Option.some.injEq]
    omega
  rw [readCodePoint]
  · rw [List.take_succ_cons, List.take_succ_cons, List.take_succ_cons,
      List.take_succ_cons, List.take_zero, number]
    exact if_pos (by simp)
  · rintro _ ⟨⟩

theorem readEscape_control {c : Char} (low : c.toNat < 0x20) (rest : List Char) (p : Nat) :
    readEscape false
      ('u' :: '0' :: '0' :: Json.hexDigit (c.toNat / 16) :: Json.hexDigit (c.toNat % 16) ::
      rest) p = .ok (some c.toNat, ⟨rest, p + 5⟩) := by
  change (readCodePoint _ (p + 1) >>= fun found => pure (some found.1, found.2)) = _
  rw [readCodePoint_control low]
  rfl

theorem utf8Size_hexDigit : ∀ n < 16, (Json.hexDigit n).utf8Size = 1 := by decide

/-- A text that is quoted for JSON is a string of a script. -/
theorem readsForms_escapeChar : ReadsForms '"' escapeChar where
  filled c := by
    have escaped := escaped_escapeChar c
    generalize escapeChar c = form at escaped ⊢
    cases escaped <;> exact List.cons_ne_nil _ _
  code c rest fuel p codes := by
    have escaped := escaped_escapeChar c
    generalize escapeChar c = form at escaped ⊢
    cases escaped with
    | letter known =>
      simp only [Json.letterEscapes, List.mem_cons, Prod.mk.injEq, List.not_mem_nil,
        or_false] at known
      rcases known with ⟨rfl, rfl⟩ | ⟨rfl, rfl⟩ | ⟨rfl, rfl⟩ | ⟨rfl, rfl⟩ |
        ⟨rfl, rfl⟩ | ⟨rfl, rfl⟩ | ⟨rfl, rfl⟩ <;> rfl
    | control low =>
      have length : byteLength ['\\', 'u', '0', '0', Json.hexDigit (c.toNat / 16),
          Json.hexDigit (c.toNat % 16)] = 6 := by
        simp only [byteLength, utf8Size_hexDigit (c.toNat / 16) (by omega),
          utf8Size_hexDigit (c.toNat % 16) (by omega)]
        rfl
      rw [length]
      simp only [List.cons_append, List.nil_append]
      rw [readStringCodes, readEscape_control low]
      rfl
    | plain quote backslash high =>
      have quoted : (c == '"') = false := beq_eq_false_iff_ne.mpr quote
      have escaped : (c == '\\') = false := beq_eq_false_iff_ne.mpr backslash
      have lineEnd : (c == '\n' || c == '\r') = false := by
        rw [Bool.or_eq_false_iff, beq_eq_false_iff_ne, beq_eq_false_iff_ne]
        constructor <;> rintro rfl <;> exact absurd high (by decide)
      rw [List.singleton_append, readStringCodes, quoted, escaped, lineEnd]
      rfl

/-- A quoted text is one token. -/
theorem nextLexeme_quoted (text : String) (rest : List Char) (p : Nat) (first : Bool) :
    nextLexeme ⟨quoted text ++ rest, p⟩ first =
      (⟨.string (some text), ⟨quoted text ++ rest, p⟩, ⟨rest, p + byteLength (quoted text)⟩, first⟩,
        []) := by
  have form : quoted text ++ rest = '"' :: (text.toList.flatMap escapeChar ++ '"' :: rest) := by
    simp [quoted]
  have length : p + byteLength (quoted text) =
      p + 1 + byteLength (text.toList.flatMap escapeChar) + 1 := by
    have quote : '"'.utf8Size = 1 := rfl
    simp only [quoted, byteLength, byteLength_append, quote]
    omega
  rw [form, length, readsForms_escapeChar.nextLexeme (.inl rfl)]

/-- A line of its own begins behind its indentation. -/
theorem nextLexeme_newLine (depth : Nat) (cs : List Char) (p : Nat) :
    nextLexeme ⟨newLine depth ++ cs, p⟩ false = nextLexeme ⟨cs, p + 1 + 2 * depth⟩ true := by
  have blank : ∀ c ∈ List.replicate (2 * depth) ' ', isBlank c = true := by
    intro c member
    rw [List.eq_of_mem_replicate member]
    decide
  have indented := skipGap_blanks blank [] cs (p + 1)
  rw [byteLength_replicate_blank] at indented
  have gap : gapAt ⟨newLine depth ++ cs, p⟩ false = gapAt ⟨cs, p + 1 + 2 * depth⟩ true := indented
  rw [nextLexeme, gap, nextLexeme]

theorem stateAt_newLine (depth : Nat) (cs : List Char) (p : Nat) (comments : List Span) :
    stateAt ⟨newLine depth ++ cs, p⟩ comments =
      ⟨(nextLexeme ⟨cs, p + 1 + 2 * depth⟩ true).1, p,
        (nextLexeme ⟨cs, p + 1 + 2 * depth⟩ true).2 ++ comments⟩ := by
  rw [stateAt, nextLexeme_newLine]

theorem stateAt_blank (cs : List Char) (p : Nat) (comments : List Span) :
    stateAt ⟨' ' :: cs, p⟩ comments =
      ⟨(nextLexeme ⟨cs, p + 1⟩ false).1, p, (nextLexeme ⟨cs, p + 1⟩ false).2 ++ comments⟩ := rfl

namespace Grammar

open Phrasebook.Script.Parser

variable {rec : Productions} {c : Context}

/-- Properties in braces are a whole expression. -/
theorem assignment_of_listUntil {n p : Nat} {cs : List Char} {comments : List Span}
    {properties : List Tree} {t : State}
    (list : listUntil .closeBrace (objectProperty (productions n))
      { c with arrowAt := some (p + 1), allowIn := true }
        (stateAt ⟨cs, p + 2⟩ comments) = .ok properties t)
    (closes : Closes t) (room : 0 < c.limit) :
    productions (n + 3) .assignment c (stateAt ⟨' ' :: '\x7b' :: cs, p⟩ comments) =
      .ok (.node .object ⟨p + 1, t.lastStop⟩ properties) t :=
  assignment_of_primary (.object ..)
    (objectLiteral_of_listUntil (c := { c with arrowAt := some (p + 1) }) list)
    closes (.object ..) room

/-- An object behind the words that export it is an item of a module. -/
theorem moduleItem_exportDefault (plain : c.dialect = .javaScript)
    {first place inner : Cursor} {breaks : Bool} {last : Nat} {comments : List Span}
    {tree : Tree} {t : State} (word : ∃ start breaks last, stateAt place comments =
      ⟨⟨.word "default" false, start, inner, breaks⟩, last, comments⟩)
    (object : ∃ start stop breaks last, stateAt inner comments =
      ⟨⟨.mark .openBrace, start, stop, breaks⟩, last, comments⟩)
    (read : rec .assignment { c with colonEnds := false, allowIn := true }
      (stateAt inner comments) = .ok tree t)
    (semicolon : t.lexeme.token = .mark .semicolon) :
    moduleItem rec c ⟨⟨.word "export" false, first, place, breaks⟩, last, comments⟩ =
      .ok (.node .exportDefault ⟨first.position, t.lexeme.stop.position⟩ [tree])
        (stateAt t.lexeme.stop t.comments) := by
  obtain ⟨_, _, _, word⟩ := word
  obtain ⟨brace, _, _, _, object⟩ := object
  have untyped (s : State) : typed { c with colonEnds := false } s = .ok false s := by
    change EStateM.Result.ok c.dialect.typed s = _
    rw [plain]
    rfl
  unfold moduleItem asStatement
  rw [run_withReader]
  -- No decorators and no import.
  refine run_of_ok (a := first.position) rfl ?_
  refine run_of_ok (collect_of_none rfl) ?_
  refine run_of_ok (a := false) rfl ?_
  refine run_of_ok (a := false) rfl ?_
  refine run_of_ok (a := true) rfl ?_
  refine run_of_ok (untyped _) ?_
  refine run_of_ok (a := ()) (t := stateAt place comments) rfl ?_
  rw [word]
  -- None of the exports that only the typed dialects have.
  refine run_of_ok (a := none) (run_of_ok (x := typed) (untyped _) rfl) ?_
  refine run_of_ok (untyped _) ?_
  refine run_of_ok (a := false) rfl ?_
  refine run_of_ok (a := true) (t := stateAt inner comments) rfl ?_
  rw [object]
  -- No class and no function.
  refine run_of_ok (a := brace.position) rfl ?_
  refine run_of_ok (untyped _) ?_
  refine run_of_ok (a := false) rfl ?_
  refine run_of_ok (a := false) rfl ?_
  refine run_of_ok (a := []) (run_of_ok (attempt_of_none
    (run_of_ok (collect_of_none rfl) (run_of_ok (a := false) rfl rfl))) rfl) ?_
  refine run_of_ok (untyped _) ?_
  refine run_of_ok (a := false) rfl ?_
  refine run_of_ok (a := false) rfl ?_
  refine run_of_ok (a := false) rfl ?_
  rw [← object]
  refine run_of_ok read ?_
  obtain ⟨⟨_, _, _, _⟩, _, _⟩ := t
  obtain rfl : _ = Token.mark .semicolon := semicolon
  rfl

end Grammar

theorem stateAt_default (cs : List Char) :
    stateAt ⟨' ' :: ("default".toList ++ ' ' :: cs), 6⟩ [] =
      ⟨⟨.word "default" false, ⟨"default".toList ++ ' ' :: cs, 7⟩, ⟨' ' :: cs, 14⟩, false⟩, 6,
        []⟩ := by
  have ends : EndsWord (' ' :: cs) := ⟨by decide, by decide⟩
  have identifier : isIdentifier "default" = true := by decide
  rw [stateAt_blank, nextLexeme_identifier identifier ends]
  rfl

/-- A script that exports an object and holds nothing else. -/
theorem parse_exportDefault {cs : List Char} {size depth : Nat} {tree : Tree} {q : Nat}
    (sized : ("export default ".toList ++ '\x7b' :: cs).length = size)
    (deep : 16 * (size + 2) = depth + 1) (read : productions depth .assignment
      { dialect := .javaScript, limit := size + 2, allowIn := true }
        (stateAt ⟨' ' :: '\x7b' :: cs, 14⟩ []) = .ok tree (stateAt ⟨[';', '\n'], q⟩ [])) :
    ∃ script, parse .javaScript ("export default ".toList ++ '\x7b' :: cs) = .ok script ∧
      script.items = [.node .exportDefault ⟨0, q + 1⟩ [tree]] := by
  let c : Context := { dialect := .javaScript, limit := size + 2 }
  let rest : List Char := ' ' :: ("default".toList ++ ' ' :: '\x7b' :: cs)
  have first : nextLexeme ⟨"export".toList ++ rest, 0⟩ true =
      (⟨.word "export" false, ⟨"export".toList ++ rest, 0⟩, ⟨rest, 6⟩, true⟩, []) := by
    have ends : EndsWord rest := ⟨by decide, by decide⟩
    have identifier : isIdentifier "export" = true := by decide
    rw [nextLexeme_identifier identifier ends]
    rfl
  have item : productions (depth + 1) .moduleItem c
      ⟨⟨.word "export" false, ⟨"export".toList ++ rest, 0⟩, ⟨rest, 6⟩, true⟩, 0, []⟩ =
      .ok (.node .exportDefault ⟨0, q + 1⟩ [tree]) (stateAt ⟨['\n'], q + 1⟩ []) := by
    change Grammar.moduleItem (productions depth) c _ = _
    exact Grammar.moduleItem_exportDefault (t := stateAt ⟨[';', '\n'], q⟩ []) rfl
      ⟨_, _, _, stateAt_default ('\x7b' :: cs)⟩ ⟨_, _, _, _, rfl⟩ read rfl
  have items : Parser.collect (do
      if ← Parser.atEnd then return none else return some (← productions (depth + 1) .moduleItem)) c
      ⟨(nextLexeme ⟨"export".toList ++ rest, 0⟩ true).1, 0,
        (nextLexeme ⟨"export".toList ++ rest, 0⟩ true).2⟩ =
      .ok [.node .exportDefault ⟨0, q + 1⟩ [tree]] (stateAt ⟨['\n'], q + 1⟩ []) := by
    rw [first]
    exact Parser.collect_one (Parser.run_of_ok (a := false) rfl (Parser.run_of_ok item rfl)) rfl
      (Nat.le_add_left 2 size)
  have text : "export default ".toList ++ '\x7b' :: cs = "export".toList ++ rest := rfl
  have unmarked : dropByteOrderMark ("export".toList ++ rest) = "export".toList ++ rest := rfl
  rw [text] at sized ⊢
  unfold parse
  simp only [unmarked, sized, deep]
  -- What is matched on is the run above, up to unfolding.
  split
  · rename_i found
    cases items.symm.trans found
    exact ⟨_, rfl, rfl⟩
  · rename_i found
    cases items.symm.trans found

end Phrasebook.Script
