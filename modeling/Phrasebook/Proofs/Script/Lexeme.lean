import Phrasebook.Proofs.Script.Reading

/-!
What the token reader has read of the text. A string is spelled between its token's two places, and
the token of a template literal is its backtick.
-/

namespace Phrasebook.Script

open Cursor

/-- A token lies between two places of a text. -/
structure Fits (start stop : Cursor) (token : Token) : Prop where
  onward : Onward start stop
  string : ∀ value, token = .string value → ∃ q ∈ ['"', '\''], ∃ cs,
    Reads start (q :: cs) stop ∧ Spells q cs stop.rest
  backtick : token = .mark .backtick → Reads start ['\x60'] stop

variable {start stop : Cursor} {token : Token}

theorem Fits.of_plain (onward : Onward start stop) (string : ∀ value, token ≠ .string value)
    (backtick : token ≠ .mark .backtick) : Fits start stop token where
  onward := onward
  string := fun value here => (string value here).elim
  backtick := fun here => (backtick here).elim

theorem fits_wordToken (make : Bool → String → Token)
    (string : ∀ escaped name value, make escaped name ≠ .string value)
    (backtick : ∀ escaped name, make escaped name ≠ .mark .backtick) {cs : List Char} {p : Nat}
    (onward : Onward start ⟨cs, p⟩) : Fits start (wordToken make cs p).2
    (wordToken make cs p).1 := by
  refine .of_plain (onward.trans (onward_wordToken make cs p)) ?_ ?_ <;> unfold wordToken <;> split
  · exact string _ _
  · exact fun _ => nofun
  · exact backtick _ _
  · exact nofun

theorem markIn_spells {spellings : List (String × Mark)} {cs : List Char} {n : Nat} {mark : Mark}
    (found : markIn spellings cs = some (n, mark)) :
    ∃ spelling, (spelling, mark) ∈ spellings ∧ n = spelling.length ∧ spelling.toList <+: cs := by
  obtain ⟨⟨spelling, _⟩, here, same⟩ := Option.map_eq_some_iff.mp found
  obtain ⟨rfl, rfl⟩ := Prod.mk.inj same
  exact ⟨spelling, List.mem_of_find?_eq_some here, rfl, by simpa using List.find?_some here⟩

theorem backtick_spelling : ∀ entry ∈ Mark.spellings, entry.2 = .backtick →
    entry.1 = "\x60" := by decide

theorem fits_mark {mark : Mark} {n : Nat} {cs : List Char} {p : Nat}
    (found : markIn Mark.spellings cs = some (n, mark)) :
    Fits ⟨cs, p⟩ (drop n ⟨cs, p⟩) (.mark mark) where
  onward := onward_drop n _
  string := nofun
  backtick := by
    intro here
    obtain rfl := Token.mark.inj here
    obtain ⟨spelling, member, rfl, rest, rfl⟩ := markIn_spells found
    obtain rfl := backtick_spelling _ member rfl
    exact ⟨rfl, rfl⟩

/-- A token fits between the place where it is read and the place behind it. -/
theorem fits_readToken (a : Cursor) : Fits a (readToken a).2 (readToken a).1 := by
  obtain ⟨cs, p⟩ := a
  have malformed (e : SyntaxError) : Fits ⟨cs, p⟩ ⟨cs, p⟩ (.malformed e) :=
    .of_plain (.refl _) (fun _ => nofun) nofun
  unfold readToken
  simp only
  split
  · exact .of_plain (.refl _) (fun _ => nofun) nofun
  · rename_i c rest
    have word {cs : List Char} {q : Nat} (onward : Onward ⟨c :: rest, p⟩ ⟨cs, q⟩)
      (make : Bool → String → Token)
        (kind : make = (fun escaped name => .word name escaped) ∨
          make = (fun _ name => .privateWord name)) :
        Fits ⟨c :: rest, p⟩ (wordToken make cs q).2 (wordToken make cs q).1 := by
      rcases kind with rfl | rfl <;>
        refine fits_wordToken _ (fun _ _ _ => ?_) (fun _ _ => ?_) onward <;> nofun
    have mark {mark : Mark} {stop : Cursor} (onward : Onward ⟨c :: rest, p⟩ stop)
      (other : mark ≠ .backtick) :
        Fits ⟨c :: rest, p⟩ stop (.mark mark) :=
      .of_plain onward (fun _ => nofun) (fun here => other (Token.mark.inj here))
    split
    · rename_i quote
      have quote : c ∈ ['"', '\''] := by simpa using quote
      have narrow : c.utf8Size = 1 := by
        simp only [List.mem_cons, List.not_mem_nil, or_false] at quote
        rcases quote with rfl | rfl <;> rfl
      cases read : readString c rest (p + 1) with
      | error e => exact malformed e
      | ok result =>
        obtain ⟨value, stop⟩ := result
        unfold readString at read
        cases codes : readStringCodes c (rest.length + 1) rest (p + 1) [] with
        | error e =>
          rw [codes] at read
          cases read
        | ok result =>
          obtain ⟨codes, place⟩ := result
          rw [codes] at read
          obtain ⟨-, rfl⟩ := Prod.mk.inj (Except.ok.inj read)
          obtain ⟨consumed, reads, spells⟩ :=
            spells_readStringCodes quote (Nat.lt_succ_self _) codes
          have first := reads_cons c rest p
          rw [narrow] at first
          exact ⟨⟨_, first.append reads⟩, fun _ _ =>
            ⟨c, quote, consumed, first.append reads, spells⟩, nofun⟩
    · split
      · split
        · rename_i read
          exact .of_plain (Numeral.onward_read read) (fun _ => nofun) nofun
        · rename_i read
          exact .of_plain (Numeral.onward_read read) (fun _ => nofun) nofun
        · exact malformed _
      · split
        · exact word (.refl _) _ (.inl rfl)
        · split
          · rename_i sharp
            obtain ⟨rfl, -⟩ : c = '#' ∧ _ := by simpa using sharp
            exact word ⟨['#'], rfl, rfl⟩ _ (.inr rfl)
          · split
            · rename_i greater
              obtain rfl : c = '>' := by simpa using greater
              exact mark ⟨['>'], rfl, rfl⟩ nofun
            · split
              · rename_i question
                obtain ⟨⟨rfl, -⟩, -⟩ : (c = '?' ∧ _) ∧ _ := by simpa using question
                exact mark ⟨['?'], rfl, rfl⟩ nofun
              · split
                · rename_i found
                  exact fits_mark found
                · exact malformed _

/-- The token of a lexeme fits between its places. -/
def Lexeme.Fits (l : Lexeme) : Prop := Script.Fits l.start l.stop l.token

theorem onward_nextLexeme (a : Cursor) (first : Bool) : Onward a (nextLexeme a first).1.start :=
  onward_skipGap _ _ _ _ _

theorem fits_nextLexeme (a : Cursor) (first : Bool) :
    (nextLexeme a first).1.Fits := fits_readToken _

theorem onward_readGreater (a : Cursor) : Onward a (readGreater a).2 := by
  unfold readGreater
  split <;> exact onward_drop _ _

end Phrasebook.Script
