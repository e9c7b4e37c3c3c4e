import Phrasebook.Proofs.Text.Slice
import Phrasebook.Script.Lexeme
import Phrasebook.Script.Quoted

/-!
How far the readers of tokens get: each of them stops at a later place of the same text, and what
lies between the two places is what it has read.
-/

namespace Phrasebook.Script

open Text

namespace Cursor

/-- Reading goes on from one place to another over these characters. -/
def Reads (a : Cursor) (cs : List Char) (b : Cursor) : Prop :=
  a.rest = cs ++ b.rest ∧ b.position = a.position + byteLength cs

/-- Reading goes on from one place to another. -/
def Onward (a b : Cursor) : Prop := ∃ cs, Reads a cs b

variable {a b c : Cursor} {cs ds rest : List Char} {p : Nat}

theorem Reads.append (first : Reads a cs b) (second : Reads b ds c) : Reads a (cs ++ ds) c := by
  obtain ⟨whole, place⟩ := first
  obtain ⟨more, stop⟩ := second
  exact ⟨by rw [whole, more, List.append_assoc], by rw [stop, place,
    byteLength_append, Nat.add_assoc]⟩

theorem reads_cons (d : Char) (rest : List Char) (p : Nat) :
    Reads ⟨d :: rest, p⟩ [d] ⟨rest, p + d.utf8Size⟩ :=
  ⟨rfl, rfl⟩

theorem Onward.refl (a : Cursor) : Onward a a := ⟨[], rfl, rfl⟩

theorem Onward.trans (first : Onward a b) (second : Onward b c) : Onward a c := by
  obtain ⟨cs, first⟩ := first
  obtain ⟨ds, second⟩ := second
  exact ⟨_, first.append second⟩

theorem Onward.le (onward : Onward a b) : a.position ≤ b.position := by
  obtain ⟨cs, -, stop⟩ := onward
  omega

/-- Of two places of one text, the one with the smaller position comes first. -/
theorem Onward.of_le (first : Onward a b) (second : Onward a c)
    (le : b.position ≤ c.position) : Onward b c := by
  obtain ⟨cs, whole, here⟩ := first
  obtain ⟨ds, same, there⟩ := second
  obtain ⟨es, rfl, rest⟩ := append_eq_append_of_le (whole.symm.trans same) (by omega)
  rw [byteLength_append] at there
  exact ⟨es, rest, by omega⟩

theorem Onward.cons (d : Char) (onward : Onward ⟨rest, p + d.utf8Size⟩ b) :
    Onward ⟨d :: rest, p⟩ b :=
  .trans ⟨_, reads_cons d rest p⟩ onward

theorem onward_drop (n : Nat) (a : Cursor) : Onward a (a.drop n) := by
  fun_induction drop n a with
  | case1 c => exact .refl c
  | case2 p n => exact .refl _
  | case3 n d cs p ih => exact .cons d ih

theorem onward_takeWhile (kind : Char → Bool) (cs : List Char) (p : Nat) :
    Onward ⟨cs, p⟩ (takeWhile kind cs p).2 := by
  fun_induction takeWhile kind cs p with
  | case1 p => exact .refl _
  | case2 p d cs here run stop same ih =>
    rw [same] at ih
    exact .cons _ ih
  | case3 p d cs here => exact .refl _

theorem stops_takeWhile (kind : Char → Bool) (cs : List Char) (p : Nat) {d : Char}
    {behind : List Char} (stops : (takeWhile kind cs p).2.rest = d :: behind) : kind d = false := by
  fun_induction takeWhile kind cs p with
  | case1 p => cases stops
  | case2 p e cs here run stop same ih =>
    rw [same] at ih
    exact ih stops
  | case3 p e cs here =>
    obtain ⟨rfl, -⟩ := List.cons.inj stops
    exact Bool.eq_false_iff.mpr here

end Cursor

open Cursor

theorem onward_skipGap (state : GapState) (breaks : Bool) (comments : List Span)
    (cs : List Char) (p : Nat) : Onward ⟨cs, p⟩ (skipGap state breaks comments cs p).stop := by
  fun_induction skipGap state breaks comments cs p with
  | case1 => exact .refl _
  | case2 => exact .refl _
  | case3 _ _ _ _ ih => exact .trans ⟨['/', '/'], rfl, rfl⟩ ih
  | case4 _ _ _ _ ih => exact .trans ⟨['/', '*'], rfl, rfl⟩ ih
  | case5 _ _ _ _ ih => exact .trans ⟨['<', '!', '-', '-'], rfl, rfl⟩ ih
  | case6 _ _ _ ih => exact .trans ⟨['-', '-', '>'], rfl, rfl⟩ ih
  | case7 _ _ _ _ _ _ _ _ _ _ ih => exact .cons _ ih
  | case8 => exact .refl _
  | case9 _ _ _ _ _ _ _ ih => exact .cons _ ih
  | case10 _ _ _ _ _ _ _ ih => exact .cons _ ih
  | case11 _ _ _ _ _ ih => exact .trans ⟨['*', '/'], rfl, rfl⟩ ih
  | case12 _ _ _ _ _ _ _ ih => exact .cons _ ih

theorem utf8Size_of_hexValue? {c : Char} {n : Nat} (digit : hexValue? c = some n) :
    c.utf8Size = 1 := by
  have low : c.val ≤ 0x7f := by
    unfold hexValue? at digit
    split at digit
    · rename_i isDigit
      simp only [Char.isDigit, Bool.and_eq_true, decide_eq_true_eq] at isDigit
      exact UInt32.le_trans isDigit.2 (by decide)
    · split at digit
      · rename_i small
        simp only [Bool.and_eq_true, decide_eq_true_eq, Char.le_def] at small
        exact UInt32.le_trans small.2 (by decide)
      · split at digit
        · rename_i large
          simp only [Bool.and_eq_true, decide_eq_true_eq, Char.le_def] at large
          exact UInt32.le_trans large.2 (by decide)
        · cases digit
  exact if_pos low

/-- A character of an escape behind its first: nothing that ends a text in quotes. -/
def IsDigit (c : Char) : Prop := c.utf8Size = 1 ∧ c ∉ ['"', '\'', '\\']

instance (c : Char) : Decidable (IsDigit c) := inferInstanceAs (Decidable (_ ∧ _))

theorem isDigit_of_hexValue? {c : Char} {n : Nat} (digit : hexValue? c = some n) : IsDigit c := by
  refine ⟨utf8Size_of_hexValue? digit, fun member => ?_⟩
  simp only [List.mem_cons, List.not_mem_nil, or_false] at member
  rcases member with rfl | rfl | rfl <;> cases digit

theorem byteLength_of_isDigit {cs : List Char} (digits : ∀ c ∈ cs, IsDigit c) :
    byteLength cs = cs.length := by
  induction cs with
  | nil => rfl
  | cons c cs ih =>
    obtain ⟨here, digits⟩ := List.forall_mem_cons.mp digits
    rw [byteLength, here.1, ih digits, List.length_cons, Nat.add_comm]

theorem isDigit_of_hexNumber? {cs : List Char} {n : Nat} (number : hexNumber? cs = some n) :
    ∀ c ∈ cs, IsDigit c := by
  let step := fun (n? : Option Nat) (c : Char) => do return (← n?) * 16 + (← hexValue? c)
  have none_stays (cs : List Char) : cs.foldl step none = none := by
    induction cs with
    | nil => rfl
    | cons c cs ih => exact ih
  have digits (cs : List Char) (start : Nat) (read : (cs.foldl step (some start)).isSome = true) :
      ∀ c ∈ cs, IsDigit c := by
    induction cs generalizing start with
    | nil => exact fun c member => nomatch member
    | cons c cs ih =>
      rw [List.foldl_cons] at read
      cases digit : hexValue? c with
      | none =>
        have stuck : step (some start) c = none := by simp [step, digit]
        rw [stuck, none_stays] at read
        cases read
      | some value =>
        have moved : step (some start) c = some (start * 16 + value) := by simp [step, digit]
        rw [moved] at read
        exact List.forall_mem_cons.mpr ⟨isDigit_of_hexValue? digit, ih _ read⟩
  cases cs with
  | nil => exact fun c member => nomatch member
  | cons c cs =>
    refine digits (c :: cs) 0 ?_
    have folded : (c :: cs).foldl step (some 0) = some n := number
    rw [folded]
    rfl

/-- Reading goes on over digits of escapes. -/
def OverDigits (a b : Cursor) : Prop := ∃ cs, a.Reads cs b ∧ ∀ c ∈ cs, IsDigit c

theorem overDigits_drop {cs : List Char} (n : Nat) (long : n ≤ cs.length)
    (digits : ∀ c ∈ cs.take n, IsDigit c) (p : Nat) : OverDigits ⟨cs, p⟩ ⟨cs.drop n, p + n⟩ := by
  refine ⟨cs.take n, ⟨(List.take_append_drop n cs).symm, ?_⟩, digits⟩
  rw [byteLength_of_isDigit digits, List.length_take, Nat.min_eq_left long]

theorem overDigits_readCodePoint {cs : List Char} {p code : Nat} {stop : Cursor}
    (read : readCodePoint cs p = .ok (code, stop)) : OverDigits ⟨cs, p⟩ stop := by
  unfold readCodePoint at read
  split at read
  · rename_i cs
    simp only at read
    split at read
    · rename_i n after number behind
      split at read
      · obtain ⟨-, rfl⟩ := Prod.mk.inj (Except.ok.inj read)
        obtain ⟨inner, front⟩ := List.takeWhile_prefix (l := cs) (· != '\x7d')
        generalize cs.takeWhile (· != '\x7d') = digits at number behind front ⊢
        subst front
        rw [List.drop_left] at behind
        subst behind
        have inside := isDigit_of_hexNumber? number
        have narrow : ∀ c ∈ '\x7b' :: (digits ++ ['\x7d']), IsDigit c := by
          simpa [or_imp, forall_and]
            using ⟨(by decide : IsDigit '\x7b'), inside, (by decide : IsDigit '\x7d')⟩
        refine ⟨'\x7b' :: (digits ++ ['\x7d']), ⟨by simp, ?_⟩, narrow⟩
        rw [byteLength_of_isDigit narrow]
        simp [Nat.add_assoc]
      · cases read
    · cases read
  · split at read
    · rename_i number
      split at read
      · rename_i long
        obtain ⟨-, rfl⟩ := Prod.mk.inj (Except.ok.inj read)
        exact overDigits_drop 4 long (isDigit_of_hexNumber? number) p
      · cases read
    · cases read

theorem OverDigits.refl (a : Cursor) :
    OverDigits a a := ⟨[], ⟨rfl, rfl⟩, fun _ member => nomatch member⟩

theorem OverDigits.cons {rest : List Char} {p : Nat} {b : Cursor} {c : Char} (digit : IsDigit c)
    (onward : OverDigits ⟨rest, p + 1⟩ b) : OverDigits ⟨c :: rest, p⟩ b := by
  obtain ⟨cs, reads, digits⟩ := onward
  rw [← digit.1] at reads
  exact ⟨c :: cs, (reads_cons c rest p).append reads, List.forall_mem_cons.mpr ⟨digit, digits⟩⟩

theorem isDigit_of_octalValue? {c : Char} {n : Nat}
    (digit : octalValue? c = some n) : IsDigit c := by
  unfold octalValue? at digit
  split at digit
  · rename_i number
    exact isDigit_of_hexValue? number
  · cases digit

theorem overDigits_readOctal (first : Nat) (cs : List Char) (p : Nat) :
    OverDigits ⟨cs, p⟩ (readOctal first cs p).2 := by
  unfold readOctal
  split
  · exact .refl _
  · split
    · exact .refl _
    · rename_i second value
      have digit := isDigit_of_octalValue? value
      simp only
      split
      · exact .cons digit (.refl _)
      · split
        · exact .cons digit (.refl _)
        · rename_i third value
          split
          · exact .cons digit (.cons (isDigit_of_octalValue? value) (.refl _))
          · exact .cons digit (.refl _)

/-- An escape is one character behind the backslash and more that ends no quotes, if there is any
text. -/
theorem reads_readEscape {inTemplate : Bool} {cs : List Char} {p : Nat}
    {code : Option Nat} {stop : Cursor} (read : readEscape inTemplate cs p = .ok (code, stop)) :
    (cs = [] ∧ stop = ⟨[], p⟩) ∨
      ∃ c more, Reads ⟨cs, p⟩ (c :: more) stop ∧ ∀ d ∈ more, d ∉ ['"', '\'', '\\'] := by
  have behind {c : Char} {rest : List Char} {stop : Cursor}
    (onward : OverDigits ⟨rest, p + c.utf8Size⟩ stop) :
      ∃ d more, Reads ⟨c :: rest, p⟩ (d :: more) stop ∧ ∀ d ∈ more, d ∉ ['"', '\'', '\\'] := by
    obtain ⟨more, reads, digits⟩ := onward
    exact ⟨c, more, (reads_cons c rest p).append reads, fun d member => (digits d member).2⟩
  unfold readEscape at read
  split at read
  · obtain ⟨-, rfl⟩ := Prod.mk.inj (Except.ok.inj read)
    exact .inl ⟨rfl, rfl⟩
  · obtain ⟨-, rfl⟩ := Prod.mk.inj (Except.ok.inj read)
    exact .inr ⟨'\r', ['\n'], ⟨rfl, rfl⟩, List.forall_mem_singleton.mpr (by decide)⟩
  · rename_i c rest _
    right
    simp only at read
    split at read
    · obtain ⟨-, rfl⟩ := Prod.mk.inj (Except.ok.inj read)
      exact behind (.refl _)
    · split at read
      case h_7 =>
        split at read
        · rename_i number
          split at read
          · rename_i long
            obtain ⟨-, rfl⟩ := Prod.mk.inj (Except.ok.inj read)
            exact behind (overDigits_drop 2 long (isDigit_of_hexNumber? number) (p + 1))
          · cases read
        · cases read
      case h_8 =>
        cases escaped : readCodePoint rest (p + 1) with
        | error e =>
          rw [escaped] at read
          cases read
        | ok result =>
          obtain ⟨value, place⟩ := result
          rw [escaped] at read
          obtain ⟨-, rfl⟩ := Prod.mk.inj (Except.ok.inj read)
          exact behind (overDigits_readCodePoint escaped)
      case h_9 =>
        have octal (first : Nat) {n : Nat} (digit : octalValue? c = some n)
          {code : Option Nat} {stop : Cursor}
            (read : (if inTemplate
              then (.error ⟨.badEscape, p⟩ : Except SyntaxError (Option Nat × Cursor))
              else .ok (some (readOctal first rest (p + 1)).1, (readOctal first rest (p + 1)).2)) =
                .ok (code, stop)) :
            ∃ d more, Reads ⟨c :: rest, p⟩ (d :: more) stop ∧
                ∀ d ∈ more, d ∉ ['"', '\'', '\\'] := by
          split at read
          · cases read
          · obtain ⟨-, rfl⟩ := Prod.mk.inj (Except.ok.inj read)
            refine behind ?_
            rw [(isDigit_of_octalValue? digit).1]
            exact overDigits_readOctal first rest (p + 1)
        split at read
        · obtain ⟨-, rfl⟩ := Prod.mk.inj (Except.ok.inj read)
          exact behind (.refl _)
        · rename_i digit
          split at read
          · obtain ⟨-, rfl⟩ := Prod.mk.inj (Except.ok.inj read)
            exact behind (.refl _)
          · exact octal 0 digit read
        · rename_i _ digit
          exact octal _ digit read
      all_goals
        obtain ⟨-, rfl⟩ := Prod.mk.inj (Except.ok.inj read)
        exact behind (.refl _)

/-- What a string is written as behind its opening quote: the text in the quotes and the closing
quote. The end of the line or of the whole text may stand for that. -/
def Spells (q : Char) (cs rest : List Char) : Prop := ∃ body, HeldIn q body ∧
  (cs = body ++ [q] ∨ (cs = body ∧ ∀ c ∈ rest.head?, c = '\n' ∨ c = '\r') ∨
    (cs = body ++ ['\\'] ∧ rest = []))

theorem Spells.behind {q : Char} {front cs rest : List Char} (held : HeldIn q front)
    (spells : Spells q cs rest) : Spells q (front ++ cs) rest := by
  obtain ⟨body, inside, ends⟩ := spells
  refine ⟨front ++ body, held.append inside, ?_⟩
  rcases ends with rfl | ⟨rfl, ends⟩ | ⟨rfl, ends⟩
  · exact .inl (List.append_assoc _ _ _).symm
  · exact .inr (.inl ⟨rfl, ends⟩)
  · exact .inr (.inr ⟨(List.append_assoc _ _ _).symm, ends⟩)

theorem Onward.length_le {a b : Cursor} (onward : a.Onward b) : b.rest.length ≤ a.rest.length := by
  obtain ⟨cs, whole, -⟩ := onward
  rw [whole, List.length_append]
  exact Nat.le_add_left _ _

/-- A string is read to its end: there is room for all of its characters. -/
theorem spells_readStringCodes {q : Char} (quote : q ∈ ['"', '\'']) {fuel : Nat}
    {cs : List Char} {p : Nat} {codes result : List Nat} {stop : Cursor} (room : cs.length < fuel)
    (read : readStringCodes q fuel cs p codes = .ok (result, stop)) :
    ∃ consumed, Reads ⟨cs, p⟩ consumed stop ∧ Spells q consumed stop.rest := by
  have proper : q ≠ '\\' := by
    rintro rfl
    exact absurd quote (by decide)
  have narrow : q.utf8Size = 1 := by
    simp only [List.mem_cons, List.not_mem_nil, or_false] at quote
    rcases quote with rfl | rfl <;> rfl
  induction fuel generalizing cs p codes with
  | zero => exact (Nat.not_lt_zero _ room).elim
  | succ fuel ih =>
    have goes {front : List Char} {place : Cursor} {codes : List Nat}
      (moved : Reads ⟨cs, p⟩ front place)
        (held : HeldIn q front) (shorter : place.rest.length < fuel)
        (read : readStringCodes q fuel place.rest place.position codes = .ok (result, stop)) :
        ∃ consumed, Reads ⟨cs, p⟩ consumed stop ∧ Spells q consumed stop.rest := by
      obtain ⟨consumed, more, spells⟩ := ih shorter read
      exact ⟨_, moved.append more, spells.behind held⟩
    cases cs with
    | nil =>
      obtain ⟨-, rfl⟩ := Prod.mk.inj (Except.ok.inj read)
      exact ⟨[], ⟨rfl, rfl⟩, [], .nil, .inr (.inl ⟨rfl, fun c member => nomatch member⟩)⟩
    | cons c cs =>
      have shorter : cs.length < fuel := Nat.lt_of_succ_lt_succ room
      rw [readStringCodes] at read
      split at read
      · rename_i closes
        obtain rfl : c = q := by simpa using closes
        obtain ⟨-, rfl⟩ := Prod.mk.inj (Except.ok.inj read)
        exact ⟨[c], ⟨rfl, by rw [byteLength, narrow]; rfl⟩, [], .nil, .inl rfl⟩
      · rename_i unclosed
        have other : c ≠ q := by simpa using unclosed
        split at read
        · rename_i backslash
          obtain rfl : c = '\\' := by simpa using backslash
          have one : Reads ⟨'\\' :: cs, p⟩ ['\\'] ⟨cs, p + 1⟩ := ⟨rfl, rfl⟩
          have escape {code : Option Nat} {place : Cursor} {codes : List Nat}
              (escaped : readEscape false cs (p + 1) = .ok (code, place))
              (read : readStringCodes q fuel place.rest place.position codes = .ok (result, stop)) :
              ∃ consumed, Reads ⟨'\\' :: cs, p⟩ consumed stop ∧ Spells q consumed stop.rest := by
            rcases reads_readEscape escaped with ⟨rfl, rfl⟩ | ⟨d, more, moved, plain⟩
            · obtain ⟨fuel, rfl⟩ : ∃ n, fuel = n + 1 := Nat.exists_eq_add_one.mpr shorter
              obtain ⟨-, rfl⟩ := Prod.mk.inj (Except.ok.inj read)
              exact ⟨['\\'], one, [], .nil, .inr (.inr ⟨rfl, rfl⟩)⟩
            · have held : HeldIn q ('\\' :: d :: more) := by
                refine .escaped (.of_forall fun e member => ?_)
                have apart := plain e member
                simp only [List.mem_cons, List.not_mem_nil, or_false, not_or] at apart quote
                exact ⟨apart.2.2, by rcases quote with rfl | rfl; exacts [apart.1, apart.2.1]⟩
              refine goes (one.append moved) held ?_ read
              exact Nat.lt_of_le_of_lt (Onward.length_le ⟨_, moved⟩) shorter
          split at read
          · cases read
          · rename_i escaped
            exact escape escaped read
          · rename_i escaped
            exact escape escaped read
        · rename_i plain
          have plain : c ≠ '\\' := by simpa using plain
          split at read
          · rename_i ends
            obtain ⟨-, rfl⟩ := Prod.mk.inj (Except.ok.inj read)
            refine ⟨[], ⟨rfl, rfl⟩, [], .nil, .inr (.inl ⟨rfl, fun d member => ?_⟩)⟩
            obtain rfl := Option.some.inj member
            simpa using ends
          · exact goes (reads_cons c cs p) (.plain plain other .nil) shorter read

/-- The marks that end a chunk of a template. -/
def ChunkEnd.marks : ChunkEnd → List Char
  | .backtick => ['\x60']
  | .expression => ['$', '\x7b']

/-- A chunk of a template is read up to the marks that end it. -/
theorem reads_readChunk {fuel : Nat} {cs : List Char} {p : Nat}
    {codes : Option (List Nat)} {chunk : Chunk} (read : readChunk fuel cs p codes = .ok chunk) :
    ∃ inner, Reads ⟨cs, p⟩ (inner ++ chunk.ending.marks) chunk.stop := by
  have goes {a b : Cursor} {front : List Char} (moved : Reads a front b)
      (more : ∃ inner, Reads b (inner ++ chunk.ending.marks) chunk.stop) :
      ∃ inner, Reads a (inner ++ chunk.ending.marks) chunk.stop := by
    obtain ⟨inner, more⟩ := more
    exact ⟨front ++ inner, by rw [List.append_assoc]; exact moved.append more⟩
  have escaped {cs : List Char} {p : Nat} {code : Option Nat} {stop : Cursor}
      (read : readEscape true cs (p + 1) = .ok (code, stop))
      (more : ∃ inner, Reads stop (inner ++ chunk.ending.marks) chunk.stop) :
      ∃ inner, Reads ⟨'\\' :: cs, p⟩ (inner ++ chunk.ending.marks) chunk.stop := by
    rcases reads_readEscape read with ⟨rfl, rfl⟩ | ⟨d, rest, moved, -⟩
    · exact goes (reads_cons '\\' [] p) more
    · exact goes ((reads_cons '\\' cs p).append moved) more
  fun_induction readChunk fuel cs p codes with
  | case1 => cases read
  | case2 => cases read
  | case3 =>
    obtain rfl := Except.ok.inj read
    exact ⟨[], rfl, rfl⟩
  | case4 =>
    obtain rfl := Except.ok.inj read
    exact ⟨[], rfl, rfl⟩
  | case5 _ cs p _ ih =>
    have moved : Reads ⟨'\r' :: '\n' :: cs, p⟩ ['\r', '\n'] ⟨cs, p + 2⟩ := ⟨rfl, rfl⟩
    exact goes moved (ih read)
  | case6 _ cs p _ _ ih => exact goes (reads_cons '\r' cs p) (ih read)
  | case7 _ cs p _ _ _ ih =>
    cases cs with
    | nil => exact goes (reads_cons '\\' [] p) (ih read)
    | cons d cs =>
      exact goes ((reads_cons '\\' (d :: cs) p).append (reads_cons d cs (p + 1))) (ih read)
  | case8 _ cs p _ stop here ih => exact escaped here (ih read)
  | case9 _ cs p _ code stop here ih => exact escaped here (ih read)
  | case10 _ c cs p _ _ _ _ _ _ ih => exact goes (reads_cons c cs p) (ih read)

theorem onward_readWordParts {fuel : Nat} {cs name : List Char} {p : Nat}
    {escaped : Bool} {stop : Cursor} (read : readWordParts fuel cs p = .ok (escaped, name, stop)) :
    Onward ⟨cs, p⟩ stop := by
  induction fuel generalizing cs p escaped name stop with
  | zero =>
    obtain ⟨-, same⟩ := Prod.mk.inj (Except.ok.inj read)
    obtain ⟨-, rfl⟩ := Prod.mk.inj same
    exact .refl _
  | succ fuel ih =>
    have run := onward_takeWhile isWordPart cs p
    rw [readWordParts] at read
    split at read
    · rename_i taken rest q same
      rw [same] at run
      have opened : Onward ⟨'\\' :: 'u' :: rest, q⟩ ⟨rest, q + 2⟩ := ⟨['\\', 'u'], rfl, rfl⟩
      cases code : readCodePoint rest (q + 2) with
      | error e =>
        rw [code] at read
        cases read
      | ok result =>
        obtain ⟨value, place⟩ := result
        obtain ⟨taken, moved, -⟩ := overDigits_readCodePoint code
        rw [code] at read
        simp only [bind, Except.bind] at read
        split at read
        · cases more : readWordParts fuel place.rest place.position with
          | error e =>
            rw [more] at read
            cases read
          | ok result =>
            obtain ⟨flag, others, last⟩ := result
            rw [more] at read
            obtain ⟨-, same⟩ := Prod.mk.inj (Except.ok.inj read)
            obtain ⟨-, rfl⟩ := Prod.mk.inj same
            exact run.trans (opened.trans (.trans ⟨taken, moved⟩ (ih more)))
        · cases read
    · rename_i same
      obtain ⟨-, same_stop⟩ := Prod.mk.inj (Except.ok.inj read)
      obtain ⟨-, rfl⟩ := Prod.mk.inj same_stop
      rwa [same] at run

theorem onward_wordToken (make : Bool → String → Token) (cs : List Char) (p : Nat) :
    Onward ⟨cs, p⟩ (wordToken make cs p).2 := by
  unfold wordToken
  split
  · rename_i read
    exact onward_readWordParts read
  · exact .refl _

namespace Numeral

theorem onward_digitsOf (base : Nat) (cs : List Char) (p : Nat) :
    Onward ⟨cs, p⟩ (digitsOf base cs p).2 :=
  onward_takeWhile _ cs p

theorem eq_of_finish {value result : NumberToken} {a stop : Cursor}
    (read : finish value a = .ok (result, stop)) : stop = a := by
  unfold finish at read
  split at read
  · split at read
    · cases read
    · exact (Prod.mk.inj (Except.ok.inj read)).2.symm
  · exact (Prod.mk.inj (Except.ok.inj read)).2.symm

theorem onward_radix {base : Nat} {cs : List Char} {p : Nat} {result : NumberToken} {stop : Cursor}
    (read : radix base cs p = .ok (result, stop)) : Onward ⟨cs, p⟩ stop := by
  have digits := onward_digitsOf base cs p
  unfold radix at read
  split at read
  · cases read
  · rename_i same
    rw [same] at digits
    rw [eq_of_finish read]
    exact digits.trans ⟨['n'], rfl, rfl⟩
  · rename_i same
    rw [same] at digits
    rwa [eq_of_finish read]

theorem onward_exponentPart {a stop : Cursor} {exponent : Int}
    (read : exponentPart a = .ok (exponent, stop)) : Onward a stop := by
  obtain ⟨rest, p⟩ := a
  unfold exponentPart at read
  split at read
  · rename_i e rest same
    obtain rfl : _ = e :: rest := same
    split at read
    · rename_i letter
      have narrow : e.utf8Size = 1 := by
        simp only [Bool.or_eq_true, beq_iff_eq] at letter
        rcases letter with rfl | rfl <;> rfl
      have first : Onward ⟨e :: rest, p⟩ ⟨rest, p + 1⟩ :=
        ⟨[e], rfl, by rw [byteLength, narrow]; rfl⟩
      split at read
      rename_i negative later q same
      have signed : Onward ⟨rest, p + 1⟩ ⟨later, q⟩ := by
        split at same <;> obtain ⟨-, rfl, rfl⟩ := same
        · exact ⟨['+'], rfl, rfl⟩
        · exact ⟨['-'], rfl, rfl⟩
        · exact .refl _
      have digits := onward_digitsOf 10 later q
      split at read
      · cases read
      · rename_i same
        obtain ⟨-, rfl⟩ := Prod.mk.inj (Except.ok.inj read)
        rw [same] at digits
        exact first.trans (signed.trans digits)
    · obtain ⟨-, rfl⟩ := Prod.mk.inj (Except.ok.inj read)
      exact .refl _
  · obtain ⟨-, rfl⟩ := Prod.mk.inj (Except.ok.inj read)
    exact .refl _

theorem onward_decimal {whole : List Char} {a stop : Cursor} {result : NumberToken}
    (read : decimal whole a = .ok (result, stop)) : Onward a stop := by
  obtain ⟨rest, p⟩ := a
  unfold decimal at read
  split at read
  · rename_i rest same
    obtain rfl : _ = 'n' :: rest := same
    rw [eq_of_finish read]
    exact ⟨['n'], rfl, rfl⟩
  · rename_i rest same
    obtain rfl : _ = '.' :: rest := same
    have point : Onward ⟨'.' :: rest, p⟩ ⟨rest, p + 1⟩ := ⟨['.'], rfl, rfl⟩
    have digits := onward_digitsOf 10 rest (p + 1)
    simp only [bind, Except.bind] at read
    split at read
    · cases read
    · rename_i parsed
      rw [eq_of_finish read]
      exact point.trans (digits.trans (onward_exponentPart parsed))
  · simp only [bind, Except.bind] at read
    split at read
    · cases read
    · rename_i parsed
      rw [eq_of_finish read]
      exact onward_exponentPart parsed

theorem onward_read {cs : List Char} {p : Nat} {result : NumberToken} {stop : Cursor}
    (read : Numeral.read cs p = .ok (result, stop)) : Onward ⟨cs, p⟩ stop := by
  have digits (cs : List Char) := onward_digitsOf 10 cs p
  unfold Numeral.read at read
  split at read
  · rename_i c rest
    have marked {base : Nat} (narrow : c.utf8Size = 1)
        (read : radix base rest (p + 2) = .ok (result, stop)) :
        Onward ⟨'0' :: c :: rest, p⟩ stop := by
      have first := reads_cons '0' (c :: rest) p
      have second := reads_cons c rest (p + 1)
      rw [narrow] at second
      exact .trans ⟨_, first.append second⟩ (onward_radix read)
    have narrow {a b : Char} (letter : (c == a || c == b) = true)
      (small : a.utf8Size = 1 ∧ b.utf8Size = 1) :
        c.utf8Size = 1 := by
      simp only [Bool.or_eq_true, beq_iff_eq] at letter
      rcases letter with rfl | rfl
      exacts [small.1, small.2]
    split at read
    · rename_i letter
      exact marked (narrow letter ⟨rfl, rfl⟩) read
    · split at read
      · rename_i letter
        exact marked (narrow letter ⟨rfl, rfl⟩) read
      · split at read
        · rename_i letter
          exact marked (narrow letter ⟨rfl, rfl⟩) read
        · simp only at read
          split at read
          · rw [eq_of_finish read]
            exact digits _
          · exact (digits _).trans (onward_decimal read)
  · exact (digits _).trans (onward_decimal read)

end Numeral

theorem onward_skipPattern {inClass : Bool} {cs : List Char} {p : Nat} {stop : Cursor}
    (read : skipPattern inClass cs p = some stop) : Onward ⟨cs, p⟩ stop := by
  fun_induction skipPattern inClass cs p with
  | case1 => cases read
  | case2 => cases read
  | case3 _ c cs p _ ih =>
    exact .trans ⟨_, (reads_cons '\\' (c :: cs) p).append (reads_cons c cs (p + 1))⟩ (ih read)
  | case4 => cases read
  | case5 _ c cs p _ _ slash =>
    obtain ⟨rfl, -⟩ : c = '/' ∧ _ := by simpa using slash
    obtain rfl := Option.some.inj read
    exact ⟨['/'], rfl, rfl⟩
  | case6 _ c cs p _ _ _ ih => exact .cons c (ih read)

theorem onward_readPattern {cs : List Char} {p : Nat} {stop : Cursor}
    (read : readPattern cs p = .ok stop) : Onward ⟨cs, p⟩ stop := by
  unfold readPattern at read
  split at read
  · cases read
  · rename_i skipped
    obtain rfl := Except.ok.inj read
    exact (onward_skipPattern skipped).trans (onward_takeWhile _ _ _)

end Phrasebook.Script
