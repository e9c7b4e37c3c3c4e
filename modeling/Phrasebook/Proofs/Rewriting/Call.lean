import Phrasebook.Proofs.Occurrence.Binding
import Phrasebook.Proofs.Script.Run
import Phrasebook.Proofs.Script.Token
import Phrasebook.Rewriting.File

/-!
How the call is read that a module puts in the place of a literal. The key in it is escaped for the
single quotes around it, so that the script reads the key, whatever its characters are; in an
attribute, double quotes stand around the call as well, and for these nothing is escaped. A call
begins with a word, though, and a literal does not: behind a word that touches it, the call is not
read as one.
-/

namespace Phrasebook

open Script Script.Grammar Script.Parser Text

namespace Rewriting

def expressionChars (b : Binding) : List Char := trim b.expression.toList

def argumentChars (b : Binding) : List Char := b.label.toList ++ ':' :: ' ' :: expressionChars b

/-- The properties that pass expressions, with commas between them. -/
def propertiesChars : List Binding → List Char
  | [] => []
  | [b] => argumentChars b
  | b :: c :: bindings => argumentChars b ++ ',' :: ' ' :: propertiesChars (c :: bindings)

/-- What stands between the key and the closing parenthesis. -/
def argumentsChars : List Binding → List Char
  | [] => []
  | b :: bindings =>
    ',' :: ' ' :: '\x7b' :: ' ' :: (propertiesChars (b :: bindings) ++ [' ', '\x7d'])

theorem toList_argument (b : Binding) : (argument b).toList = argumentChars b := by
  simp [argument, argumentChars, expressionChars, trimmed]

theorem toList_properties (bindings : List Binding) :
    (", ".intercalate (bindings.map argument)).toList = propertiesChars bindings := by
  rw [String.toList_intercalate]
  induction bindings with
  | nil => rfl
  | cons b bindings ih =>
    cases bindings with
    | nil => simp [propertiesChars, toList_argument]
    | cons c bindings =>
      simp only [List.map_cons] at ih ⊢
      rw [propertiesChars, List.intercalate_cons_cons, ih, toList_argument]
      simp

theorem toList_call (callee key : String) (bindings : List Binding) :
    (call callee key bindings).toList = callee.toList ++ '(' :: '\'' ::
      (quoteChars key.toList ++ '\'' :: (argumentsChars bindings ++ [')'])) := by
  cases bindings with
  | nil => simp [call, argumentsChars, quoteText]
  | cons b bindings =>
    have properties := toList_properties (b :: bindings)
    simp only [call, List.isEmpty_cons, Bool.false_eq_true, if_false,
      String.toList_append, properties, argumentsChars, quoteText]
    simp

/-- Behind the parenthesis of a call the script reads a string. It is the key, and it ends in front
of the captured expressions. -/
theorem readToken_call (callee key : String) (bindings : List Binding)
    (tail : List Char) (p : Nat) :
    (call callee key bindings).toList.take (callee.toList.length + 1) = callee.toList ++ ['('] ∧
    readToken ⟨(call callee key bindings).toList.drop (callee.toList.length + 1) ++ tail, p⟩ =
      (.string (some key),
        ⟨argumentsChars bindings ++ ')' :: tail, p + 1 + byteLength (quoteChars key.toList) + 1⟩) :=
    by
  have written : (call callee key bindings).toList = (callee.toList ++ ['(']) ++
      '\'' :: (quoteChars key.toList ++ '\'' :: (argumentsChars bindings ++ [')'])) := by
    rw [toList_call, List.append_assoc]
    rfl
  have length : callee.toList.length + 1 = (callee.toList ++ ['(']).length := by
    rw [List.length_append, List.length_singleton]
  rw [written, length, List.take_left, List.drop_left]
  refine ⟨rfl, ?_⟩
  have behind :
    '\'' :: (quoteChars key.toList ++ '\'' :: (argumentsChars bindings ++ [')'])) ++ tail =
      '\'' :: (quoteChars key.toList ++ '\'' :: (argumentsChars bindings ++ ')' :: tail)) := by
    simp
  rw [behind]
  exact readsForms_quoteChar.readToken (.inr rfl) key _ p

/-- The value of a bound attribute, which ends at the next double quote, and what stands behind it.
-/
def readBound? (name : String) (cs : List Char) : Option (List Char × List Char) := do
  let behind ← (':' :: (name.toList ++ ['=', '"'])).isPrefixOf? cs
  match behind.dropWhile (· != '"') with
  | [] => none
  | _ :: tail => some (behind.takeWhile (· != '"'), tail)

theorem readBound?_of_not_mem {value : List Char} (plain : '"' ∉ value) (name : String)
    (tail : List Char) :
    readBound? name (':' :: (name.toList ++ '=' :: '"' :: (value ++ '"' :: tail))) = some
      (value, tail) := by
  have others : ∀ c ∈ value, (c != '"') = true := by
    intro c member
    rw [bne_iff_ne]
    rintro rfl
    exact plain member
  have opened : (':' :: (name.toList ++ ['=', '"'])).isPrefixOf?
      (':' :: (name.toList ++ '=' :: '"' :: (value ++ '"' :: tail))) =
      some (value ++ '"' :: tail) := by
    simp
  rw [readBound?, opened, Option.bind_eq_bind, Option.bind_some,
    List.takeWhile_append_of_pos others, List.dropWhile_append_of_pos others]
  simp

theorem toList_inMarkup_attribute (name text : String) (tail : List Char) :
    (inMarkup (.attribute name) text).toList ++ tail =
      ':' :: (name.toList ++ '=' :: '"' :: (text.toList ++ '"' :: tail)) := by
  simp [inMarkup]

/-- An attribute is read as it was written if its value has no double quote. Otherwise the value
ends at its own first one. -/
theorem readBound?_inMarkup_iff (name text : String) (tail : List Char) :
    readBound? name ((inMarkup (.attribute name) text).toList ++ tail) = some (text.toList, tail) ↔
      '"' ∉ text.toList := by
  rw [toList_inMarkup_attribute]
  refine ⟨fun read member => ?_, fun plain => readBound?_of_not_mem plain name tail⟩
  obtain ⟨front, back, whole, plain⟩ := List.eq_append_cons_of_mem member
  have early := readBound?_of_not_mem plain name (back ++ '"' :: tail)
  have same : text.toList ++ '"' :: tail = front ++ '"' :: (back ++ '"' :: tail) := by
    rw [whole, List.append_assoc, List.cons_append]
  rw [same, early] at read
  have value : front = text.toList := (Prod.mk.inj (Option.some.inj read)).1
  exact plain (value ▸ member)

theorem double_mem_quoteChars {cs : List Char} : '"' ∈ quoteChars cs ↔ '"' ∈ cs := by
  have each (c : Char) : '"' ∈ quoteChar c ↔ c = '"' := by
    unfold quoteChar
    split <;> simp [eq_comm]
  simp [quoteChars, each]

theorem double_mem_call {callee key : String} :
    '"' ∈ (call callee key []).toList ↔ '"' ∈ callee.toList ∨ '"' ∈ key.toList := by
  simp [toList_call, argumentsChars, double_mem_quoteChars]

/-- The attribute that a key is put in is read as that attribute, with the whole call as its value
and nothing left over, if there is no double quote in the key and none in the spelling of the call.
-/
theorem readBound?_replacement_iff (calls : CallSpellings) (name key : String) (tail : List Char) :
    readBound? name ((replacement calls .template (.attribute name) key []).toList ++ tail) =
      some ((call calls.template key []).toList, tail) ↔
        '"' ∉ calls.template.toList ∧ '"' ∉ key.toList := by
  rw [replacement, readBound?_inMarkup_iff, double_mem_call, not_or]

/-- A key with a double quote in it gets a text, and its call is cut off there. -/
theorem readBound?_replacement_cut : ∃ tree, ResourceTree.insert
    {} "Common.say\"hi\"" "你好" = .ok tree ∧ readBound? "title"
      ((replacement {} .template (.attribute "title") "Common.say\"hi\"" []).toList ++ ['>']) = some
        ("$t('Common.say".toList, "hi\"')\">".toList) := by
  exact ⟨_, rfl, by decide⟩

theorem EndsWord.append {between : List Char} (ends : EndsWord between) (some : between ≠ [])
    (rest : List Char) : EndsWord (between ++ rest) := by
  cases between with
  | nil => contradiction
  | cons c cs => exact ends

/-- A word is told from a literal behind it, whether they touch or not. -/
theorem readToken_before_literal {word between : List Char} (isWord : IsWord word)
    (ends : EndsWord between) {quote : Char} (opens : quote ∈ ['\'', '"', '\x60'])
    (body : List Char) (p : Nat) : readToken ⟨word ++ (between ++ quote :: body), p⟩ =
      (.word (String.ofList word) false, ⟨between ++ quote :: body, p + byteLength word⟩) := by
  have closes : EndsWord (quote :: body) := by
    simp only [List.mem_cons, List.not_mem_nil, or_false] at opens
    rcases opens with rfl | rfl | rfl
    · exact ⟨by decide, by decide⟩
    · exact ⟨by decide, by decide⟩
    · exact ⟨by decide, by decide⟩
  refine readToken_word isWord ?_ p
  cases between with
  | nil => exact closes
  | cons c cs => exact ends

/-- A word is told from the call behind it exactly when they do not touch. -/
theorem readToken_before_call_iff {word between : List Char} (isWord : IsWord word)
    (ends : EndsWord between) (key : String) (bindings : List Binding)
    (tail : List Char) (p : Nat) :
    let rest := between ++ ((call "i18n.t" key bindings).toList ++ tail)
    readToken ⟨word ++ rest, p⟩ = (.word (String.ofList word) false, ⟨rest, p + byteLength word⟩) ↔
      between ≠ [] := by
  intro rest
  constructor
  · rintro read rfl
    have merged : word ++ rest = (word ++ ['i', '1', '8', 'n']) ++ '.' :: 't' :: '(' :: '\'' ::
        (quoteChars key.toList ++ '\'' :: (argumentsChars bindings ++ ')' :: tail)) := by
      simp only [rest]
      rw [toList_call]
      simp
    have whole : IsWord (word ++ ['i', '1', '8', 'n']) := by
      obtain @⟨c, cs, start, parts⟩ := isWord
      refine .intro start fun d (member : d ∈ (c :: cs) ++ ['i', '1', '8', 'n']) => ?_
      rcases List.mem_append.mp member with member | member
      · exact parts d member
      · exact List.all_eq_true.mp (by decide : ['i', '1', '8', 'n'].all isWordPart = true) d member
    have dot : EndsWord ('.' :: 't' :: '(' :: '\'' ::
        (quoteChars key.toList ++ '\'' :: (argumentsChars bindings ++ ')' :: tail))) :=
      ⟨by decide, by decide⟩
    rw [merged, readToken_word whole dot] at read
    have same := (Token.word.inj (Prod.mk.inj read).1).1
    have length := congrArg List.length (String.ofList_injective same)
    simp at length
  · intro some
    exact readToken_word isWord (EndsWord.append ends some _) p

end Rewriting
end Phrasebook
