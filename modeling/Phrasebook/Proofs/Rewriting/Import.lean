import Phrasebook.Proofs.Rewriting.File
import Phrasebook.Proofs.Text.Character
import Phrasebook.Proofs.Text.Match

/-!
Imports that are put in, and how they are found again. A text binds a name where the words of
an import or of a declaration stand before the name, and behind it the edge of a word or an equals
sign. No quotation mark and no semicolon lies in such a place, so that an import that is put in is
looked at by itself; and it is found exactly if the last character of its name is one that words are
made of.
-/

namespace Phrasebook.Rewriting

open Text Matcher

/-- Spaces, and at least one. -/
structure IsGap (gap : List Char) : Prop where
  filled : gap ≠ []
  spaces : ∀ c ∈ gap, isSpace c = true

/-- The words of an import before the name. -/
inductive ImportWords : List Char → Prop
  | single {gap : List Char} (spaced : IsGap gap) : ImportWords ("import".toList ++ gap)
  | whole {first second third : List Char} (before : IsGap first) (between : IsGap second)
      (behind : IsGap third) :
    ImportWords ("import".toList ++ (first ++ '*' :: (second ++ ("as".toList ++ third))))

/-- The words of a declaration before the name. -/
inductive DeclarationWords : List Char → Prop
  | of {word : String} {gap : List Char} (known : word ∈ ["const", "let", "var"])
      (spaced : IsGap gap) :
    DeclarationWords (word.toList ++ gap)

/-- Behind a name stand an equals sign and perhaps spaces before it. -/
def Assigned (after : List Char) : Prop :=
  ∃ gap rest, after = gap ++ '=' :: rest ∧ ∀ c ∈ gap, isSpace c = true

/-- What stands before a name and what stands behind it make it bound. -/
inductive Binds (name : List Char) : List Char → List Char → Prop
  | imported {front lead after : List Char} (words : ImportWords lead)
    (edge : isWordEdge name.getLast? after.head? = true) : Binds name (front ++ lead) after
  | declared {front lead after : List Char} (words : DeclarationWords lead)
    (edge : isWordEdge front.getLast? lead.head? = true) (assigned : Assigned after) :
    Binds name (front ++ lead) after

variable {name before after cs front : List Char} {last : Option Char}

theorem lastOr_of_ne_nil (filled : cs ≠ []) : lastOr last cs = cs.getLast? := by
  rw [lastOr, List.getLast?_eq_some_getLast filled]
  rfl

theorem boundName_iff (filled : name ≠ []) : literal name (wordEdge done) last cs = true ↔
    ∃ after, cs = name ++ after ∧ isWordEdge name.getLast? after.head? = true := by
  rw [literal_iff]
  simp only [lastOr_of_ne_nil filled, wordEdge, done, Bool.and_true]

theorem importPattern_iff (filled : name ≠ []) : importPattern name last cs = true ↔
    ∃ lead after, cs = lead ++ name ++ after ∧ ImportWords lead ∧
      isWordEdge name.getLast? after.head? = true := by
  rw [importPattern, literal_iff]
  constructor
  · rintro ⟨_, rfl, spaced⟩
    obtain ⟨gap, _, rfl, some, spaces, behind⟩ := someSpaces_iff.mp spaced
    rw [either, Bool.or_eq_true, boundName_iff filled, literal_iff] at behind
    rcases behind with ⟨_, rfl, starred⟩ | ⟨after, rfl, edge⟩
    · obtain ⟨gap', _, rfl, some', spaces', as⟩ := someSpaces_iff.mp starred
      obtain ⟨_, rfl, renamed⟩ := literal_iff.mp as
      obtain ⟨gap'', _, rfl, some'', spaces'', bound⟩ := someSpaces_iff.mp renamed
      obtain ⟨after, rfl, edge⟩ := (boundName_iff filled).mp bound
      refine ⟨_, after, ?_, .whole ⟨some, spaces⟩ ⟨some', spaces'⟩ ⟨some'', spaces''⟩, edge⟩
      simp
    · exact ⟨_, after, by simp, .single ⟨some, spaces⟩, edge⟩
  · rintro ⟨_, after, rfl, words, edge⟩
    cases words with
    | @single gap spaced =>
      refine ⟨gap ++ (name ++ after), by
        simp, someSpaces_iff.mpr ⟨gap, _, rfl, spaced.filled, spaced.spaces, ?_⟩⟩
      rw [either, Bool.or_eq_true]
      exact .inr ((boundName_iff filled).mpr ⟨after, rfl, edge⟩)
    | @whole first second third start between behind =>
      refine ⟨first ++ ('*' :: (second ++ ("as".toList ++ (third ++ (name ++ after))))), by simp,
        someSpaces_iff.mpr ⟨first, _, rfl, start.filled, start.spaces, ?_⟩⟩
      rw [either, Bool.or_eq_true]
      refine .inl (literal_iff.mpr
        ⟨_, rfl, someSpaces_iff.mpr ⟨second, _, rfl, between.filled, between.spaces, ?_⟩⟩)
      refine literal_iff.mpr
        ⟨_, rfl, someSpaces_iff.mpr ⟨third, _, rfl, behind.filled, behind.spaces, ?_⟩⟩
      exact (boundName_iff filled).mpr ⟨after, rfl, edge⟩

theorem declarationPattern_iff : declarationPattern name last cs = true ↔
    ∃ lead after, cs = lead ++ name ++ after ∧ DeclarationWords lead ∧
    isWordEdge last lead.head? = true ∧
      Assigned after := by
  have head {word : String} (known : word ∈ ["const", "let", "var"]) (rest : List Char) :
      (word.toList ++ rest).head? = word.toList.head? := by
    simp only [List.mem_cons, List.not_mem_nil, or_false] at known
    rcases known with rfl | rfl | rfl <;> rfl
  rw [declarationPattern, wordEdge, Bool.and_eq_true, anyOf_iff]
  constructor
  · rintro ⟨edge, word, known, _, rfl, spaced⟩
    obtain ⟨gap, _, rfl, filled, spaces, named⟩ := someSpaces_iff.mp spaced
    obtain ⟨_, rfl, behind⟩ := literal_iff.mp named
    obtain ⟨blanks, _, rfl, blank, assigned⟩ := many_iff.mp behind
    obtain ⟨rest, rfl, -⟩ := literal_iff.mp assigned
    refine ⟨_, _, ?_, .of known ⟨filled, spaces⟩, ?_, blanks, rest, rfl, blank⟩
    · simp
    · rwa [head known] at edge ⊢
  · rintro ⟨_, _, rfl, words, edge, blanks, rest, rfl, blank⟩
    cases words with
    | @of word gap known spaced =>
      rw [List.append_assoc, List.append_assoc, head known]
      rw [head known] at edge
      refine ⟨edge, word, known, _, rfl, ?_⟩
      refine someSpaces_iff.mpr ⟨gap, _, rfl, spaced.filled, spaced.spaces, ?_⟩
      refine literal_iff.mpr ⟨_, rfl, many_iff.mpr ⟨blanks, _, rfl, blank, ?_⟩⟩
      exact literal_iff.mpr ⟨rest, rfl, rfl⟩

/-- A text binds a name where the name stands with such a front and such a back. -/
theorem bindsName_iff {name : String} (filled : name.toList ≠ []) : bindsName cs name = true ↔
    ∃ before after, cs = before ++ name.toList ++ after ∧ Binds name.toList before after := by
  rw [bindsName, matchesAt, anywhere_iff]
  simp only [either, Bool.or_eq_true, importPattern_iff filled, declarationPattern_iff]
  constructor
  · rintro ⟨front, _, rfl, ⟨lead, after, rfl, words, edge⟩ |
      ⟨lead, after, rfl, words, edge, assigned⟩⟩
    · exact ⟨front ++ lead, after, by simp, .imported words edge⟩
    · refine ⟨front ++ lead, after, by simp, .declared words ?_ assigned⟩
      cases front with
      | nil => exact edge
      | cons c front => rwa [lastOr_of_ne_nil (List.cons_ne_nil _ _)] at edge
  · rintro ⟨_, after, rfl, binds⟩
    cases binds with
    | @imported front lead _ words edge =>
      exact ⟨front, _, by simp, .inl ⟨lead, after, rfl, words, edge⟩⟩
    | @declared front lead _ words edge assigned =>
      refine ⟨front, _, by simp, .inr ⟨lead, after, rfl, words, ?_, assigned⟩⟩
      cases front with
      | nil => exact edge
      | cons c front => rwa [lastOr_of_ne_nil (List.cons_ne_nil _ _)]

section
variable {name : String} {front back : List Char}

/-- The name ends in a character that words are made of. -/
def EndsInWord (name : String) : Prop := name.toList.getLast?.any isWord = true

instance : Decidable (EndsInWord name) := inferInstanceAs (Decidable (_ = true))

/-- A character that no word ends with is for the patterns like the beginning of the text. -/
theorem bindsName_behind (identifier : isIdentifier name = true) {c : Char}
    (other : isWord c = false) :
    anywhere (either (importPattern name.toList) (declarationPattern name.toList)) (some c) back =
      bindsName back name := by
  have filled := toList_ne_nil_of_isIdentifier identifier
  refine anywhere_of_alike ?_
  have imports : importPattern name.toList (some c) back = importPattern name.toList none back := by
    rw [Bool.eq_iff_iff, importPattern_iff filled, importPattern_iff filled]
  have declares : declarationPattern name.toList (some c) back =
      declarationPattern name.toList none back := by
    have edge (next : Option Char) : isWordEdge (some c) next = isWordEdge none next := by
      simp [isWordEdge, other]
    rw [Bool.eq_iff_iff, declarationPattern_iff, declarationPattern_iff]
    simp only [edge]
  rw [either, either, imports, declares]

/-- No place where a name is bound goes over a quotation mark or a semicolon. -/
theorem bindsName_append (identifier : isIdentifier name = true) {stop : Char}
    (mark : stop = '\'' ∨ stop = ';') :
    bindsName (front ++ stop :: back) name = (bindsName front name || bindsName back name) := by
  have part : isIdentifierPart stop = false := by rcases mark with rfl | rfl <;> decide
  have space : isSpace stop = false := by rcases mark with rfl | rfl <;> decide
  have word : isWord stop = false := by rcases mark with rfl | rfl <;> decide
  have apart : ∀ words ∈ [['*'], ['='], "import".toList, "as".toList], stop ∉ words := by
    rcases mark with rfl | rfl <;> decide
  have declaring : ∀ word ∈ ["const", "let", "var"], stop ∉ word.toList := by
    rcases mark with rfl | rfl <;> decide
  have names : stop ∉ name.toList := not_mem_of_isIdentifier identifier part
  have bound : StopsAt stop (literal name.toList (wordEdge done)) :=
    .literal names (.wordEdge word stopsAt_done)
  have stops :
      StopsAt stop (either (importPattern name.toList) (declarationPattern name.toList)) := by
    have imports : StopsAt stop (importPattern name.toList) :=
      .literal (apart _ (by simp)) <| .someSpaces space <| .either (.literal (apart _ (by simp)) <|
        .someSpaces space <| .literal (apart _ (by simp)) <| .someSpaces space bound) bound
    have declares : StopsAt stop (declarationPattern name.toList) :=
      .wordEdge word <| .anyOf declaring <| .someSpaces space <| .literal names <| .many space <|
        .literal (apart _ (by simp)) stopsAt_done
    exact .either imports declares
  rw [bindsName, matchesAt, stops.anywhere, bindsName_behind identifier word]
  rfl

theorem bindsName_feed (identifier : isIdentifier name = true) :
    bindsName ('\n' :: back) name = bindsName back name := by
  rw [bindsName, matchesAt, anywhere, bindsName_behind identifier (by decide)]
  rfl

/-- An import of a name that ends like a word is found, whatever stands around it. -/
theorem bindsName_of_import (identifier : isIdentifier name = true) (word : EndsInWord name) :
    bindsName (front ++ ("import ".toList ++ (name.toList ++ ' ' :: back))) name = true := by
  rw [bindsName_iff (toList_ne_nil_of_isIdentifier identifier)]
  have gap : IsGap [' '] := ⟨List.cons_ne_nil _ _, List.forall_mem_singleton.mpr (by decide)⟩
  refine ⟨front ++ ("import".toList ++ [' ']), ' ' :: back, by simp, .imported (.single gap) ?_⟩
  have other : isWord ' ' = false := by decide
  rw [isWordEdge, show name.toList.getLast?.any isWord = true from word]
  simp [other]

theorem Binds.imp {name before after after' : List Char} (binds : Binds name before after)
    (edge : isWordEdge name.getLast? after.head? = true →
      isWordEdge name.getLast? after'.head? = true)
    (assigned : Assigned after → Assigned after') : Binds name before after' := by
  cases binds with
  | imported words here => exact .imported words (edge here)
  | declared words here behind => exact .declared words here (assigned behind)

/-- Only a dollar sign ends an identifier otherwise than a word. -/
theorem dollar_of_not_endsInWord (identifier : isIdentifier name = true)
    (other : ¬EndsInWord name) : name.toList.getLast? = some '$' := by
  have ends := List.getLast?_eq_some_getLast (toList_ne_nil_of_isIdentifier identifier)
  generalize name.toList.getLast _ = last at ends
  have part := isIdentifierPart_of_mem identifier (List.mem_of_getLast? ends)
  rw [EndsInWord, ends, Option.any_some] at other
  obtain rfl := (isWord_or_dollar part).resolve_left other
  exact ends

/-- What ends in a character that a part of the text does not hold ends behind that part. -/
theorem behind_of_ends {part rest start after : List Char} {last : Char}
    (whole : part ++ rest = start ++ after) (ends : start.getLast? = some last)
    (apart : last ∉ part) :
    ∃ beyond, start = part ++ beyond ∧ rest = beyond ++ after ∧ beyond.getLast? = some last := by
  rcases List.append_eq_append_iff.mp whole with ⟨beyond, rfl, behind⟩ | ⟨mid, rfl, -⟩
  · cases beyond with
    | nil =>
      rw [List.append_nil] at ends
      exact absurd (List.mem_of_getLast? ends) apart
    | cons c beyond =>
      rw [List.getLast?_append_cons] at ends
      exact ⟨c :: beyond, rfl, behind, ends⟩
  · exact absurd (List.mem_append_left mid (List.mem_of_getLast? ends)) apart

/-- Where the front of a text is at most a line, and a name that ends otherwise than a word is bound
in the front with its import behind it, the name stands in the front. -/
theorem stands_in_front {before after : List Char} (identifier : isIdentifier name = true)
    (other : ¬EndsInWord name) (fed : front = [] ∨ ∃ line, front = line ++ ['\n'])
    (whole : front ++ ("import ".toList ++ (name.toList ++ " from ".toList)) =
      before ++ name.toList ++ after)
    (bound : isWordEdge name.toList.getLast? after.head? = true ∨ Assigned after) :
    ∃ c mid, front = before ++ name.toList ++ c :: mid := by
  have nameEnds := dollar_of_not_endsInWord identifier other
  have ends : (before ++ name.toList).getLast? = some '$' :=
    by rw [List.getLast?_append, nameEnds]; rfl
  have frontEnds : front.getLast? ≠ some '$' := by
    rcases fed with rfl | ⟨line, rfl⟩
    · exact nofun
    · rw [List.getLast?_concat]
      decide
  have loose : after ≠ " from ".toList := by
    rintro rfl
    rw [nameEnds] at bound
    rcases bound with edge | ⟨gap, rest, words, -⟩
    · exact absurd edge (by decide)
    · have member : '=' ∈ " from ".toList := words ▸ List.mem_append_right gap List.mem_cons_self
      exact absurd member (by decide)
  rcases List.append_eq_append_iff.mp whole with ⟨beyond, named, inside⟩ | ⟨mid, within, -⟩
  · -- The name would end behind the front, and behind the first word there.
    have overEnds : beyond.getLast? = some '$' := by
      rw [named, List.getLast?_append, Option.or_eq_some_iff] at ends
      exact ends.resolve_right fun none => frontEnds none.2
    obtain ⟨beyond, rfl, inside, overEnds⟩ := behind_of_ends inside overEnds (by decide)
    rcases List.append_eq_append_iff.mp inside with ⟨more, rfl, behind⟩ | ⟨short, spelled, rfl⟩
    · cases more with
      | nil => exact absurd behind.symm loose
      | cons c more =>
        -- It would end in the last word.
        rw [List.getLast?_append_cons] at overEnds
        have member : '$' ∈ " from ".toList :=
          behind ▸ List.mem_append_left after (List.mem_of_getLast? overEnds)
        exact absurd member (by decide)
    · cases short with
      | nil => exact absurd rfl loose
      | cons c short =>
        -- It would begin before the imported name and go over the blank there.
        have blank : ' ' :: beyond <:+ before ++ name.toList :=
          ⟨front ++ "import".toList, by rw [named]; simp⟩
        have shorter : (' ' :: beyond).length ≤ name.toList.length := by
          rw [spelled, List.length_append, List.length_cons, List.length_cons]
          omega
        have inName :=
          List.suffix_of_suffix_length_le blank (List.suffix_append before name.toList) shorter
        exact absurd (inName.subset List.mem_cons_self)
          (not_mem_of_isIdentifier identifier (by decide))
  · cases mid with
    | nil =>
      rw [within, List.append_nil] at frontEnds
      exact absurd ends frontEnds
    | cons c mid => exact ⟨c, mid, within⟩

theorem Assigned.of_append {mid behind : List Char} {c : Char}
    (space : isSpace c = false) (other : c ≠ '=') (assigned : Assigned (mid ++ c :: behind)) :
    Assigned mid := by
  obtain ⟨gap, rest, whole, spaces⟩ := assigned
  rcases List.append_eq_append_iff.mp whole with ⟨beyond, rfl, same⟩ | ⟨beyond, rfl, same⟩
  · cases beyond with
    | nil => exact absurd (List.cons.inj same).1 other
    | cons d beyond =>
      obtain ⟨rfl, -⟩ := List.cons.inj same
      have inside := spaces c (List.mem_append_right mid List.mem_cons_self)
      rw [space] at inside
      cases inside
  · cases beyond with
    | nil => exact absurd (List.cons.inj same).1.symm other
    | cons d beyond =>
      obtain ⟨rfl, -⟩ := List.cons.inj same
      exact ⟨gap, beyond, rfl, spaces⟩

theorem Assigned.append {mid : List Char} (assigned : Assigned mid) (behind : List Char) :
    Assigned (mid ++ behind) := by
  obtain ⟨gap, rest, rfl, spaces⟩ := assigned
  exact ⟨gap, rest ++ behind, by simp, spaces⟩

/-- The import of a name that ends otherwise is not found; what is found is bound by the text in
front of it. -/
theorem bindsName_before_import (identifier : isIdentifier name = true) (other : ¬EndsInWord name)
    (fed : front = [] ∨ ∃ line, front = line ++ ['\n']) :
    bindsName (front ++ ("import ".toList ++ (name.toList ++ " from ".toList))) name =
      bindsName front name := by
  have filled := toList_ne_nil_of_isIdentifier identifier
  rw [Bool.eq_iff_iff, bindsName_iff filled, bindsName_iff filled]
  constructor
  · rintro ⟨before, after, whole, binds⟩
    have bound : isWordEdge name.toList.getLast? after.head? = true ∨ Assigned after := by
      cases binds with
      | imported _ edge => exact .inl edge
      | declared _ _ assigned => exact .inr assigned
    obtain ⟨c, mid, rfl⟩ := stands_in_front identifier other fed whole bound
    rw [List.append_assoc] at whole
    obtain rfl := List.append_cancel_left whole
    exact ⟨before, c :: mid, rfl, binds.imp (fun edge => edge)
      (Assigned.of_append (by decide) (by decide))⟩
  · rintro ⟨before, after, rfl, binds⟩
    refine ⟨before, _, List.append_assoc .., binds.imp (fun edge => ?_) fun assigned =>
      assigned.append _⟩
    cases after with
    | nil =>
      rw [isWordEdge, show name.toList.getLast?.any isWord = false from Bool.eq_false_iff.mpr other]
        at edge
      cases edge
    | cons c after => exact edge

theorem importStatement_eq (name specifier : String) : importStatement name specifier =
    "import ".toList ++ (name.toList ++ " from ".toList) ++
      '\'' :: (specifier.toList ++ '\'' :: ';' :: ['\n']) := by
  simp [importStatement]

/-- Whether a name is bound where its import has been put in: by the import, if the name ends like a
word, or else by what stands before it, by the path that is imported, or by what stands behind it.
-/
theorem bindsName_importStatement (identifier : isIdentifier name = true)
    (fed : front = [] ∨ ∃ line, front = line ++ ['\n']) (specifier : String) :
    bindsName (front ++ importStatement name specifier ++ back) name = true ↔
      EndsInWord name ∨ bindsName front name = true ∨ bindsName specifier.toList name = true ∨
        bindsName back name = true := by
  have whole : front ++ importStatement name specifier ++ back =
      front ++ ("import ".toList ++ (name.toList ++ " from ".toList)) ++
        '\'' :: (specifier.toList ++ '\'' :: ([] ++ ';' :: '\n' :: back)) := by
    rw [importStatement_eq]
    simp
  by_cases word : EndsInWord name
  · let later := "from ".toList ++ '\'' :: (specifier.toList ++ '\'' :: ([] ++ ';' :: '\n' :: back))
    have begins : front ++ importStatement name specifier ++ back =
        front ++ ("import ".toList ++ (name.toList ++ ' ' :: later)) := by
      rw [whole]
      simp [later]
    rw [begins]
    exact iff_of_true (bindsName_of_import identifier word) (.inl word)
  · have empty : bindsName [] name = false := rfl
    rw [whole, bindsName_append identifier (.inl rfl), bindsName_append identifier (.inl rfl),
      bindsName_append identifier (.inr rfl), bindsName_feed identifier,
      bindsName_before_import identifier word fed, empty]
    simp [word]

/-- A text comes apart where the statement was put in; at most a line feed behind its only line is
new. -/
theorem Prepended.parts {statement text output : List Char}
    (put : Prepended statement text output) :
    ∃ front back, output = front ++ statement ++ back ∧
    (front = [] ∨ ∃ line, front = line ++ ['\n']) ∧
      (front ++ back = text ∨ ['#', '!'] <+: text ∧ '\n' ∉ text ∧
        front = text ++ ['\n'] ∧ back = []) := by
  cases put with
  | first plain => exact ⟨[], text, rfl, .inl rfl, .inl rfl⟩
  | @behind line rest marked single =>
    exact ⟨line ++ ['\n'], rest, by simp, .inr ⟨line, rfl⟩, .inl (by simp)⟩
  | ended marked single =>
    exact ⟨text ++ ['\n'], [], by simp, .inr ⟨text, rfl⟩, .inr ⟨marked, single, rfl, rfl⟩⟩

end

end Phrasebook.Rewriting
