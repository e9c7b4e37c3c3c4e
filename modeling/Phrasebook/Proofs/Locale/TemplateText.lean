import Phrasebook.Proofs.Locale.Escape
import Phrasebook.Proofs.Text.Table

/-!
Reading back the file of a template. A line is taken apart right behind the written form of its
phrase, which holds no equals sign that counts and ends in no open escape. It gives back the phrase
that it was written for, and its translation without the blanks that have no escape. What has been
read once has none of these, so it is written and read again without a change.
-/

namespace Phrasebook.Template

open Text

/-- What stands between a phrase and its translation. -/
def separator : List Char := [' ', '=', ' ']

theorem splitUnescaped?_written {form text : List Char} (written : Written form text)
    (rest : List Char) : splitUnescaped? separator (form ++ ' ' :: rest) =
      (splitUnescaped? separator (' ' :: rest)).map fun (before, after) =>
      (form ++ before, after) := by
  induction written with
  | nil => simp
  | @plain c form text free inner ih =>
    have other : c ≠ '\\' := fun same => free (by simp [same])
    have apart : separator.isPrefixOf (c :: (form ++ ' ' :: rest)) = false := by
      have head := inner.head
      cases form with
      | nil => simp [separator, List.isPrefixOf]
      | cons d form =>
        have unequal : '=' ≠ d := fun same => head (by rw [same]; rfl)
        simp [separator, List.isPrefixOf, unequal]
    rw [List.cons_append, splitUnescaped?.eq_4 _ _ _ (fun same => absurd same other)
      (fun _ _ same => absurd same other), apart, ih]
    simp [Function.comp_def]
  | escaped known _ ih =>
    rw [List.cons_append, List.cons_append, splitUnescaped?, ih]
    simp [Function.comp_def]

/-- An equals sign that comes last ends a phrase without a translation. -/
theorem splitLine?_blank {form text : List Char} (written : Written form text)
    (tight : Tight form) : splitLine? (form ++ [' ', '=']) = some (form, []) := by
  have unsplit : splitUnescaped? [' ', '=', ' '] (form ++ [' ', '=']) = none :=
    splitUnescaped?_written written ['=']
  have phrase : blankPhrase? (form ++ [' ', '=']) = some (form ++ [' ']) := by
    simp [blankPhrase?, endsInEscape]
  have trimmed : trim (form ++ [' ']) = form :=
    tight.trim_append (List.forall_mem_singleton.mpr (by decide))
  simp only [splitLine?, unsplit, phrase, trimmed]

/-- The first equals sign with spaces around it comes right behind a written form. -/
theorem splitLine?_written {form text : List Char} (written : Written form text)
    (translation : List Char) :
    splitLine? (form ++ ' ' :: '=' :: ' ' :: translation) = some (trim form, trim translation) := by
  have split : splitUnescaped? [' ', '=', ' '] (form ++ ' ' :: '=' :: ' ' :: translation) =
      some (form, translation) := by
    refine (splitUnescaped?_written written ('=' :: ' ' :: translation)).trans ?_
    simp [splitUnescaped?, separator, List.isPrefixOf]
  simp only [splitLine?, split]

theorem splitLine?_filled {form text : List Char} (written : Written form text) (tight : Tight form)
    (translation : List Char) :
    splitLine? (form ++ ' ' :: '=' :: ' ' :: translation) = some (form, trim translation) := by
  rw [splitLine?_written written, tight.trim]

theorem tight_splitLine? {line phrase translation : List Char}
    (split : splitLine? line = some (phrase, translation)) : Tight phrase ∧ Tight translation := by
  unfold splitLine? at split
  split at split
  · cases split
    exact ⟨tight_trim _, tight_trim _⟩
  · split at split
    · cases split
      exact ⟨tight_trim _, .nil⟩
    · obtain ⟨parts, -, made⟩ := Option.map_eq_some_iff.mp split
      cases made
      exact ⟨tight_trim _, tight_trim _⟩

/-- A part in which all escapes are closed does not change whether the whole ends in an open one. -/
theorem endsInEscape_append {front : List Char} (closed : endsInEscape front = false)
    (cs : List Char) : endsInEscape (front ++ cs) = endsInEscape cs := by
  unfold endsInEscape at closed ⊢
  rw [List.reverse_append, List.takeWhile_append]
  split
  · -- Nothing but backslashes behind the front: those at its end count, too, and are even in
    -- number.
    rename_i whole
    rw [List.length_append, ← whole, Nat.add_mod, ← Nat.add_zero ((_ : Nat) % 2)]
    have even : (front.reverse.takeWhile (· == '\\')).length % 2 = 0 := by simpa using closed
    simp [even]
  · rfl

namespace Written

variable {form text : List Char}

theorem unsplit (written : Written form text) : splitUnescaped? ['='] form = none := by
  induction written with
  | nil => rfl
  | @plain c form text free _ ih =>
    have backslash : c ≠ '\\' := fun same => free (by simp [same])
    have equals : '=' ≠ c := fun same => free (by simp [← same])
    rw [splitUnescaped?.eq_4 _ _ _ (fun same => absurd same backslash)
      (fun _ _ same => absurd same backslash), ih]
    simp [List.isPrefixOf, equals]
  | escaped _ _ ih => rw [splitUnescaped?, ih, Option.map_none]

theorem closed (written : Written form text) : endsInEscape form = false := by
  induction written with
  | nil => rfl
  | @plain c form text free _ ih =>
    have other : c ≠ '\\' := fun same => free (by simp [same])
    have single : endsInEscape [c] = false := by simp [endsInEscape, other]
    rwa [← List.singleton_append, endsInEscape_append single]
  | @escaped e c form text _ _ ih =>
    have pair : endsInEscape ['\\', e] = false := by
      by_cases same : e = '\\'
      · rw [same]
        rfl
      · simp [endsInEscape, same]
    exact (endsInEscape_append pair form).trans ih

end Written

theorem trim_eq_self_iff {cs : List Char} : trim cs = cs ↔ Tight cs :=
  ⟨fun same => same ▸ tight_trim cs, Tight.trim⟩

/-- Trimming leaves a written form as it is exactly if the blanks at the ends of its text have
escapes. -/
theorem tight_escape_iff (cs : List Char) : Tight (escape cs) ↔ Writable cs :=
  ⟨fun tight => unescape_escape cs ▸ writable_unescape tight, tight_escape⟩

/-- Any text is read back from its written form, which stays on one line, is no comment, and has
neither an equals sign outside escapes nor an open escape at its end. A line is split exactly
between the written forms of its phrase and its translation if and only if the blanks at the ends of
both, if there are any, are spaces, tabs, line feeds and carriage returns. -/
theorem splitLine?_between_forms (text phrase translation : List Char) :
    unescape (escape text) = text ∧
    '\n' ∉ escape text ∧ '\r' ∉ escape text ∧
    splitUnescaped? ['='] (escape text) = none ∧
    (escape text).head? ≠ some '#' ∧
    endsInEscape (escape text) = false ∧
    (splitLine? (escape phrase ++ " = ".toList ++ escape translation) =
      some (escape phrase, escape translation) ↔ Writable phrase ∧ Writable translation) := by
  have written := written_escape text
  have visible : (escape text).head? ≠ some '#' := by
    intro hash
    rcases head?_escape hash with backslash | ⟨-, other, -⟩
    · exact absurd backslash (by decide)
    · exact other rfl
  refine ⟨unescape_escape text, written.unbroken.1, written.unbroken.2, written.unsplit, visible,
    written.closed, ?_⟩
  have line : escape phrase ++ " = ".toList ++ escape translation =
      escape phrase ++ ' ' :: '=' :: ' ' :: escape translation := by simp
  rw [line, splitLine?_written (written_escape phrase), Option.some.injEq,
    Prod.mk.injEq, trim_eq_self_iff, trim_eq_self_iff, tight_escape_iff, tight_escape_iff]

/-- The line of a phrase without its ending. -/
def lineChars (phrase translation : String) : List Char :=
  escape phrase.toList
    ++ (if translation.isEmpty then [' ', '='] else ' ' :: '=' :: ' ' :: escape translation.toList)

/-- A phrase that is read back from its line. -/
def Legible (phrase : String) : Prop := phrase ≠ "" ∧ Writable phrase.toList

/-- What is read back of a translation. -/
def held (translation : String) : String :=
  String.ofList (unescape (trim (escape translation.toList)))

theorem held_of_writable {translation : String} (writable : Writable translation.toList) :
    held translation = translation := by
  rw [held, (tight_escape writable).trim, unescape_escape, String.ofList_toList]

theorem tight_ending {form : List Char} (tight : Tight form) (filled : form ≠ []) :
    Tight (form ++ [' ', '=']) := by
  have equals : Tight ['='] := .singleton (by decide)
  simpa using tight.append equals filled (by simp) [' ']

/-- Trimming takes the blanks off the end of a line, the one behind the equals sign included if
nothing else follows it. -/
theorem trim_ending {form front mid back : List Char} (tight : Tight form) (filled : form ≠ [])
    (before : ∀ c ∈ front, isSpace c = true) (behind : ∀ c ∈ back, isSpace c = true)
    (inner : Tight mid) :
    trim (form ++ ' ' :: '=' :: ' ' :: (front ++ mid ++ back)) =
      form ++ if mid = [] then [' ', '='] else ' ' :: '=' :: ' ' :: (front ++ mid) := by
  split
  · rename_i empty
    subst empty
    have blank : ∀ c ∈ ' ' :: (front ++ back), isSpace c = true := by
      intro c member
      rcases List.mem_cons.mp member with rfl | member
      · decide
      · exact (List.mem_append.mp member).elim (before c) (behind c)
    simpa using (tight_ending tight filled).trim_append blank
  · rename_i visible
    have ends := tight.append inner filled visible (' ' :: '=' :: ' ' :: front)
    simpa using ends.trim_append behind

/-- A line as it is read: the phrase, an equals sign, and what follows it. -/
theorem body_lineChars {phrase : String} (legible : Legible phrase) (translation : String) :
    ∃ rest, trim (lineChars phrase translation) = escape phrase.toList ++ ' ' :: '=' :: rest ∧
      splitLine? (trim (lineChars phrase translation)) =
        some (escape phrase.toList, trim (escape translation.toList)) := by
  have written := written_escape phrase.toList
  have tight := tight_escape legible.2
  have filled : escape phrase.toList ≠ [] := fun empty =>
    legible.1 (String.toList_eq_nil_iff.mp ((escape_eq_nil_iff _).mp empty))
  unfold lineChars
  split
  · rename_i blank
    rw [(tight_ending tight filled).trim, String.isEmpty_iff.mp blank]
    exact ⟨[], rfl, splitLine?_blank written tight⟩
  · obtain ⟨front, back, whole, before, behind⟩ := trim_parts (escape translation.toList)
    have ending := trim_ending tight filled before behind (tight_trim (escape translation.toList))
    rw [← whole] at ending
    rw [ending]
    split
    · rename_i empty
      rw [empty]
      exact ⟨[], rfl, splitLine?_blank written tight⟩
    · refine ⟨_, rfl, ?_⟩
      rw [splitLine?_filled written tight]
      rw [← List.append_nil (front ++ _), trim_eq before (by simp) (tight_trim _)]

/-- What a line adds to a template: its phrase, with what can be read back of its translation. -/
theorem readLine_lineChars {phrase : String} (legible : Legible phrase) (translation : String)
    (state : Bool × Template) :
    readLine state (lineChars phrase translation) =
      if state.1 then
        (true, { state.2 with retained := insertSorted phrase (held translation) state.2.retained })
      else (false, state.2.fill phrase (held translation)) := by
  obtain ⟨rest, body, split⟩ := body_lineChars legible translation
  have filled : escape phrase.toList ≠ [] := fun empty =>
    legible.1 (String.toList_eq_nil_iff.mp ((escape_eq_nil_iff _).mp empty))
  have head : (escape phrase.toList ++ ' ' :: '=' :: rest).head? ≠ some '#' := by
    rw [List.head?_append_of_ne_nil _ filled]
    intro hash
    rcases head?_escape hash with backslash | ⟨-, other, -⟩
    · exact absurd backslash (by decide)
    · exact other rfl
  have notMarker : escape phrase.toList ++ ' ' :: '=' :: rest ≠ retainedMarker.toList := by
    intro same
    rw [same] at head
    exact head (by decide)
  have notEmpty : (escape phrase.toList).isEmpty = false := by simpa using filled
  rw [body] at split
  simp only [readLine, body, if_neg notMarker, split, unescape_escape,
    String.ofList_toList, notEmpty]
  simp only [beq_eq_false_iff_ne.mpr head, held]
  simp

theorem toList_lineOf (phrase translation : String) :
    (lineOf phrase translation).toList = lineChars phrase translation ++ ['\n'] := by
  unfold lineOf lineChars
  split <;> simp

theorem toList_linesOf (table : List (String × String)) :
    (linesOf table).toList =
      (table.map fun entry => lineChars entry.1 entry.2).flatMap (· ++ ['\n']) := by
  simp [linesOf, toList_lineOf, String.toList_join, List.flatMap_map]

theorem unbroken_lineChars (phrase translation : String) :
    '\n' ∉ lineChars phrase translation ∧ '\r' ∉ lineChars phrase translation := by
  have first := (written_escape phrase.toList).unbroken
  have second := (written_escape translation.toList).unbroken
  unfold lineChars
  split <;> simp [first, second]

/-- The lines of the file of a template. -/
def renderedLines (t : Template) : List (List Char) :=
  lines header.toList ++ [[]] ++ t.entries.map (fun entry => lineChars entry.1 entry.2)
    ++ if t.retained.isEmpty then []
      else [] :: retainedMarker.toList :: t.retained.map fun entry => lineChars entry.1 entry.2

theorem toList_header : header.toList = (lines header.toList).flatMap (· ++ ['\n']) := by
  -- Of a text that is written out the characters are known, so that nothing has to decode it.
  rw [header, String.toList_ofList]
  decide +kernel

theorem toList_render (t : Template) :
    (render t).toList = (renderedLines t).flatMap (· ++ ['\n']) := by
  unfold render renderedLines
  split
  · simp [toList_linesOf, ← toList_header]
  · simp [toList_linesOf, ← toList_header]

theorem lines_render (t : Template) : lines (render t).toList = renderedLines t := by
  have fixed : ∀ line ∈ lines header.toList ++ [[]] ++ [[], retainedMarker.toList],
      '\n' ∉ line ∧ '\r' ∉ line := by
    rw [header, String.toList_ofList]
    decide +kernel
  have written : ∀ table : List (String × String),
      ∀ line ∈ table.map fun entry => lineChars entry.1 entry.2, '\n' ∉ line ∧ '\r' ∉ line := by
    intro table line member
    obtain ⟨entry, -, rfl⟩ := List.mem_map.mp member
    exact unbroken_lineChars entry.1 entry.2
  rw [toList_render]
  refine lines_flatMap fun line member => ?_
  unfold renderedLines at member
  rcases List.mem_append.mp member with member | member
  · rcases List.mem_append.mp member with member | member
    · exact fixed line (List.mem_append_left _ member)
    · exact written t.entries line member
  · split at member
    · cases member
    · rcases List.mem_append.mp (show line ∈ [[], retainedMarker.toList] ++ _ from member)
        with member | member
      · exact fixed line (List.mem_append_right _ member)
      · exact written t.retained line member

/-- A blank line or a comment adds nothing. -/
theorem readLine_passed {line : List Char} (other : trim line ≠ retainedMarker.toList)
    (passed : trim line = [] ∨ (trim line).head? = some '#') (state : Bool × Template) :
    readLine state line = state := by
  unfold readLine
  rcases passed with empty | hash
  · simp [empty, show ¬[] = retainedMarker.toList by decide]
  · simp [if_neg other, hash]

theorem foldl_readLine_header (state : Bool × Template) :
    (lines header.toList ++ [[]]).foldl readLine state = state := by
  have passed : ∀ line ∈ lines header.toList ++ [[]], trim line ≠ retainedMarker.toList ∧
      (trim line = [] ∨ (trim line).head? = some '#') := by
    rw [header, String.toList_ofList]
    decide +kernel
  generalize lines header.toList ++ [[]] = ls at passed
  induction ls with
  | nil => rfl
  | cons line ls ih =>
    obtain ⟨other, blank⟩ := passed line List.mem_cons_self
    rw [List.foldl_cons, readLine_passed other blank,
      ih fun other member => passed other (List.mem_cons_of_mem _ member)]

/-- The table that the lines of one are read into. -/
def readInto (table entries : List (String × String)) : List (String × String) :=
  entries.foldl (fun table entry => insertSorted entry.1 (held entry.2) table) table

/-- The lines of a table are read into the table of the section that they stand in. -/
theorem foldl_readLine_table {table : List (String × String)}
    (legible : ∀ entry ∈ table, Legible entry.1) (retaining : Bool) (t : Template) :
    (table.map fun entry => lineChars entry.1 entry.2).foldl readLine (retaining, t) =
      (retaining, if retaining then { t with retained := readInto t.retained table }
        else { t with entries := readInto t.entries table }) := by
  induction table generalizing t with
  | nil => cases retaining <;> rfl
  | cons entry table ih =>
    rw [List.map_cons, List.foldl_cons, readLine_lineChars (legible entry List.mem_cons_self)]
    cases retaining <;>
      exact ih (fun other member => legible other (List.mem_cons_of_mem _ member)) _

/-- What is read back of a table: each phrase, with what can be read back of its translation. -/
def readBack (table : List (String × String)) : List (String × String) :=
  table.map fun entry => (entry.1, held entry.2)

theorem readInto_nil {table : List (String × String)} (rising : Rising table) :
    readInto [] table = readBack table := by
  have sorted : Rising (readBack table) := rising.map fun _ => held
  have inserted := foldl_insertSorted_append (show Rising ([] ++ readBack table) from sorted)
  rwa [readBack, List.foldl_map, List.nil_append] at inserted

/-- What is read of the file of a template, given what the lines of the entries are read into. -/
theorem read_render_of_entries {t found : Template}
    (entries : (t.entries.map fun entry => lineChars entry.1 entry.2).foldl readLine
      (false, {}) = (false, found))
    (none : found.retained = []) (rising : Rising t.retained)
    (legible : ∀ entry ∈ t.retained, Legible entry.1) :
    read (render t) = { found with retained := readBack t.retained } := by
  rw [read, lines_render, renderedLines, List.foldl_append, List.foldl_append,
    foldl_readLine_header, entries]
  split
  · rename_i empty
    rw [List.isEmpty_iff.mp empty]
    exact congrArg (Template.mk found.entries) none
  · have passed : ∀ state, readLine state [] = state := readLine_passed (by decide) (.inl rfl)
    have marked : ∀ t, readLine (false, t) retainedMarker.toList = (true, t) := by
      intro t
      rw [readLine, if_pos (by decide)]
    rw [List.foldl_cons, List.foldl_cons, passed, marked,
      foldl_readLine_table legible, if_pos rfl, none, readInto_nil rising]

/-- The file of a template is read back as the template, but for blanks around the translations. -/
theorem read_render {t : Template} (entries_rising : Rising t.entries)
    (retained_rising : Rising t.retained) (entries_legible : ∀ entry ∈ t.entries, Legible entry.1)
    (retained_legible : ∀ entry ∈ t.retained, Legible entry.1) :
    read (render t) = ⟨readBack t.entries, readBack t.retained⟩ := by
  have entries := foldl_readLine_table entries_legible false {}
  rw [if_neg Bool.false_ne_true, readInto_nil entries_rising] at entries
  exact read_render_of_entries entries rfl retained_rising retained_legible

/-- A table that is read back as it was written. -/
structure Lasting (table : List (String × String)) : Prop where
  rising : Rising table
  legible : ∀ entry ∈ table, Legible entry.1
  writable : ∀ entry ∈ table, Writable entry.2.toList

namespace Lasting

theorem nil : Lasting [] := ⟨.nil, by simp, by simp⟩

theorem insert {table : List (String × String)} (lasting : Lasting table)
    {phrase translation : String} (legible : Legible phrase)
    (writable : Writable translation.toList) : Lasting (insertSorted phrase translation table) := by
  refine ⟨lasting.rising.insertSorted _ _, fun entry member => ?_, fun entry member => ?_⟩
  · rcases mem_insertSorted member with rfl | earlier
    · exact legible
    · exact lasting.legible entry earlier
  · rcases mem_insertSorted member with rfl | earlier
    · exact writable
    · exact lasting.writable entry earlier

theorem readBack {table : List (String × String)} (lasting : Lasting table) :
    Template.readBack table = table := by
  refine (List.map_congr_left fun entry member => ?_).trans (List.map_id table)
  rw [held_of_writable (lasting.writable entry member)]
  rfl

end Lasting

/-- Both tables of a template last. -/
def BothLast (t : Template) : Prop := Lasting t.entries ∧ Lasting t.retained

theorem bothLast_readLine {state : Bool × Template} (lasting : BothLast state.2)
    (line : List Char) : BothLast (readLine state line).2 := by
  obtain ⟨retaining, t⟩ := state
  unfold readLine
  simp only
  split
  · exact lasting
  · split
    · exact lasting
    · split
      · exact lasting
      · rename_i phrase translation split
        obtain ⟨phrase_tight, translation_tight⟩ := tight_splitLine? split
        split
        · exact lasting
        · rename_i filled
          have legible : Legible (String.ofList (unescape phrase)) := by
            refine ⟨fun empty => filled ?_, ?_⟩
            · rw [List.isEmpty_iff, ← unescape_eq_nil_iff]
              exact (@String.ofList_inj _ []).mp empty
            · rw [String.toList_ofList]
              exact writable_unescape phrase_tight
          have writable : Writable (String.ofList (unescape translation)).toList := by
            rw [String.toList_ofList]
            exact writable_unescape translation_tight
          split
          · exact ⟨lasting.1, lasting.2.insert legible writable⟩
          · exact ⟨lasting.1.insert legible writable, lasting.2⟩

/-- Whatever a file holds, what is read from it lasts. -/
theorem bothLast_read (content : String) : BothLast (read content) := by
  have scan : ∀ ls state, BothLast state.2 → BothLast (List.foldl readLine state ls).2 := by
    intro ls
    induction ls with
    | nil => exact fun _ lasting => lasting
    | cons line ls ih => exact fun state lasting => ih _ (bothLast_readLine lasting line)
  exact scan _ (false, {}) ⟨.nil, .nil⟩

/-- Writing what was read from any file and reading it again changes no phrase, no translation and
no section. -/
theorem read_render_read (content : String) : read (render (read content)) = read content := by
  obtain ⟨entries, retained⟩ := bothLast_read content
  rw [read_render entries.rising retained.rising entries.legible retained.legible, entries.readBack,
    retained.readBack]

end Phrasebook.Template
