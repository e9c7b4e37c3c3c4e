import Phrasebook.Proofs.Locale.Blank
import Phrasebook.Proofs.Locale.Merge
import Phrasebook.Proofs.Locale.TemplateText

/-!
Regeneration of the file of a template. A phrase of the tree that has blanks without an escape at
an end shares the line of another phrase, and a phrase may have been given a second translation
among the retained ones. These are the only ways in which a translation that was in effect can get
lost.
-/

namespace Phrasebook.Template

open Text

theorem readAs?_of_legible {phrase : String} (legible : Legible phrase) :
    readAs? phrase = some phrase := by
  have kept : stripBare phrase.toList = phrase.toList := by
    simpa using @stripBare_eq [] phrase.toList [] (by simp) (by simp) legible.2
  have filled : phrase.toList ≠ [] := fun empty => legible.1 (String.toList_eq_nil_iff.mp empty)
  unfold readAs?
  simp only
  rw [kept, if_neg fun lost => lost.elim filled fun comment =>
    comment.2 comment.1, String.ofList_toList]

/-- Bare blanks between a phrase and the equals sign are trimmed as well. -/
theorem splitLine?_bare {form text back : List Char} (written : Written form text)
    (tight : Tight form) (behind : ∀ c ∈ back, isBare c = true) :
    splitLine? (form ++ back ++ [' ', '=']) = some (form, []) := by
  have bare : Written back back := by
    have spelled := Written.flatMap written_escapeEdge back
    rwa [flatMap_escapeEdge_bare behind] at spelled
  have unsplit : splitUnescaped? [' ', '=', ' '] (form ++ back ++ [' ', '=']) = none :=
    splitUnescaped?_written (written.append bare) ['=']
  have phrase : blankPhrase? (form ++ back ++ [' ', '=']) = some (form ++ (back ++ [' '])) := by
    simp [blankPhrase?, endsInEscape]
  have blank : ∀ c ∈ back ++ [' '], isSpace c = true := by
    intro c member
    rcases List.mem_append.mp member with member | member
    · exact (isBare_iff.mp (behind c member)).1
    · rw [List.mem_singleton.mp member]
      decide
  simp only [splitLine?, unsplit, phrase, tight.trim_append blank]

/-- Nothing but bare blanks in front of the equals sign. -/
theorem readLine_bare_sign {blanks : List Char}
    (bare : ∀ c ∈ blanks, isBare c = true) (t : Template) :
    readLine (false, t) (blanks ++ [' ', '=']) = (false, t) := by
  have blank : ∀ c ∈ blanks ++ [' '], isSpace c = true := by
    intro c member
    rcases List.mem_append.mp member with member | member
    · exact (isBare_iff.mp (bare c member)).1
    · rw [List.mem_singleton.mp member]
      decide
  have body : trim (blanks ++ [' ', '=']) = ['='] := by
    have sign := @trim_eq _ ['='] [] blank (by simp) (.singleton (by decide))
    simpa using sign
  simp only [readLine, body]
  rfl

/-- A phrase between bare blanks in front of the equals sign: it is added as it is spelled, unless
the line is a comment. -/
theorem readLine_bare {front form back text : List Char} (before : ∀ c ∈ front, isBare c = true)
    (behind : ∀ c ∈ back, isBare c = true) (tight : Tight form) (written : Written form text)
    (filled : form ≠ []) (t : Template) :
    readLine (false, t) (front ++ (form ++ back ++ [' ', '='])) =
      (false, if form.head? = some '#' then t else t.fill (String.ofList text) "") := by
  have blank : ∀ c ∈ front, isSpace c = true := fun c member => (isBare_iff.mp (before c member)).1
  have body : trim (front ++ (form ++ back ++ [' ', '='])) = form ++ back ++ [' ', '='] := by
    have ends : Tight (form ++ (back ++ [' ']) ++ ['=']) :=
      tight.append (.singleton (by decide)) filled (by simp) (back ++ [' '])
    have trimmed := @trim_eq _ _ [] blank (by simp) ends
    simpa using trimmed
  have notMarker : form ++ back ++ [' ', '='] ≠ retainedMarker.toList := by
    intro same
    have last := congrArg List.getLast? same
    rw [List.getLast?_append_of_ne_nil _ (by simp)] at last
    revert last
    decide
  have head : (form ++ back ++ [' ', '=']).head? = form.head? := by
    rw [List.append_assoc, List.head?_append_of_ne_nil _ filled]
  have some : (form ++ back ++ [' ', '=']).isEmpty = false := by simp [filled]
  simp only [readLine, body, if_neg notMarker, some, head, splitLine?_bare written tight behind]
  by_cases hash : form.head? = Option.some '#'
  · simp [hash]
  · simp [hash, filled, unescape, written.unescape]

/-- The line of a phrase without a translation adds the phrase that it shows, if it shows one. -/
theorem readLine_blankLine (phrase : String) (t : Template) :
    readLine (false, t) (lineChars phrase "") = (false, match readAs? phrase with
      | some kept => t.fill kept ""
      | none => t) := by
  obtain ⟨front, form, back, whole, parts, before, behind, tight, written⟩ :=
    escape_stripped phrase.toList
  have comment := hash_iff whole parts before written
  have kept := written.unescape
  rw [lineChars, if_pos (String.isEmpty_iff.mpr rfl), whole, List.append_assoc, List.append_assoc]
  by_cases empty : form = []
  · subst empty
    have unread : readAs? phrase = none := by
      rw [readAs?, ← kept]
      exact if_pos (.inl rfl)
    have bare : ∀ c ∈ front ++ back, isBare c = true := fun c member =>
      (List.mem_append.mp member).elim (before c) (behind c)
    rw [unread, List.nil_append, ← List.append_assoc]
    exact readLine_bare_sign bare t
  · have filled : stripBare phrase.toList ≠ [] := by
      rw [← kept]
      exact mt (unescape_eq_nil_iff form).mp empty
    rw [← List.append_assoc form, readLine_bare before behind tight written empty]
    by_cases hash : form.head? = some '#'
    · have unread : readAs? phrase = none := if_pos (.inr (comment.mp hash))
      rw [unread, if_pos hash]
    · have shown : readAs? phrase = some (String.ofList (stripBare phrase.toList)) :=
        if_neg fun lost => lost.elim filled fun hidden => hash (comment.mpr hidden)
      rw [shown, if_neg hash]

/-- Reads one line: the entry that it shows gets what can be read back of the translation. -/
def readEntry (t : Template) (entry : String × String) : Template :=
  match readAs? entry.1 with
  | some kept => t.fill kept (held entry.2)
  | none => t

/-- A phrase that is read back, or one without a translation. -/
def Readable (entry : String × String) : Prop := Legible entry.1 ∨ entry.2 = ""

theorem readLine_entry {entry : String × String} (readable : Readable entry) (t : Template) :
    readLine (false, t) (lineChars entry.1 entry.2) = (false, t.readEntry entry) := by
  rcases readable with legible | blank
  · rw [readLine_lineChars legible, if_neg Bool.false_ne_true, readEntry,
      readAs?_of_legible legible]
  · rw [blank, readLine_blankLine, readEntry, blank]
    rfl

theorem foldl_readLine_entries {table : List (String × String)}
    (readable : ∀ entry ∈ table, Readable entry) (t : Template) :
    (table.map fun entry => lineChars entry.1 entry.2).foldl readLine (false, t) =
      (false, table.foldl readEntry t) := by
  induction table generalizing t with
  | nil => rfl
  | cons entry table ih =>
    rw [List.map_cons, List.foldl_cons, readLine_entry (readable entry List.mem_cons_self),
      ih fun other member => readable other (List.mem_cons_of_mem _ member)]
    rfl

/-- What the last line that shows a phrase says of it. -/
def lastShown (phrase : String) : List (String × String) → Option String
  | [] => none
  | entry :: rest =>
    (lastShown phrase rest).or (if readAs? entry.1 = some phrase then some (held entry.2) else none)

theorem lastShown_append (phrase : String) (front back : List (String × String)) :
    lastShown phrase (front ++ back) = (lastShown phrase back).or (lastShown phrase front) := by
  induction front with
  | nil => simp [lastShown]
  | cons entry front ih => rw [List.cons_append, lastShown, lastShown, ih, Option.or_assoc]

theorem lastShown_eq_none_iff {phrase : String} {table : List (String × String)} :
    lastShown phrase table = none ↔ ∀ entry ∈ table, readAs? entry.1 ≠ some phrase := by
  induction table with
  | nil => simp [lastShown]
  | cons entry table ih => simp [lastShown, ih, and_comm]

theorem exists_of_lastShown {phrase value : String} {table : List (String × String)}
    (shown : lastShown phrase table = some value) :
    ∃ entry ∈ table, readAs? entry.1 = some phrase ∧ held entry.2 = value := by
  induction table with
  | nil => cases shown
  | cons entry table ih =>
    rcases Option.or_eq_some_iff.mp shown with later | ⟨-, own⟩
    · obtain ⟨other, member, found⟩ := ih later
      exact ⟨other, List.mem_cons_of_mem _ member, found⟩
    · split at own
      · rename_i here
        exact ⟨entry, List.mem_cons_self, here, Option.some.inj own⟩
      · cases own

theorem lookup_foldl_readEntry (phrase : String) (table : List (String × String)) (t : Template) :
    (table.foldl readEntry t).entries.lookup phrase =
      (lastShown phrase table).or (t.entries.lookup phrase) ∧
      (table.foldl readEntry t).retained = t.retained := by
  induction table generalizing t with
  | nil => exact ⟨rfl, rfl⟩
  | cons entry table ih =>
    obtain ⟨entries, retained⟩ := ih (t.readEntry entry)
    rw [List.foldl_cons, entries, retained, lastShown, Option.or_assoc]
    unfold readEntry
    split
    · rename_i kept shown
      rw [fill, lookup_insertSorted, shown]
      by_cases same : phrase = kept
      · subst same
        simp
      · simp [same, Ne.symm same]
    · rename_i unread
      simp [unread]

/-- What is read back of a template whose entries may have phrases that cannot be read back, as long
as these have no translation. -/
theorem read_render_readable {t : Template} (readable : ∀ entry ∈ t.entries, Readable entry)
    (retained : Lasting t.retained) (phrase : String) :
    (read (render t)).entries.lookup phrase = lastShown phrase t.entries ∧
      (read (render t)).retained = t.retained := by
  obtain ⟨entries, empty⟩ := lookup_foldl_readEntry phrase t.entries {}
  rw [read_render_of_entries (foldl_readLine_entries readable {}) empty
    retained.rising retained.legible, retained.readBack]
  exact ⟨entries.trans (Option.or_none ..), rfl⟩

variable {tree : ResourceTree} {previous : Template} {phrase : String}

theorem held_blank : held "" = "" := held_of_writable ⟨by simp, by simp⟩

theorem lasting_of_carried (lasting : BothLast previous) {translation : String}
    (taken : carried phrase (previous.entries ++ previous.retained) = some translation) :
    Legible phrase ∧ Writable translation.toList := by
  rcases List.mem_append.mp (mem_of_carried taken) with member | member
  · exact ⟨lasting.1.legible _ member, lasting.1.writable _ member⟩
  · exact ⟨lasting.2.legible _ member, lasting.2.writable _ member⟩

/-- A phrase of the tree that cannot be read back has no translation to take over. -/
theorem readable_regenerated (lasting : BothLast previous) :
    ∀ entry ∈ (regenerated tree previous).entries, Readable entry := by
  intro entry member
  have found := value_of_rising rising_regenerated.1 member
  rw [lookup_entries_regenerated] at found
  split at found
  · cases taken : carried entry.1 (previous.entries ++ previous.retained) with
    | some translation => exact .inl (lasting_of_carried lasting taken).1
    | none =>
      rw [taken] at found
      exact .inr (Option.some.inj found).symm
  · cases found

theorem lasting_regenerated (lasting : BothLast previous) :
    Lasting (regenerated tree previous).retained := by
  have taken : ∀ entry ∈ (regenerated tree previous).retained,
      carried entry.1 (previous.entries ++ previous.retained) = some entry.2 := by
    intro entry member
    have found := value_of_rising rising_regenerated.2 member
    rw [lookup_retained_regenerated] at found
    split at found
    · cases found
    · exact found
  exact ⟨rising_regenerated.2, fun entry member =>
    (lasting_of_carried lasting (taken entry member)).1,
    fun entry member => (lasting_of_carried lasting (taken entry member)).2⟩

theorem blank_of_shown {entry : String × String} (readable : Readable entry)
    (other : entry.1 ≠ phrase) (shown : readAs? entry.1 = some phrase) : entry.2 = "" := by
  refine readable.resolve_left fun legible => other ?_
  rw [readAs?_of_legible legible] at shown
  exact Option.some.inj shown

/-- Another phrase of the tree is read as this one, from a line that comes behind that of this one.
-/
def Shadowed (tree : ResourceTree) (phrase : String) : Prop :=
  ∃ other ∈ phrases tree, other ≠ phrase ∧ readAs? other = some phrase ∧
    (phrase ∈ phrases tree → phrase < other)

/-- A line of another phrase that is read as this one takes its translation away. -/
theorem lastShown_of_shown {table : List (String × String)}
    (readable : ∀ entry ∈ table, Readable entry)
    (others : ∀ entry ∈ table, readAs? entry.1 = some phrase → entry.1 ≠ phrase) {other : String}
    (listed : Listed other table) (shown : readAs? other = some phrase) :
    lastShown phrase table = some "" := by
  obtain ⟨entry, member, rfl⟩ := List.mem_map.mp listed
  cases last : lastShown phrase table with
  | none => exact absurd shown (lastShown_eq_none_iff.mp last entry member)
  | some value =>
    obtain ⟨entry, member, shown, rfl⟩ := exists_of_lastShown last
    rw [blank_of_shown (readable entry member) (others entry member shown) shown, held_blank]

/-- What the lines of a table say of the phrase of one of them. -/
theorem lastShown_of_mem {translation : String} {table : List (String × String)}
    (rising : Rising table) (readable : ∀ entry ∈ table, Readable entry) (legible : Legible phrase)
    (member : (phrase, translation) ∈ table) :
    (∀ other, Listed other table → readAs? other = some phrase → phrase < other →
        lastShown phrase table = some "") ∧
      ((∀ entry ∈ table, readAs? entry.1 = some phrase → ¬phrase < entry.1) →
        lastShown phrase table = some (held translation)) := by
  obtain ⟨front, back, rfl⟩ := List.append_of_mem member
  have behind : ∀ entry ∈ back, phrase < entry.1 :=
    (List.pairwise_cons.mp (List.pairwise_append.mp rising).2.1).1
  have before : ∀ entry ∈ front, entry.1 < phrase := fun entry member =>
    (List.pairwise_append.mp rising).2.2 entry member _ List.mem_cons_self
  rw [lastShown_append, lastShown, if_pos (readAs?_of_legible legible)]
  constructor
  · rintro other listed shown later
    have inBack : Listed other back := by
      obtain ⟨entry, found, rfl⟩ := List.mem_map.mp listed
      rcases List.mem_append.mp found with earlier | found
      · exact absurd (before entry earlier) (lt_asymm later)
      · rcases List.mem_cons.mp found with rfl | found
        · exact absurd later (lt_irrefl _)
        · exact List.mem_map.mpr ⟨entry, found, rfl⟩
    rw [lastShown_of_shown
      (fun entry member => readable entry (List.mem_append_right _ (List.mem_cons_of_mem _ member)))
      (fun entry member _ => ne_of_gt (behind entry member)) inBack shown]
    rfl
  · intro clear
    have unread : lastShown phrase back = none := lastShown_eq_none_iff.mpr
        fun entry member shown =>
      clear entry (List.mem_append_right _ (List.mem_cons_of_mem _ member)) shown
        (behind entry member)
    rw [unread]
    rfl

/-- The lines of the entries show what a phrase in use takes over, unless the phrase is shadowed. -/
theorem lastShown_regenerated (lasting : BothLast previous) {translation : String}
    (taken : carried phrase (previous.entries ++ previous.retained) = some translation) :
    (Shadowed tree phrase → lastShown phrase (regenerated tree previous).entries = some "") ∧
      (¬Shadowed tree phrase → lastShown phrase (regenerated tree previous).entries =
        if phrase ∈ phrases tree then some translation else none) := by
  obtain ⟨legible, writable⟩ := lasting_of_carried lasting taken
  have readable := @readable_regenerated tree previous lasting
  have rising := (@rising_regenerated tree previous).1
  have entries := @lookup_entries_regenerated phrase tree previous
  have inUse (other : String) := @listed_entries_regenerated_iff other tree previous
  rw [taken] at entries
  generalize (regenerated tree previous).entries = table at readable rising entries inUse
  have used : ∀ entry ∈ table, entry.1 ∈ phrases tree := fun entry member =>
    (inUse _).mp (List.mem_map.mpr ⟨entry, member, rfl⟩)
  by_cases own : phrase ∈ phrases tree
  · rw [if_pos own] at entries ⊢
    obtain ⟨hidden, visible⟩ := lastShown_of_mem rising readable legible (mem_of_lookup entries)
    constructor
    · rintro ⟨other, member, -, shown, later⟩
      exact hidden other ((inUse other).mpr member) shown (later own)
    · intro clear
      rw [visible fun entry member shown later =>
        clear ⟨entry.1, used entry member, ne_of_gt later, shown, fun _ => later⟩]
      exact congrArg some (held_of_writable writable)
  · have others : ∀ entry ∈ table, entry.1 ≠ phrase := fun entry member same =>
      own (same ▸ used entry member)
    rw [if_neg own]
    constructor
    · rintro ⟨other, member, -, shown, -⟩
      exact lastShown_of_shown readable (fun entry member _ => others entry member)
        ((inUse other).mpr member) shown
    · intro clear
      refine lastShown_eq_none_iff.mpr fun entry member shown => clear ?_
      exact ⟨entry.1, used entry member, others entry member, shown, fun listed =>
        absurd listed own⟩

/-- The template that is read from the file that is written for a tree, given the content of the
file before. -/
def renewed (tree : ResourceTree) (content : String) : Template :=
  read (render (regenerated tree (read content)))

theorem lookup_renewed {content translation : String}
    (taken : carried phrase ((read content).entries ++ (read content).retained) =
      some translation) :
    (Shadowed tree phrase → (renewed tree content).lookup phrase = .empty) ∧
      (¬Shadowed tree phrase → (renewed tree content).lookup phrase = .translated translation) := by
  have lasting := bothLast_read content
  obtain ⟨shadowed, clear⟩ := @lastShown_regenerated tree _ _ lasting _ taken
  obtain ⟨entries, retained⟩ := read_render_readable (@readable_regenerated tree _ lasting)
    (lasting_regenerated lasting) phrase
  have filled : translation.isEmpty = false := by simpa using carried_ne_blank taken
  constructor
  · intro hidden
    rw [lookup, renewed, entries, shadowed hidden]
    rfl
  · intro visible
    rw [lookup, renewed, entries, clear visible, retained, lookup_retained_regenerated, taken]
    by_cases own : phrase ∈ phrases tree <;> simp [own, filled]

/-- Of a phrase that is translated in the entries, a retained translation is taken over
nevertheless. -/
theorem carried_of_effect {translation : String} (lasting : BothLast previous)
    (inEffect : previous.lookup phrase = .translated translation) :
    ∃ taken, carried phrase (previous.entries ++ previous.retained) = some taken ∧
      (taken = translation ↔
        ∀ other, previous.retained.lookup phrase = some other → other = "" ∨ other = translation) :=
    by
  obtain ⟨filled, found⟩ := lookup_eq_translated_iff.mp inEffect
  rw [carried_sections lasting.1.rising lasting.2.rising]
  rcases found with inUse | ⟨unused, kept⟩
  · rw [inUse]
    cases previous.retained.lookup phrase with
    | none => exact ⟨translation, by simp [Option.filter, filled], by simp⟩
    | some other =>
      by_cases blank : other = ""
      · exact ⟨translation, by simp [Option.filter, filled, blank], by simp [blank]⟩
      · exact ⟨other, by simp [Option.filter, blank], by simp [blank]⟩
  · rw [unused, kept]
    exact ⟨translation, by simp [Option.filter, filled], by simp⟩

/-- A translation that is in effect is in effect again when the file has been written anew, if and
only if no other one is retained for its phrase and no other phrase of the tree shadows it. -/
theorem translation_kept_iff {content translation : String}
    (inEffect : (read content).lookup phrase = .translated translation) :
    (renewed tree content).lookup phrase = .translated translation ↔
      (∀ other, (read content).retained.lookup phrase = some other → other = "" ∨
        other = translation) ∧ ¬Shadowed tree phrase := by
  obtain ⟨taken, carries, same⟩ := carried_of_effect (bothLast_read content) inEffect
  obtain ⟨hidden, clear⟩ := @lookup_renewed tree _ _ _ carries
  rw [← same]
  by_cases shadowed : Shadowed tree phrase
  · simp [hidden shadowed, shadowed]
  · simp [clear shadowed, shadowed]

private def greeting : ResourceTree :=
  ⟨[("Common", .group [("greeting", .text "你好"), ("wide", .text "　你好")])]⟩

/-- A wide blank in front of a phrase puts its line before that of the phrase without it. -/
theorem translation_kept_beside_wide :
    (read "你好 = Hello\n").lookup "你好" = .translated "Hello" ∧
      (renewed greeting "你好 = Hello\n").lookup "你好" = .translated "Hello" := by
  have inEffect : (read "你好 = Hello\n").lookup "你好" = .translated "Hello" := by decide +kernel
  refine ⟨inEffect, (translation_kept_iff inEffect).mpr ⟨?_, ?_⟩⟩
  · decide +kernel
  · unfold Shadowed
    decide +kernel

/-- A phrase that is translated in both sections: the retained translation takes the place of the
one in effect. -/
theorem retained_overrides :
    let content := "你好 = Hello\n# Retained: translations of phrases no longer extracted\n你好 = Hi\n"
    (read content).lookup "你好" = .translated "Hello" ∧
      (renewed greeting content).lookup "你好" = .translated "Hi" := by
  intro content
  refine ⟨by decide +kernel, ?_⟩
  rw [renewed, read, lines_render, renderedLines, List.foldl_append, List.foldl_append,
    foldl_readLine_header]
  decide +kernel

end Phrasebook.Template
