import Phrasebook.Locale.TemplateText
import Phrasebook.Proofs.Text.Line
import Mathlib.Data.List.Basic

/-!
The written form of a text in a line of a template. It is read back as the text, whatever that is,
and holds nothing that would end the line or part it. At its ends, though, only some blanks are
escaped.
-/

namespace Phrasebook.Template

open Text

/-- What a character behind a backslash stands for. -/
def escapes : List (Char × Char) := [
  ('n', '\n'), ('r', '\r'), ('t', '\t'), ('s', ' '), ('\\', '\\'), ('=', '='), ('#', '#')]

/-- Blanks that have an escape. -/
def escapedBlanks : List Char := [' ', '\n', '\r', '\t']

/-- A form of a text without anything that would end a line or part it. -/
inductive Written : List Char → List Char → Prop
  | nil : Written [] []
  | plain {c : Char} {form text : List Char} (free : c ∉ ['\\', '=', '\n', '\r'])
      (rest : Written form text) : Written (c :: form) (c :: text)
  | escaped {e c : Char} {form text : List Char} (known : (e, c) ∈ escapes)
      (rest : Written form text) : Written ('\\' :: e :: form) (c :: text)

namespace Written

theorem append {form text form' text' : List Char} (first : Written form text)
    (second : Written form' text') : Written (form ++ form') (text ++ text') := by
  induction first with
  | nil => exact second
  | plain free _ ih => exact .plain free ih
  | escaped known _ ih => exact .escaped known ih

theorem flatMap {encode : Char → List Char} (each : ∀ c, Written (encode c) [c])
    (text : List Char) : Written (text.flatMap encode) text := by
  induction text with
  | nil => exact .nil
  | cons c text ih => exact (each c).append ih

theorem head {form text : List Char} (written : Written form text) : form.head? ≠ some '=' := by
  cases written with
  | nil => simp
  | plain free _ => intro same; simp [Option.some.inj same] at free
  | escaped => simp

theorem unbroken {form text : List Char} (written : Written form text) :
    '\n' ∉ form ∧ '\r' ∉ form := by
  induction written with
  | nil => simp
  | plain free _ ih =>
    simp only [List.mem_cons, not_or] at free ⊢
    exact ⟨⟨Ne.symm free.2.2.1, ih.1⟩, Ne.symm free.2.2.2.1, ih.2⟩
  | @escaped e c form text known _ ih =>
    have apart : '\n' ≠ e ∧ '\r' ≠ e :=
      (by decide : ∀ entry ∈ escapes, '\n' ≠ entry.1 ∧ '\r' ≠ entry.1) (e, c) known
    simp only [List.mem_cons, not_or]
    exact ⟨⟨by decide, apart.1, ih.1⟩, by decide, apart.2, ih.2⟩

end Written

theorem unescape_plain {c : Char} (plain : c ≠ '\\') (cs : List Char) :
    unescape (c :: cs) = c :: unescape cs := by
  apply unescape.eq_10 <;> exact fun _ => by simp [plain]

/-- What a backslash and the character behind it stand for. -/
def meaning (e : Char) : List Char :=
  match escapes.lookup e with
  | some c => [c]
  | none => ['\\', e]

theorem unescape_pair (e : Char) (cs : List Char) :
    unescape ('\\' :: e :: cs) = meaning e ++ unescape cs := by
  by_cases known : e ∈ escapes.map Prod.fst
  · simp only [escapes, List.map_cons, List.map_nil, List.mem_cons, List.not_mem_nil,
      or_false] at known
    rcases known with rfl | rfl | rfl | rfl | rfl | rfl | rfl <;> rfl
  · have unknown : escapes.lookup e = none := List.lookup_eq_none_iff.mpr fun entry member => by
      simpa using fun same => known (List.mem_map.mpr ⟨entry, member, same.symm⟩)
    simp only [escapes, List.map_cons, List.map_nil, List.mem_cons,
      List.not_mem_nil, not_or] at known
    obtain ⟨n, r, t, s, backslash, equals, hash, -⟩ := known
    rw [unescape.eq_9 e cs n r t s backslash equals hash, meaning, unknown]
    rfl

/-- Induction over a text with escapes, a backslash and what follows it at a time. -/
@[elab_as_elim]
theorem escape_induction {motive : List Char → Prop} (nil : motive []) (stray : motive ['\\'])
    (pair : ∀ e cs, motive cs → motive ('\\' :: e :: cs))
    (plain : ∀ c cs, c ≠ '\\' → motive cs → motive (c :: cs)) : ∀ cs, motive cs
  | [] => nil
  | [c] => if same : c = '\\' then same ▸ stray else plain c [] same nil
  | c :: e :: cs =>
    if same : c = '\\' then same ▸ pair e cs (escape_induction nil stray pair plain cs)
    else plain c (e :: cs) same (escape_induction nil stray pair plain (e :: cs))

theorem Written.unescape {form text : List Char} (written : Written form text) :
    Template.unescape form = text := by
  induction written with
  | nil => rfl
  | plain free _ ih => rw [unescape_plain fun same => free (by simp [same]), ih]
  | @escaped e c form text known _ ih =>
    have stands : meaning e = [c] :=
      (by decide : ∀ entry ∈ escapes, meaning entry.1 = [entry.2]) (e, c) known
    rw [unescape_pair, stands, ih]
    rfl

theorem written_escapeChar (c : Char) : Written (escapeChar c) [c] := by
  unfold escapeChar
  split
  · exact .escaped (by decide) .nil
  · exact .escaped (by decide) .nil
  · exact .escaped (by decide) .nil
  · exact .escaped (by decide) .nil
  · exact .escaped (by decide) .nil
  · rename_i backslash feed ret tab equals
    refine .plain ?_ .nil
    simp only [List.mem_cons, List.not_mem_nil, not_or]
    exact ⟨backslash, equals, feed, ret, id⟩

theorem written_escapeEdge (c : Char) : Written (escapeEdge c) [c] := by
  unfold escapeEdge
  split
  · rename_i same
    subst same
    exact .escaped (by decide) .nil
  · exact written_escapeChar c

theorem written_escapeCore (cs : List Char) : Written (escapeCore cs) cs := by
  unfold escapeCore
  split
  · exact .escaped (by decide) (.flatMap written_escapeChar _)
  · exact .flatMap written_escapeChar _

/-- The parts that a text is written in: blanks in front, the blanks behind, and what is between. -/
theorem escape_parts (cs : List Char) : ∃ front core back, cs = front ++ core ++ back ∧
    (∀ c ∈ front, isSpace c = true) ∧ (∀ c ∈ back, isSpace c = true) ∧ Tight core ∧
    (core = [] → back = []) ∧
    escape cs = front.flatMap escapeEdge
      ++ (if front.isEmpty then escapeCore core else core.flatMap escapeChar)
      ++ back.flatMap escapeEdge := by
  obtain ⟨back, kept, blank, hollow⟩ := dropWhile_parts cs
  have trailing : (cs.dropWhile isSpace).drop (trim cs).length = back := by
    rw [kept]
    exact List.drop_left
  refine ⟨cs.takeWhile isSpace, trim cs, back, ?_, fun c member =>
    List.mem_takeWhile_imp member, blank, tight_trim cs, hollow, ?_⟩
  · rw [List.append_assoc, ← kept, List.takeWhile_append_dropWhile]
  · rw [← trailing]
    rfl

theorem written_escape (cs : List Char) : Written (escape cs) cs := by
  obtain ⟨front, core, back, whole, -, -, -, -, form⟩ := escape_parts cs
  have middle :
      Written (if front.isEmpty then escapeCore core else core.flatMap escapeChar) core := by
    split
    · exact written_escapeCore core
    · exact .flatMap written_escapeChar core
  rw [form, whole]
  exact ((Written.flatMap written_escapeEdge front).append middle).append
    (.flatMap written_escapeEdge back)

/-- A text is read back as what it was, whatever stands in it. -/
theorem unescape_escape (cs : List Char) : unescape (escape cs) = cs := (written_escape cs).unescape

/-- A text whose blanks at either end can be escaped. -/
structure Writable (cs : List Char) : Prop where
  head : ∀ c, cs.head? = some c → isSpace c = true → c ∈ escapedBlanks
  last : ∀ c, cs.getLast? = some c → isSpace c = true → c ∈ escapedBlanks

theorem head?_flatMap_append {encode : Char → List Char} {c d : Char} {cs rest : List Char}
    (filled : encode c ≠ []) (head : ((c :: cs).flatMap encode ++ rest).head? = some d) :
    (encode c).head? = some d := by
  cases form : encode c with
  | nil => exact absurd form filled
  | cons e others =>
    rw [List.flatMap_cons, form] at head
    exact head

theorem getLast?_append_flatMap {encode : Char → List Char} {c d : Char} {cs : List Char}
    (first : List Char) (filled : encode c ≠ [])
    (last : (first ++ (cs ++ [c]).flatMap encode).getLast? = some d) :
    (encode c).getLast? = some d := by
  rw [List.flatMap_append, List.flatMap_singleton, ← List.append_assoc,
    List.getLast?_append_of_ne_nil _ filled] at last
  exact last

theorem escapeChar_ne_nil (c : Char) : escapeChar c ≠ [] := by
  unfold escapeChar
  split <;> simp

theorem escapeEdge_ne_nil (c : Char) : escapeEdge c ≠ [] := by
  unfold escapeEdge
  split
  · simp
  · exact escapeChar_ne_nil c

theorem head?_escapeChar {c d : Char} (head : (escapeChar c).head? = some d) :
    d = '\\' ∨ d = c ∧ c ∉ ['\n', '\r', '\t'] := by
  unfold escapeChar at head
  split at head
  iterate 5 exact .inl (Option.some.inj head).symm
  simp_all

theorem getLast?_escapeChar {c d : Char} (last : (escapeChar c).getLast? = some d) :
    isSpace d = false ∨ d = c ∧ c ∉ ['\n', '\r', '\t'] := by
  unfold escapeChar at last
  split at last
  iterate 5
    obtain rfl : _ = d := Option.some.inj last
    exact .inl (by decide)
  simp_all

theorem head?_escapeEdge {c d : Char} (head : (escapeEdge c).head? = some d) :
    d = '\\' ∨ d = c ∧ c ∉ escapedBlanks := by
  unfold escapeEdge at head
  split at head
  · exact .inl (Option.some.inj head).symm
  · rename_i notSpace
    exact (head?_escapeChar head).imp_right fun same =>
      ⟨same.1, List.not_mem_cons_of_ne_of_not_mem notSpace same.2⟩

theorem getLast?_escapeEdge {c d : Char} (last : (escapeEdge c).getLast? = some d) :
    isSpace d = false ∨ d = c ∧ c ∉ escapedBlanks := by
  unfold escapeEdge at last
  split at last
  · obtain rfl : _ = d := Option.some.inj last
    exact .inl (by decide)
  · rename_i notSpace
    exact (getLast?_escapeChar last).imp_right fun same =>
      ⟨same.1, List.not_mem_cons_of_ne_of_not_mem notSpace same.2⟩

theorem not_mem_escapedBlanks {c : Char} (visible : isSpace c = false) : c ∉ escapedBlanks := by
  intro member
  have blank := List.all_eq_true.mp (by decide : escapedBlanks.all isSpace = true) c member
  rw [visible] at blank
  cases blank

theorem head?_escapeCore {c d : Char} {cs rest : List Char} (visible : isSpace c = false)
    (head : (escapeCore (c :: cs) ++ rest).head? = some d) :
    d = '\\' ∨ d = c ∧ d ≠ '#' ∧ c ∉ escapedBlanks := by
  by_cases hash : c = '#'
  · subst hash
    exact .inl (Option.some.inj head).symm
  · rw [escapeCore.eq_2 _ fun others same => hash (List.cons.inj same).1] at head
    rcases head?_escapeChar (head?_flatMap_append (escapeChar_ne_nil c) head)
      with backslash | ⟨rfl, -⟩
    · exact .inl backslash
    · exact .inr ⟨rfl, hash, not_mem_escapedBlanks visible⟩

theorem getLast?_escapeCore {c d : Char} {cs : List Char} (visible : isSpace c = false)
    (last : (escapeCore (cs ++ [c])).getLast? = some d) : isSpace d = false := by
  have plain : (escapeChar c).getLast? = some d → isSpace d = false := fun last =>
    (getLast?_escapeChar last).elim id fun same => same.1 ▸ visible
  unfold escapeCore at last
  split at last
  · rename_i others same
    cases cs with
    | nil =>
      obtain rfl : others = [] := (List.cons.inj same).2.symm
      obtain rfl : '#' = d := Option.some.inj last
      decide
    | cons e cs =>
      obtain rfl : cs ++ [c] = others := (List.cons.inj same).2
      exact plain (getLast?_append_flatMap ['\\', '#'] (escapeChar_ne_nil c) last)
  · exact plain (getLast?_append_flatMap [] (escapeChar_ne_nil c) last)

/-- The written form begins like the text, or with an escape. -/
theorem head?_escape {cs : List Char} {d : Char} (head : (escape cs).head? = some d) :
    d = '\\' ∨ cs.head? = some d ∧ d ≠ '#' ∧ d ∉ escapedBlanks := by
  obtain ⟨front, core, back, whole, blank, -, tight, hollow, form⟩ := escape_parts cs
  rw [form] at head
  rw [whole]
  cases front with
  | cons c front =>
    rw [List.append_assoc] at head
    rcases head?_escapeEdge (head?_flatMap_append (escapeEdge_ne_nil c) head)
      with backslash | ⟨rfl, free⟩
    · exact .inl backslash
    · refine .inr ⟨rfl, ?_, free⟩
      rintro rfl
      exact absurd (blank '#' List.mem_cons_self) (by decide)
  | nil =>
    cases core with
    | nil =>
      rw [hollow rfl] at head
      cases head
    | cons c core =>
      rcases head?_escapeCore (tight.head c rfl) head with backslash | ⟨rfl, free⟩
      · exact .inl backslash
      · exact .inr ⟨rfl, free⟩

/-- The written form ends like the text, or not with a blank. -/
theorem getLast?_escape {cs : List Char} {d : Char} (last : (escape cs).getLast? = some d) :
    isSpace d = false ∨ cs.getLast? = some d ∧ d ∉ escapedBlanks := by
  obtain ⟨front, core, back, whole, -, -, tight, hollow, form⟩ := escape_parts cs
  rw [form] at last
  rw [whole]
  rcases List.eq_nil_or_concat' back with rfl | ⟨back, c, rfl⟩
  · rw [List.flatMap_nil, List.append_nil] at last
    rw [List.append_nil]
    rcases List.eq_nil_or_concat' core with rfl | ⟨core, c, rfl⟩
    · rcases List.eq_nil_or_concat' front with rfl | ⟨front, c, rfl⟩
      · cases last
      · have edge : (escapeEdge c).getLast? = some d :=
          getLast?_append_flatMap [] (escapeEdge_ne_nil c)
            (show ([] ++ (front ++ [c]).flatMap escapeEdge).getLast? = some d by
              simpa [escapeCore] using last)
        refine (getLast?_escapeEdge edge).imp_right ?_
        rintro ⟨rfl, free⟩
        exact ⟨by simp, free⟩
    · have visible := tight.last c (by simp)
      left
      split at last
      · rename_i empty
        rw [List.isEmpty_iff.mp empty] at last
        exact getLast?_escapeCore visible last
      · have inner := getLast?_append_flatMap _ (escapeChar_ne_nil c) last
        exact (getLast?_escapeChar inner).elim id fun same => same.1 ▸ visible
  · have edge := getLast?_append_flatMap _ (escapeEdge_ne_nil c) last
    refine (getLast?_escapeEdge edge).imp_right ?_
    rintro ⟨rfl, free⟩
    exact ⟨by simp, free⟩

/-- Trimming leaves the written form as it is, if the blanks at the ends of the text have escapes.
-/
theorem tight_escape {cs : List Char} (writable : Writable cs) : Tight (escape cs) := by
  constructor
  · intro d head
    rcases head?_escape head with rfl | ⟨first, -, free⟩
    · decide
    · exact Bool.eq_false_iff.mpr fun blank => free (writable.head d first blank)
  · intro d last
    rcases getLast?_escape last with visible | ⟨final, free⟩
    · exact visible
    · exact Bool.eq_false_iff.mpr fun blank => free (writable.last d final blank)

theorem escape_eq_nil_iff (cs : List Char) : escape cs = [] ↔ cs = [] := by
  constructor
  · intro empty
    rw [← unescape_escape cs, empty]
    rfl
  · rintro rfl
    rfl

theorem unescape_eq_nil_iff (cs : List Char) : unescape cs = [] ↔ cs = [] := by
  induction cs using escape_induction with
  | nil => simp [unescape]
  | stray => simp [unescape]
  | pair e cs ih =>
    rw [unescape_pair, meaning]
    split <;> simp
  | plain c cs other ih => simp [unescape_plain other]

/-- What an escape stands for is one character, or the escape itself if it is unknown. -/
theorem meaning_cases (e : Char) :
    (∃ c, meaning e = [c] ∧ (isSpace c = true → c ∈ escapedBlanks)) ∨ meaning e = ['\\', e] := by
  unfold meaning
  split
  · rename_i c known
    obtain ⟨before, after, listed, -⟩ := List.lookup_eq_some_iff.mp known
    have member : (e, c) ∈ escapes := by rw [listed]; simp
    exact .inl ⟨c, rfl, (by decide : ∀ entry ∈ escapes,
      isSpace entry.2 = true → entry.2 ∈ escapedBlanks) (e, c) member⟩
  · exact .inr rfl

theorem head?_unescape {cs : List Char} {d : Char} (head : (unescape cs).head? = some d)
    (blank : isSpace d = true) : d ∈ escapedBlanks ∨ cs.head? = some d := by
  cases cs using escape_induction with
  | nil => cases head
  | stray => exact .inr head
  | pair e cs =>
    rw [unescape_pair] at head
    rcases meaning_cases e with ⟨c, single, known⟩ | unknown
    · rw [single] at head
      obtain rfl : c = d := Option.some.inj head
      exact .inl (known blank)
    · rw [unknown] at head
      exact .inr head
  | plain c cs other =>
    rw [unescape_plain other] at head
    exact .inr head

theorem getLast?_unescape {cs : List Char} {d : Char} (last : (unescape cs).getLast? = some d)
    (blank : isSpace d = true) : d ∈ escapedBlanks ∨ cs.getLast? = some d := by
  induction cs using escape_induction with
  | nil => cases last
  | stray => exact .inr last
  | pair e cs ih =>
    rw [unescape_pair] at last
    by_cases empty : cs = []
    · subst empty
      rcases meaning_cases e with ⟨c, single, known⟩ | unknown
      · rw [single] at last
        obtain rfl : c = d := Option.some.inj last
        exact .inl (known blank)
      · rw [unknown] at last
        exact .inr last
    · rw [List.getLast?_append_of_ne_nil _ (mt (unescape_eq_nil_iff cs).mp empty)] at last
      rw [← List.singleton_append, ← List.singleton_append (l := cs), ← List.append_assoc,
        List.getLast?_append_of_ne_nil _ empty]
      exact ih last
  | plain c cs other ih =>
    rw [unescape_plain other] at last
    by_cases empty : cs = []
    · subst empty
      exact .inr last
    · rw [← List.singleton_append, List.getLast?_append_of_ne_nil _
        (mt (unescape_eq_nil_iff cs).mp empty)] at last
      rw [← List.singleton_append, List.getLast?_append_of_ne_nil _ empty]
      exact ih last

/-- What is read of a text without blanks at its ends can be written again. -/
theorem writable_unescape {cs : List Char} (tight : Tight cs) : Writable (unescape cs) := by
  constructor
  · intro c head blank
    refine (head?_unescape head blank).resolve_right fun first => ?_
    rw [tight.head c first] at blank
    cases blank
  · intro c last blank
    refine (getLast?_unescape last blank).resolve_right fun final => ?_
    rw [tight.last c final] at blank
    cases blank

end Phrasebook.Template
