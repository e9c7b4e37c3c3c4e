import Phrasebook.Proofs.Locale.Escape
import Mathlib.Data.List.DropRight

/-!
Blanks without an escape at the ends of a phrase. Its written form is the one of the phrase without
them, with these blanks around it, and they are trimmed when the line is read.
-/

namespace Phrasebook.Template

open Text

def isBare (c : Char) : Bool := isSpace c && !escapedBlanks.contains c

/-- A text without the blanks at its ends that have no escape. -/
def stripBare (cs : List Char) : List Char := (cs.dropWhile isBare).rdropWhile isBare

/-- The phrase as which the line of a phrase without a translation is read. A line that would begin
with a `#` behind its blanks is a comment. -/
def readAs? (phrase : String) : Option String :=
  let kept := stripBare phrase.toList
  if kept = [] ∨ kept.head? = some '#' ∧ phrase.toList.head? ≠ some '#' then none
  else some (String.ofList kept)

example : readAs? "　你好" = some "你好" := by decide
example : readAs? " 你好" = some " 你好" := by decide
example : readAs? "　#1" = none := by decide

theorem isBare_iff {c : Char} : isBare c = true ↔ isSpace c = true ∧ c ∉ escapedBlanks := by
  simp [isBare]

theorem stripBare_eq {front mid back : List Char} (before : ∀ c ∈ front, isBare c = true)
    (behind : ∀ c ∈ back, isBare c = true) (writable : Writable mid) :
    stripBare (front ++ mid ++ back) = mid := by
  unfold stripBare
  rw [List.append_assoc, List.dropWhile_append_of_pos before]
  cases mid with
  | nil =>
    rw [List.nil_append, List.dropWhile_eq_nil_iff.mpr behind]
    rfl
  | cons c mid =>
    have first : ¬isBare c = true := fun bare =>
      (isBare_iff.mp bare).2 (writable.head c rfl (isBare_iff.mp bare).1)
    rw [List.cons_append, List.dropWhile_cons_of_neg first, ← List.cons_append]
    induction back using List.reverseRecOn with
    | nil =>
      rw [List.append_nil, List.rdropWhile_eq_self_iff]
      intro some bare
      have last := List.getLast?_eq_some_getLast some
      exact (isBare_iff.mp bare).2 (writable.last _ last (isBare_iff.mp bare).1)
    | append_singleton back d ih =>
      rw [← List.append_assoc, List.rdropWhile_concat_pos _ _ _ (behind d (by simp))]
      exact ih fun e member => behind e (List.mem_append_left _ member)

theorem Written.of_cons {c : Char} {form text : List Char} (written : Written (c :: form) text)
    (other : c ≠ '\\') :
    ∃ rest, text = c :: rest ∧ c ∉ ['\\', '=', '\n', '\r'] ∧ Written form rest := by
  cases written with
  | plain free rest => exact ⟨_, rfl, free, rest⟩
  | escaped => contradiction

theorem ne_backslash_of_isSpace {c : Char} (blank : isSpace c = true) : c ≠ '\\' := by
  rintro rfl
  cases blank

theorem Written.of_concat_blank {c : Char} {form text : List Char}
    (written : Written (form ++ [c]) text) (blank : isSpace c = true) :
    ∃ front, text = front ++ [c] ∧ Written form front := by
  have letters : ∀ entry ∈ escapes, isSpace entry.1 = false := by decide
  induction form using escape_induction generalizing text with
  | nil =>
    obtain ⟨rest, rfl, -, inner⟩ := written.of_cons (ne_backslash_of_isSpace blank)
    cases inner
    exact ⟨[], rfl, .nil⟩
  | stray =>
    cases written with
    | plain free => exact absurd free (by simp)
    | escaped known =>
      have visible := letters _ known
      rw [blank] at visible
      cases visible
  | pair e cs ih =>
    rw [List.cons_append, List.cons_append] at written
    cases written with
    | plain free => exact absurd free (by simp)
    | escaped known rest =>
      obtain ⟨front, rfl, inner⟩ := ih rest
      exact ⟨_ :: front, rfl, .escaped known inner⟩
  | plain d cs other ih =>
    obtain ⟨rest, rfl, free, shorter⟩ := written.of_cons other
    obtain ⟨front, rfl, inner⟩ := ih shorter
    exact ⟨d :: front, rfl, .plain free inner⟩

/-- Blanks around a written form stand for themselves. -/
theorem Written.between {front form back text : List Char}
    (written : Written (front ++ form ++ back) text) (before : ∀ c ∈ front, isSpace c = true)
    (behind : ∀ c ∈ back, isSpace c = true) :
    ∃ mid, text = front ++ mid ++ back ∧ Written form mid := by
  induction front generalizing text with
  | nil =>
    rw [List.nil_append] at written
    induction back using List.reverseRecOn generalizing text with
    | nil =>
      rw [List.append_nil] at written
      exact ⟨text, by simp, written⟩
    | append_singleton back c ih =>
      rw [← List.append_assoc] at written
      obtain ⟨rest, rfl, shorter⟩ := written.of_concat_blank (behind c (by simp))
      obtain ⟨mid, same, inner⟩ :=
        ih (fun d member => behind d (List.mem_append_left _ member)) shorter
      exact ⟨mid, by rw [same]; simp, inner⟩
  | cons c front ih =>
    obtain ⟨rest, rfl, -, shorter⟩ :=
      Written.of_cons written (ne_backslash_of_isSpace (before c List.mem_cons_self))
    obtain ⟨mid, same, inner⟩ := ih shorter fun d member => before d (List.mem_cons_of_mem _ member)
    exact ⟨mid, by rw [same]; rfl, inner⟩

/-- How blanks are encoded: one that has no escape stays as it is, any other shows something. -/
def Shows (encode : Char → List Char) : Prop :=
  ∀ c, isSpace c = true → encode c = [c] ∧ isBare c = true ∨
    ∃ d more, encode c = d :: more ∧ isSpace d = false

theorem escapeEdge_of_bare {c : Char} (bare : isBare c = true) : escapeEdge c = [c] := by
  obtain ⟨blank, known⟩ := isBare_iff.mp bare
  simp only [escapedBlanks, List.mem_cons, List.not_mem_nil, or_false, not_or] at known
  obtain ⟨space, feed, carriage, tab⟩ := known
  have visible : c ≠ '\\' ∧ c ≠ '=' := by constructor <;> rintro rfl <;> cases blank
  rw [escapeEdge, if_neg space, escapeChar.eq_6 c visible.1 feed carriage tab visible.2]

theorem escapeEdge_cases {c : Char} (blank : isSpace c = true) :
    escapeEdge c = [c] ∧ isBare c = true ∨ ∃ d, escapeEdge c = ['\\', d] ∧ isSpace d = false := by
  by_cases known : c ∈ escapedBlanks
  · simp only [escapedBlanks, List.mem_cons, List.not_mem_nil, or_false] at known
    rcases known with rfl | rfl | rfl | rfl <;> exact .inr ⟨_, rfl, by decide⟩
  · have bare := isBare_iff.mpr ⟨blank, known⟩
    exact .inl ⟨escapeEdge_of_bare bare, bare⟩

theorem shows_escapeEdge : Shows escapeEdge := fun c blank =>
  (escapeEdge_cases blank).imp_right fun ⟨d, form, _⟩ => ⟨'\\', [d], form, by decide⟩

theorem shows_reverse_escapeEdge : Shows (List.reverse ∘ escapeEdge) := by
  intro c blank
  rcases escapeEdge_cases blank with ⟨form, bare⟩ | ⟨d, form, visible⟩
  · exact .inl ⟨by simp [form], bare⟩
  · exact .inr ⟨d, ['\\'], by simp [form], visible⟩

/-- Blanks in front of an encoded text that begins with blanks are some of these, without an escape.
-/
theorem bare_of_begins {encode : Char → List Char} (shows : Shows encode)
    {blanks rest front : List Char} (blank : ∀ c ∈ blanks, isSpace c = true)
    (stops : ∀ c, rest.head? = some c → isSpace c = false) (spaces : ∀ c ∈ front, isSpace c = true)
    (begins : front <+: blanks.flatMap encode ++ rest) : ∀ c ∈ front, isBare c = true := by
  induction blanks generalizing front with
  | nil =>
    cases front with
    | nil => simp
    | cons c front =>
      obtain ⟨more, whole⟩ := begins
      have head : rest.head? = some c := by simpa using (congrArg List.head? whole).symm
      have visible := stops c head
      rw [spaces c List.mem_cons_self] at visible
      cases visible
  | cons d blanks ih =>
    cases front with
    | nil => simp
    | cons c front =>
      rw [List.flatMap_cons, List.append_assoc] at begins
      rcases shows d (blank d List.mem_cons_self) with ⟨form, bare⟩ | ⟨e, more, form, visible⟩
      · rw [form, List.singleton_append, List.cons_prefix_cons] at begins
        obtain ⟨rfl, begins⟩ := begins
        have later := ih (fun e member => blank e (List.mem_cons_of_mem _ member))
          (fun e member => spaces e (List.mem_cons_of_mem _ member)) begins
        exact List.forall_mem_cons.mpr ⟨bare, later⟩
      · rw [form, List.cons_append, List.cons_prefix_cons] at begins
        obtain ⟨rfl, -⟩ := begins
        rw [spaces c List.mem_cons_self] at visible
        cases visible

/-- The part of a written form between its blanks neither begins nor ends with one. -/
theorem tight_between {core : List Char} (tight : Tight core) (first : Bool) :
    Tight (if first then escapeCore core else core.flatMap escapeChar) := by
  rcases List.eq_nil_or_concat' core with rfl | ⟨front, d, whole⟩
  · cases first <;> exact .nil
  · have final := tight.last d (by simp [whole])
    constructor
    · intro c head
      cases core with
      | nil => cases first <;> cases head
      | cons e core =>
        have visible := tight.head e rfl
        cases first with
        | true =>
          rcases @head?_escapeCore e c core [] visible (by simpa using head) with rfl | ⟨rfl, -⟩
          · decide
          · exact visible
        | false =>
          have inner := @head?_flatMap_append _ e c core [] (escapeChar_ne_nil e)
              (by simpa using head)
          rcases head?_escapeChar inner with rfl | ⟨rfl, -⟩
          · decide
          · exact visible
    · intro c last
      rw [whole] at last
      cases first with
      | true => exact getLast?_escapeCore final last
      | false =>
        have inner := getLast?_append_flatMap [] (escapeChar_ne_nil d) last
        exact (getLast?_escapeChar inner).elim id fun same => same.1 ▸ final

/-- The blanks at the ends of a written form have no escape. -/
theorem bare_at_ends {cs front form back : List Char} (whole : escape cs = front ++ form ++ back)
    (before : ∀ c ∈ front, isSpace c = true) (behind : ∀ c ∈ back, isSpace c = true) :
    (∀ c ∈ front, isBare c = true) ∧ ∀ c ∈ back, isBare c = true := by
  obtain ⟨leading, core, trailing, -, blank, blank', tight, hollow, spelled⟩ := escape_parts cs
  have between := tight_between tight leading.isEmpty
  have written :
      Written (if leading.isEmpty then escapeCore core else core.flatMap escapeChar) core := by
    split
    · exact written_escapeCore core
    · exact .flatMap written_escapeChar core
  generalize (if leading.isEmpty then escapeCore core else core.flatMap escapeChar) = mid at *
  have begins : front <+: escape cs := ⟨form ++ back, by rw [whole, List.append_assoc]⟩
  have ends : back.reverse <+: (escape cs).reverse := by
    rw [List.reverse_prefix, whole]
    exact List.suffix_append _ _
  have turned : ∀ c ∈ back.reverse, isSpace c = true :=
    fun c member => behind c (List.mem_reverse.mp member)
  have leading' : ∀ c ∈ leading.reverse, isSpace c = true :=
    fun c member => blank c (List.mem_reverse.mp member)
  have trailing' : ∀ c ∈ trailing.reverse, isSpace c = true :=
    fun c member => blank' c (List.mem_reverse.mp member)
  suffices (∀ c ∈ front, isBare c = true) ∧ ∀ c ∈ back.reverse, isBare c = true from
    ⟨this.1, fun c member => this.2 c (List.mem_reverse.mpr member)⟩
  by_cases empty : mid = []
  · -- Nothing but blanks: the text has no end apart from those in front.
    subst empty
    cases written
    rw [hollow rfl, List.flatMap_nil, List.append_nil] at spelled
    rw [spelled] at begins ends
    rw [List.append_nil, List.reverse_flatMap, ← List.append_nil (List.flatMap _ _)] at ends
    exact ⟨bare_of_begins shows_escapeEdge blank (by simp) before begins,
      bare_of_begins shows_reverse_escapeEdge leading' (by simp) turned ends⟩
  · rw [spelled, List.append_assoc] at begins
    rw [spelled, List.reverse_append, List.reverse_flatMap] at ends
    refine ⟨bare_of_begins shows_escapeEdge blank (fun c head => ?_) before begins,
      bare_of_begins shows_reverse_escapeEdge trailing' (fun c last => ?_) turned ends⟩
    · rw [List.head?_append_of_ne_nil _ empty] at head
      exact between.head c head
    · rw [List.head?_reverse, List.getLast?_append_of_ne_nil _ empty] at last
      exact between.last c last

/-- What trimming leaves of a written form is the written form of the text without its bare blanks.
-/
theorem escape_stripped (cs : List Char) : ∃ front form back, escape cs = front ++ form ++ back ∧
    cs = front ++ stripBare cs ++ back ∧ (∀ c ∈ front, isBare c = true) ∧
    (∀ c ∈ back, isBare c = true) ∧ Tight form ∧ Written form (stripBare cs) := by
  obtain ⟨front, back, whole, before, behind⟩ := trim_parts (escape cs)
  have tight := tight_trim (escape cs)
  generalize trim (escape cs) = form at whole tight
  have written := written_escape cs
  rw [whole] at written
  obtain ⟨mid, parts, inner⟩ := written.between before behind
  obtain ⟨front_bare, back_bare⟩ := bare_at_ends whole before behind
  have stripped : stripBare cs = mid := by
    rw [parts]
    exact stripBare_eq front_bare back_bare (inner.unescape ▸ writable_unescape tight)
  rw [stripped]
  exact ⟨front, form, back, whole, parts, front_bare, back_bare, tight, inner⟩

theorem ne_hash_of_isBare {c : Char} (bare : isBare c = true) : c ≠ '#' := by
  rintro rfl
  cases bare

theorem flatMap_escapeEdge_bare {front : List Char} (bare : ∀ c ∈ front, isBare c = true) :
    front.flatMap escapeEdge = front := by
  rw [List.flatMap_congr fun c member => escapeEdge_of_bare (bare c member),
    List.flatMap_singleton']

/-- Behind bare blanks a `#` has no escape. -/
theorem escape_bare_hash {front rest : List Char} (some : front ≠ [])
    (bare : ∀ c ∈ front, isBare c = true) :
    ∃ more, escape (front ++ '#' :: rest) = front ++ '#' :: more := by
  have blank : ∀ c ∈ front, isSpace c = true := fun c member => (isBare_iff.mp (bare c member)).1
  have hash : ¬isSpace '#' = true := by decide
  obtain ⟨leading, core, trailing, whole, opening, -, tight, hollow, spelled⟩ :=
    escape_parts (front ++ '#' :: rest)
  cases core with
  | nil =>
    rw [hollow rfl, List.append_nil, List.append_nil] at whole
    exact absurd (opening '#' (whole ▸ by simp)) hash
  | cons d core =>
    have visible : ¬isSpace d = true := by simp [tight.head d rfl]
    have kept := congrArg (List.dropWhile isSpace) whole
    rw [List.dropWhile_append_of_pos blank, List.dropWhile_cons_of_neg hash, List.append_assoc,
      List.dropWhile_append_of_pos opening, List.cons_append,
        List.dropWhile_cons_of_neg visible] at kept
    obtain ⟨rfl, rfl⟩ := List.cons.inj kept
    rw [List.append_assoc, List.cons_append] at whole
    obtain rfl : front = leading := List.append_cancel_right whole
    have filled : front.isEmpty = false := by simpa using some
    rw [spelled, filled, flatMap_escapeEdge_bare bare]
    exact ⟨_, by simp only [List.flatMap_cons, List.append_assoc]; rfl⟩

/-- The line of a phrase is a comment if a `#` comes first behind bare blanks, and only then. -/
theorem hash_iff {cs front form back : List Char} (whole : escape cs = front ++ form ++ back)
    (parts : cs = front ++ stripBare cs ++ back) (bare : ∀ c ∈ front, isBare c = true)
    (written : Written form (stripBare cs)) :
    form.head? = some '#' ↔ (stripBare cs).head? = some '#' ∧ cs.head? ≠ some '#' := by
  constructor
  · intro head
    cases form with
    | nil => cases head
    | cons c form =>
      obtain rfl : c = '#' := Option.some.inj head
      obtain ⟨rest, kept, -⟩ := written.of_cons (by decide)
      rw [kept]
      refine ⟨rfl, fun first => ?_⟩
      cases front with
      | nil =>
        have opens : (escape cs).head? = some '#' := by rw [whole]; rfl
        rcases head?_escape opens with impossible | ⟨-, other, -⟩
        · exact absurd impossible (by decide)
        · exact other rfl
      | cons d front =>
        rw [parts] at first
        exact ne_hash_of_isBare (bare d List.mem_cons_self) (Option.some.inj first)
  · rintro ⟨head, first⟩
    cases kept : stripBare cs with
    | nil =>
      rw [kept] at head
      cases head
    | cons c rest =>
      rw [kept] at head parts written
      obtain rfl : c = '#' := Option.some.inj head
      have some : front ≠ [] := by
        rintro rfl
        exact first (by rw [parts]; rfl)
      obtain ⟨more, spelled⟩ := @escape_bare_hash front (rest ++ back) some bare
      rw [parts, List.append_assoc, List.cons_append, spelled, List.append_assoc] at whole
      have same := List.append_cancel_left whole
      cases form with
      | nil => cases written
      | cons d form => rw [List.head?_cons, (List.cons.inj same).1]

end Phrasebook.Template
