import Phrasebook.Proofs.Markup.Apart
import Phrasebook.Proofs.Validation.Place

/-!
Runs of a writing system that has no ASCII characters. All that the scan of a line takes notice of
is ASCII, so that the characters of a run have one class, and its first byte can speak for the
others. The issues come in the order of their places.
-/

namespace Phrasebook.Validation

open Text LineState

variable {rules : CallRules} {w : WritingSystem}
  {before cs ds rest line front mid back : List Char} {c : Char}
  {s t : LineState} {cls : CharClass} {as bs : List CharClass} {n : Nat}

namespace LineState

/-- How the classes of the next characters can be settled: as a comment up to the end of the line,
as the rest of a sign, or as what a backslash takes along in quotes. -/
inductive Settles (s : LineState) (cs : List Char) : Prop
  | line : s.settled = cs.map (fun _ => .comment) → Settles s cs
  | sign : (∀ d ∈ cs.take s.settled.length, d.toNat < 128) → Settles s cs
  | escape {quote : Char} {wrapped : Bool} : s.settled = [.quoted wrapped] → s.comment = none →
      s.quote = some (quote, wrapped) → Settles s cs

/-- What holds in front of each character of a line. -/
structure Tidy (s : LineState) (cs : List Char) : Prop where
  settles : Settles s cs
  quote : ∀ opened ∈ s.quote, isQuote opened.1 = true

theorem Settles.none (free : s.settled = []) : Settles s cs := .sign (by simp [free])

theorem Settles.of_sign {mark : List Char} (ascii : ∀ d ∈ mark, d.toNat < 128)
    (begins : mark.isPrefixOf (c :: cs) = true) (rest : t.settled.length = mark.length - 1) :
    Settles t cs := by
  refine .sign fun d member => ?_
  rw [rest] at member
  obtain ⟨behind, whole⟩ := List.isPrefixOf_iff_prefix.mp begins
  cases mark with
  | nil => simp at member
  | cons e mark =>
    obtain ⟨rfl, rfl⟩ := List.cons.inj whole
    have member : d ∈ (mark ++ behind).take mark.length := member
    rw [List.take_left] at member
    exact ascii d (List.mem_cons_of_mem _ member)

theorem Settles.tail {more : List CharClass} (settles : Settles s (c :: cs))
    (settled : s.settled = cls :: more) : Settles { s with settled := more } cs := by
  cases settles with
  | line same => exact .line (List.cons.inj (settled.symm.trans same)).2
  | sign ascii =>
    rw [settled] at ascii
    exact .sign fun d member => ascii d (List.mem_cons_of_mem _ member)
  | escape same =>
    obtain ⟨-, rfl⟩ := List.cons.inj (settled.symm.trans same)
    exact .none rfl

theorem ascii_close (kind : CommentKind) : ∀ d ∈ kind.close, d.toNat < 128 := by
  cases kind <;> exact List.all_iff_forall_prop.mp (by decide)

theorem Tidy.stepCode (settled : s.settled = []) (comment : s.comment = none)
    (quote : s.quote = none) : Tidy (stepCode rules before s c cs).2 cs := by
  have code : AtCode s.interpolation s := ⟨settled, comment, quote, rfl⟩
  have still := code.unmoved rules before c cs
  rw [stepCode_noticed]
  split_ifs with slashes star markup opens braces closing
  · exact ⟨.line rfl, by simp [quote]⟩
  · exact ⟨.of_sign (List.all_iff_forall_prop.mp (by decide)) star rfl, by simp [quote]⟩
  · exact ⟨.of_sign (List.all_iff_forall_prop.mp (by decide)) markup rfl, by simp [quote]⟩
  · exact ⟨.none still.settled, by simpa using opens⟩
  · exact ⟨.of_sign (List.all_iff_forall_prop.mp (by decide)) braces rfl, by simp [still.quote]⟩
  · exact ⟨.of_sign (List.all_iff_forall_prop.mp (by decide)) closing rfl, by simp [still.quote]⟩
  · exact ⟨.none still.settled, by simp [still.quote]⟩

theorem Tidy.step (tidy : Tidy s (c :: cs)) (rules : CallRules) (before : List Char) :
    Tidy (step rules before s c cs).2 cs := by
  obtain ⟨settles, quotes⟩ := tidy
  unfold LineState.step
  split
  · rename_i settled
    exact ⟨settles.tail settled, quotes⟩
  · rename_i kind settled comment
    unfold stepComment
    split_ifs with closes
    · exact ⟨.of_sign (ascii_close kind) closes (by simp), quotes⟩
    · exact ⟨.none settled, quotes⟩
  · rename_i settled comment quote
    unfold stepQuote
    split_ifs
    · exact ⟨.escape rfl comment quote, quotes⟩
    · exact ⟨.none settled, by simp⟩
    · exact ⟨.none settled, quotes⟩
  · rename_i settled comment quote
    exact .stepCode settled comment quote

theorem Tidy.passed (tidy : Tidy s (cs ++ rest)) (rules : CallRules) (before : List Char) :
    Tidy (passed rules before s cs rest).2 rest := by
  induction cs generalizing before s with
  | nil => exact tidy
  | cons c cs ih => exact ih (Tidy.step tidy rules before) (c :: before)

theorem tidy_nextLine (s : LineState) (cs : List Char) : Tidy s.nextLine cs := by
  refine ⟨.none rfl, fun opened member => ?_⟩
  obtain ⟨-, backtick⟩ := Option.filter_eq_some_iff.mp member
  rw [eq_of_beq backtick]
  rfl

theorem tidy_behind (rules : CallRules) (lines : List (List Char)) (cs : List Char) :
    Tidy (behind rules {} lines) cs := by
  rcases List.eq_nil_or_concat lines with rfl | ⟨lines, line, rfl⟩
  · exact ⟨.none rfl, fun opened member => nomatch member⟩
  · rw [List.concat_eq_append, behind_append]
    exact tidy_nextLine _ cs

/-- The class of a character that the scan takes no notice of. -/
def calmClass (s : LineState) : CharClass :=
  match s.settled, s.comment, s.quote with
  | cls :: _, _, _ => cls
  | [], some _, _ => .comment
  | [], none, some (_, wrapped) => .quoted wrapped
  | [], none, none => codeClass s.interpolation

theorem isCalm_of_beyond (beyond : 128 ≤ c.toNat) : IsCalm c := by
  have ascii : ∀ d ∈ ['\'', '"', '\x60', '/', '<', '\x7b', '\x7d'], d.toNat < 128 :=
    List.all_iff_forall_prop.mp (by decide)
  exact fun member => absurd (ascii c member) (Nat.not_lt.mpr beyond)

/-- A class that has been settled for a character beyond ASCII goes on behind it, as that of the
comment or of the quotes. -/
theorem Settles.calmClass_tail {more : List CharClass} (settles : Settles s (c :: cs))
    (beyond : 128 ≤ c.toNat) (settled : s.settled = cls :: more) (filled : cs ≠ []) :
    calmClass { s with settled := more } = cls := by
  cases settles with
  | line same =>
    obtain ⟨rfl, rfl⟩ := List.cons.inj (settled.symm.trans same)
    obtain ⟨d, ds, rfl⟩ := List.exists_cons_of_ne_nil filled
    rfl
  | sign ascii =>
    rw [settled] at ascii
    exact absurd (ascii c List.mem_cons_self) (Nat.not_lt.mpr beyond)
  | escape same comment quote =>
    obtain ⟨rfl, rfl⟩ := List.cons.inj (settled.symm.trans same)
    simp [calmClass, comment, quote]

/-- A character beyond ASCII has this class and leaves it to the next one. -/
theorem Tidy.step_beyond (tidy : Tidy s (c :: cs)) (beyond : 128 ≤ c.toNat) (rules : CallRules)
    (before : List Char) : ∃ t, LineState.step rules before s c cs = (s.calmClass, t) ∧
      (cs ≠ [] → t.calmClass = s.calmClass) := by
  obtain ⟨settles, quotes⟩ := tidy
  have other (d : Char) (ascii : d.toNat < 128) : c ≠ d := by
    rintro rfl
    omega
  cases settled : s.settled with
  | cons cls more =>
    have here : s.calmClass = cls := by rw [calmClass, settled]
    refine ⟨{ s with settled := more }, by rw [LineState.step, settled, here], fun filled => ?_⟩
    rw [here, settles.calmClass_tail beyond settled filled]
  | nil =>
    cases comment : s.comment with
    | some kind =>
      have goes : kind.close.isPrefixOf (c :: cs) = false := by
        cases kind <;> simp [CommentKind.close, List.isPrefixOf, Ne.symm (other _ _)]
      exact ⟨s, by
        simp [LineState.step, settled, comment, calmClass, stepComment, goes], fun _ => rfl⟩
    | none =>
      cases quote : s.quote with
      | some opened =>
        obtain ⟨q, wrapped⟩ := opened
        have sign := quotes _ quote
        have goes : c ≠ q := by
          rintro rfl
          simp [isQuote, other] at sign
        have plain := other '\\' (by decide)
        refine ⟨s, ?_, fun _ => rfl⟩
        simp [LineState.step, settled, comment, quote, calmClass, stepQuote, plain, goes]
      | none =>
        have code : AtCode s.interpolation s := ⟨settled, comment, quote, rfl⟩
        obtain ⟨still, uncommented, unquoted, same⟩ := code.unmoved rules before c cs
        refine ⟨noticed rules before s c cs, ?_, fun _ => ?_⟩
        · rw [code.step_calm (isCalm_of_beyond beyond), calmClass, settled, comment, quote]
        · simp [calmClass, settled, comment, quote, still, uncommented, unquoted, same]

/-- A stretch of characters beyond ASCII has one class. -/
theorem Tidy.passes_beyond (tidy : Tidy s (cs ++ rest)) (beyond : ∀ c ∈ cs, 128 ≤ c.toNat)
    (rules : CallRules) (before : List Char) :
    ∃ t, Passes rules before s cs rest s.calmClass t := by
  induction cs generalizing before s with
  | nil => exact ⟨s, .nil⟩
  | cons c cs ih =>
    obtain ⟨here, later⟩ := List.forall_mem_cons.mp beyond
    have tidy : Tidy s (c :: (cs ++ rest)) := tidy
    obtain ⟨t, first, keeps⟩ := tidy.step_beyond here rules before
    have next := Tidy.step tidy rules before
    rw [first] at next
    obtain ⟨u, more⟩ := ih next later (c :: before)
    cases cs with
    | nil => exact ⟨t, .cons first .nil⟩
    | cons d cs =>
      rw [keeps (List.cons_ne_nil _ _)] at more
      exact ⟨u, .cons first more⟩

/-- The classes of a line on which characters beyond ASCII stand together. -/
theorem Tidy.classify_beyond (tidy : Tidy s (front ++ (mid ++ back)))
    (beyond : ∀ c ∈ mid, 128 ≤ c.toNat) (rules : CallRules) : ∃ as cls bs,
    (classify rules [] s (front ++ (mid ++ back))).1 =
      as ++ (List.replicate mid.length cls ++ bs) ∧ as.length = front.length ∧
      bs.length = back.length := by
  obtain ⟨t, stretch⟩ :=
    (Tidy.passed tidy rules []).passes_beyond beyond rules (front.reverse ++ [])
  have whole : classify rules [] s (front ++ (mid ++ back)) = _ := classify_append
  rw [stretch.classify] at whole
  refine ⟨_, _, _, congrArg Prod.fst whole, length_passed, ?_⟩
  rw [classify_eq_passed, length_passed]

end LineState

/-- The classes of the bytes of a line. Each byte has the class of its character. -/
def byteClasses (cs : List Char) (classes : List CharClass) : List CharClass :=
  byteMarks (cs.zip classes)

theorem byteClasses_append (fits : cs.length = as.length) :
    byteClasses (cs ++ ds) (as ++ bs) = byteClasses cs as ++ byteClasses ds bs := by
  rw [byteClasses, List.zip_append fits]
  exact List.flatMap_append

theorem length_byteClasses (fits : as.length = cs.length) :
    (byteClasses cs as).length = byteLength cs := by
  rw [byteClasses, length_byteMarks, List.map_fst_zip (Nat.le_of_eq fits.symm)]

theorem byteClasses_replicate (cs : List Char) (cls : CharClass) :
    byteClasses cs (List.replicate cs.length cls) = List.replicate (byteLength cs) cls := by
  refine List.eq_replicate_iff.mpr
    ⟨length_byteClasses (List.length_replicate ..), fun other member => ?_⟩
  obtain ⟨⟨c, marked⟩, paired, inside⟩ := List.mem_flatMap.mp member
  obtain rfl := List.eq_of_mem_replicate inside
  exact List.eq_of_mem_replicate (List.of_mem_zip paired).2

/-- The bytes of a part of a line whose characters have one class. -/
theorem getElem?_byteClasses (first : as.length = front.length) (n : Nat)
    (starts : byteLength front ≤ n) (ends : n < byteLength front + byteLength mid) :
    (byteClasses (front ++ (mid ++ back)) (as ++ (List.replicate mid.length cls ++ bs)))[n]? =
      some cls := by
  have fits : mid.length = (List.replicate mid.length cls).length := (List.length_replicate ..).symm
  have before := length_byteClasses first
  have inside : (List.replicate (byteLength mid) cls).length = byteLength mid :=
    List.length_replicate ..
  rw [byteClasses_append first.symm, byteClasses_append fits, byteClasses_replicate,
    List.getElem?_append_right (by omega), List.getElem?_append_left (by omega),
    List.getElem?_replicate_of_lt (by omega)]

/-- The place of an issue comes before that of another one. -/
def Precedes (a b : Issue) : Prop := a.line < b.line ∨ a.line = b.line ∧ a.column < b.column

theorem length_lt_of_isPrefix {a b cs : List Char} (first : a <+: cs) (second : b <+: cs)
    (shorter : byteLength a < byteLength b) : a.length < b.length := by
  rcases List.prefix_or_prefix_of_prefix first second with ⟨more, rfl⟩ | ⟨more, rfl⟩
  · cases more with
    | nil => simp at shorter
    | cons c more => simp
  · rw [byteLength_append] at shorter
    omega

theorem runsOf_ordered (w : WritingSystem) (line : List Char) :
    (runsOf w line).Pairwise fun a b => a.start < b.start := by
  have begins {span : Span} {run : LineRun} (made : (do
      let before ← slice? line ⟨0, span.start⟩
      let text ← slice? line span
      return (⟨before.length, text⟩ : LineRun)) = some run) :
      ∃ before, before <+: line ∧ byteLength before = span.start ∧ run.start = before.length := by
    obtain ⟨before, first, more⟩ := Option.bind_eq_some_iff.mp made
    obtain ⟨text, -, same⟩ := Option.bind_eq_some_iff.mp more
    obtain rfl := Option.some.inj same
    obtain ⟨front, back, rfl, start, stop⟩ := slice?_eq_some_iff.mp first
    cases front with
    | nil => exact ⟨before, List.prefix_append _ _, (stop.trans (Nat.zero_add _)).symm, rfl⟩
    | cons c front =>
      have size := c.utf8Size_pos
      simp only [byteLength] at start
      omega
  refine List.pairwise_filterMap.mpr ((Markup.runsFrom_apart none line 0).imp_of_mem ?_)
  intro a b member _ apart x first y second
  obtain ⟨front, near, start, column⟩ := begins first
  obtain ⟨longer, far, later, behind⟩ := begins second
  have filled := (WritingSystem.within_of_mem_runs member).1
  rw [column, behind]
  exact length_lt_of_isPrefix near far (by omega)

theorem lineIssues_ordered (w : WritingSystem) (n : Nat) (line : List Char)
    (classes : List CharClass) : (lineIssues w n line classes).Pairwise Precedes := by
  unfold lineIssues
  split
  · exact .nil
  · refine List.pairwise_map.mpr (((runsOf_ordered w line).filter _).imp fun less => ?_)
    exact .inr ⟨rfl, Nat.add_lt_add_right less 1⟩

theorem issuesFrom_ordered (w : WritingSystem) (rules : CallRules) (n : Nat) (s : LineState)
    (ls : List (List Char)) : (issuesFrom w rules n s ls).Pairwise Precedes := by
  induction ls generalizing n s with
  | nil => exact .nil
  | cons line ls ih =>
    refine List.pairwise_append.mpr ⟨lineIssues_ordered .., ih .., fun a here b later => .inl ?_⟩
    rw [line_of_mem_lineIssues here]
    exact (line_of_mem_issuesFrom later).1

/-- Every issue is one of a line, which has other lines above it. -/
theorem exists_line_of_mem_issuesFrom {ls : List (List Char)} {issue : Issue}
    (member : issue ∈ issuesFrom w rules n s ls) : ∃ above line below, ls = above ++ line :: below ∧
      issue ∈ lineIssues w (n + above.length) line
        (classify rules [] (behind rules s above) line).1 := by
  induction ls generalizing n s with
  | nil => cases member
  | cons line ls ih =>
    rcases List.mem_append.mp member with here | later
    · exact ⟨[], line, ls, rfl, here⟩
    · obtain ⟨above, found, below, rfl, listed⟩ := ih later
      refine ⟨line :: above, found, below, rfl, ?_⟩
      rwa [List.length_cons, Nat.add_comm above.length, ← Nat.add_assoc]

/-- The classes of the bytes of a line below others. -/
def byteClassesBelow (rules : CallRules) (above : List (List Char))
    (line : List Char) : List CharClass :=
  byteClasses line (classify rules [] (behind rules {} above) line).1

/-- A run on a line of a source, all bytes of which have one class. -/
structure OneClass (config : Config) (content : String) (above : List (List Char))
    (front mid back : List Char) (cls : CharClass) : Prop where
  onLine : ∃ below, lines content.toList = above ++ (front ++ mid ++ back) :: below
  run : config.writingSystem.IsRun (front ++ mid ++ back) front mid back
  bytes : ∀ p, byteLength front ≤ p → p < byteLength front + byteLength mid →
    (byteClassesBelow (CallRules.ofConfig config) above (front ++ mid ++ back))[p]? = some cls

variable {config : Config} {content : String} {above below : List (List Char)}

/-- The class of a run is that of its first character. -/
theorem exists_oneClass (beyond : ∀ c, config.writingSystem.has c = true → 128 ≤ c.toNat)
    (onLine : lines content.toList = above ++ (front ++ mid ++ back) :: below)
    (run : config.writingSystem.IsRun (front ++ mid ++ back) front mid back) :
    ∃ cls, OneClass config content above front mid back cls ∧
      (classify (CallRules.ofConfig config) [] (behind (CallRules.ofConfig config) {} above)
        (front ++ mid ++ back)).1[front.length]? = some cls := by
  obtain ⟨as, cls, bs, classes, first, -⟩ :=
    (tidy_behind (CallRules.ofConfig config) above _).classify_beyond
    (fun c member => beyond c (run.inside c member)) _
  rw [← List.append_assoc] at classes
  refine ⟨cls, ⟨⟨below, onLine⟩, run, fun p starts ends => ?_⟩, ?_⟩
  · rw [byteClassesBelow, classes, List.append_assoc]
    exact getElem?_byteClasses first p starts ends
  · have some := List.length_pos_iff.mpr run.filled
    rw [classes, List.getElem?_append_right (Nat.le_of_eq first), first, Nat.sub_self,
      List.getElem?_append_left (by simpa using some), List.getElem?_replicate_of_lt some]

theorem isReported_iff : cls.isReported = true ↔ cls = .quoted false ∨ cls = .interpolation := by
  cases cls with
  | quoted wrapped => cases wrapped <;> simp [CharClass.isReported]
  | _ => simp [CharClass.isReported]

/-- If the writing system has no ASCII characters, the issues of a source come in the order of their
places, and each is a run of a line whose bytes are all in quotes that hold nothing wrapped, or all
between double braces. The bytes of every other run have one class as well, and an issue stands at a
run exactly if that class counts and the line is looked at. -/
theorem issues_of_beyond (beyond : ∀ c, config.writingSystem.has c = true → 128 ≤ c.toNat)
    (content : String) : (issues config content).Pairwise Precedes ∧
    (∀ issue ∈ issues config content, ∃ above front mid back cls,
      OneClass config content above front mid back cls ∧
      (cls = .quoted false ∨ cls = .interpolation) ∧ issue.line = above.length + 1 ∧
      issue.column = front.length + 1 ∧ issue.text = String.ofList mid ∧
        issue.sourceLine = String.ofList (front ++ mid ++ back)) ∧
    ∀ above below front mid back, lines content.toList = above ++ (front ++ mid ++ back) :: below →
      config.writingSystem.IsRun (front ++ mid ++ back) front mid back → ∃ cls,
        OneClass config content above front mid back cls ∧
        ((∃ issue ∈ issues config content, issue.line = above.length + 1 ∧
          issue.column = front.length + 1) ↔ isCommentLine (front ++ mid ++ back) = false ∧
            cls.isReported = true) := by
  refine ⟨issuesFrom_ordered .., fun issue member =>
    ?_, fun above below front mid back onLine run => ?_⟩
  · obtain ⟨above, line, below, onLine, here⟩ := exists_line_of_mem_issuesFrom member
    obtain ⟨-, front, mid, back, run, counts, rfl⟩ := mem_lineIssues_iff.mp here
    obtain rfl := run.whole
    obtain ⟨cls, same, first⟩ := exists_oneClass beyond onLine run
    rw [first, Option.any_some] at counts
    exact ⟨above, front, mid, back, cls, same, isReported_iff.mp counts,
      Nat.add_comm .., rfl, rfl, rfl⟩
  · obtain ⟨cls, same, first⟩ := exists_oneClass beyond onLine run
    obtain ⟨c, more, rfl⟩ := List.exists_cons_of_ne_nil run.filled
    have whole : front ++ c :: more ++ back = front ++ c :: (more ++ back) := List.append_assoc ..
    refine ⟨cls, same, ?_⟩
    rw [issues, onLine, Nat.add_comm above.length, exists_mem_issuesFrom_iff,
      exists_mem_lineIssues_iff whole, first, Option.any_some]
    constructor
    · rintro ⟨looked, -, -, counts⟩
      exact ⟨looked, counts⟩
    · rintro ⟨looked, counts⟩
      exact ⟨looked, run.inside c List.mem_cons_self, run.starts, counts⟩

/-- Chinese in quotes, in a comment and between double braces. -/
theorem issues_of_beyond_han :
    let content := "'你好' // 世\n\x7b\x7b 早 \x7d\x7d"
    (∀ c, ({} : Config).writingSystem.has c = true → 128 ≤ c.toNat) ∧
    (issues {} content).map (fun issue => (issue.line, issue.column, issue.text)) =
      [(1, 2, "你好"), (2, 4, "早")] ∧
    (issues {} content).Pairwise Precedes ∧
    ∃ cls, OneClass {} content ["'你好' // 世".toList] ['\x7b', '\x7b', ' '] ['早']
      [' ', '\x7d', '\x7d'] cls ∧ cls.isReported = true := by
  intro content
  have beyond : ∀ c, ({} : Config).writingSystem.has c = true → 128 ≤ c.toNat := by
    have bounds : ∀ r ∈ ({} : Config).writingSystem.ranges, 128 ≤ r.1 := by decide +kernel
    intro c inside
    obtain ⟨r, listed, low, -⟩ := (Character.Ranges.contains_iff ..).mp inside
    exact Nat.le_trans (bounds r listed) low
  have found : (issues {} content).map (fun issue => (issue.line, issue.column, issue.text)) =
      [(1, 2, "你好"), (2, 4, "早")] := by decide +kernel
  have run : ({} : Config).writingSystem.IsRun
    (['\x7b', '\x7b', ' '] ++ ['早'] ++ [' ', '\x7d', '\x7d'])
      ['\x7b', '\x7b', ' '] ['早'] [' ', '\x7d', '\x7d'] := by
    refine ⟨rfl, by
      decide, List.all_eq_true.mp (by decide +kernel), fun c last => ?_, fun c head => ?_⟩
    · obtain rfl := Option.some.inj last
      decide +kernel
    · obtain rfl := Option.some.inj head
      decide +kernel
  obtain ⟨ordered, -, runs⟩ := issues_of_beyond beyond content
  have below : lines content.toList = ["'你好' // 世".toList] ++
      (['\x7b', '\x7b', ' '] ++ ['早'] ++ [' ', '\x7d', '\x7d']) :: [] := by decide +kernel
  obtain ⟨cls, same, counts⟩ := runs _ _ _ _ _ below run
  have listed : (2, 4, "早") ∈ (issues {} content).map fun issue =>
      (issue.line, issue.column, issue.text) := by
    rw [found]
    decide
  obtain ⟨issue, member, place⟩ := List.mem_map.mp listed
  obtain ⟨line, others⟩ := Prod.mk.inj place
  exact ⟨beyond, found, ordered, cls, same,
    (counts.mp ⟨issue, member, line, (Prod.mk.inj others).1⟩).2⟩

end Phrasebook.Validation
