import Phrasebook.Proofs.Extraction.File
import Phrasebook.Proofs.Rewriting.Call
import Phrasebook.Proofs.Validation.Line

/-!
What validation makes of the calls that are written in the place of texts. A bare call is passed,
and so is one between double braces unless its own spelling is of the writing system that is looked
for. The value of a bound attribute is one text in double quotes to the scan, so that a key is
looked at there although a call holds it.
-/

namespace Phrasebook

open Text

namespace WritingSystem

/-- The signs of the script language go together, and so do the letters that calls and escapes are
spelled with; no writing system has both. -/
structure SpellsAlike (w : WritingSystem) : Prop where
  signs : ∀ c ∈ [' ', '$', '\'', '"', ')', '\\'], w.has c = w.has '('
  letters : ∀ c ∈ ['n', 'r'], w.has c = w.has 't'
  controls : ∀ c ∈ ['\n', '\r'], w.has c = w.has '('
  apart : w.has 't' = false ∨ w.has '(' = false

instance (w : WritingSystem) : Decidable (SpellsAlike w) :=
  decidable_of_iff
    (([' ', '$', '\'', '"', ')', '\\'].all fun c => decide (w.has c = w.has '(')) = true ∧
      (['n', 'r'].all fun c => decide (w.has c = w.has 't')) = true ∧
      (['\n', '\r'].all fun c => decide (w.has c = w.has '(')) = true ∧
      (w.has 't' = false ∨ w.has '(' = false))
    ⟨fun ⟨signs, letters, controls, apart⟩ => ⟨List.all_iff_forall_prop.mp signs,
        List.all_iff_forall_prop.mp letters, List.all_iff_forall_prop.mp controls, apart⟩,
      fun ⟨signs, letters, controls, apart⟩ => ⟨List.all_iff_forall_prop.mpr signs,
        List.all_iff_forall_prop.mpr letters, List.all_iff_forall_prop.mpr controls, apart⟩⟩

theorem spellsAlike {w : WritingSystem} (known : w ∈ all) : SpellsAlike w :=
  (by decide +kernel : ∀ w ∈ all, SpellsAlike w) w known

end WritingSystem

theorem Config.spellsAlike (config : Config) : config.writingSystem.SpellsAlike := by
  unfold Config.writingSystem
  cases found : WritingSystem.ofName? config.targetScript with
  | none => exact (by decide +kernel : WritingSystem.han.SpellsAlike)
  | some w => exact WritingSystem.spellsAlike (WritingSystem.mem_of_ofName? found)

namespace Text

theorem mem_quoteChars_of_mem {c : Char} {cs : List Char} (member : c ∈ quoteChars cs) :
    c ∈ cs ∨ c ∈ ['\\', 'n', 'r'] := by
  obtain ⟨d, inside, written⟩ := List.mem_flatMap.mp member
  unfold quoteChar at written
  split at written
  all_goals
    simp only [List.mem_cons, List.not_mem_nil, or_false, or_self] at written ⊢
  · exact .inr (.inl written)
  · rcases written with rfl | rfl
    · exact .inr (.inl rfl)
    · exact .inl inside
  · exact .inr (written.imp_right .inl)
  · exact .inr (written.imp_right .inr)
  · exact .inl (written ▸ inside)

theorem line_feed_not_mem_quoteChars (cs : List Char) : '\n' ∉ quoteChars cs := by
  intro member
  obtain ⟨d, -, written⟩ := List.mem_flatMap.mp member
  unfold quoteChar at written
  split at written
  case h_5 other _ => exact other (List.mem_singleton.mp written).symm
  all_goals revert written; decide

end Text

namespace Validation

open LineState Rewriting

variable {rules : CallRules} {line front : List Char}

theorem wraps_call {callee : String} (known : callee ∈ rules.spellings) (front : List Char) :
    rules.wraps (front ++ callee.toList ++ ['(']) = true := by
  have blank : Blank [] := fun d member => absurd member List.not_mem_nil
  have call : Introduces rules (front ++ (callee.toList ++ ([] ++ '(' :: []))) :=
    .call known blank blank
  rw [List.append_assoc]
  exact wraps_iff.mpr call

/-- A call for a key, without further arguments. -/
def callChars (callee key : List Char) : List Char :=
  (callee ++ ['(']) ++ (('\'' :: (quoteChars key ++ ['\''])) ++ [')'])

theorem toList_bare_call (callee key : String) :
    (call callee key []).toList = callChars callee.toList key.toList := by
  simp [toList_call, argumentsChars, callChars]

/-- The classes of a call that stands in code. -/
def callClasses (b : Bool) (callee key : List Char) : List CharClass :=
  List.replicate (callee ++ ['(']).length (codeClass b) ++
    (List.replicate ('\'' :: (quoteChars key ++ ['\''])).length (.quoted true) ++
      List.replicate [')'].length (codeClass b))

/-- The key of a call counts as wrapped wherever the call is read as code. -/
theorem LineState.AtCode.passed_call {b : Bool} {s : LineState} {callee : String}
    (code : AtCode b s) (calm : ∀ c ∈ callee.toList, IsCalm c) (known : callee ∈ rules.spellings)
    (key before rest : List Char) : ∃ t,
      passed rules before s (callChars callee.toList key) rest =
        (callClasses b callee.toList key, t) ∧
      AtCode b t := by
  have opening : ∀ c ∈ callee.toList ++ ['('], IsCalm c := by
    simpa [or_imp, forall_and] using ⟨calm, (by decide : IsCalm '(')⟩
  have closing : ∀ c ∈ [')'], IsCalm c := List.forall_mem_singleton.mpr (by decide)
  obtain ⟨t, first, code, -⟩ := code.passes_calm opening rules before
    (('\'' :: (quoteChars key ++ ['\''])) ++ [')'] ++ rest)
  have held : HeldIn '\'' (quoteChars key) := .quoteChars (by decide) (.inl rfl)
  obtain ⟨u, second, code⟩ := code.passes_quoted rfl held rules
    ((callee.toList ++ ['(']).reverse ++ before) ([')'] ++ rest)
  have wrapped : opensWrapped rules ((callee.toList ++ ['(']).reverse ++ before) t = true := by
    have behind := wraps_call known before.reverse
    rw [opensWrapped, List.reverse_append, List.reverse_reverse, ← List.append_assoc,
      behind, Bool.or_true]
  rw [wrapped] at second
  obtain ⟨v, third, code, -⟩ := code.passes_calm closing rules
    (('\'' :: (quoteChars key ++ ['\''])).reverse ++
      ((callee.toList ++ ['(']).reverse ++ before)) rest
  exact ⟨v, passed_append_eq first (passed_append_eq second third), code⟩

/-- A call between double braces. -/
def interpolationChars (callee key : List Char) : List Char :=
  ['\x7b', '\x7b'] ++ ([' '] ++ (callChars callee key ++ ([' '] ++ ['\x7d', '\x7d'])))

def interpolationClasses (callee key : List Char) : List CharClass :=
  List.replicate 2 .bare ++ (List.replicate 1 .interpolation ++ (callClasses true callee key ++
    (List.replicate 1 .interpolation ++ List.replicate 2 .bare)))

theorem atCode_start : AtCode false {} := ⟨rfl, rfl, rfl, rfl⟩

theorem passed_interpolation {callee : String} (calm : ∀ c ∈ callee.toList, IsCalm c)
    (known : callee ∈ rules.spellings) (key : List Char) :
    (passed rules [] {} (interpolationChars callee.toList key) []).1 =
      interpolationClasses callee.toList key := by
  have blank : ∀ c ∈ [' '], IsCalm c := List.forall_mem_singleton.mpr (by decide)
  let shown := callChars callee.toList key
  obtain ⟨s, first, code⟩ := atCode_start.passes_opening rules []
    ([' '] ++ (shown ++ ([' '] ++ ['\x7d', '\x7d'])) ++ [])
  obtain ⟨t, second, code, -⟩ := code.passes_calm blank rules ['\x7b', '\x7b']
    (shown ++ ([' '] ++ ['\x7d', '\x7d']) ++ [])
  obtain ⟨u, third, code⟩ := code.passed_call calm known key [' ', '\x7b', '\x7b']
    ([' '] ++ ['\x7d', '\x7d'] ++ [])
  obtain ⟨v, fourth, code, -⟩ :=
    code.passes_calm blank rules (shown.reverse ++ [' ', '\x7b', '\x7b']) (['\x7d', '\x7d'] ++ [])
  obtain ⟨x, fifth, -⟩ := code.passes_closing rules
    (' ' :: (shown.reverse ++ [' ', '\x7b', '\x7b'])) []
  have whole : passed rules [] {} (interpolationChars callee.toList key) [] =
      (interpolationClasses callee.toList key, x) :=
    passed_append_eq first
      (passed_append_eq second (passed_append_eq third (passed_append_eq fourth fifth)))
  rw [whole]

/-- A call as the value of a bound attribute. -/
def boundChars (name callee key : List Char) : List Char :=
  (':' :: (name ++ ['='])) ++ '"' :: (callChars callee key ++ ['"'])

def boundClasses (name callee key : List Char) : List CharClass :=
  List.replicate (':' :: (name ++ ['='])).length .bare ++
    List.replicate ('"' :: (callChars callee key ++ ['"'])).length (.quoted false)

/-- A name of an attribute with which nothing but the name begins. -/
def IsAttributeName (name : List Char) : Prop := ∀ c ∈ name, IsCalm c ∧ c ∉ ['(', '\n']

theorem passed_bound {name callee key : List Char} (plain : IsAttributeName name)
    (held : HeldIn '"' callee) (unquoted : '"' ∉ key) :
    (passed rules [] {} (boundChars name callee key) []).1 = boundClasses name callee key := by
  have calm : ∀ c ∈ ':' :: (name ++ ['=']), IsCalm c := by
    have named : ∀ c ∈ name, IsCalm c := fun c member => (plain c member).1
    simpa [or_imp, forall_and] using ⟨(by decide : IsCalm ':'), named, (by decide : IsCalm '=')⟩
  have unopened : '(' ∉ ':' :: (name ++ ['=']) := by
    have unopened : '(' ∉ name := fun member => (plain '(' member).2 (by decide)
    simpa using unopened
  have inner : HeldIn '"' (callChars callee key) := by
    have sign {c : Char} (other : c ≠ '\\' ∧ c ≠ '"') : HeldIn '"' [c] :=
      .of_forall fun d member => List.mem_singleton.mp member ▸ other
    refine (held.append (sign (by decide))).append (.append ?_ (sign (by decide)))
    exact (sign (by decide)).append
      ((HeldIn.quoteChars (by decide) (.inr unquoted)).append (sign (by decide)))
  obtain ⟨s, first, code, shallow⟩ := atCode_start.passes_calm calm rules []
    ('"' :: (callChars callee key ++ ['"']) ++ [])
  obtain ⟨t, second, -⟩ :=
    code.passes_quoted rfl inner rules ((':' :: (name ++ ['='])).reverse ++ []) []
  have unwrapped : opensWrapped rules ((':' :: (name ++ ['='])).reverse ++ []) s = false := by
    rw [opensWrapped, shallow unopened rfl, List.append_nil, List.reverse_reverse]
    by_contra wrapped
    obtain ⟨c, last, behind⟩ := (wraps_iff.mp (eq_true_of_ne_false wrapped)).getLast?
    rw [← List.cons_append, List.getLast?_concat] at last
    obtain rfl := Option.some.inj last
    revert behind
    decide
  rw [unwrapped] at second
  have whole : passed rules [] {} (boundChars name callee key) [] =
      (boundClasses name callee key, t) :=
    passed_append_eq first second
  rw [whole]

/-- What validation finds in a source that is one line. -/
theorem issues_of_line {config : Config} {content : String} {line : List Char}
    (text : content.toList = line) (unbroken : '\n' ∉ line) (filled : line ≠ []) :
    issues config content = lineIssues config.writingSystem 1 line
      (passed (CallRules.ofConfig config) [] {} line []).1 := by
  rw [issues, text, lines_eq_singleton unbroken filled]
  simp only [issuesFrom, classify_eq_passed, List.append_nil]

/-- A call that is written as code has no issue. -/
theorem issues_call {config : Config} {callee : String}
    (known : callee ∈ (CallRules.ofConfig config).spellings) (calm : ∀ c ∈ callee.toList, IsCalm c)
    (unbroken : '\n' ∉ callee.toList) (key : String) : issues config (call callee key []) = [] := by
  have line : '\n' ∉ callChars callee.toList key.toList := by
    simp [callChars, unbroken, line_feed_not_mem_quoteChars]
  obtain ⟨t, scanned, -⟩ := atCode_start.passed_call calm known key.toList [] []
  rw [issues_of_line (toList_bare_call callee key) line (by simp [callChars]), scanned]
  refine lineIssues_eq_nil (.of_not_isReported ?_)
  simp only [callClasses, List.mem_append, List.mem_replicate]
  rintro cls (⟨-, rfl⟩ | ⟨-, rfl⟩ | ⟨-, rfl⟩) <;> rfl

theorem quiet_braces {w : WritingSystem} {cs : List Char} (n : Nat) :
    Quiet w cs (List.replicate n .bare) :=
  .of_not_isReported fun _ member => List.eq_of_mem_replicate member ▸ rfl

/-- A call between double braces has an issue exactly if the letter or a sign of the call is looked
for. -/
theorem issues_interpolation {config : Config} {content : String} (key : List Char)
    (known : "$t" ∈ (CallRules.ofConfig config).spellings)
    (text : content.toList = interpolationChars "$t".toList key) : issues config content = [] ↔
      config.writingSystem.has 't' = false ∧ config.writingSystem.has '(' = false := by
  have calm : ∀ c ∈ "$t".toList, IsCalm c := List.all_iff_forall_prop.mp (by decide)
  have unbroken : '\n' ∉ interpolationChars "$t".toList key := by
    simp [interpolationChars, callChars, line_feed_not_mem_quoteChars]
  have alike := config.spellsAlike
  rw [issues_of_line text unbroken (by simp [interpolationChars]), passed_interpolation calm known]
  constructor
  · intro none
    have looked : isCommentLine (interpolationChars "$t".toList key) = false :=
      isCommentLine_cons (by decide) (by decide)
    constructor
    · by_contra found
      have whole : interpolationChars "$t".toList key = "\x7b\x7b $".toList ++ 't' ::
          ('(' :: (('\'' :: (quoteChars key ++ ['\''])) ++ [')']) ++ [' ', '\x7d', '\x7d']) := by
        simp [interpolationChars, callChars]
      have starts : ∀ d, "\x7b\x7b $".toList.getLast? = some d →
          config.writingSystem.has d = false := by
        intro d last
        obtain rfl : '$' = d := by simpa using last
        exact (alike.signs '$' (by decide)).trans (alike.apart.resolve_left found)
      exact lineIssues_ne_nil looked whole (eq_true_of_ne_false found) starts rfl none
    · by_contra found
      have whole : interpolationChars "$t".toList key = "\x7b\x7b $t".toList ++ '(' ::
          ((('\'' :: (quoteChars key ++ ['\''])) ++ [')']) ++ [' ', '\x7d', '\x7d']) := by
        simp [interpolationChars, callChars]
      have starts : ∀ d, "\x7b\x7b $t".toList.getLast? = some d →
          config.writingSystem.has d = false := by
        intro d last
        obtain rfl : 't' = d := by simpa using last
        exact alike.apart.resolve_right found
      exact lineIssues_ne_nil looked whole (eq_true_of_ne_false found) starts rfl none
  · rintro ⟨letter, sign⟩
    have space := (alike.signs ' ' (by decide)).trans sign
    have dollar := (alike.signs '$' (by decide)).trans sign
    have closing := (alike.signs ')' (by decide)).trans sign
    have blank : Quiet config.writingSystem [' '] (List.replicate 1 .interpolation) :=
      .of_forall (List.forall_mem_singleton.mpr space)
    have callee :
        ∀ c ∈ "$t".toList, config.writingSystem.has c = false := by simpa [dollar] using letter
    have opening : ∀ c ∈ "$t".toList ++ ['('], config.writingSystem.has c = false :=
      List.forall_mem_append.mpr ⟨callee, List.forall_mem_singleton.mpr sign⟩
    have shown : Quiet config.writingSystem (callChars "$t".toList key)
        (callClasses true "$t".toList key) := by
      refine .append (.of_forall opening)
        (.append (.of_not_isReported ?_) (.of_forall ?_) (by simp)) (by simp)
      · exact fun cls member => List.eq_of_mem_replicate member ▸ rfl
      · exact List.forall_mem_singleton.mpr closing
    have long : (callChars "$t".toList key).length = (callClasses true "$t".toList key).length := by
      simp [callChars, callClasses]
    exact lineIssues_eq_nil (.append (quiet_braces 2) (.append blank (.append shown (.append blank
      (quiet_braces 2) rfl) long) rfl) rfl)

/-- Where the signs and letters of escapes are not looked for, a key shows what it holds. -/
theorem has_quoteChars_iff {w : WritingSystem} (alike : w.SpellsAlike) (letter : w.has 't' = false)
    (sign : w.has '(' = false) {key : List Char} :
    (∀ c ∈ quoteChars key, w.has c = false) ↔ ∀ c ∈ key, w.has c = false := by
  constructor
  · intro outside c member
    by_cases written : quoteChar c = [c]
    · exact outside c (List.mem_flatMap.mpr ⟨c, member, by rw [written]; exact List.mem_cons_self⟩)
    · unfold quoteChar at written
      split at written
      · exact (alike.signs '\\' (by decide)).trans sign
      · exact (alike.signs '\'' (by decide)).trans sign
      · exact (alike.controls '\n' (by decide)).trans sign
      · exact (alike.controls '\r' (by decide)).trans sign
      · exact (written rfl).elim
  · intro outside c member
    rcases mem_quoteChars_of_mem member with inside | written
    · exact outside c inside
    · simp only [List.mem_cons, List.not_mem_nil, or_false] at written
      rcases written with rfl | written
      · exact (alike.signs '\\' (by decide)).trans sign
      · exact (alike.letters c (by simpa using written)).trans letter

/-- The value of a bound attribute is looked at as text, the key with the rest of the call. -/
theorem issues_bound {config : Config} {content : String} {name key : List Char}
    (plain : IsAttributeName name) (unquoted : '"' ∉ key)
    (text : content.toList = boundChars name "$t".toList key) : issues config content = [] ↔
      config.writingSystem.has 't' = false ∧ config.writingSystem.has '(' = false ∧
        ∀ c ∈ key, config.writingSystem.has c = false := by
  have held : HeldIn '"' "$t".toList := .of_forall (List.all_iff_forall_prop.mp (by decide))
  have unbroken : '\n' ∉ boundChars name "$t".toList key := by
    have unbroken : '\n' ∉ name := fun member => (plain '\n' member).2 (by decide)
    simp [boundChars, callChars, line_feed_not_mem_quoteChars, unbroken]
  have alike := config.spellsAlike
  rw [issues_of_line text unbroken (by simp [boundChars]), passed_bound plain held unquoted]
  constructor
  · intro none
    have looked : isCommentLine (boundChars name "$t".toList key) = false :=
      isCommentLine_cons (by decide) (by decide)
    have unseen {x b : List Char} {c : Char}
        (inside : '"' :: (callChars "$t".toList key ++ ['"']) = x ++ c :: b) (within : x ≠ [])
        (starts : ∀ d, x.getLast? = some d → config.writingSystem.has d = false) :
        config.writingSystem.has c = false := by
      by_contra found
      have whole : boundChars name "$t".toList key = (':' :: (name ++ ['='])) ++ x ++ c :: b := by
        rw [boundChars, inside, List.append_assoc]
      have counts : (boundClasses name "$t".toList key)[((':' :: (name ++ ['='])) ++ x).length]?.any
          (·.isReported) = true := by
        have there : x.length < ('"' :: (callChars "$t".toList key ++ ['"'])).length := by
          rw [inside]
          simp
        rw [boundClasses, List.getElem?_append_right (by simp), List.length_append,
          List.length_replicate, Nat.add_sub_cancel_left, List.getElem?_replicate, if_pos there]
        rfl
      refine lineIssues_ne_nil looked whole (eq_true_of_ne_false found) ?_ counts none
      rwa [List.getLast?_append_of_ne_nil _ within]
    have letter : config.writingSystem.has 't' = false := by
      refine alike.apart.elim id fun sign => ?_
      refine unseen (x := ['"', '$']) (c := 't') (by simp [callChars]; rfl)
        (by simp) fun d last => ?_
      obtain rfl : '$' = d := by simpa using last
      exact (alike.signs '$' (by decide)).trans sign
    have sign : config.writingSystem.has '(' = false := by
      refine unseen (x := ['"', '$', 't']) (c := '(') (by simp [callChars]; rfl)
        (by simp) fun d last => ?_
      obtain rfl : 't' = d := by simpa using last
      exact letter
    refine ⟨letter, sign, (has_quoteChars_iff alike letter sign).mp ?_⟩
    by_contra found
    simp only [not_forall, Bool.not_eq_false] at found
    obtain ⟨c, member, here⟩ := found
    obtain ⟨d, first⟩ := Option.isSome_iff_exists.mp (List.find?_isSome.mpr ⟨c, member, here⟩)
    obtain ⟨here, before, back, parts, clear⟩ := List.find?_eq_some_iff_append.mp first
    have outside : config.writingSystem.has d = false := by
      refine unseen (x := ['"', '$', 't', '(', '\''] ++ before) (c := d)
        (b := back ++ ['\'', ')', '"']) (by simp [callChars, parts]) (by simp) fun e last => ?_
      have opening : config.writingSystem.has '\'' = false :=
        (alike.signs '\'' (by decide)).trans sign
      rw [List.getLast?_append] at last
      cases ended : before.getLast? with
      | none =>
        obtain rfl : '\'' = e := by simpa [ended] using last
        exact opening
      | some c =>
        obtain rfl : c = e := by simpa [ended] using last
        simpa using clear c (List.mem_of_getLast? ended)
    rw [here] at outside
    cases outside
  · rintro ⟨letter, sign, outside⟩
    have silent : Quiet config.writingSystem (':' :: (name ++ ['=']))
        (List.replicate (':' :: (name ++ ['='])).length .bare) := quiet_braces _
    refine lineIssues_eq_nil (silent.append (.of_forall ?_) (by simp))
    have shown := (has_quoteChars_iff alike letter sign).mpr outside
    have dollar := (alike.signs '$' (by decide)).trans sign
    have single := (alike.signs '\'' (by decide)).trans sign
    have double := (alike.signs '"' (by decide)).trans sign
    have closing := (alike.signs ')' (by decide)).trans sign
    have callee :
        ∀ c ∈ "$t".toList, config.writingSystem.has c = false := by simpa [dollar] using letter
    simp only [callChars, List.forall_mem_cons, List.forall_mem_append,
      List.not_mem_nil, false_imp_iff, implies_true, and_true]
    exact ⟨double, ⟨⟨callee, sign⟩, ⟨single, shown, single⟩, closing⟩, double⟩

/-- What validation finds in the replacement of an occurrence, with the calls spelled as by default.
A call by itself is passed whatever its key. In braces the spelling `$t(` is looked at, and in a
bound attribute the key as well: there the whole value is a text in double quotes that no call
holds. -/
theorem issues_replacement_eq_nil_iff (config : Config)
    (defaults : config.calls = {}) (region : Region) (site : Site) (key : String)
    (plain : ∀ name, region = .template → site = .attribute name →
      IsAttributeName name.toList ∧ '"' ∉ key.toList) :
    issues config (replacement config.calls region site key []) = [] ↔
      (region = .template → site ≠ .ternaryBranch →
        config.writingSystem.has 't' = false ∧ config.writingSystem.has '(' = false ∧
          ∀ name, site = .attribute name → config.writingSystem.occursIn key = false) := by
  have spellings : (CallRules.ofConfig config).spellings = ["$t", "this.$t", "i18n.t"] := by
    rw [CallRules.ofConfig, defaults]
  have bare {callee : String} (listed : callee ∈ ["$t", "this.$t", "i18n.t"]) :
      issues config (call callee key []) = [] := by
    have calm : ∀ callee ∈ ["$t", "this.$t", "i18n.t"],
        (callee.toList.all fun c => decide (IsCalm c)) = true ∧ '\n' ∉ callee.toList := by decide
    obtain ⟨quiet, unbroken⟩ := calm callee listed
    exact issues_call (spellings ▸ listed) (List.all_iff_forall_prop.mp quiet) unbroken key
  have known : "$t" ∈ (CallRules.ofConfig config).spellings := spellings ▸ List.mem_cons_self
  have between : issues config ("\x7b\x7b " ++ call "$t" key [] ++ " \x7d\x7d") = [] ↔
      config.writingSystem.has 't' = false ∧ config.writingSystem.has '(' = false :=
    issues_interpolation key.toList known (by simp [toList_bare_call, interpolationChars])
  rw [defaults]
  cases region with
  | script => exact ⟨fun _ marked => (nomatch marked), fun _ => bare (by decide)⟩
  | file => exact ⟨fun _ marked => (nomatch marked), fun _ => bare (by decide)⟩
  | template =>
    match site, plain with
    | .ternaryBranch, _ => exact ⟨fun _ _ other => (other rfl).elim, fun _ => bare (by decide)⟩
    | .attribute name, plain =>
      obtain ⟨plain, unquoted⟩ := plain name rfl rfl
      have text : (":" ++ name ++ "=\"" ++ call "$t" key [] ++ "\"").toList =
          boundChars name.toList "$t".toList key.toList := by
        simp [toList_bare_call, boundChars]
      have found : issues config (":" ++ name ++ "=\"" ++ call "$t" key [] ++ "\"") = [] ↔ _ :=
        issues_bound plain unquoted text
      simpa [replacement, inMarkup, WritingSystem.occursIn] using found
    | .text, _ | .run, _ | .literal, _ | .templateLiteral, _ =>
      simpa [replacement, inMarkup] using between

theorem issues_replacement_placeholder :
    (({} : Config).calls = {} ∧ ∀ name, Region.template = .template →
      Site.attribute "placeholder" = .attribute name →
        IsAttributeName name.toList ∧ '"' ∉ "Common.ok".toList) ∧
    issues {} (replacement {} .template (.attribute "placeholder") "Common.ok" []) = [] := by
  have plain : ∀ name, Region.template = .template →
    Site.attribute "placeholder" = .attribute name →
      IsAttributeName name.toList ∧ '"' ∉ "Common.ok".toList := by
    intro name _ same
    obtain rfl := Site.attribute.inj same
    exact ⟨List.all_iff_forall_prop.mp (by decide), by decide⟩
  refine ⟨⟨rfl, plain⟩, ?_⟩
  refine (issues_replacement_eq_nil_iff {} rfl .template
    (.attribute "placeholder") "Common.ok" plain).mpr
    fun _ _ => ⟨by decide +kernel, by decide +kernel, fun _ _ => by decide +kernel⟩

/-- The key of a bound attribute is found, although the call is one that validation knows. -/
theorem bound_key_found : ¬ ∀ (region : Region) (site : Site) (key : String),
    issues {} (replacement {} region site key []) = [] := by
  intro accepted
  have found : issues {} (replacement {} .template (.attribute "placeholder") "Common.你好" []) ≠
      [] := by
    decide +kernel
  exact found (accepted _ _ _)

end Validation
end Phrasebook
