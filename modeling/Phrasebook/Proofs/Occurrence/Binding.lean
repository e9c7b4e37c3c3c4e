import Phrasebook.Occurrence.Binding
import Phrasebook.Proofs.Occurrence.Location
import Phrasebook.Proofs.Text.Character

/-!
Placeholders of one interpolation, and phrases. Each placeholder is an identifier: the name that its
expression has of its own, as long as no other expression has it already, or else the name of its
position. Such a name of a position is given without a look at the others, so that it may be the own
name of an expression before. An identifier in braces stands in a phrase where it is a placeholder,
and where a static chunk itself has it, and nowhere else.
-/

namespace Phrasebook.Binding

open Text

theorem isIdentifier_positionalName (index : Nat) : isIdentifier (positionalName index) = true := by
  have digits : ∀ c ∈ (toString index).toList, isIdentifierPart c = true := by
    intro c member
    have listed : c ∈ Nat.toDigits 10 index := by simpa using member
    have digit : c.isDigit = true := Nat.isDigit_of_mem_toDigits (by decide) (by decide) listed
    simp [isIdentifierPart, Char.isAlphanum, digit]
  have spelled : (positionalName index).toList = 'v' :: 'a' :: 'l' :: (toString index).toList := by
    simp [positionalName]
    rfl
  rw [isIdentifier, spelled, isIdentifierChars, List.all_cons, List.all_cons,
    List.all_eq_true.mpr digits]
  rfl

theorem positionalName_inj {i j : Nat} (same : positionalName i = positionalName j) : i = j := by
  have spelled (index : Nat) : (positionalName index).toList = 'v' :: 'a' :: 'l' ::
      (toString index).toList := by
    simp [positionalName]
    rfl
  have chars := congrArg String.toList same
  rw [spelled, spelled] at chars
  exact toList_natural_inj (by simpa using chars)

/-- The name that an expression has of its own: itself, or the last name of a dotted path. -/
def ownName? (expression : String) : Option String :=
  if isIdentifier (trimmed expression) then some (trimmed expression)
  else (lastName? (trimmed expression)).filter isIdentifier

theorem safeName_eq (expression : String) (index : Nat) :
    safeName expression index = (ownName? expression).getD (positionalName index) := by
  unfold safeName ownName?
  simp only
  split
  · rfl
  · cases lastName? (trimmed expression) with
    | none => rfl
    | some last => simp only [Option.filter]; split <;> rfl

theorem isIdentifier_safeName (expression : String) (index : Nat) :
    isIdentifier (safeName expression index) = true := by
  have positional := isIdentifier_positionalName index
  unfold safeName
  simp only
  split
  · assumption
  · split
    · split
      · assumption
      · exact positional
    · exact positional

/-- The placeholder of one more expression. -/
def behind (bound : List Binding) (expression : String) (index : Nat) : Binding :=
  let name := safeName expression index
  ⟨if taken bound name expression then positionalName index else name, expression⟩

theorem bindFrom_cons (bound : List Binding) (index : Nat) (expression : String)
    (expressions : List String) : bindFrom bound index (expression :: expressions) =
      bindFrom (bound ++ [behind bound expression index]) (index + 1) expressions := rfl

theorem isIdentifier_of_mem_bindFrom {bound : List Binding} {index : Nat}
    {expressions : List String} (known : ∀ b ∈ bound, isIdentifier b.label = true) :
    ∀ b ∈ bindFrom bound index expressions, isIdentifier b.label = true := by
  induction expressions generalizing bound index with
  | nil => exact known
  | cons expression expressions ih =>
    refine ih fun b member => ?_
    rcases List.mem_append.mp member with earlier | new
    · exact known b earlier
    · obtain rfl := List.mem_singleton.mp new
      simp only
      split
      · exact isIdentifier_positionalName index
      · exact isIdentifier_safeName expression index

/-- Every placeholder is a plain identifier. -/
theorem isIdentifier_of_mem_bind {expressions : List String} {b : Binding}
    (member : b ∈ bind expressions) : isIdentifier b.label = true :=
  isIdentifier_of_mem_bindFrom (by simp) b member

theorem length_bindFrom (bound : List Binding) (index : Nat) (expressions : List String) :
    (bindFrom bound index expressions).length = bound.length + expressions.length := by
  induction expressions generalizing bound index with
  | nil => rfl
  | cons expression expressions ih =>
    rw [bindFrom, ih, List.length_append, List.length_singleton, List.length_cons]
    omega

/-- There is one placeholder for each expression. -/
theorem length_bind (expressions : List String) : (bind expressions).length = expressions.length :=
  (length_bindFrom [] 0 expressions).trans (Nat.zero_add _)

theorem bind_eq_nil_iff {expressions : List String} : bind expressions = [] ↔ expressions = [] := by
  rw [← List.length_eq_zero_iff, length_bind, List.length_eq_zero_iff]

theorem expressions_bindFrom (bound : List Binding) (index : Nat) (expressions : List String) :
    (bindFrom bound index expressions).map (·.expression) = bound.map
      (·.expression) ++ expressions := by
  induction expressions generalizing bound index with
  | nil => simp [bindFrom]
  | cons expression expressions ih => simp [bindFrom_cons, ih, behind]

/-- The placeholders are those of the expressions, in their order. -/
theorem expressions_bind (expressions : List String) :
    (bind expressions).map (·.expression) = expressions := expressions_bindFrom [] 0 expressions

/-- Later expressions leave the placeholders before them as they are. -/
theorem prefix_bindFrom (bound : List Binding) (index : Nat) (expressions : List String) :
    bound <+: bindFrom bound index expressions := by
  induction expressions generalizing bound index with
  | nil => exact List.prefix_rfl
  | cons expression expressions ih =>
    exact (List.prefix_append _ _).trans (ih (bound ++ [behind bound expression index]) (index + 1))

/-- A placeholder is made with a look at those before it. -/
theorem behind_of_bindFrom {bound : List Binding} {expressions : List String}
    {i : Nat} {b : Binding} (here : (bindFrom bound bound.length expressions)[i]? = some b) :
    bound[i]? = some b ∨ ∃ front, front <+: bindFrom bound bound.length expressions ∧
    front.length = i ∧
      b = behind front b.expression i := by
  induction expressions generalizing bound with
  | nil => exact .inl here
  | cons expression expressions ih =>
    have length : bound.length + 1 = (bound ++ [behind bound expression bound.length]).length :=
      by simp
    rw [bindFrom_cons, length] at here ⊢
    rcases ih here with held | later
    · rcases Nat.lt_trichotomy i bound.length with before | rfl | after
      · exact .inl (List.getElem?_append_left before ▸ held)
      · refine .inr ⟨bound, (List.prefix_append _ _).trans (prefix_bindFrom _ _ _), rfl, ?_⟩
        obtain rfl : behind bound expression bound.length = b := by simpa using held
        rfl
      · rw [List.getElem?_eq_none (by simpa using Nat.succ_le_of_lt after)] at held
        cases held
    · exact .inr later

/-- An expression keeps the name that it has of its own: no other expression before has it. -/
def KeepsName (bound : List Binding) (i : Nat) : Prop :=
  ∃ b name, bound[i]? = some b ∧ ownName? b.expression = some name ∧
    ∀ k < i, ∀ c, bound[k]? = some c → c.label = name → c.expression = b.expression

/-- An expression that keeps its name is labelled by it, any other one by its position. -/
theorem label_cases {expressions : List String} {i : Nat} {b : Binding}
    (here : (bind expressions)[i]? = some b) :
    KeepsName (bind expressions) i ∧ ownName? b.expression = some b.label ∨
      ¬ KeepsName (bind expressions) i ∧ b.label = positionalName i := by
  have earlier : ([] : List Binding)[i]? = some b ∨ ∃ front, front <+: bind expressions ∧
    front.length = i ∧
      b = behind front b.expression i := behind_of_bindFrom here
  obtain ⟨front, before, rfl, made⟩ := earlier.resolve_left (by simp)
  have label := congrArg Binding.label made
  have earlier {c : Binding} : c ∈ front ↔ ∃ k < front.length, (bind expressions)[k]? = some c := by
    obtain ⟨rest, whole⟩ := before
    simp only [← whole, List.mem_iff_getElem?]
    constructor
    · rintro ⟨k, found⟩
      obtain ⟨inside, -⟩ := List.getElem?_eq_some_iff.mp found
      exact ⟨k, inside, (List.getElem?_append_left inside).trans found⟩
    · rintro ⟨k, inside, found⟩
      exact ⟨k, (List.getElem?_append_left inside).symm.trans found⟩
  have free {name : String} : taken front name b.expression = false ↔
      ∀ k < front.length, ∀ c, (bind expressions)[k]? = some c → c.label = name →
        c.expression = b.expression := by
    simp only [taken, List.any_eq_false, earlier, Bool.and_eq_true, beq_iff_eq, bne_iff_ne]
    grind
  simp only [behind, safeName_eq] at label
  cases own : ownName? b.expression with
  | none =>
    refine .inr ⟨?_, by simpa [own] using label⟩
    rintro ⟨c, name, same, named, -⟩
    obtain rfl := Option.some.inj (here.symm.trans same)
    rw [own] at named
    cases named
  | some name =>
    rw [own, Option.getD_some] at label
    by_cases shared : taken front name b.expression = true
    · rw [if_pos shared] at label
      refine .inr ⟨?_, label⟩
      rintro ⟨c, other, same, named, alone⟩
      obtain rfl := Option.some.inj (here.symm.trans same)
      obtain rfl := Option.some.inj (own.symm.trans named)
      rw [free.mpr alone] at shared
      cases shared
    · rw [if_neg shared] at label
      exact .inl ⟨⟨b, name, here, own, free.mp (by simpa using shared)⟩, by rw [label]⟩

/-- The main statement about one interpolation, whatever its expressions are. There is one
placeholder for each of them, in order, and each is an identifier. Two different expressions share
one exactly if the earlier is named by itself as the later is by its position, and the earlier keeps
its name but the later does not. -/
theorem shared_label_iff (expressions : List String) :
    (bind expressions).map (·.expression) = expressions ∧
    (∀ b ∈ bind expressions, isIdentifier b.label = true) ∧
    ∀ i j b c, i < j → (bind expressions)[i]? = some b → (bind expressions)[j]? = some c →
      b.expression ≠ c.expression →
      (b.label = c.label ↔ ownName? b.expression = some (positionalName j) ∧
        KeepsName (bind expressions) i ∧ ¬ KeepsName (bind expressions) j) := by
  refine ⟨expressions_bind expressions, fun b => isIdentifier_of_mem_bind, ?_⟩
  intro i j b c before first second differ
  rcases label_cases second with ⟨⟨d, name, same, named, alone⟩, own⟩ | ⟨loses, positional⟩
  · -- The later expression keeps its name, which no other one before it has.
    obtain rfl := Option.some.inj (second.symm.trans same)
    obtain rfl := Option.some.inj (own.symm.trans named)
    refine ⟨fun shared => (differ (alone i before b first shared)).elim, fun ⟨_, _, loses⟩ => ?_⟩
    exact (loses ⟨c, c.label, second, own, alone⟩).elim
  · rw [positional]
    rcases label_cases first with ⟨keeps, own⟩ | ⟨loses', positional'⟩
    · rw [own, Option.some.injEq]
      exact ⟨fun same => ⟨same, keeps, loses⟩, And.left⟩
    · rw [positional']
      refine ⟨fun same => absurd (positionalName_inj same) (Nat.ne_of_lt before),
        fun ⟨_, keeps, _⟩ => ?_⟩
      exact (loses' keeps).elim

/-- The last of three expressions has the name of the second one, and the first is named as the last
is by its position. -/
theorem shared_label_iff_overtaken :
    let bound := bind ["val2", "user.name", "role.name"]
    bound.map (·.label) = ["val2", "name", "val2"] ∧
      ownName? "val2" = some (positionalName 2) ∧ KeepsName bound 0 ∧ ¬ KeepsName bound 2 := by
  intro bound
  have made : bound = [⟨"val2", "val2"⟩, ⟨"name", "user.name"⟩, ⟨"val2", "role.name"⟩] :=
    by decide +kernel
  have first : bound[0]? = some ⟨"val2", "val2"⟩ := by rw [made]; rfl
  have last : bound[2]? = some ⟨"val2", "role.name"⟩ := by rw [made]; rfl
  have law := (shared_label_iff ["val2", "user.name", "role.name"]).2.2 0 2 _ _
      (by decide) first last (by decide)
  refine ⟨?_, law.mp rfl⟩
  rw [made]
  rfl

/-- An expression that is written as the positional name of a later one has its placeholder as well.
-/
theorem positional_name_shared :
    ∃ b ∈ bind ["val1", "a + b"], ∃ c ∈ bind ["val1", "a + b"],
      b.label = c.label ∧ b.expression ≠ c.expression := by
  decide +kernel

end Phrasebook.Binding

namespace Phrasebook.Phrase

open Text

variable {name : String} {label front cs rest : List Char}

/-- An identifier in braces. -/
def placeholder (name : List Char) : List Char := '\x7b' :: name ++ ['\x7d']

/-- A text has a name in braces somewhere. -/
def Writes (text name : String) : Prop := placeholder name.toList <:+: text.toList

/-- A text without braces. -/
def Bare (cs : List Char) : Prop := '\x7b' ∉ cs ∧ '\x7d' ∉ cs

theorem bare_of_isIdentifier (identifier : isIdentifier name = true) : Bare name.toList :=
  ⟨not_mem_of_isIdentifier identifier (by decide), not_mem_of_isIdentifier identifier (by decide)⟩

/-- Chunks with names in braces between them. -/
def interleave : List (List Char) → List (List Char) → List Char
  | chunk :: chunks, label :: labels => chunk ++ (placeholder label ++ interleave chunks labels)
  | chunks, _ => chunks.flatten

/-- A beginning without some character does not reach beyond that character. -/
theorem prefix_append_cons_iff {c : Char} (free : c ∉ cs) :
    cs <+: front ++ c :: rest ↔ cs <+: front := by
  refine ⟨fun before => ?_, fun before => before.trans (List.prefix_append _ _)⟩
  induction cs generalizing front with
  | nil => exact List.nil_prefix
  | cons d cs ih =>
    obtain ⟨other, free⟩ := not_or.mp (List.mem_cons.not.mp free)
    cases front with
    | nil => exact absurd (List.cons_prefix_cons.mp before).1.symm other
    | cons e front =>
      obtain ⟨same, inner⟩ := List.cons_prefix_cons.mp before
      exact List.cons_prefix_cons.mpr ⟨same, ih free inner⟩

/-- A name in braces does not stand across a brace that opens. -/
theorem infix_append_iff (bare : Bare cs) : placeholder cs <:+: front ++ '\x7b' :: rest ↔
    placeholder cs <:+: front ∨ placeholder cs <:+: '\x7b' :: rest := by
  induction front with
  | nil =>
    have empty : ¬ placeholder cs <:+: [] := fun inside => nomatch List.eq_nil_of_infix_nil inside
    exact (or_iff_right empty).symm
  | cons c front ih =>
    have ends : '\x7b' ∉ cs ++ ['\x7d'] := by simpa using bare.1
    rw [List.cons_append, List.infix_cons_iff, List.infix_cons_iff, ih, ← or_assoc]
    refine or_congr_left (or_congr_left ?_)
    rw [placeholder, List.cons_append, List.cons_prefix_cons, List.cons_prefix_cons,
      prefix_append_cons_iff ends]

/-- A name in braces begins with a brace that opens. -/
theorem infix_append_of_free (free : '\x7b' ∉ front) :
    placeholder cs <:+: front ++ rest ↔ placeholder cs <:+: rest := by
  induction front with
  | nil => rfl
  | cons c front ih =>
    obtain ⟨other, free⟩ := not_or.mp (List.mem_cons.not.mp free)
    rw [List.cons_append, List.infix_cons_iff, ih free]
    refine or_iff_right fun before => other ?_
    exact (List.cons_prefix_cons.mp before).1

/-- A name in braces at another one is that one. -/
theorem prefix_placeholder_iff (bare : Bare cs) (other : Bare label) :
    placeholder cs <+: placeholder label ++ rest ↔ cs = label := by
  constructor
  · rintro ⟨more, whole⟩
    have named {name : List Char} (bare : Bare name) (behind : List Char) :
        ((placeholder name ++ behind).tail.takeWhile (· != '\x7d')) = name := by
      have free : ∀ c ∈ name, (c != '\x7d') = true := by
        intro c member
        rw [bne_iff_ne]
        rintro rfl
        exact bare.2 member
      simp [placeholder, List.takeWhile_append_of_pos free]
    rw [← named bare more, whole, named other rest]
  · rintro rfl
    exact List.prefix_append _ _

theorem infix_placeholder_append_iff (bare : Bare cs) (other : Bare label) :
    placeholder cs <:+: placeholder label ++ rest ↔ cs = label ∨ placeholder cs <:+: rest := by
  have free : '\x7b' ∉ label ++ ['\x7d'] := by simpa using other.1
  have tail : placeholder cs <:+: label ++ ['\x7d'] ++ rest ↔ placeholder cs <:+: rest :=
    infix_append_of_free free
  have head : placeholder cs <+: placeholder label ++ rest ↔ cs = label :=
    prefix_placeholder_iff bare other
  rw [← head, ← tail]
  exact List.infix_cons_iff

/-- An identifier in braces stands in a phrase where it is a placeholder or where a chunk has it. -/
theorem infix_interleave_iff (bare : Bare cs) {labels : List (List Char)}
    (others : ∀ label ∈ labels, Bare label) :
    ∀ {chunks : List (List Char)}, chunks.length = labels.length + 1 →
      (placeholder cs <:+: interleave chunks labels ↔ cs ∈ labels ∨
        ∃ chunk ∈ chunks, placeholder cs <:+: chunk) := by
  induction labels with
  | nil =>
    intro chunks count
    obtain ⟨chunk, rfl⟩ := List.length_eq_one_iff.mp count
    simp [interleave]
  | cons label labels ih =>
    obtain ⟨here, others⟩ := List.forall_mem_cons.mp others
    rintro (_ | ⟨chunk, chunks⟩) count
    · cases count
    · change placeholder cs <:+: chunk ++ '\x7b' ::
        (label ++ ['\x7d'] ++ interleave chunks labels) ↔ _
      rw [infix_append_iff bare]
      change _ ∨ placeholder cs <:+: placeholder label ++ interleave chunks labels ↔ _
      rw [infix_placeholder_append_iff bare here, ih others (Nat.succ.inj count)]
      simp only [List.mem_cons, exists_eq_or_imp]
      grind

end Phrasebook.Phrase
