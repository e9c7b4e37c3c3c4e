import Phrasebook.Component.Split
import Phrasebook.Proofs.Text.Slice

/-!
Where the markup of a component lies: behind the first opening template tag, up to the first closing
one that makes as many closing tags as opening ones. Tags are counted whatever stands between them.
-/

namespace Phrasebook.Component

open Text

def openings (tags : List Tag) : Nat := tags.countP (!·.closing)

def closings (tags : List Tag) : Nat := tags.countP (·.closing)

variable {depth : Nat} {tags inside rest : List Tag} {tag shut : Tag} {stop : Nat}

theorem openings_of_open (opens : tag.closing = false) :
    openings (tag :: tags) = openings tags + 1 := by
  simp [openings, opens]

theorem closings_of_open (opens : tag.closing = false) :
    closings (tag :: tags) = closings tags := by
  simp [closings, opens]

theorem openings_of_closing (closes : tag.closing = true) :
    openings (tag :: tags) = openings tags := by
  simp [openings, closes]

theorem closings_of_closing (closes : tag.closing = true) :
    closings (tag :: tags) = closings tags + 1 := by
  simp [closings, closes]

theorem balancedStop?_open (opens : tag.closing = false) :
    balancedStop? depth (tag :: tags) = balancedStop? (depth + 1) tags := by
  simp [balancedStop?.eq_def depth (tag :: tags), opens]

theorem balancedStop?_last (closes : tag.closing = true) :
    balancedStop? 1 (tag :: tags) = some tag.span.start := by
  simp [balancedStop?, closes]

theorem balancedStop?_closing (closes : tag.closing = true) :
    balancedStop? (depth + 2) (tag :: tags) = balancedStop? (depth + 1) tags := by
  simp [balancedStop?, closes]

/-- Tags that go on inside an open one up to the tag that closes it, where the depth is the number
of further tags that have to be closed before. -/
structure Closes (depth : Nat) (tags inside : List Tag) (shut : Tag) (rest : List Tag) : Prop where
  parts : tags = inside ++ shut :: rest
  closing : shut.closing = true
  balanced : closings inside = openings inside + depth
  within : ∀ front, front <+: inside → closings front ≤ openings front + depth

theorem Closes.behind_open (opens : tag.closing = false)
    (later : Closes (depth + 1) tags inside shut rest) :
    Closes depth (tag :: tags) (tag :: inside) shut rest where
  parts := by rw [later.parts, List.cons_append]
  closing := later.closing
  balanced := by
    rw [closings_of_open opens, openings_of_open opens, later.balanced]
    omega
  within front begins := by
    rcases List.prefix_cons_iff.mp begins with rfl | ⟨front, rfl, begins⟩
    · exact Nat.zero_le _
    · have bound := later.within front ((List.cons_prefix_cons.mp begins).2)
      rw [closings_of_open opens, openings_of_open opens]
      omega

theorem Closes.behind_closing (closes : tag.closing = true)
    (later : Closes depth tags inside shut rest) :
    Closes (depth + 1) (tag :: tags) (tag :: inside) shut rest where
  parts := by rw [later.parts, List.cons_append]
  closing := later.closing
  balanced := by
    rw [closings_of_closing closes, openings_of_closing closes, later.balanced]
    omega
  within front begins := by
    rcases List.prefix_cons_iff.mp begins with rfl | ⟨front, rfl, begins⟩
    · exact Nat.zero_le _
    · have bound := later.within front ((List.cons_prefix_cons.mp begins).2)
      rw [closings_of_closing closes, openings_of_closing closes]
      omega

theorem closes_of_balancedStop? (found : balancedStop? (depth + 1) tags = some stop) :
    ∃ inside shut rest, Closes depth tags inside shut rest ∧ stop = shut.span.start := by
  induction tags generalizing depth with
  | nil => cases found
  | cons tag tags ih =>
    cases kind : tag.closing with
    | false =>
      rw [balancedStop?_open kind] at found
      obtain ⟨inside, shut, rest, later, same⟩ := ih found
      exact ⟨tag :: inside, shut, rest, later.behind_open kind, same⟩
    | true =>
      cases depth with
      | zero =>
        rw [balancedStop?_last kind] at found
        exact ⟨[], tag, tags, ⟨rfl, kind, rfl, by simp [closings]⟩, (Option.some.inj found).symm⟩
      | succ depth =>
        rw [balancedStop?_closing kind] at found
        obtain ⟨inside, shut, rest, later, same⟩ := ih found
        exact ⟨tag :: inside, shut, rest, later.behind_closing kind, same⟩

/-- The search stops at the latest where the numbers of tags become equal. -/
theorem balancedStop?_isSome (closing : shut.closing = true)
    (balanced : closings inside = openings inside + depth) :
    (balancedStop? (depth + 1) (inside ++ shut :: rest)).isSome := by
  induction inside generalizing depth with
  | nil =>
    obtain rfl : depth = 0 := by simpa [closings, openings] using balanced.symm
    rw [List.nil_append, balancedStop?_last closing]
    rfl
  | cons tag inside ih =>
    rw [List.cons_append]
    cases kind : tag.closing with
    | false =>
      rw [closings_of_open kind, openings_of_open kind] at balanced
      rw [balancedStop?_open kind]
      exact ih (by omega)
    | true =>
      rw [closings_of_closing kind, openings_of_closing kind] at balanced
      cases depth with
      | zero => rw [balancedStop?_last kind]; rfl
      | succ depth =>
        rw [balancedStop?_closing kind]
        exact ih (by omega)

/-- No tag inside would do. -/
theorem Closes.first (closes : Closes 0 tags inside shut rest) {front back : List Tag}
    (parts : inside = front ++ tag :: back) (closing : tag.closing = true) :
    closings front ≠ openings front := by
  intro balanced
  have bound := closes.within (front ++ [tag]) ⟨back, by simp [parts]⟩
  simp only [closings, openings, List.countP_append, List.countP_singleton] at bound balanced
  simp only [closing, Bool.not_true, Bool.false_eq_true, if_true, if_false] at bound
  omega

/-- A position between two characters of a text. -/
def Cut (text : List Char) (n : Nat) : Prop :=
  ∃ front back, text = front ++ back ∧ byteLength front = n

/-- Tags of a text one behind the other from a position on. -/
def Placed (text : List Char) : Nat → List Tag → Prop
  | _, [] => True
  | last, tag :: tags => (last ≤ tag.span.start ∧ tag.span.start ≤ tag.span.stop) ∧
      (Cut text tag.span.start ∧ Cut text tag.span.stop) ∧ Placed text tag.span.stop tags

variable {text : List Char} {last : Nat} {tags : List Tag}

theorem Placed.mono {m n : Nat} (le : m ≤ n) (placed : Placed text n tags) :
    Placed text m tags := by
  cases tags with
  | nil => trivial
  | cons tag tags => exact ⟨⟨Nat.le_trans le placed.1.1, placed.1.2⟩, placed.2⟩

theorem Placed.filter (keep : Tag → Bool) (placed : Placed text last tags) :
    Placed text last (tags.filter keep) := by
  induction tags generalizing last with
  | nil => trivial
  | cons tag tags ih =>
    obtain ⟨order, cuts, later⟩ := placed
    rw [List.filter_cons]
    split
    · exact ⟨order, cuts, ih later⟩
    · exact (ih later).mono (Nat.le_trans order.1 order.2)

theorem Placed.behind {front back : List Tag} (placed : Placed text last (front ++ tag :: back)) :
    Placed text last (tag :: back) := by
  induction front generalizing last with
  | nil => exact placed
  | cons first front ih => exact (ih placed.2.2).mono (Nat.le_trans placed.1.1 placed.1.2)

/-- What is known of the search for tags at a position: a tag that has begun does so not before
the end of the last one. -/
def TagBegun (text : List Char) (last p : Nat) : Option OpenTag → Prop
  | none => last ≤ p
  | some tag => last ≤ tag.start ∧ tag.start ≤ p ∧ Cut text tag.start

theorem tagsFrom_placed {begun : Option OpenTag} {past cs : List Char} {p : Nat}
    (whole : text = past ++ cs) (position : byteLength past = p)
    (held : TagBegun text last p begun) : Placed text last (tagsFrom begun cs p) := by
  fun_induction tagsFrom begun cs p generalizing past last with
  | case1 => trivial
  | case2 tag c cs p closes ih =>
    obtain rfl : c = '>' := by simpa using closes
    have whole' : text = (past ++ ['>']) ++ cs := by rw [whole, List.append_cons]
    have position' : byteLength (past ++ ['>']) = p + 1 := by rw [byteLength_concat, position]; rfl
    obtain ⟨behind, before, cut⟩ := held
    exact ⟨⟨behind, Nat.le_succ_of_le before⟩, ⟨cut, _, _, whole', position'⟩,
      ih whole' position' (Nat.le_refl _)⟩
  | case3 tag c cs p _ ih =>
    obtain ⟨behind, before, cut⟩ := held
    exact ih (by rw [whole, List.append_cons]) (by rw [byteLength_concat, position])
      ⟨behind, Nat.le_add_right_of_le before, cut⟩
  | case4 c cs p closing found ih =>
    obtain rfl : c = '<' := by
      by_contra other
      simp [other] at found
    exact ih (by rw [whole, List.append_cons]) (by rw [byteLength_concat, position]; rfl)
      ⟨held, Nat.le_succ p, past, _, whole, position⟩
  | case5 c cs p _ ih =>
    exact ih (by rw [whole, List.append_cons]) (by rw [byteLength_concat, position])
      (Nat.le_add_right_of_le held)

theorem templateTags_placed (source : List Char) : Placed source 0 (templateTags source) :=
  Placed.filter _ (tagsFrom_placed (List.nil_append source).symm rfl (Nat.zero_le 0))

/-- The first opening tag of a source, the tags inside the markup that it opens, and the tag that
closes it. -/
structure Encloses (source : List Char) (stray : List Tag) (first : Tag)
    (inside : List Tag) (shut : Tag) (rest : List Tag) : Prop where
  tags : templateTags source = stray ++ first :: (inside ++ shut :: rest)
  stray : ∀ tag ∈ stray, tag.closing = true
  opening : first.closing = false
  closing : shut.closing = true
  balanced : closings (inside ++ [shut]) = openings (first :: inside)

variable {source : List Char} {stray : List Tag} {first : Tag}

theorem templateSpan?_stray (tags : List Tag) (closing : ∀ tag ∈ stray, tag.closing = true) :
    templateSpan? (stray ++ tags) = templateSpan? tags := by
  rw [templateSpan?, templateSpan?, List.dropWhile_append_of_pos closing]

theorem templateSpan?_opening (tags : List Tag) (opening : first.closing = false) :
    templateSpan? (first :: tags) = (balancedStop? 1 tags).map fun stop =>
      ⟨first.span.stop, stop⟩ := by
  rw [templateSpan?, List.dropWhile_cons_of_neg (by simp [opening])]

theorem Encloses.balanced_inside (encloses : Encloses source stray first inside shut rest) :
    closings inside = openings inside := by
  have balanced := encloses.balanced
  rw [openings_of_open encloses.opening] at balanced
  simpa [closings, encloses.closing] using balanced

/-- From the end of the opening tag to the beginning of the closing one there is a part of the
source. -/
theorem Encloses.parts (encloses : Encloses source stray first inside shut rest) :
    ∃ front content back, source = front ++ content ++ back ∧
      byteLength front = first.span.stop ∧ byteLength (front ++ content) = shut.span.start := by
  have placed := templateTags_placed source
  rw [encloses.tags] at placed
  obtain ⟨-, ⟨-, before, behind, cut, start⟩, later⟩ := placed.behind
  obtain ⟨⟨order, -⟩, ⟨⟨front, back, cut', stop⟩, -⟩, -⟩ := later.behind
  obtain ⟨content, rfl, -⟩ := slice?_between cut cut' (by rw [start, stop]; exact order)
  exact ⟨before, content, back, cut', start, stop⟩

theorem template?_of_parts {span : Span} {front content back : List Char}
    (found : templateSpan? (templateTags source) = some span)
    (whole : source = front ++ content ++ back) (start : byteLength front = span.start)
    (stop : byteLength (front ++ content) = span.stop) :
    template? source = some ⟨content, lineFeeds front + 1, span.start⟩ := by
  have sliced : slice? source span = some content :=
    slice?_eq_some_iff.mpr ⟨front, back, whole, start.symm, by rw [← stop, byteLength_append]⟩
  have cut : splitBytes? span.start source = some (front, content ++ back) := by
    rw [whole, ← start, List.append_assoc, splitBytes?_append]
  rw [template?, found, Option.bind_some, blockAt?, cut, sliced]
  rfl

theorem templateSpan?_cases {span : Span}
    (found : templateSpan? (templateTags source) = some span) :
    ∃ stray first inside shut rest, Encloses source stray first inside shut rest ∧
      Closes 0 (inside ++ shut :: rest) inside shut rest ∧
      span = ⟨first.span.stop, shut.span.start⟩ := by
  have whole := (List.takeWhile_append_dropWhile (p := (·.closing)) (l := templateTags source)).symm
  have stray : ∀ tag ∈ (templateTags source).takeWhile (·.closing), tag.closing = true :=
    List.all_eq_true.mp List.all_takeWhile
  unfold templateSpan? at found
  split at found
  · cases found
  · rename_i first tags opened
    have opening : first.closing = false := by
      have head := List.head?_dropWhile_not (·.closing) (templateTags source)
      rw [opened] at head
      simpa using head
    obtain ⟨stop, balanced, rfl⟩ := Option.map_eq_some_iff.mp found
    obtain ⟨inside, shut, rest, closes, rfl⟩ := closes_of_balancedStop? balanced
    obtain rfl := closes.parts
    rw [opened] at whole
    refine ⟨_, first, inside, shut, rest, ⟨whole, stray, opening, closes.closing, ?_⟩, closes, rfl⟩
    have balanced := closes.balanced
    rw [openings_of_open opening, ← Nat.add_zero (openings inside), ← balanced]
    simp [closings, closes.closing]

theorem Encloses.isSome (encloses : Encloses source stray first inside shut rest) :
    (templateSpan? (templateTags source)).isSome := by
  rw [encloses.tags, templateSpan?_stray _ encloses.stray, templateSpan?_opening _ encloses.opening,
    Option.isSome_map]
  exact balancedStop?_isSome encloses.closing encloses.balanced_inside

/-- A component has markup exactly if behind the first opening tag some closing tag makes as many
closing as opening ones. The markup is the part of the source between the two, up to the first such
closing tag; inside it never more tags are closed than have been opened, and closing tags before the
first opening one do not matter. -/
theorem template?_encloses (source : List Char) :
    ((template? source).isSome ↔
      ∃ stray first inside shut rest, Encloses source stray first inside shut rest) ∧
    (∀ block ∈ template? source, ∃ stray first inside shut rest,
      Encloses source stray first inside shut rest ∧
      (∀ front tag back, inside = front ++ tag :: back → tag.closing = true →
        closings (front ++ [tag]) ≠ openings (first :: front)) ∧
      (∀ front, front <+: inside → closings front ≤ openings front) ∧
      ∃ front back, source = front ++ block.content ++ back ∧
        (byteLength front = first.span.stop ∧
          byteLength (front ++ block.content) = shut.span.start) ∧
        block.offset = first.span.stop ∧ block.startLine = 1 + lineFeeds front) ∧
    ∀ stray tags, (∀ tag ∈ stray, tag.closing = true) →
      templateSpan? (stray ++ tags) = templateSpan? tags := by
  have described {span : Span} (found : templateSpan? (templateTags source) = some span) :
      ∃ stray first inside shut rest, Encloses source stray first inside shut rest ∧
        Closes 0 (inside ++ shut :: rest) inside shut rest ∧
        ∃ front content back, source = front ++ content ++ back ∧
          (byteLength front = first.span.stop ∧ byteLength (front ++ content) = shut.span.start) ∧
          template? source = some ⟨content, lineFeeds front + 1, first.span.stop⟩ := by
    obtain ⟨stray, first, inside, shut, rest, encloses, closes, rfl⟩ := templateSpan?_cases found
    obtain ⟨front, content, back, whole, start, stop⟩ := encloses.parts
    exact ⟨stray, first, inside, shut, rest, encloses, closes, front, content, back,
      whole, ⟨start, stop⟩, template?_of_parts found whole start stop⟩
  refine ⟨⟨fun some_block => ?_, ?_⟩, fun block found => ?_, fun stray tags =>
    templateSpan?_stray tags⟩
  · obtain ⟨block, found⟩ := Option.isSome_iff_exists.mp some_block
    obtain ⟨span, spanned, -⟩ := Option.bind_eq_some_iff.mp found
    obtain ⟨stray, first, inside, shut, rest, encloses, -⟩ := described spanned
    exact ⟨stray, first, inside, shut, rest, encloses⟩
  · rintro ⟨stray, first, inside, shut, rest, encloses⟩
    obtain ⟨span, spanned⟩ := Option.isSome_iff_exists.mp encloses.isSome
    obtain ⟨_, _, _, _, _, _, _, _, _, _, _, _, found⟩ := described spanned
    rw [found]
    rfl
  · obtain ⟨span, spanned, -⟩ := Option.bind_eq_some_iff.mp found
    obtain ⟨stray, first, inside, shut, rest, encloses, closes, front, content, back,
        whole, ends, same⟩ :=
      described spanned
    obtain rfl := Option.some.inj (found.symm.trans same)
    refine ⟨stray, first, inside, shut, rest, encloses, fun before tag after parts closing =>
      ?_, closes.within, front, back, whole, ends, rfl, Nat.add_comm _ _⟩
    rw [openings_of_open encloses.opening]
    simpa [closings, closing] using closes.first parts closing

/-- A closing tag in front, a nested template and one that is closed in itself. -/
example :
  (template? "</template><template><template/><template>a</template>\n</template>".toList).map
    (fun block => (String.ofList block.content, block.startLine, block.offset)) =
      some ("<template/><template>a</template>\n", 1, 21) := by decide

end Phrasebook.Component
