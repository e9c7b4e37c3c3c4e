import Phrasebook.Proofs.Locale.Store
import Mathlib.Data.List.Pairwise

/-!
Names of modules and of their files. The file of a module has the name of the module with a small
letter in front, and a module has the name of its file with a capital; the two undo each other, six
capitals aside. What upper case leads to is upper case already, and lower case leads back from it to
the same character, as the two tables show where a row of the one is compared with a row of the
other.
-/

namespace Phrasebook

namespace Character

namespace CaseRow

variable {a b row : CaseRow} {code : Nat}

theorem covers_iff : row.covers code = true ↔
    row.first ≤ code ∧ code ≤ row.last ∧ (code - row.first) % row.step = 0 := by
  simp [covers, and_assoc]

/-- That every other character of `b` is met by none of `a`. -/
def isOdd (a b : CaseRow) (rest : Nat) : Bool :=
  Nat.beq b.step 2 && (Nat.beq a.step 2 || Nat.beq a.first a.last) &&
    Nat.beq ((a.first + b.first) % 2) rest

theorem mod_two_of_isOdd {rest : Nat} (odd : isOdd a b rest = true)
    (covers : a.covers code = true) : b.step = 2 ∧ (code + b.first) % 2 = rest := by
  simp only [isOdd, Bool.and_eq_true, Bool.or_eq_true, Nat.beq_eq] at odd
  obtain ⟨⟨two, steps⟩, parity⟩ := odd
  obtain ⟨least, most, step⟩ := covers_iff.mp covers
  refine ⟨two, ?_⟩
  rcases steps with steps | one
  · rw [steps] at step
    omega
  · omega

/-- The characters of a row. -/
def codes (row : CaseRow) : List Nat :=
  (List.range ((row.last - row.first) / row.step + 1)).map fun k => row.first + k * row.step

theorem mem_codes (covers : row.covers code = true) : code ∈ row.codes := by
  obtain ⟨least, most, step⟩ := covers_iff.mp covers
  have count : (code - row.first) / row.step < (row.last - row.first) / row.step + 1 :=
    Nat.lt_succ_of_le (Nat.div_le_div_right (Nat.sub_le_sub_right most _))
  refine List.mem_map.mpr ⟨_, List.mem_range.mpr count, ?_⟩
  rw [Nat.div_mul_cancel (Nat.dvd_of_mod_eq_zero step)]
  omega

/-- That the second row has all characters of the first. -/
def isPart (a b : CaseRow) : Bool :=
  Nat.ble b.first a.first && Nat.ble a.last b.last && (Nat.beq b.step 1 || isOdd a b 0)

theorem covers_of_isPart (part : a.isPart b = true) (covers : a.covers code = true) :
    b.covers code = true := by
  obtain ⟨least, most, -⟩ := covers_iff.mp covers
  simp only [isPart, Bool.and_eq_true, Bool.or_eq_true, Nat.ble_eq, Nat.beq_eq] at part
  obtain ⟨⟨start, stop⟩, steps⟩ := part
  refine covers_iff.mpr ⟨Nat.le_trans start least, Nat.le_trans most stop, ?_⟩
  rcases steps with one | even
  · rw [one, Nat.mod_one]
  · obtain ⟨two, parity⟩ := mod_two_of_isOdd even covers
    rw [two]
    omega

/-- The row of the images, which leads back. -/
def inverse (row : CaseRow) : CaseRow :=
  ⟨row.image row.first, row.image row.last, row.step, -row.offset⟩

/-- That the images of a row are characters. -/
def isProper (row : CaseRow) : Bool :=
  Nat.blt 0 (row.image row.first) && (Nat.blt (row.image row.last) 0xd800 ||
    Nat.blt 0xdfff (row.image row.first) && Nat.blt (row.image row.last) 0x110000)

theorem covers_inverse (proper : row.isProper = true) (covers : row.covers code = true) :
    row.inverse.covers (row.image code) = true ∧ row.inverse.image (row.image code) = code ∧
      (Char.ofNat (row.image code)).toNat = row.image code := by
  obtain ⟨least, most, step⟩ := covers_iff.mp covers
  simp only [isProper, Bool.and_eq_true, Bool.or_eq_true, Nat.blt_eq] at proper
  obtain ⟨filled, valid⟩ := proper
  have images : row.image row.first ≤ row.image code ∧ row.image code ≤ row.image row.last ∧
      row.image code - row.image row.first = code - row.first ∧
      ((row.image code : Int) + -row.offset).toNat = code := by
    unfold image at *
    omega
  obtain ⟨start, stop, behind, back⟩ := images
  have isChar : (row.image code).isValidChar := by
    unfold Nat.isValidChar
    omega
  refine ⟨covers_iff.mpr ⟨start, stop, behind ▸ step⟩, back, ?_⟩
  rw [Char.ofNat, dif_pos isChar]
  rfl

/-- The row of one character that stays as it is. -/
def single (code : Nat) : CaseRow := ⟨code, code, 1, 0⟩

theorem single_covers : (single code).covers code = true :=
  covers_iff.mpr ⟨Nat.le_refl _, Nat.le_refl _, Nat.mod_one _⟩

end CaseRow

open CaseRow

/-- The characters that upper case changes. -/
def smallRows : List CaseRow := upperRows ++ upperSequences.map fun entry => single entry.1

/-- The characters that upper case leads to. -/
def capitalRows : List CaseRow :=
  upperRows.map inverse ++ upperSequences.filterMap fun entry => entry.2.head?.map single

/-- A number that has a bit for each of some characters. -/
def mask (codes : List Nat) : Nat := codes.foldr (fun code bits => bits ||| 1 <<< code) 0

/-- That a row ends before another one, which is not empty, begins. -/
def Precedes (a b : CaseRow) : Prop := a.last < b.first ∧ b.first ≤ b.last

instance (a b : CaseRow) : Decidable (Precedes a b) := inferInstanceAs (Decidable (_ ∧ _))

instance : IsTrans CaseRow Precedes where
  trans _ _ _ first second := ⟨Nat.lt_trans first.1 (Nat.lt_of_le_of_lt first.2 second.1), second.2⟩

/-- Capitals whose small letter has another capital: a dotted I, the symbols for theta, ohm, kelvin
and angstrom, and the capital sharp s, whose small letter has two capitals. -/
def strayCapitals : List Char := ['\u0130', '\u03F4', '\u1E9E', '\u2126', '\u212A', '\u212B']

/-- That upper case leads back from the images of a row of lower case. -/
def returns (row : CaseRow) : Bool :=
  ((upperRows.find? fun back => Nat.ble row.inverse.first back.last).any fun back =>
    back.offset == -row.offset && row.inverse.isPart back) ||
    row.codes.all fun code =>
      strayCapitals.contains (Char.ofNat code) || upper (Char.ofNat code) != [Char.ofNat code] ||
        upper (Char.ofNat (row.image code)) == [Char.ofNat code]

/-- What the tables of the standard are checked for, all in one computation. -/
theorem tables_checked :
    mask (capitalRows.flatMap codes) &&& mask (smallRows.flatMap codes) = 0 ∧
    (upperRows ++ lowerRows).all isProper = true ∧
    (upperSequences.all fun entry => entry.2.head?.any fun code => (single code).isProper) = true ∧
    upperRows.IsChain Precedes ∧ lowerRows.all returns = true := by
  decide +kernel

theorem testBit_mask {codes : List Nat} {code : Nat} (listed : code ∈ codes) :
    (mask codes).testBit code = true := by
  induction codes with
  | nil => cases listed
  | cons first codes ih =>
    rw [mask, List.foldr_cons, Nat.testBit_or]
    rcases List.mem_cons.mp listed with rfl | later
    · simp [Nat.testBit_shiftLeft]
    · exact Bool.or_eq_true_iff.mpr (.inl (ih later))

theorem not_covers_of_capital {a b : CaseRow} (capital : a ∈ capitalRows)
    (small : b ∈ smallRows) {code : Nat} (covers : a.covers code = true) :
    b.covers code = false := by
  rw [Bool.eq_false_iff]
  intro both
  have common : (mask (capitalRows.flatMap codes) &&& mask (smallRows.flatMap codes)).testBit code =
      true := by
    rw [Nat.testBit_and, testBit_mask (List.mem_flatMap.mpr ⟨a, capital, mem_codes covers⟩),
      testBit_mask (List.mem_flatMap.mpr ⟨b, small, mem_codes both⟩)]
    rfl
  obtain ⟨clear, -⟩ := tables_checked
  rw [clear, Nat.zero_testBit] at common
  cases common

theorem upper_of_clear {c : Char} (clear : ∀ row ∈ smallRows, row.covers c.toNat = false) :
    upper c = [c] := by
  have noRow : upperRows.find? (·.covers c.toNat) = none := by
    refine List.find?_eq_none.mpr fun row listed => ?_
    rw [clear row (List.mem_append_left _ listed)]
    exact Bool.false_ne_true
  have noSequence : upperSequences.find? (·.1 == c.toNat) = none := by
    refine List.find?_eq_none.mpr fun entry listed same => ?_
    have misses := clear (single entry.1) (List.mem_append_right _ (List.mem_map_of_mem listed))
    rw [← beq_iff_eq.mp same, single_covers] at misses
    cases misses
  rw [upper, image, noRow, noSequence]

theorem upper_of_capital {a : CaseRow} {c : Char} (listed : a ∈ capitalRows)
    (covers : a.covers c.toNat = true) : upper c = [c] :=
  upper_of_clear fun _ member => not_covers_of_capital listed member covers

/-- A character that a row of a table finds. -/
theorem found_of_find? {rows : List CaseRow} {row : CaseRow} {code : Nat}
    (found : rows.find? (fun row => row.covers code) = some row) :
    row ∈ rows ∧ row.covers code = true := by
  have covers := List.find?_some found
  exact ⟨List.mem_of_find?_eq_some found, covers⟩

/-- Upper case leads to a character that it does not change. -/
theorem upper_head (c : Char) : ∃ d ds, upper c = d :: ds ∧ upper d = [d] := by
  obtain ⟨-, rowsProper, headsProper, -⟩ := tables_checked
  cases row? : upperRows.find? (·.covers c.toNat) with
  | some row =>
    obtain ⟨listed, covers⟩ := found_of_find? row?
    have proper := List.all_eq_true.mp rowsProper row (List.mem_append_left _ listed)
    obtain ⟨back, -, code⟩ := covers_inverse proper covers
    refine ⟨Char.ofNat (row.image c.toNat), [], by rw [upper, image, row?], ?_⟩
    exact upper_of_capital (List.mem_append_left _ (List.mem_map_of_mem listed)) (code.symm ▸ back)
  | none =>
    cases sequence? : upperSequences.find? (·.1 == c.toNat) with
    | some entry =>
      obtain ⟨key, codes⟩ := entry
      have listed := List.mem_of_find?_eq_some sequence?
      have head := List.all_eq_true.mp headsProper _ listed
      cases codes with
      | nil => cases head
      | cons code codes =>
        refine ⟨Char.ofNat code, codes.map Char.ofNat, by
          rw [upper, image, row?, sequence?]; rfl, ?_⟩
        have toNat : (Char.ofNat code).toNat = code := (covers_inverse head single_covers).2.2
        have capital : single code ∈ capitalRows :=
          List.mem_append_right _ (List.mem_filterMap.mpr ⟨_, listed, rfl⟩)
        exact upper_of_capital capital (toNat.symm ▸ single_covers)
    | none =>
      have same : upper c = [c] := by rw [upper, image, row?, sequence?]
      exact ⟨c, [], same, same⟩

theorem find?_of_sorted {rows : List CaseRow} (sorted : rows.Pairwise Precedes)
    {row : CaseRow} (listed : row ∈ rows) {code : Nat} (covers : row.covers code = true) :
    rows.find? (·.covers code) = some row := by
  induction rows with
  | nil => cases listed
  | cons first rows ih =>
    obtain ⟨above, sorted⟩ := List.pairwise_cons.mp sorted
    rw [List.find?_cons]
    rcases List.mem_cons.mp listed with rfl | later
    · rw [covers]
    · have misses : first.covers code = false := by
        rw [Bool.eq_false_iff]
        intro both
        have apart := (above row later).1
        have stop := (covers_iff.mp both).2.1
        have start := (covers_iff.mp covers).1
        omega
      rw [misses]
      exact ih sorted later

/-- Upper case leads back from the small letter of a capital. -/
theorem upper_lower {c : Char} (capital : upper c = [c]) (noStray : c ∉ strayCapitals) :
    ∃ d, lower c = [d] ∧ upper d = [c] := by
  obtain ⟨-, rowsProper, -, sorted, rowsReturn⟩ := tables_checked
  cases row? : lowerRows.find? (·.covers c.toNat) with
  | some row =>
    obtain ⟨listed, covers⟩ := found_of_find? row?
    have proper := List.all_eq_true.mp rowsProper row (List.mem_append_right _ listed)
    obtain ⟨inside, backward, code⟩ := covers_inverse proper covers
    refine ⟨Char.ofNat (row.image c.toNat), by rw [lower, image, row?], ?_⟩
    rcases Bool.or_eq_true_iff.mp (List.all_eq_true.mp rowsReturn row listed) with whole | each
    · obtain ⟨back, first, leads⟩ := (Option.any_eq_true ..).mp whole
      obtain ⟨offset, part⟩ := Bool.and_eq_true_iff.mp leads
      have member := List.mem_of_find?_eq_some first
      have found := find?_of_sorted (List.isChain_iff_pairwise.mp sorted) member
          (covers_of_isPart part inside)
      have image : back.image (row.image c.toNat) = c.toNat := by
        rw [CaseRow.image, beq_iff_eq.mp offset]
        exact backward
      rw [upper, Character.image, code, found]
      dsimp only
      rw [image, Char.ofNat_toNat]
    · have back := List.all_eq_true.mp each _ (mem_codes covers)
      rw [Char.ofNat_toNat] at back
      simpa [capital, noStray] using back
  | none =>
    cases sequence? : lowerSequences.find? (·.1 == c.toNat) with
    | some entry =>
      have only : ∀ entry ∈ lowerSequences, Char.ofNat entry.1 ∈ strayCapitals := by decide
      have stray := only entry (List.mem_of_find?_eq_some sequence?)
      have key := List.find?_some sequence?
      rw [beq_iff_eq.mp key, Char.ofNat_toNat] at stray
      exact (noStray stray).elim
    | none => exact ⟨c, by rw [lower, image, row?, sequence?], capital⟩

/-- What becomes of a character in front, in lower case and back. -/
def thereAndBack (c : Char) : List Char :=
  match lower c with
  | [] => []
  | d :: ds => upper d ++ ds

theorem thereAndBack_of_capital {c : Char} (capital : upper c = [c]) (noStray : c ∉ strayCapitals) :
    thereAndBack c = [c] := by
  obtain ⟨d, small, back⟩ := upper_lower capital noStray
  rw [thereAndBack, small]
  exact congrArg (· ++ []) back

/-- A stray capital comes back as another one. -/
theorem thereAndBack_of_stray : ∀ c ∈ strayCapitals, (thereAndBack c).head? ≠ some c :=
  List.all_iff_forall_prop.mp (by decide +kernel)

/-- The capital sharp s, whose small letter is the small letter of no other capital. -/
def capitalSharpS : Char := '\u1E9E'

theorem eq_capitalSharpS {c : Char} (capital : upper c = [c])
    (small : (lower c).head? = (lower capitalSharpS).head?) : c = capitalSharpS := by
  by_cases stray : c ∈ strayCapitals
  · have only : ∀ c ∈ strayCapitals, (lower c).head? = (lower capitalSharpS).head? →
        c = capitalSharpS :=
      List.all_iff_forall_prop.mp (by decide +kernel)
    exact only c stray small
  · obtain ⟨d, same, back⟩ := upper_lower capital stray
    have two : (lower capitalSharpS).head?.map (fun d => (upper d).length) =
        some 2 := by decide +kernel
    rw [← small, same, List.head?_cons, Option.map_some, back] at two
    cases two

/-- What has the same capital in front has the same small letter there, the capital sharp s aside.
-/
theorem lower_thereAndBack {c : Char} (capital : upper c = [c]) (noSharp : c ≠ capitalSharpS) :
    ∃ d ds, thereAndBack c = d :: ds ∧ lower d ++ ds = lower c := by
  by_cases stray : c ∈ strayCapitals
  · have each : ∀ c ∈ strayCapitals, c ≠ capitalSharpS →
        ((thereAndBack c).head?.any fun d => lower d ++ (thereAndBack c).tail == lower c) = true :=
      List.all_iff_forall_prop.mp (by decide +kernel)
    have same := each c stray noSharp
    cases back : thereAndBack c with
    | nil =>
      rw [back] at same
      cases same
    | cons d ds =>
      rw [back] at same
      exact ⟨d, ds, rfl, beq_iff_eq.mp same⟩
  · exact ⟨c, [], thereAndBack_of_capital capital stray, List.append_nil _⟩

end Character

namespace Text

open Character

theorem toList_capitalize {text : String} {c : Char} {cs : List Char}
    (spelled : text.toList = c :: cs) : (capitalize text).toList = upper c ++ cs := by
  rw [capitalize, spelled, String.toList_ofList]

theorem toList_decapitalize {text : String} {c : Char} {cs : List Char}
    (spelled : text.toList = c :: cs) : (decapitalize text).toList = lower c ++ cs := by
  rw [decapitalize, spelled, String.toList_ofList]

theorem toList_capitalize_decapitalize {text : String} {c : Char} {cs : List Char}
    (spelled : text.toList = c :: cs) :
    (capitalize (decapitalize text)).toList = thereAndBack c ++ cs := by
  obtain ⟨d, ds, small⟩ := List.exists_cons_of_ne_nil (lower_ne_nil c)
  have text := toList_decapitalize spelled
  rw [small, List.cons_append] at text
  rw [toList_capitalize text, thereAndBack, small, List.append_assoc]

/-- A text that has been given a capital in front. -/
def IsCapitalized (name : String) : Prop := ∃ text, capitalize text = name

theorem IsCapitalized.upper_head {name : String} (isCapitalized : IsCapitalized name)
    {c : Char} {cs : List Char} (spelled : name.toList = c :: cs) : upper c = [c] := by
  obtain ⟨text, rfl⟩ := isCapitalized
  cases source : text.toList with
  | nil =>
    rw [capitalize, source] at spelled
    cases spelled
  | cons b bs =>
    obtain ⟨d, ds, capital, same⟩ := Character.upper_head b
    rw [toList_capitalize source, capital, List.cons_append] at spelled
    obtain ⟨rfl, -⟩ := List.cons.inj spelled
    exact same

/-- A capitalized text comes back from lower case exactly if it does not begin with a stray capital.
-/
theorem capitalize_decapitalize_iff {name : String} (isCapitalized : IsCapitalized name) :
    capitalize (decapitalize name) = name ↔ ∀ c ∈ name.toList.head?, c ∉ strayCapitals := by
  cases spelled : name.toList with
  | nil =>
    obtain rfl : name = "" := String.toList_inj.mp spelled
    exact ⟨fun _ => nofun, fun _ => by decide⟩
  | cons c cs =>
    rw [← String.toList_inj, toList_capitalize_decapitalize spelled, spelled]
    constructor
    · rintro same c' head stray
      obtain rfl := Option.some.inj head
      refine thereAndBack_of_stray c stray ?_
      cases back : thereAndBack c with
      | nil =>
        have length := congrArg List.length same
        rw [back] at length
        simp at length
      | cons d ds =>
        rw [back] at same
        rw [(List.cons.inj same).1]
        rfl
    · intro noStray
      rw [thereAndBack_of_capital (isCapitalized.upper_head spelled) (noStray c rfl)]
      rfl

/-- Capitalized texts with one text in lower case are the same in lower case and back, and
conversely, the capital sharp s aside. -/
theorem decapitalize_eq_iff {name other : String} (first : IsCapitalized name)
    (second : IsCapitalized other) : decapitalize name = decapitalize other ↔ name = other ∨
      name.toList.head? ≠ some capitalSharpS ∧ other.toList.head? ≠ some capitalSharpS ∧
        capitalize (decapitalize name) = capitalize (decapitalize other) := by
  have again {name : String} (isCapitalized : IsCapitalized name)
      (noSharp : name.toList.head? ≠ some capitalSharpS) :
      decapitalize (capitalize (decapitalize name)) = decapitalize name := by
    cases spelled : name.toList with
    | nil =>
      obtain rfl : name = "" := String.toList_inj.mp spelled
      decide
    | cons c cs =>
      rw [spelled] at noSharp
      obtain ⟨d, ds, back, small⟩ := lower_thereAndBack (isCapitalized.upper_head spelled)
        fun same => noSharp (congrArg some same)
      have text := toList_capitalize_decapitalize spelled
      rw [back, List.cons_append] at text
      rw [← String.toList_inj, toList_decapitalize text, toList_decapitalize spelled, ← small,
        List.append_assoc]
  have sharp {name other : String} (second : IsCapitalized other)
      (same : decapitalize name = decapitalize other)
      (head : name.toList.head? = some capitalSharpS) : name = other := by
    obtain ⟨cs, spelled⟩ := List.head?_eq_some_iff.mp head
    have text := toList_decapitalize spelled
    rw [same] at text
    cases others : other.toList with
    | nil =>
      obtain rfl : other = "" := String.toList_inj.mp others
      exact (lower_ne_nil _ (List.append_eq_nil_iff.mp text.symm).1).elim
    | cons d ds =>
      rw [toList_decapitalize others] at text
      have heads := congrArg List.head? text
      rw [List.head?_append_of_ne_nil _ (lower_ne_nil _),
        List.head?_append_of_ne_nil _ (lower_ne_nil _)] at heads
      obtain rfl := eq_capitalSharpS (second.upper_head others) heads
      rw [← String.toList_inj, spelled, others, List.append_cancel_left text]
  constructor
  · intro same
    by_cases head : name.toList.head? = some capitalSharpS
    · exact .inl (sharp second same head)
    · by_cases otherHead : other.toList.head? = some capitalSharpS
      · exact .inl (sharp first same.symm otherHead).symm
      · exact .inr ⟨head, otherHead, by rw [same]⟩
  · rintro (rfl | ⟨head, otherHead, same⟩)
    · rfl
    · rw [← again first head, ← again second otherHead, same]

end Text

namespace Locale

open Character Text

/-- A name that its file gives back. -/
def IsSettled (name : String) : Prop := name ≠ "" ∧ ∀ c ∈ name.toList.head?, c ∉ strayCapitals

instance (name : String) : Decidable (IsSettled name) :=
  decidable_of_iff (name ≠ "" ∧ (name.toList.head?.all fun c => decide (c ∉ strayCapitals)) = true)
    (and_congr_right' (by simp [Option.all_eq_true]))

/-- The module that is read from the file of a module. -/
theorem moduleOfFile_moduleFileName (directory : Path) {name : String}
    (noSlash : '/' ∉ name.toList) : moduleOfFile (directory.join ⟨moduleFileName name⟩) =
      if name = "" then ".js" else capitalize (decapitalize name) := by
  have dotted : moduleFileName name = decapitalize name ++ ("." ++ "js") := rfl
  rw [moduleOfFile_join (isPiece_moduleFileName noSlash), moduleOf, dotted,
    Path.splitExtension_append (by decide) (by decide)]
  have empty : decapitalize name = "" ↔ name = "" := by
    cases spelled : name.toList with
    | nil =>
      obtain rfl : name = "" := String.toList_inj.mp spelled
      decide
    | cons c cs =>
      have text := toList_decapitalize spelled
      constructor
      · intro same
        rw [same] at text
        exact (lower_ne_nil _ (List.append_eq_nil_iff.mp text.symm).1).elim
      · rintro rfl
        cases spelled
  by_cases none : name = ""
  · rw [if_pos (empty.mpr none), if_pos none]
    decide +kernel
  · rw [if_neg (mt empty.mp none), if_neg none]

theorem moduleFileName_inj {name other : String} :
    moduleFileName name = moduleFileName other ↔ decapitalize name = decapitalize other := by
  rw [moduleFileName, moduleFileName, ← String.toList_inj, String.toList_append,
    String.toList_append, List.append_left_inj, String.toList_inj]

theorem capitalize_decapitalize {name : String} (isCapitalized : IsCapitalized name)
    (settled : IsSettled name) :
    capitalize (decapitalize name) = name :=
  (capitalize_decapitalize_iff isCapitalized).mpr settled.2

/-- Modules with files of their own are never refused for sharing one, whatever the disk answers. -/
theorem writeModules_not_shared {σ : Type} (answer : Disk.Answering σ) {directory : Path}
    {earlier : List String} {modules : List (String × ResourceNode)}
    (plain : ∀ n ∈ earlier ++ modules.map (·.1), '/' ∉ n.toList)
    (apart : (earlier ++ modules.map (·.1)).Pairwise fun a b => moduleFileName a ≠ moduleFileName b)
    (s : σ) (name : String) (file : Path) :
    ((writeModules directory (earlier.map fun n =>
      directory.join ⟨moduleFileName n⟩) modules).runWith answer s).1 ≠ .error
    (.sharedModuleFile name file) := by
  induction modules generalizing earlier s with
  | nil => rintro ⟨⟩
  | cons entry rest ih =>
    obtain ⟨first, node⟩ := entry
    rw [writeModules]
    dsimp only
    split
    · rename_i shared
      obtain ⟨written, listed, same⟩ := List.any_eq_true.mp shared
      obtain ⟨n, before, rfl⟩ := List.mem_map.mp listed
      have piece {n : String} (member : n ∈ earlier ++ (first :: rest.map (·.1))) :=
        isPiece_moduleFileName (plain n member)
      rw [beq_iff_eq, Path.components_join_name directory (piece (List.mem_append_left _ before)),
        Path.components_join_name directory (piece (List.mem_append_right _ List.mem_cons_self))]
        at same
      have names := Path.Component.normal.inj (List.singleton_inj.mp (List.append_cancel_left same))
      exact ((List.pairwise_append.mp apart).2.2 n before first List.mem_cons_self names).elim
    · rw [Job.runWith_bind, Job.writeFile, Job.runWith_attempt]
      cases ((Disk.write (directory.join ⟨moduleFileName first⟩) node.moduleText).run answer s).1
          with
      | error fault => rintro ⟨⟩
      | ok value =>
        have moved : earlier ++ (first, node).1 :: rest.map (·.1) = earlier ++
            [first] ++ rest.map (·.1) := by simp
        have later := @ih (earlier ++ [first]) (by rwa [List.map_cons, moved] at plain)
          (by rwa [List.map_cons, moved] at apart)
        rw [List.map_append] at later
        exact later _

/-- A module is read from its file under its own name exactly if the name is not empty and does not
begin with a stray capital. Two modules have one file exactly if their names are the same, or the
same in lower case and back without a capital sharp s in front. So modules with names that they keep
are never refused for sharing a file. -/
theorem module_keeps_name (directory : Path) :
    (∀ name : String, IsCapitalized name → '/' ∉ name.toList →
      (moduleOfFile (directory.join ⟨moduleFileName name⟩) = name ↔ IsSettled name)) ∧
    (∀ name other : String, IsCapitalized name → IsCapitalized other →
      (moduleFileName name = moduleFileName other ↔ name = other ∨
        name.toList.head? ≠ some capitalSharpS ∧ other.toList.head? ≠ some capitalSharpS ∧
          capitalize (decapitalize name) = capitalize (decapitalize other))) ∧
    ∀ (tree : ResourceTree) (file : Path) (name : String) (σ : Type) (answer :
      Disk.Answering σ) (s : σ), (tree.modules.map (·.1)).Nodup →
      (∀ n ∈ tree.modules.map (·.1), IsCapitalized n ∧ '/' ∉ n.toList ∧ IsSettled n) →
      ((write directory tree).runWith answer s).1 ≠ .error (.sharedModuleFile name file) := by
  refine ⟨fun name isCapitalized noSlash => ?_, fun name other first second =>
    moduleFileName_inj.trans (decapitalize_eq_iff first second), ?_⟩
  · rw [moduleOfFile_moduleFileName directory noSlash]
    split
    · rename_i empty
      subst empty
      exact ⟨fun same => absurd same (by decide), fun settled => (settled.1 rfl).elim⟩
    · rename_i filled
      rw [capitalize_decapitalize_iff isCapitalized]
      exact ⟨fun noStray => ⟨filled, noStray⟩, And.right⟩
  · intro tree file name σ answer s distinct each
    have apart : (tree.modules.map (·.1)).Pairwise fun a b =>
        moduleFileName a ≠ moduleFileName b := by
      refine distinct.imp_of_mem fun {a b} first second other same => other ?_
      obtain ⟨isCapitalized, -, settled⟩ := each a first
      obtain ⟨otherCapitalized, -, otherSettled⟩ := each b second
      rw [← capitalize_decapitalize isCapitalized settled, moduleFileName_inj.mp same,
        capitalize_decapitalize otherCapitalized otherSettled]
    rw [write, Job.runWith_bind, Job.createDirectory, Job.runWith_attempt]
    cases ((Disk.createDirectory directory).run answer s).1 with
    | error fault => exact nofun
    | ok value =>
      exact @writeModules_not_shared σ answer directory [] tree.modules
        (fun n listed => (each n listed).2.1) apart _ name file

private def lettered : ResourceTree :=
  { modules := [("Čaj", .group []), ("Дом", .group []), ("SSl", .group [])] }

/-- Letters with a háček and of another alphabet, and the capitals of a sharp s. -/
theorem module_keeps_name_letters :
    moduleOfFile (Path.join ⟨"lang"⟩ ⟨moduleFileName "Дом"⟩) = "Дом" ∧
    moduleFileName "Čaj" ≠ moduleFileName "Caj" ∧
    ((write ⟨"lang"⟩ lettered).runWith Disk.State.answer {}).1 ≠ .error
      (.sharedModuleFile "SSl" ⟨"lang/sSl.js"⟩) := by
  obtain ⟨kept, files, written⟩ := module_keeps_name ⟨"lang"⟩
  have capital (name : String) (same : capitalize name = name) : IsCapitalized name := ⟨name, same⟩
  refine ⟨(kept _ (capital _ (by decide +kernel)) (by decide)).mpr (by decide +kernel),
    fun same => ?_, ?_⟩
  · rcases (files _ _ (capital _ (by decide +kernel)) (capital _ (by decide +kernel))).mp same with
      same | ⟨-, -, same⟩
    · exact absurd same (by decide)
    · exact absurd same (by decide +kernel)
  · refine written _ _ _ _ _ _ (by decide) fun n listed => ?_
    have each : ∀ n ∈ lettered.modules.map (·.1), capitalize n = n ∧
        '/' ∉ n.toList ∧ IsSettled n := by
      decide +kernel
    obtain ⟨same, noSlash, settled⟩ := each n listed
    exact ⟨capital n same, noSlash, settled⟩

/-- The kelvin sign and the letter K are the names of two modules with one file, and what is read
from it is the module of the letter. -/
theorem kelvin_shares_file : IsCapitalized "\u212A" ∧ IsCapitalized "K" ∧ "\u212A" ≠ "K" ∧
    moduleFileName "\u212A" = moduleFileName "K" ∧
    moduleOfFile (Path.join ⟨"lang"⟩ ⟨moduleFileName "\u212A"⟩) = "K" := by
  refine ⟨⟨"\u212A", ?_⟩, ⟨"k", ?_⟩, ?_, ?_, ?_⟩ <;> decide +kernel

end Locale
end Phrasebook
