import Phrasebook.Script.Quoted
import Phrasebook.Text.Hash
import Mathlib.Algebra.BigOperators.Fin
import Mathlib.Data.Int.ModEq
import Mathlib.Data.Nat.Digits.Lemmas
import Mathlib.Tactic.Ring
import Mathlib.Data.Bool.AllAny

/-!
The hash of a text in closed form. Its code units, which are those of UTF-16, are the coefficients
of a polynomial at 31; the value of the polynomial is taken for a signed number of 32 bits, and the
distance of that from zero is written as a numeral. A numeral tells its number, so that two texts
have one hash exactly if the values of their polynomials are the same in 32 bits, up to the sign.
-/

namespace Phrasebook.Text

open Script

/-- The UTF-16 code units of a text. -/
def unitsOf (text : String) : List Nat := text.toList.flatMap codeUnits

theorem codeUnits_eq (c : Char) : codeUnits c =
    if c.toNat < 0x10000 then [c.toNat]
    else [0xd800 + (c.toNat - 0x10000) / 0x400, 0xdc00 + (c.toNat - 0x10000) % 0x400] := rfl

theorem codeUnits_lt (c : Char) : ∀ unit ∈ codeUnits c, unit < 0x10000 := by
  have valid : c.toNat < 0xd800 ∨ 0xdfff < c.toNat ∧ c.toNat < 0x110000 := c.valid
  rw [codeUnits_eq]
  split
  · rename_i small
    intro unit member
    rw [List.mem_singleton.mp member]
    exact small
  · simp only [List.mem_cons, List.not_mem_nil, or_false]
    rintro unit (high | low)
    · omega
    · omega

/-- A code unit that is no half of a pair is a character of its own. -/
theorem textOfCodes?_cons {code : Nat} (high : isHighHalf code = false)
    (low : isLowHalf code = false) (codes : List Nat) : textOfCodes? (code :: codes) =
    (textOfCodes? codes).map (Char.ofNat code :: ·) := by
  cases codes with
  | nil => simp [textOfCodes?, high, low]
  | cons next codes => simp [textOfCodes?, high, low]

theorem textOfCodes?_codeUnits (c : Char) (codes : List Nat) :
    textOfCodes? (codeUnits c ++ codes) = (textOfCodes? codes).map (c :: ·) := by
  have valid : c.toNat < 0xd800 ∨ 0xdfff < c.toNat ∧ c.toNat < 0x110000 := c.valid
  rw [codeUnits_eq]
  split
  · rw [List.singleton_append, textOfCodes?_cons, Char.ofNat_toNat]
    · simp only [isHighHalf, Bool.and_eq_false_iff, decide_eq_false_iff_not]
      omega
    · simp only [isLowHalf, Bool.and_eq_false_iff, decide_eq_false_iff_not]
      omega
  · rename_i beyond
    have pair : isHighHalf (0xd800 + (c.toNat - 0x10000) / 0x400) = true ∧
        isLowHalf (0xdc00 + (c.toNat - 0x10000) % 0x400) = true := by
      simp only [isHighHalf, isLowHalf, Bool.and_eq_true, decide_eq_true_eq]
      omega
    have code : 0x10000 + (0xd800 + (c.toNat - 0x10000) / 0x400 - 0xd800) * 0x400 +
        (0xdc00 + (c.toNat - 0x10000) % 0x400 - 0xdc00) = c.toNat := by omega
    rw [List.cons_append, List.singleton_append, textOfCodes?, pair.1, pair.2,
      code, Char.ofNat_toNat]
    rfl

theorem textOfCodes?_unitsOf (text : String) : textOfCodes? (unitsOf text) = some text.toList := by
  unfold unitsOf
  induction text.toList with
  | nil => rfl
  | cons c cs ih => rw [List.flatMap_cons, textOfCodes?_codeUnits, ih, Option.map_some]

/-- The sum of all units, each times the power of 31 with as many factors as units follow it. -/
def unitSum (units : List Nat) : Nat :=
  ∑ i : Fin units.length, units[i] * 31 ^ (units.length - (i + 1))

theorem unitSum_cons (unit : Nat) (units : List Nat) :
    unitSum (unit :: units) = unit * 31 ^ units.length + unitSum units := by
  unfold unitSum
  rw [show ∑ i : Fin (unit :: units).length,
    (unit :: units)[i] * 31 ^ ((unit :: units).length - (i + 1)) =
    ∑ i : Fin (units.length + 1), (unit :: units)[i] * 31 ^ (units.length + 1 - (i + 1)) from rfl,
      Fin.sum_univ_succ]
  simp

/-- What a run of the hash over units makes of the number that it begins with. -/
theorem foldl_units (units : List Nat) (h : Nat) :
    units.foldl (fun h unit => (h * 31 + unit) % wordCount) h % wordCount =
      (h * 31 ^ units.length + unitSum units) % wordCount := by
  induction units generalizing h with
  | nil => simp [unitSum]
  | cons unit units ih =>
    have step : (h * 31 + unit) * 31 ^ units.length + unitSum units =
        h * 31 ^ (units.length + 1) + (unit * 31 ^ units.length + unitSum units) := by ring
    rw [List.foldl_cons, ih, unitSum_cons, List.length_cons, ← step]
    exact ((Nat.mod_modEq _ _).mul_right _).add_right _

theorem hashUnits_lt (units : List Nat) : hashUnits units < wordCount := by
  unfold hashUnits
  exact List.foldlRecOn (motive := (· < wordCount)) units _ (by decide) fun _ _ _ _ =>
    Nat.mod_lt _ (by decide)

theorem hashUnits_eq (units : List Nat) : hashUnits units = unitSum units % wordCount := by
  have run := foldl_units units 0
  rw [Nat.zero_mul, Nat.zero_add] at run
  rw [← run]
  exact (Nat.mod_eq_of_lt (hashUnits_lt units)).symm

/-- The signed number of 32 bits that differs from a number by a multiple of the number of words. -/
def signedWord (n : Nat) : Int := Int.bmod n wordCount

theorem signedWord_eq (n : Nat) : signedWord n =
    if n % wordCount < wordCount / 2 then ((n % wordCount : Nat) : Int)
      else (n % wordCount : Nat) - wordCount := by
  have split : signedWord n = if (n : Int) % wordCount <
    (wordCount + 1) / 2 then (n : Int) % wordCount else n % wordCount - wordCount := rfl
  rw [split]
  unfold wordCount
  omega

theorem magnitude_mod (n : Nat) : magnitude (n % wordCount) = (signedWord n).natAbs := by
  rw [signedWord_eq, magnitude]
  have small : n % wordCount < wordCount := Nat.mod_lt n (by decide)
  split <;> omega

theorem hash_eq (text : String) : hash text = toBase36
    (signedWord (unitSum (unitsOf text))).natAbs := by
  rw [hash, ← unitsOf, hashUnits_eq, magnitude_mod]

/-- The same loop over signed words, with a shift and a subtraction in place of the multiplication.
-/
theorem hash_eq_words (text : String) : hash text =
    toBase36 ((unitsOf text).foldl (fun (h : BitVec 32) unit => h <<< 5 - h + BitVec.ofNat 32 unit)
      0).toInt.natAbs := by
  have run : ∀ (units : List Nat) (word : BitVec 32),
      (units.foldl (fun (h : BitVec 32) unit => h <<< 5 - h + BitVec.ofNat 32 unit) word).toNat =
        units.foldl (fun h unit => (h * 31 + unit) % wordCount) word.toNat := by
    intro units
    induction units with
    | nil => exact fun _ => rfl
    | cons unit units ih =>
      intro word
      have step : (word <<< 5 - word + BitVec.ofNat 32 unit).toNat =
          (word.toNat * 31 + unit) % wordCount := by
        have small := word.isLt
        simp only [BitVec.toNat_add, BitVec.toNat_sub, BitVec.toNat_shiftLeft,
          BitVec.toNat_ofNat, Nat.shiftLeft_eq, wordCount]
        omega
      rw [List.foldl_cons, List.foldl_cons, ih, step]
  have sum := hashUnits_eq (unitsOf text)
  unfold hashUnits at sum
  rw [BitVec.toInt_eq_toNat_bmod, run, show (0 : BitVec 32).toNat = 0 from rfl, sum,
    hash_eq, signedWord, Int.natCast_mod, show (2 ^ 32 : Nat) = wordCount from rfl, Int.emod_bmod]

def digitChars : List Char := "0123456789abcdefghijklmnopqrstuvwxyz".toList

/-- A numeral of a number in base 36, the first digit counting most. Only zero has a numeral that
begins with the digit zero. -/
structure IsNumeral (n : Nat) (cs : List Char) : Prop where
  filled : cs ≠ []
  digits : ∀ c ∈ cs, c ∈ digitChars
  value : Nat.ofDigits 36 (cs.reverse.map digitChars.idxOf) = n
  leading : cs.head? = some '0' → cs = ['0']

theorem digit36_lt {d : Nat} (small : d < 36) :
    digit36 d ∈ digitChars ∧ digitChars.idxOf (digit36 d) = d ∧ (digit36 d = '0' → d = 0) :=
  (by decide : ∀ d < 36, digit36 d ∈ digitChars ∧ digitChars.idxOf (digit36 d) = d ∧ (digit36 d =
    '0' → d = 0)) d small

theorem digits36_eq (n : Nat) : digits36 n = (Nat.digits 36 n).reverse.map digit36 := by
  fun_induction digits36 n with
  | case1 => rfl
  | case2 n nonzero ih =>
    rw [Nat.digits_def' (by decide) (Nat.pos_of_ne_zero nonzero), List.reverse_cons,
      List.map_append, ih]
    rfl

theorem toList_toBase36 {n : Nat} (nonzero : n ≠ 0) :
    (toBase36 n).toList = (Nat.digits 36 n).reverse.map digit36 := by
  rw [toBase36, if_neg nonzero, String.toList_ofList, digits36_eq]

theorem isNumeral_toBase36 (n : Nat) : IsNumeral n (toBase36 n).toList := by
  by_cases zero : n = 0
  · subst zero
    exact ⟨by decide, List.all_iff_forall_prop.mp (by decide), by decide, by decide⟩
  have small : ∀ d ∈ Nat.digits 36 n, d < 36 :=
    fun d member => Nat.digits_lt_base (by decide) member
  have some : Nat.digits 36 n ≠ [] := Nat.digits_ne_nil_iff_ne_zero.mpr zero
  rw [toList_toBase36 zero]
  refine ⟨by simpa using some, ?_, ?_, ?_⟩
  · intro c member
    obtain ⟨d, digit, rfl⟩ := List.mem_map.mp member
    exact (digit36_lt (small d (List.mem_reverse.mp digit))).1
  · rw [← List.map_reverse, List.reverse_reverse, List.map_map]
    have back : (Nat.digits 36 n).map (digitChars.idxOf ∘ digit36) = Nat.digits 36 n :=
      (List.map_congr_left fun d digit => (digit36_lt (small d digit)).2.1).trans (List.map_id _)
    rw [back, Nat.ofDigits_digits]
  · intro leading
    rw [List.head?_map, List.head?_reverse, List.getLast?_eq_some_getLast some] at leading
    have first := (digit36_lt (small _ (List.getLast_mem some))).2.2 (Option.some.inj leading)
    exact absurd first (Nat.getLast_digit_ne_zero 36 zero)

theorem toBase36_injective : Function.Injective toBase36 := by
  intro n m same
  have number := (isNumeral_toBase36 n).value
  rw [same] at number
  exact number.symm.trans (isNumeral_toBase36 m).value

theorem length_toBase36 {n k : Nat} (small : n < 36 ^ (k + 1)) : (toBase36 n).length ≤ k + 1 := by
  rw [← String.length_toList]
  by_cases zero : n = 0
  · subst zero
    exact Nat.succ_le_succ (Nat.zero_le k)
  · rw [toList_toBase36 zero, List.length_map, List.length_reverse]
    exact (Nat.digits_length_le_iff (by decide) n).mpr small

theorem natAbs_signedWord_le (n : Nat) : (signedWord n).natAbs ≤ 2 ^ 31 := by
  have small : n % wordCount < wordCount := Nat.mod_lt n (by decide)
  rw [signedWord_eq]
  unfold wordCount at small ⊢
  split <;> omega

theorem natAbs_signedWord_eq_iff (n m : Nat) : (signedWord n).natAbs = (signedWord m).natAbs ↔
    (n : Int) ≡ m [ZMOD 2 ^ 32] ∨ (n : Int) ≡ -m [ZMOD 2 ^ 32] := by
  rw [signedWord_eq, signedWord_eq]
  unfold wordCount Int.ModEq
  split <;> split <;> omega

/-- The hash of a text is the numeral of the distance from zero of the signed 32-bit number that the
polynomial over its code units comes to, with no more than six digits. Numerals of different numbers
differ, so that texts share a hash exactly if their polynomials agree modulo 2 ^ 32 up to the sign.
-/
theorem hash_isNumeral (text other : String) :
    (textOfCodes? (unitsOf text) = some text.toList ∧ ∀ unit ∈ unitsOf text, unit < 2 ^ 16) ∧
    IsNumeral (signedWord (unitSum (unitsOf text))).natAbs (hash text).toList ∧
    (hash text).length ≤ 6 ∧
    Function.Injective toBase36 ∧
    (hash text = hash other ↔
      (unitSum (unitsOf text) : Int) ≡ unitSum (unitsOf other) [ZMOD 2 ^ 32] ∨
        (unitSum (unitsOf text) : Int) ≡ -unitSum (unitsOf other) [ZMOD 2 ^ 32]) := by
  have words : ∀ unit ∈ unitsOf text, unit < 2 ^ 16 := by
    intro unit member
    obtain ⟨c, -, part⟩ := List.mem_flatMap.mp member
    exact codeUnits_lt c unit part
  have small : (signedWord (unitSum (unitsOf text))).natAbs < 36 ^ (5 + 1) :=
    Nat.lt_of_le_of_lt (natAbs_signedWord_le _) (by decide)
  refine ⟨⟨textOfCodes?_unitsOf text, words⟩, ?_, ?_, toBase36_injective, ?_⟩
  · rw [hash_eq]
    exact isNumeral_toBase36 _
  · rw [hash_eq]
    exact length_toBase36 small
  · rw [hash_eq, hash_eq, toBase36_injective.eq_iff, natAbs_signedWord_eq_iff]

/-- The least signed number. -/
example : signedWord (unitSum (unitsOf "polygenelubricants")) = -2 ^ 31 ∧
  hash "polygenelubricants" = "zik0zk" := by
  decide +kernel

end Phrasebook.Text
