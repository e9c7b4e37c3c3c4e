import Phrasebook.Proofs.Decimal.Shortest
import Phrasebook.Proofs.Script.Numeral

/-!
The notation of numbers in data files. In each of its four forms the text stands for the shortest
digits of the number, so that the number is read back from it.
-/

namespace Phrasebook

open Script Script.NumberText

namespace DecimalDigits

/-- A text that stands for a number with these digits. -/
structure Shows (d : DecimalDigits) (text : NumberText) : Prop where
  plain : text.Plain
  value : (text.numeral.mantissa : ℚ) * 10 ^ text.numeral.exponent = d.value
  few : text.numeral.mantissa ≤ d.digits * 10 ^ 17

/-- The digits as they are written. -/
def written (d : DecimalDigits) : List Char := Nat.toDigits 10 d.digits

variable (d : DecimalDigits)

theorem toList_text (n : Nat) : (text n).toList = Nat.toDigits 10 n := by simp [text, Nat.repr]

theorem isDigit_toDigits (n : Nat) : ∀ c ∈ Nat.toDigits 10 n, c.isDigit = true := fun _ member =>
  Nat.isDigit_of_mem_toDigits (by decide) (by decide) member

theorem isDigit_zeros (n : Nat) : ∀ c ∈ List.replicate n '0', c.isDigit = true := by
  intro c member
  rw [List.eq_of_mem_replicate member]
  decide

theorem value_written : Nat.ofDigitChars 10 d.written 0 = d.digits :=
  Nat.ofDigitChars_toDigits (by decide) (by decide)

theorem written_ne_nil : d.written ≠ [] := Nat.toDigits_ne_nil

theorem digits_of_lead {d : DecimalDigits} (lead : d.written.head? = some '0') :
    d.written = ['0'] ∧ d.digits = 0 := by
  have zero : d.written = ['0'] := Json.lead_toDigits d.digits lead
  have value := d.value_written
  rw [zero] at value
  exact ⟨zero, value.symm⟩

/-- A text with these digits alone and the power of ten that belongs to them. -/
theorem shows_of_same {d : DecimalDigits} {text : NumberText} (plain : text.Plain)
    (digits : text.numeral.mantissa = d.digits) (power : text.numeral.exponent = d.exponent) :
    d.Shows text := by
  refine ⟨plain, by rw [digits, power, value], ?_⟩
  rw [digits]
  exact Nat.le_mul_of_pos_right _ (by decide)

/-- A whole number, with a zero behind the point. -/
def wholeText (k : Nat) : NumberText := ⟨d.written ++ List.replicate k '0', some ['0'], none⟩

/-- Digits with a point between them. -/
def partedText (places : Nat) : NumberText :=
  ⟨d.written.take (d.written.length - places), some (d.written.drop (d.written.length - places)),
    none⟩

/-- Digits behind the point and maybe some zeros. -/
def smallText (places : Nat) : NumberText :=
  ⟨['0'], some (List.replicate (places - d.written.length) '0' ++ d.written), none⟩

/-- Digits with an exponent. -/
def scientificText (power : Int) : NumberText :=
  ⟨d.written.take 1, if d.written.length ≤ 1 then none else some (d.written.drop 1),
    some (decide (power < 0), Nat.toDigits 10 power.natAbs)⟩

variable {d}

theorem shows_wholeText {k : Nat} (power : d.exponent = k) (low : k ≤ 16)
    (zero : d.digits = 0 → k = 0) : d.Shows (d.wholeText k) := by
  have mantissa : (d.wholeText k).numeral.mantissa = d.digits * 10 ^ (k + 1) := by
    change Nat.ofDigitChars 10 (d.written ++ List.replicate k '0' ++ ['0']) 0 = _
    rw [Nat.ofDigitChars_append, Nat.ofDigitChars_append, value_written,
      Nat.ofDigitChars_replicate_zero, Nat.ofDigitChars_cons, Nat.ofDigitChars_nil]
    change 10 * (10 ^ k * d.digits) + 0 = _
    ring
  refine ⟨⟨?_, ?_, fun lead => ?_, ?_, nofun, nofun⟩, ?_, ?_⟩
  · exact List.forall_mem_append.mpr ⟨isDigit_toDigits d.digits, isDigit_zeros k⟩
  · exact List.append_ne_nil_of_left_ne_nil d.written_ne_nil _
  · change (d.written ++ List.replicate k '0').head? = some '0' at lead
    rw [List.head?_append_of_ne_nil _ d.written_ne_nil] at lead
    obtain ⟨form, none⟩ := digits_of_lead lead
    rw [wholeText, form, zero none]
    rfl
  · exact List.forall_mem_singleton.mpr (by decide)
  · rw [mantissa, value, power]
    change ((d.digits * 10 ^ (k + 1) : Nat) : ℚ) * 10 ^ (-1 : Int) = _
    push_cast
    rw [pow_succ, zpow_natCast]
    norm_num
    ring
  · rw [mantissa]
    gcongr
    · norm_num
    · omega

theorem shows_partedText {places : Nat} (power : d.exponent = -places)
    (inside : places < d.written.length) (filled : 0 < d.digits) :
    d.Shows (d.partedText places) := by
  have first : d.written.take (d.written.length - places) ≠ [] := by
    rw [← List.length_pos_iff, List.length_take]
    omega
  refine shows_of_same ⟨?_, first, fun lead => ?_, ?_, nofun, nofun⟩ ?_ ?_
  · exact fun c member => isDigit_toDigits d.digits c (List.mem_of_mem_take member)
  · have lead : (d.written.take (d.written.length - places)).head? = some '0' := lead
    rw [← List.head?_append_of_ne_nil _ first, List.take_append_drop] at lead
    have none := (digits_of_lead lead).2
    omega
  · exact fun c member => isDigit_toDigits d.digits c (List.mem_of_mem_drop member)
  · change Nat.ofDigitChars 10 (d.written.take (d.written.length - places) ++
      d.written.drop (d.written.length - places)) 0 = _
    rw [List.take_append_drop, value_written]
  · change 0 - ((d.written.drop (d.written.length - places)).length : Int) = _
    rw [List.length_drop, power]
    omega

theorem shows_smallText {places : Nat} (power : d.exponent = -places)
    (outside : d.written.length ≤ places) : d.Shows (d.smallText places) := by
  refine shows_of_same ⟨?_, List.cons_ne_nil _ _, fun _ => rfl, ?_, nofun, nofun⟩ ?_ ?_
  · exact List.forall_mem_singleton.mpr (by decide)
  · exact List.forall_mem_append.mpr ⟨isDigit_zeros _, isDigit_toDigits d.digits⟩
  · change Nat.ofDigitChars 10 ('0' :: (List.replicate _ '0' ++ d.written)) 0 = _
    rw [Nat.ofDigitChars_cons, Nat.ofDigitChars_append, Nat.ofDigitChars_replicate_zero]
    exact d.value_written
  · change 0 - ((List.replicate (places - d.written.length) '0' ++ d.written).length : Int) = _
    rw [List.length_append, List.length_replicate, power]
    omega

theorem shows_scientificText {power : Int} (order : power = d.exponent + d.written.length - 1)
    (filled : 0 < d.digits) : d.Shows (d.scientificText power) := by
  have some_ : 1 ≤ d.written.length := List.length_pos_iff.mpr d.written_ne_nil
  have first : d.written.take 1 ≠ [] := by
    rw [← List.length_pos_iff, List.length_take]
    omega
  have rest : (d.scientificText power).fraction.getD [] = d.written.drop 1 := by
    change (if d.written.length ≤ 1 then none else some (d.written.drop 1)).getD [] = _
    split
    · rename_i single
      exact (List.drop_eq_nil_of_le single).symm
    · rfl
  refine shows_of_same ⟨?_, first, fun lead => ?_, ?_, ?_, nofun⟩ ?_ ?_
  · exact fun c member => isDigit_toDigits d.digits c (List.mem_of_mem_take member)
  · have lead : (d.written.take 1).head? = some '0' := lead
    rw [← List.head?_append_of_ne_nil _ first, List.take_append_drop] at lead
    have none := (digits_of_lead lead).2
    omega
  · rw [rest]
    exact fun c member => isDigit_toDigits d.digits c (List.mem_of_mem_drop member)
  · rintro part ⟨⟩
    exact ⟨Nat.toDigits_ne_nil, isDigit_toDigits _⟩
  · change Nat.ofDigitChars 10 (d.written.take 1 ++ _) 0 = _
    rw [rest, List.take_append_drop, value_written]
  · change exponentValue (some (decide (power < 0), Nat.toDigits 10 power.natAbs)) -
      (((d.scientificText power).fraction.getD []).length : Int) = _
    rw [rest, exponentValue, Nat.ofDigitChars_toDigits (by decide) (by decide), List.length_drop]
    split
    · rename_i down
      have := of_decide_eq_true down
      omega
    · rename_i up
      have : ¬ power < 0 := fun down => up (decide_eq_true down)
      omega

theorem positional_whole {k : Nat} (power : d.exponent = k) :
    d.positional ++ ".0" = String.ofList (d.wholeText k).chars := by
  apply String.toList_injective
  rw [positional, power]
  simp only [Int.natCast_nonneg, if_true, Int.toNat_natCast, String.toList_append, toList_text,
    zeros, String.toList_ofList]
  rfl

theorem length_text : (text d.digits).length = d.written.length := by
  rw [← String.length_toList, toList_text, written]

theorem positional_parted {places : Nat} (power : d.exponent = -places) (down : 0 < places)
    (inside : places < d.written.length) :
    d.positional = String.ofList (d.partedText places).chars := by
  apply String.toList_injective
  rw [positional, power]
  simp only [neg_neg, Int.toNat_natCast]
  rw [if_neg (by omega), length_text, if_pos inside]
  simp only [String.toList_append, toList_text, String.toList_ofList, chars, partedText,
    fractionChars, exponentChars, List.append_nil]
  rw [List.append_assoc]
  rfl

theorem positional_small {places : Nat} (power : d.exponent = -places) (down : 0 < places)
    (outside : d.written.length ≤ places) :
    d.positional = String.ofList (d.smallText places).chars := by
  apply String.toList_injective
  rw [positional, power]
  simp only [neg_neg, Int.toNat_natCast]
  rw [if_neg (by omega), length_text, if_neg (not_lt.mpr outside)]
  simp only [String.toList_append, toList_text, String.toList_ofList, chars, smallText, zeros,
    fractionChars, exponentChars, List.append_nil]
  rw [List.append_assoc]
  rfl

theorem scientific_eq : d.scientific =
    String.ofList (d.scientificText (d.exponent + d.written.length - 1)).chars := by
  apply String.toList_injective
  have sign (power : Int) : (if power < 0 then "-" else "+").toList =
      [if decide (power < 0) = true then '-' else '+'] := by
    by_cases down : power < 0
    · rw [if_pos down, if_pos (decide_eq_true down)]
      rfl
    · rw [if_neg down, if_neg (by rw [decide_eq_true_eq]; exact down)]
      rfl
  have fraction : (if d.written.length ≤ 1 then "" else
      "." ++ String.ofList (d.written.drop 1)).toList =
        fractionChars (if d.written.length ≤ 1 then none else some (d.written.drop 1)) := by
    split
    · rfl
    · simp only [String.toList_append, String.toList_ofList]
      rfl
  rw [scientific]
  simp only [toList_text, String.toList_append, String.toList_ofList, chars, scientificText]
  rw [sign, ← fraction]
  simp only [exponentChars, List.append_assoc]
  rfl

/-- The notation of data files stands for the shortest digits, if zero has no power of ten. -/
theorem exists_shows (m : Nat) (e : Int)
    (zero : (ofBinary m e).digits = 0 → (ofBinary m e).exponent = 0) :
    ∃ text, (ofBinary m e).Shows text ∧
      (Binary64.finite false m e).dataText? = some (String.ofList text.chars) := by
  rw [Binary64.dataText?]
  simp only [Bool.false_eq_true, if_false, String.empty_append]
  generalize ofBinary m e = d at zero ⊢
  have length : (toString d.digits).length = d.written.length := d.length_text
  have least : 0 < d.written.length := List.length_pos_iff.mpr d.written_ne_nil
  rw [length]
  split
  · rename_i far
    simp only [Bool.or_eq_true, decide_eq_true_eq] at far
    have filled : 0 < d.digits := by
      by_contra none
      have power := zero (by omega)
      have digits : d.written = ['0'] := by
        rw [written, show d.digits = 0 by omega]
        rfl
      rw [digits, power] at far
      simp at far
    exact ⟨_, shows_scientificText rfl filled, by rw [scientific_eq]⟩
  · rename_i near
    simp only [Bool.or_eq_true, decide_eq_true_eq, not_or] at near
    split
    · rename_i up
      obtain ⟨k, power⟩ := Int.eq_ofNat_of_zero_le up
      have none (digits : d.digits = 0) : k = 0 := by
        have := zero digits
        omega
      exact ⟨_, shows_wholeText power (by omega) none, by rw [positional_whole power]⟩
    · rename_i down
      obtain ⟨places, power⟩ : ∃ places : Nat, d.exponent = -places :=
        ⟨(-d.exponent).toNat, by omega⟩
      by_cases inside : places < d.written.length
      · have filled : 0 < d.digits := by
          by_contra none
          have := zero (by omega)
          omega
        exact ⟨_, shows_partedText power inside filled,
          by rw [positional_parted power (by omega) inside]⟩
      · have outside := Nat.le_of_not_lt inside
        exact ⟨_, shows_smallText power outside,
          by rw [positional_small power (by omega) outside]⟩

end DecimalDigits

namespace Binary64

/-- The main statement about numbers in data files: a number is read back from its notation. -/
theorem exists_numeral {m : Nat} {e : Int} (known : (m = 0 ∧ e = 0) ∨ InRange m e) :
    ∃ text : NumberText, text.Plain ∧
      (finite false m e).dataText? = some (String.ofList text.chars) ∧
      ofDecimal false text.numeral.mantissa text.numeral.exponent = finite false m e := by
  rcases known with ⟨rfl, rfl⟩ | range
  · obtain ⟨text, shows, form⟩ := DecimalDigits.exists_shows 0 0 fun _ => rfl
    have none : text.numeral.mantissa = 0 := Nat.le_zero.mp (shows.few.trans_eq (Nat.zero_mul _))
    refine ⟨text, shows.plain, form, ?_⟩
    rw [none]
    rfl
  · obtain ⟨filled, few, rounds⟩ := DecimalDigits.roundsTo_ofBinary range
    obtain ⟨text, shows, form⟩ := DecimalDigits.exists_shows m e fun none => by omega
    refine ⟨text, shows.plain, form, ofDecimal_eq range ?_ ?_ ?_ false⟩
    · by_contra none
      have value := shows.value
      rw [show text.numeral.mantissa = 0 by omega, Nat.cast_zero, zero_mul] at value
      have positive : (0 : ℚ) < (DecimalDigits.ofBinary m e).value := by
        have : (0 : ℚ) < (DecimalDigits.ofBinary m e).digits := Nat.cast_pos.mpr filled
        rw [DecimalDigits.value]
        positivity
      rw [← value] at positive
      exact lt_irrefl _ positive
    · calc text.numeral.mantissa ≤ (DecimalDigits.ofBinary m e).digits * 10 ^ 17 := shows.few
        _ < 2 ^ 100 * 10 ^ 17 := by gcongr
        _ ≤ 2 ^ 200 := by norm_num
    · rw [shows.value]
      exact rounds

end Binary64

end Phrasebook
