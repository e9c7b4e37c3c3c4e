import Phrasebook.Occurrence.Number
import Mathlib.Data.List.Basic
import Mathlib.Data.Nat.Basic

/-!
Ordinals and location keys. The ordinals of a file tell apart all occurrences of one construct, so
that an occurrence is found again by its construct alone, wherever the others stand. A location key
can be taken apart from its end, where no name of a file reaches: behind its last colon stand a line
and perhaps a count, and before them the word for a region. So two occurrences have the same key
only if they have the same file, region, line and count, whatever the names of files hold; and the
counts of one file tell apart all that it has on one line.
-/

namespace Phrasebook.Occurrence

variable {file : String} {earlier candidates : List Candidate} {o : Occurrence}

theorem mem_numberFrom (found : o ∈ numberFrom file earlier candidates) :
    ∃ c ∈ candidates, ∃ between, o = ofCandidate file (between ++ earlier) c := by
  induction candidates generalizing earlier with
  | nil => cases found
  | cons c candidates ih =>
    rcases List.mem_cons.mp found with rfl | found
    · exact ⟨c, List.mem_cons_self, [], rfl⟩
    · obtain ⟨d, member, between, made⟩ := ih found
      exact ⟨d, List.mem_cons_of_mem _ member, between ++ [c], by simpa using made⟩

/-- Numbering makes an occurrence of a candidate, and of nothing else. -/
theorem mem_number (found : o ∈ number file candidates) :
    ∃ c ∈ candidates, ∃ before, o = ofCandidate file before c := by
  obtain ⟨c, member, between, made⟩ := mem_numberFrom found
  exact ⟨c, List.mem_mergeSort.mp member, between ++ [], made⟩

theorem sameSite_iff {a b : Occurrence} :
    a.sameSite b = true ↔
      a.region = b.region ∧ a.site = b.site ∧ a.raw = b.raw ∧ a.ordinal = b.ordinal := by
  simp [sameSite, and_assoc]

theorem sameSite_self (o : Occurrence) : o.sameSite o = true :=
  sameSite_iff.mpr ⟨rfl, rfl, rfl, rfl⟩

theorem sameSite_comm (a b : Occurrence) : a.sameSite b = b.sameSite a := by
  rw [Bool.eq_iff_iff, sameSite_iff, sameSite_iff]
  simp only [eq_comm]

/-- A candidate counts for every later one of its construct. -/
theorem not_sameSite_later (c d : Candidate) (between : List Candidate) :
    (ofCandidate file earlier c).sameSite (ofCandidate file (between ++ c :: earlier) d) = false :=
  by
  refine Bool.eq_false_iff.mpr fun same => ?_
  obtain ⟨region, site, raw, ordinal⟩ := sameSite_iff.mp same
  simp only [ofCandidate] at region site raw ordinal
  have alike : d.sameText = c.sameText := by
    funext other
    rw [Candidate.sameText, Candidate.sameText, region, site, raw]
  have counted : c.sameText c = true := by simp [Candidate.sameText]
  rw [alike, List.countP_append, List.countP_cons_of_pos counted] at ordinal
  omega

theorem pairwise_numberFrom :
    (numberFrom file earlier candidates).Pairwise fun a b => a.sameSite b = false := by
  induction candidates generalizing earlier with
  | nil => exact .nil
  | cons c candidates ih =>
    refine .cons (fun later found => ?_) ih
    obtain ⟨d, -, between, rfl⟩ := mem_numberFrom found
    exact not_sameSite_later c d between

/-- The first occurrence of a file with the construct of a given one is that one. -/
theorem find?_sameSite (found : o ∈ number file candidates) :
    (number file candidates).find? (·.sameSite o) = some o := by
  have apart : (number file candidates).Pairwise fun a b => a.sameSite b = false :=
    pairwise_numberFrom
  obtain ⟨front, back, whole⟩ := List.append_of_mem found
  rw [whole] at apart
  refine List.find?_eq_some_iff_append.mpr
    ⟨sameSite_self o, front, back, whole, fun other before => ?_⟩
  rw [(List.pairwise_append.mp apart).2.2 other before o List.mem_cons_self]
  rfl

end Phrasebook.Occurrence

namespace Phrasebook

universe u

/-- Lists with a separator are the same only if the parts at its last place are. -/
theorem split_at_last {α : Type u} {sep : α} {a b x y : List α} (hx : sep ∉ x) (hy : sep ∉ y)
    (same : a ++ sep :: x = b ++ sep :: y) : a = b ∧ x = y := by
  rcases List.append_eq_append_iff.mp same with ⟨between, rfl, rest⟩ | ⟨between, rfl, rest⟩
  · cases between with
    | nil => exact ⟨by simp, (List.cons.inj rest).2⟩
    | cons c between => exact absurd (by simp [(List.cons.inj rest).2]) hx
  · cases between with
    | nil => exact ⟨by simp, (List.cons.inj rest).2.symm⟩
    | cons c between => exact absurd (by simp [(List.cons.inj rest).2]) hy

theorem not_mem_natural {c : Char} (noDigit : c.isDigit = false) (n : Nat) :
    c ∉ (toString n).toList := by
  intro member
  have listed : c ∈ Nat.toDigits 10 n := by simpa using member
  rw [Nat.isDigit_of_mem_toDigits (by decide) (by decide) listed] at noDigit
  cases noDigit

theorem toList_natural_inj {m n : Nat} (same : (toString m).toList = (toString n).toList) : m = n :=
  by
  have digits : Nat.toDigits 10 m = Nat.toDigits 10 n := by simpa using same
  rw [← @Nat.ofDigitChars_ten_toDigits m, digits, Nat.ofDigitChars_ten_toDigits]

theorem Region.not_mem_text (region : Region) : ':' ∉ region.text.toList := by
  cases region <;> decide

theorem Region.text_inj {a b : Region} (same : a.text.toList = b.text.toList) : a = b := by
  cases a <;> cases b <;> first | rfl | exact absurd same (by decide)

namespace Occurrence

/-- The line of a key with its count. -/
def placeOnLine (line count : Nat) : List Char :=
  (toString line).toList ++ if count = 1 then [] else '#' :: (toString count).toList

theorem not_mem_placeOnLine (line count : Nat) : ':' ∉ placeOnLine line count := by
  intro member
  rcases List.mem_append.mp member with digit | digit
  · exact not_mem_natural (by decide) line digit
  · split at digit
    · cases digit
    · rcases List.mem_cons.mp digit with mark | digit
      · exact absurd mark (by decide)
      · exact not_mem_natural (by decide) count digit

theorem placeOnLine_inj {line count line' count' : Nat}
    (same : placeOnLine line count = placeOnLine line' count') : line = line' ∧ count = count' := by
  have noMark : ∀ n : Nat, '#' ∉ (toString n).toList := not_mem_natural (by decide)
  unfold placeOnLine at same
  by_cases first : count = 1
  · by_cases second : count' = 1
    · rw [if_pos first, if_pos second, List.append_nil, List.append_nil] at same
      exact ⟨toList_natural_inj same, first.trans second.symm⟩
    · rw [if_pos first, if_neg second, List.append_nil] at same
      exact absurd (by rw [same]; simp) (noMark line)
  · by_cases second : count' = 1
    · rw [if_neg first, if_pos second, List.append_nil] at same
      exact absurd (by rw [← same]; simp) (noMark line')
    · rw [if_neg first, if_neg second] at same
      obtain ⟨lines, counts⟩ := split_at_last (noMark count) (noMark count') same
      exact ⟨toList_natural_inj lines, toList_natural_inj counts⟩

theorem toList_locationKeyOf (file : String) (region : Region) (line count : Nat) :
    (locationKeyOf file region line count).toList =
      (((file.toList ++ [':']) ++ ':' :: region.text.toList) ++ "::line".toList) ++
        ':' :: placeOnLine line count := by
  have colons : "::".toList = [':', ':'] := by decide
  have mark : "#".toList = ['#'] := by decide
  have word : "::line:".toList = "::line".toList ++ [':'] := by decide
  unfold locationKeyOf placeOnLine
  split <;> simp [toString, colons, mark, word]

/-- A location key tells the file, the region, the line and the count. -/
theorem locationKeyOf_inj {file file' : String} {region region' : Region}
    {line line' count count' : Nat}
    (same : locationKeyOf file region line count = locationKeyOf file' region' line' count') :
    file = file' ∧ region = region' ∧ line = line' ∧ count = count' := by
  have texts := congrArg String.toList same
  rw [toList_locationKeyOf, toList_locationKeyOf] at texts
  obtain ⟨front, places⟩ := split_at_last (not_mem_placeOnLine _ _) (not_mem_placeOnLine _ _) texts
  obtain ⟨names, regions⟩ :=
    split_at_last region.not_mem_text region'.not_mem_text (List.append_cancel_right front)
  exact ⟨String.toList_inj.mp (List.append_cancel_right names), Region.text_inj regions,
    placeOnLine_inj places⟩

/-- The key of an occurrence names its file, its region and its line. -/
def Located (o : Occurrence) : Prop :=
  ∃ count, o.locationKey = locationKeyOf o.file o.region o.line count

theorem located_of_mem_number {file : String} {candidates : List Candidate} {o : Occurrence}
    (found : o ∈ number file candidates) : o.file = file ∧ o.Located := by
  obtain ⟨c, -, before, rfl⟩ := mem_number found
  exact ⟨rfl, _, rfl⟩

/-- Occurrences of different files have different keys. -/
theorem Located.ne {a b : Occurrence} (first : a.Located) (second : b.Located)
    (different : a.file ≠ b.file) : a.locationKey ≠ b.locationKey := by
  obtain ⟨m, keyed⟩ := first
  obtain ⟨n, keyed'⟩ := second
  intro same
  rw [keyed, keyed'] at same
  exact different (locationKeyOf_inj same).1

/-- A candidate counts for every later one on its line. -/
theorem locationKey_ne_later (file : String) (c d : Candidate) (earlier between : List Candidate) :
    (ofCandidate file earlier c).locationKey ≠
      (ofCandidate file (between ++ c :: earlier) d).locationKey := by
  intro same
  obtain ⟨-, region, line, count⟩ := locationKeyOf_inj same
  have alike : d.sameLine = c.sameLine := by
    funext other
    rw [Candidate.sameLine, Candidate.sameLine, region, line]
  have counted : c.sameLine c = true := by simp [Candidate.sameLine]
  rw [alike, List.countP_append, List.countP_cons_of_pos counted] at count
  omega

theorem nodup_locationKey_numberFrom (file : String) (earlier candidates : List Candidate) :
    ((numberFrom file earlier candidates).map (·.locationKey)).Nodup := by
  induction candidates generalizing earlier with
  | nil => exact List.nodup_nil
  | cons c candidates ih =>
    refine List.nodup_cons.mpr ⟨fun listed => ?_, ih _⟩
    obtain ⟨later, found, same⟩ := List.mem_map.mp listed
    obtain ⟨d, -, between, rfl⟩ := mem_numberFrom found
    exact locationKey_ne_later file c d earlier between same.symm

/-- All occurrences of one file have keys of their own. -/
theorem nodup_locationKey_number (file : String) (candidates : List Candidate) :
    ((number file candidates).map (·.locationKey)).Nodup :=
  nodup_locationKey_numberFrom file [] _

end Occurrence

end Phrasebook
