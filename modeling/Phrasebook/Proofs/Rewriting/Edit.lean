import Phrasebook.Proofs.Text.Slice
import Phrasebook.Rewriting.Edit
import Mathlib.Data.List.Nodup

/-!
Edits of a text. Those that are made change the text at their spans and nowhere else, and an edit
that fits is left out only where it starts before the end of one that is made and comes earlier.
-/

namespace Phrasebook

namespace Span

/-- Source order, and the order of the numbers for spans that are the same. -/
def Earlier (a : Span) (i : Nat) (b : Span) (j : Nat) : Prop :=
  a.before b = true ∧ (b.before a = true → i < j)

theorem not_earlier_self (a : Span) (i : Nat) : ¬a.Earlier i a i :=
  fun earlier => Nat.lt_irrefl i (earlier.2 earlier.1)

theorem not_earlier_both {a b : Span} {i j : Nat} (first : a.Earlier i b j) : ¬b.Earlier j a i :=
  fun second => Nat.lt_asymm (first.2 second.1) (second.2 first.1)

end Span

namespace Rewriting

open Text

/-- An edited text beside the text as it was, from a position on: what an edit takes out is
replaced, and all else is kept in its order. -/
inductive Spliced : Nat → List Char → List Edit → List Char → Prop
  | kept (position : Nat) (content : List Char) : Spliced position content [] content
  | edited {position : Nat} {kept old after output : List Char} {edit : Edit} {edits : List Edit}
      (span : edit.span = ⟨position + byteLength kept, position + byteLength kept + byteLength old⟩)
      (rest : Spliced edit.span.stop after edits output) :
      Spliced position (kept ++ old ++ after) (edit :: edits) (kept ++ edit.text.toList ++ output)

/-- Edits in order and apart, none of them before a position. -/
def Apart : Nat → List Edit → Prop
  | _, [] => True
  | position, edit :: edits => position ≤ edit.span.start ∧ Apart edit.span.stop edits

theorem Apart.behind {position : Nat} {edits : List Edit} (apart : Apart position edits)
    (order : ∀ edit ∈ edits, edit.span.start ≤ edit.span.stop) :
    ∀ edit ∈ edits, position ≤ edit.span.start := by
  induction edits generalizing position with
  | nil => simp
  | cons edit edits ih =>
    obtain ⟨before, later⟩ := apart
    have own := order edit List.mem_cons_self
    intro other member
    rcases List.mem_cons.mp member with rfl | member
    · exact before
    · have :=
        ih later (fun other member => order other (List.mem_cons_of_mem _ member)) other member
      omega

theorem Apart.pairwise {position : Nat} {edits : List Edit} (apart : Apart position edits)
    (order : ∀ edit ∈ edits, edit.span.start ≤ edit.span.stop) :
    edits.Pairwise (·.span.stop ≤ ·.span.start) := by
  induction edits generalizing position with
  | nil => exact .nil
  | cons edit edits ih =>
    have order := List.forall_mem_cons.mp order
    exact .cons (apart.2.behind order.2) (ih apart.2 order.2)

theorem cut_of_isBoundary {front rest : List Char} {position : Nat}
    (boundary : isBoundary (front ++ rest) position = true) (behind : byteLength front ≤ position) :
    ∃ kept after, rest = kept ++ after ∧ position = byteLength front + byteLength kept := by
  obtain ⟨⟨before, after⟩, cut⟩ := Option.isSome_iff_exists.mp boundary
  obtain ⟨whole, length⟩ := splitBytes?_eq_append cut
  rcases List.append_eq_append_iff.mp whole with ⟨kept, rfl, rfl⟩ | ⟨extra, rfl, rfl⟩
  · exact ⟨kept, after, rfl, by rw [← length, byteLength_append]⟩
  · -- The cut lies in the front part, so it is where that part ends.
    rw [byteLength_append] at behind
    cases extra with
    | nil => exact ⟨[], rest, rfl, by simpa [byteLength] using length.symm⟩
    | cons c extra =>
      have size := c.utf8Size_pos
      simp only [byteLength] at behind
      omega

theorem Edit.ordered {content : List Char} {edit : Edit} (fits : edit.fits content = true) :
    edit.span.start ≤ edit.span.stop := by
  simp only [Edit.fits, Bool.and_eq_true, decide_eq_true_eq] at fits
  exact fits.1.1

theorem fits_of_slice {content mid : List Char} {edit : Edit}
    (sliced : slice? content edit.span = some mid) : edit.fits content = true := by
  obtain ⟨front, back, rfl, start, stop⟩ := slice?_eq_some_iff.mp sliced
  have opens : isBoundary (front ++ mid ++ back) edit.span.start = true := by
    rw [start, isBoundary, List.append_assoc, splitBytes?_append]
    rfl
  have closes : isBoundary (front ++ mid ++ back) edit.span.stop = true := by
    rw [stop, ← byteLength_append, isBoundary, splitBytes?_append]
    rfl
  have order : edit.span.start ≤ edit.span.stop := by omega
  rw [Edit.fits, decide_eq_true order, opens, closes]
  rfl

/-- Edits that fit a text and are in order and apart are all made. -/
theorem splice_spliced {content front rest : List Char} {edits : List Edit}
    (whole : content = front ++ rest) (fit : ∀ edit ∈ edits, edit.fits content = true)
    (apart : Apart (byteLength front) edits) :
    Spliced (byteLength front) rest edits (splice rest (byteLength front) edits) := by
  induction edits generalizing front rest with
  | nil => exact .kept _ _
  | cons edit edits ih =>
    obtain ⟨position, later⟩ := apart
    have fits := fit edit List.mem_cons_self
    simp only [Edit.fits, Bool.and_eq_true, decide_eq_true_eq] at fits
    obtain ⟨⟨order, opens⟩, closes⟩ := fits
    rw [whole] at opens closes
    obtain ⟨kept, back, rfl, start⟩ := cut_of_isBoundary opens position
    rw [← List.append_assoc] at closes
    have behind : byteLength (front ++ kept) ≤ edit.span.stop := by
      rw [byteLength_append, ← start]
      exact order
    obtain ⟨old, after, rfl, stop⟩ := cut_of_isBoundary closes behind
    rw [byteLength_append] at stop
    have length : byteLength (front ++ kept ++ old) = edit.span.stop := by
      rw [byteLength_append, byteLength_append, stop]
    have next := ih (show content = (front ++ kept ++ old) ++ after by rw [whole]; simp)
      (fun other member => fit other (List.mem_cons_of_mem _ member)) (by rw [length]; exact later)
    rw [length] at next
    have first : edit.span.start - byteLength front = byteLength kept := by omega
    have second : edit.span.stop - edit.span.start = byteLength old := by omega
    have made : splice (kept ++ (old ++ after)) (byteLength front) (edit :: edits) =
        kept ++ edit.text.toList ++ splice after edit.span.stop edits := by
      rw [splice, first, splitBytes?_append]
      simp only [second, splitBytes?_append]
    rw [made, ← List.append_assoc]
    refine .edited ?_ next
    rw [← stop, ← start]

/-- An edit goes in, behind the one that was made last. -/
def Edit.Goes (content : List Char) (last : Option Nat) (edit : Edit) : Prop :=
  edit.fits content = true ∧ ∀ stop, last = some stop → stop ≤ edit.span.start

variable {content : List Char} {last : Option Nat} {edit : Edit} {edits : List Edit}

theorem selectEdits_made (goes : edit.Goes content last) :
    selectEdits content last (edit :: edits) =
      (edit :: (selectEdits content (some edit.span.stop) edits).1,
        (selectEdits content (some edit.span.stop) edits).2) := by
  have clear : last.all (· ≤ edit.span.start) = true := by
    cases last with
    | none => rfl
    | some stop => exact decide_eq_true (goes.2 stop rfl)
  rw [selectEdits, if_pos (by rw [goes.1, clear]; rfl)]

theorem selectEdits_rejected (stays : ¬edit.Goes content last) :
    selectEdits content last (edit :: edits) =
      ((selectEdits content last edits).1, edit.id :: (selectEdits content last edits).2) := by
  have blocked : ¬(edit.fits content && last.all (· ≤ edit.span.start)) = true := by
    intro both
    rw [Bool.and_eq_true] at both
    refine stays ⟨both.1, fun stop same => ?_⟩
    rw [same] at both
    exact of_decide_eq_true both.2
  rw [selectEdits, if_neg blocked]

/-- Whatever an edit to be made is, and whatever one to be left out, a run over the edits keeps. -/
theorem selectEdits_sublist : (selectEdits content last edits).1.Sublist edits := by
  induction edits generalizing last with
  | nil => exact .slnil
  | cons edit edits ih =>
    by_cases goes : edit.Goes content last
    · rw [selectEdits_made goes]
      exact ih.cons_cons edit
    · rw [selectEdits_rejected goes]
      exact ih.cons edit

theorem selectEdits_fits : ∀ edit ∈ (selectEdits content last edits).1,
    edit.fits content = true := by
  induction edits generalizing last with
  | nil => simp [selectEdits]
  | cons edit edits ih =>
    by_cases goes : edit.Goes content last
    · rw [selectEdits_made goes]
      exact List.forall_mem_cons.mpr ⟨goes.1, ih⟩
    · rw [selectEdits_rejected goes]
      exact ih

theorem selectEdits_apart : Apart (last.getD 0) (selectEdits content last edits).1 := by
  induction edits generalizing last with
  | nil => trivial
  | cons edit edits ih =>
    by_cases goes : edit.Goes content last
    · rw [selectEdits_made goes]
      refine ⟨?_, @ih (some edit.span.stop)⟩
      cases last with
      | none => exact Nat.zero_le _
      | some stop => exact goes.2 stop rfl
    · rw [selectEdits_rejected goes]
      exact ih

/-- The numbers given back are those of the edits that are not made. -/
theorem mem_rejected_iff (distinct : edits.Nodup) {id : Nat} :
    id ∈ (selectEdits content last edits).2 ↔
      ∃ edit ∈ edits, edit ∉ (selectEdits content last edits).1 ∧ edit.id = id := by
  induction edits generalizing last with
  | nil => simp [selectEdits]
  | cons edit edits ih =>
    obtain ⟨new, distinct⟩ := List.nodup_cons.mp distinct
    by_cases goes : edit.Goes content last
    · rw [selectEdits_made goes]
      simp only [ih distinct, List.mem_cons, not_or]
      constructor
      · rintro ⟨other, member, left, same⟩
        exact ⟨other, .inr member, ⟨fun equal => new (equal ▸ member), left⟩, same⟩
      · rintro ⟨other, rfl | member, ⟨different, left⟩, same⟩
        · exact absurd rfl different
        · exact ⟨other, member, left, same⟩
    · rw [selectEdits_rejected goes]
      simp only [List.mem_cons, ih distinct]
      constructor
      · rintro (rfl | ⟨other, member, left, same⟩)
        · exact ⟨edit, .inl rfl, fun made => new (selectEdits_sublist.subset made), rfl⟩
        · exact ⟨other, .inr member, left, same⟩
      · rintro ⟨other, rfl | member, left, same⟩
        · exact .inl same.symm
        · exact .inr ⟨other, member, left, same⟩

/-- An edit is made if it fits and does not start before the end of one that was made before it. -/
theorem mem_made_split_iff {front back : List Edit} (distinct : (front ++ edit :: back).Nodup) :
    edit ∈ (selectEdits content last (front ++ edit :: back)).1 ↔
      edit.Goes content last ∧
        ∀ other ∈ front, other ∈ (selectEdits content last (front ++ edit :: back)).1 →
          other.span.stop ≤ edit.span.start := by
  induction front generalizing last with
  | nil =>
    have new : edit ∉ back := (List.nodup_cons.mp distinct).1
    by_cases goes : edit.Goes content last
    · simp [selectEdits_made goes, goes]
    · have left : edit ∉ (selectEdits content last back).1 := fun made =>
        new (selectEdits_sublist.subset made)
      simp [selectEdits_rejected goes, goes, left]
  | cons first front ih =>
    obtain ⟨new, rest⟩ := List.nodup_cons.mp distinct
    have different : edit ≠ first := by
      rintro rfl
      exact new (by simp)
    by_cases goes : first.Goes content last
    · -- The end of the edit just made lies behind that of the last one before it.
      have order := Edit.ordered goes.1
      rw [List.cons_append, selectEdits_made goes]
      simp only [List.mem_cons, different, false_or, ih rest]
      constructor
      · rintro ⟨⟨fits, behind⟩, clear⟩
        have stop := behind first.span.stop rfl
        refine ⟨⟨fits, fun stop' same => ?_⟩, ?_⟩
        · have := goes.2 stop' same
          omega
        · rintro other (rfl | member) made
          · exact stop
          · refine clear other member (made.resolve_left ?_)
            rintro rfl
            exact new (by simp [member])
      · rintro ⟨⟨fits, behind⟩, clear⟩
        refine ⟨⟨fits, fun stop same => ?_⟩, fun other member made =>
          clear other (.inr member) (.inr made)⟩
        obtain rfl := Option.some.inj same
        exact clear first (.inl rfl) (.inl rfl)
    · have left : first ∉ (selectEdits content last (front ++ edit :: back)).1 := fun made =>
        new (selectEdits_sublist.subset made)
      rw [List.cons_append, selectEdits_rejected goes, ih rest]
      simp only [List.mem_cons, forall_eq_or_imp, left, false_imp_iff, true_and]

/-- The order in which edits are tried. -/
def Edit.Precedes (a b : Edit) : Prop := a.span.Earlier a.id b.span b.id

theorem sublist_swap {a b : Edit} (distinct : edits.Nodup) (first : [a, b].Sublist edits) :
    ¬[b, a].Sublist edits := by
  intro second
  induction edits with
  | nil => cases first
  | cons edit edits ih =>
    obtain ⟨new, distinct⟩ := List.nodup_cons.mp distinct
    rcases List.sublist_cons_iff.mp first with tail | ⟨_, same, ending⟩
    · rcases List.sublist_cons_iff.mp second with tail' | ⟨_, same, -⟩
      · exact ih distinct tail tail'
      · obtain rfl := (List.cons.inj same).1
        exact new (tail.subset (by simp))
    · obtain ⟨rfl, rfl⟩ := List.cons.inj same
      rcases List.sublist_cons_iff.mp second with tail' | ⟨_, same, -⟩
      · exact new (tail'.subset (by simp))
      · obtain rfl := (List.cons.inj same).1
        exact new (ending.subset (by simp))

theorem sublist_of_mem {a b : Edit} (different : a ≠ b) (first : a ∈ edits) (second : b ∈ edits) :
    [a, b].Sublist edits ∨ [b, a].Sublist edits := by
  obtain ⟨front, back, rfl⟩ := List.append_of_mem first
  rcases List.mem_append.mp second with before | behind
  · exact .inr ((List.singleton_sublist.mpr before).append (List.singleton_sublist.mpr (by simp)))
  · have later : b ∈ back := (List.mem_cons.mp behind).resolve_left (Ne.symm different)
    exact .inl (((List.singleton_sublist.mpr later).cons_cons a).trans
      (List.sublist_append_right _ _))

theorem nodup_of_numbered (numbered : edits.Pairwise (·.id < ·.id)) : edits.Nodup :=
  numbered.imp fun less same => by
    rw [same] at less
    exact Nat.lt_irrefl _ less

/-- Edits with rising numbers are tried in source order, and in the order of their numbers where
they have the same span. -/
theorem pairwise_precedes (numbered : edits.Pairwise (·.id < ·.id)) :
    (edits.mergeSort fun a b => a.span.before b.span).Pairwise Edit.Precedes := by
  have trans : ∀ a b c : Edit, a.span.before b.span = true → b.span.before c.span = true →
      a.span.before c.span = true := fun a b c => Span.before_trans a.span b.span c.span
  have total : ∀ a b : Edit, (a.span.before b.span || b.span.before a.span) = true :=
    fun a b => Span.before_total a.span b.span
  have sorted := List.pairwise_mergeSort trans total edits
  have distinct : (edits.mergeSort fun a b => a.span.before b.span).Nodup :=
    (List.mergeSort_perm edits _).nodup_iff.mpr (nodup_of_numbered numbered)
  refine List.pairwise_iff_forall_sublist.mpr fun {a b} sub => ?_
  have before := List.pairwise_iff_forall_sublist.mp sorted sub
  refine ⟨before, fun alike => ?_⟩
  have different : a ≠ b := List.pairwise_iff_forall_sublist.mp distinct sub
  have listed : ∀ edit ∈ [a, b], edit ∈ edits := fun edit member =>
    List.mem_mergeSort.mp (sub.subset member)
  -- Sorting is stable, so two edits with the same span cannot have changed places.
  rcases sublist_of_mem different (listed a (by simp)) (listed b (by simp)) with kept | turned
  · exact List.pairwise_iff_forall_sublist.mp numbered kept
  · exact absurd (List.pair_sublist_mergeSort trans total alike turned) (sublist_swap distinct sub)

/-- Of edits with rising numbers, one is made exactly if it fits and does not start before the end
of one that is made and comes earlier. -/
theorem mem_made_iff (numbered : edits.Pairwise (·.id < ·.id)) (member : edit ∈ edits) :
    edit ∈ (selectEdits content none (edits.mergeSort fun a b => a.span.before b.span)).1 ↔
      edit.fits content = true ∧
        ∀ other ∈ (selectEdits content none (edits.mergeSort fun a b => a.span.before b.span)).1,
          other.Precedes edit → other.span.stop ≤ edit.span.start := by
  have order := pairwise_precedes numbered
  obtain ⟨front, back, sorted⟩ := List.append_of_mem (List.mem_mergeSort.mpr member)
  rw [sorted] at order ⊢
  have distinct : (front ++ edit :: back).Nodup := order.imp fun precedes same => by
    rw [same] at precedes
    exact Span.not_earlier_self _ _ precedes
  rw [mem_made_split_iff distinct]
  have fits : edit.Goes content none ↔ edit.fits content = true :=
    ⟨And.left, fun fits => ⟨fits, by simp⟩⟩
  rw [fits]
  refine and_congr_right fun _ => forall_congr' fun other => ?_
  obtain ⟨-, tail, across⟩ := List.pairwise_append.mp order
  constructor
  · intro clear made precedes
    rcases List.mem_append.mp (selectEdits_sublist.subset made) with before | behind
    · exact clear before made
    · rcases List.mem_cons.mp behind with rfl | later
      · exact absurd precedes (Span.not_earlier_self _ _)
      · exact absurd precedes (Span.not_earlier_both ((List.pairwise_cons.mp tail).1 other later))
  · intro clear before made
    exact clear made (across other before edit List.mem_cons_self)

end Rewriting
end Phrasebook
