import Phrasebook.Proofs.Rewriting.Edit
import Mathlib.Data.List.Nodup

/-!
Any list of edits of a text, with whatever spans they have. They are tried in source order; those
that are made can be made in place one after the other, from the last to the first, and give what
the splice from left to right gives.
-/

namespace Phrasebook.Rewriting

open Text

/-- Puts the text of an edit in place of its span. This fails where an end of the span lies inside a
character or behind the end of the text. -/
def replaceAt? (content : List Char) (edit : Edit) : Option (List Char) :=
  if edit.span.start ≤ edit.span.stop then do
    let (front, rest) ← splitBytes? edit.span.start content
    let (_, back) ← splitBytes? (edit.span.stop - edit.span.start) rest
    return front ++ edit.text.toList ++ back
  else none

/-- Makes edits in place, the last one first. -/
def editInPlace? (content : List Char) : List Edit → Option (List Char)
  | [] => some content
  | edit :: edits => do replaceAt? (← editInPlace? content edits) edit

theorem replaceAt?_append {edit : Edit} (front old back : List Char)
    (span : edit.span = ⟨byteLength front, byteLength front + byteLength old⟩) :
    replaceAt? (front ++ old ++ back) edit = some (front ++ edit.text.toList ++ back) := by
  have length : edit.span.stop - edit.span.start = byteLength old := by
    rw [span]
    exact Nat.add_sub_cancel_left ..
  have order : edit.span.start ≤ edit.span.stop := by
    rw [span]
    exact Nat.le_add_right ..
  have opens : splitBytes? edit.span.start (front ++ old ++ back) = some (front, old ++ back) := by
    rw [span, List.append_assoc]
    exact splitBytes?_append ..
  rw [replaceAt?, if_pos order, opens, Option.bind_eq_bind, Option.bind_some]
  dsimp only
  rw [length, splitBytes?_append]
  rfl

/-- Edits behind a place leave the positions before it as they are, so that the next one still finds
its span. -/
theorem Spliced.editInPlace? {position : Nat} {content output front : List Char} {edits : List Edit}
    (spliced : Spliced position content edits output) (place : byteLength front = position) :
    editInPlace? (front ++ content) edits = some (front ++ output) := by
  induction spliced generalizing front with
  | kept => rfl
  | @edited position kept old after output edit edits span rest ih =>
    have start : byteLength (front ++ kept) = position + byteLength kept :=
      by rw [byteLength_append, place]
    have stop : byteLength (front ++ kept ++ old) = edit.span.stop :=
      by rw [byteLength_append, start, span]
    have later := ih stop
    have own := @replaceAt?_append edit (front ++ kept) old output (by rw [start, span])
    have whole : front ++ (kept ++ old ++ after) = front ++ kept ++ old ++ after := by simp
    rw [Rewriting.editInPlace?, whole, later, Option.bind_eq_bind, Option.bind_some, own]
    simp

/-- The edits that are made. -/
def madeOf (tried : List (Edit × Bool)) : List Edit := (tried.filter (·.2)).map (·.1)

/-- The numbers of the edits that are not made. -/
def refusedOf (tried : List (Edit × Bool)) : List Nat := (tried.filter (!·.2)).map (·.1.id)

/-- Each edit comes with whether it is made: it is one if it fits behind the last end and no edit
made before it reaches over its beginning. -/
def Decided (content : List Char) (last : Option Nat) (tried : List (Edit × Bool)) : Prop :=
  ∀ front edit made back, tried = front ++ (edit, made) :: back →
    (made = true ↔ edit.Goes content last ∧
      ∀ other, (other, true) ∈ front → other.span.stop ≤ edit.span.start)

variable {content : List Char} {last : Option Nat} {edit : Edit} {edits : List Edit}

theorem Decided.nil : Decided content last [] := by
  intro front edit made back same
  simp at same

theorem Decided.made {tried : List (Edit × Bool)} (goes : edit.Goes content last)
    (rest : Decided content (some edit.span.stop) tried) :
    Decided content last ((edit, true) :: tried) := by
  intro front other made back same
  rcases List.cons_eq_append_iff.mp same with ⟨rfl, first⟩ | ⟨front, rfl, later⟩
  · obtain ⟨rfl, rfl⟩ := Prod.mk.inj (List.cons.inj first).1
    simpa using goes
  · -- The end of the edit just made lies behind the last end before it.
    have order := Edit.ordered goes.1
    rw [rest front other made back later]
    constructor
    · rintro ⟨⟨fits, behind⟩, clear⟩
      have stop := behind edit.span.stop rfl
      refine ⟨⟨fits, fun end_ same => ?_⟩, fun earlier member => ?_⟩
      · have := goes.2 end_ same
        omega
      · rcases List.mem_cons.mp member with same | member
        · obtain ⟨rfl, -⟩ := Prod.mk.inj same
          exact stop
        · exact clear earlier member
    · rintro ⟨⟨fits, -⟩, clear⟩
      refine ⟨⟨fits, fun stop same => ?_⟩, fun earlier member =>
        clear earlier (List.mem_cons_of_mem _ member)⟩
      obtain rfl := Option.some.inj same
      exact clear edit List.mem_cons_self

theorem Decided.refused {tried : List (Edit × Bool)} (stays : ¬edit.Goes content last)
    (rest : Decided content last tried) : Decided content last ((edit, false) :: tried) := by
  intro front other made back same
  rcases List.cons_eq_append_iff.mp same with ⟨rfl, first⟩ | ⟨front, rfl, later⟩
  · obtain ⟨rfl, rfl⟩ := Prod.mk.inj (List.cons.inj first).1
    simpa using stays
  · rw [rest front other made back later]
    simp

/-- A run over edits decides on each of them. -/
theorem selectEdits_tried (content : List Char) (last : Option Nat) (edits : List Edit) :
    ∃ tried, tried.map Prod.fst = edits ∧ selectEdits content last edits =
      (madeOf tried, refusedOf tried) ∧ Decided content last tried := by
  induction edits generalizing last with
  | nil => exact ⟨[], rfl, rfl, .nil⟩
  | cons edit edits ih =>
    by_cases goes : edit.Goes content last
    · obtain ⟨tried, listed, chosen, decided⟩ := ih (some edit.span.stop)
      refine ⟨(edit, true) :: tried, by rw [List.map_cons, listed], ?_, decided.made goes⟩
      rw [selectEdits_made goes, chosen]
      rfl
    · obtain ⟨tried, listed, chosen, decided⟩ := ih last
      refine ⟨(edit, false) :: tried, by rw [List.map_cons, listed], ?_, decided.refused goes⟩
      rw [selectEdits_rejected goes, chosen]
      rfl

/-- Edits at different spans come into one order, in whatever order they are given. -/
theorem mergeSort_eq_of_perm {others : List Edit} (distinct : (edits.map (·.span)).Nodup)
    (perm : others.Perm edits) :
    (others.mergeSort fun a b => a.span.before b.span) = edits.mergeSort fun a b =>
      a.span.before b.span :=
  Span.mergeSort_eq_of_perm Edit.span distinct perm

theorem mem_madeOf {tried : List (Edit × Bool)} (member : edit ∈ tried.map Prod.fst)
    (kept : edit.id ∉ refusedOf tried) : edit ∈ madeOf tried := by
  obtain ⟨⟨other, made⟩, found, rfl⟩ := List.mem_map.mp member
  cases made with
  | true => exact List.mem_map.mpr ⟨_, List.mem_filter.mpr ⟨found, rfl⟩, rfl⟩
  | false => exact absurd (List.mem_map.mpr ⟨_, List.mem_filter.mpr ⟨found, rfl⟩, rfl⟩) kept

/-- What becomes of edits, in the order in which they are tried. -/
structure Tried (content : List Char) (edits : List Edit) (tried : List (Edit × Bool))
    (output : List Char) (rejected : List Nat) : Prop where
  order : tried.map Prod.fst = edits.mergeSort fun a b => a.span.before b.span
  refused : rejected = refusedOf tried
  made : ∀ edit ∈ edits, edit.id ∉ rejected → edit ∈ madeOf tried
  fit : ∀ edit ∈ madeOf tried, ∃ old, slice? content edit.span = some old
  apart : (madeOf tried).Pairwise (·.span.stop ≤ ·.span.start)
  decided : ∀ front edit made back, tried = front ++ (edit, made) :: back →
    (made = true ↔ (∃ old, slice? content edit.span = some old) ∧
      ∀ other, (other, true) ∈ front → other.span.stop ≤ edit.span.start)
  spliced : Spliced 0 content (madeOf tried) output
  inPlace : editInPlace? content (madeOf tried) = some output

theorem Edit.fits_iff : edit.fits content = true ↔ ∃ old, slice? content edit.span = some old := by
  constructor
  · intro fits
    simp only [Edit.fits, Bool.and_eq_true, decide_eq_true_eq] at fits
    obtain ⟨⟨order, opens⟩, closes⟩ := fits
    obtain ⟨front, rest, rfl, start⟩ := @cut_of_isBoundary [] _ _ opens (Nat.zero_le _)
    rw [byteLength, Nat.zero_add] at start
    obtain ⟨old, back, rfl, stop⟩ := cut_of_isBoundary closes (by rw [← start]; exact order)
    exact ⟨old, slice?_eq_some_iff.mpr ⟨front, back, by simp, start, stop⟩⟩
  · rintro ⟨old, sliced⟩
    exact fits_of_slice sliced

/-- Edits with any spans, in any order: one is made if its span takes out whole characters of the
text and does not begin before the end of one that is made and comes earlier in source order. Making
them in place never fails and is the splice from left to right, and where no two have the same span
the order in which they are given does not matter. -/
theorem applyEdits_tried (content : List Char) (edits : List Edit) :
    (∃ tried, Tried content edits tried (applyEdits content edits).1 (applyEdits content edits).2) ∧
      ∀ others, others.Perm edits → (edits.map (·.span)).Nodup →
        applyEdits content others = applyEdits content edits := by
  constructor
  · have fits := @selectEdits_fits content none (edits.mergeSort fun a b => a.span.before b.span)
    have apart := @selectEdits_apart content none (edits.mergeSort fun a b => a.span.before b.span)
    obtain ⟨tried, listed, chosen, decided⟩ :=
      selectEdits_tried content none (edits.mergeSort fun a b => a.span.before b.span)
    rw [applyEdits]
    rw [chosen] at fits apart ⊢
    have spliced := @splice_spliced _ [] _ _ rfl fits apart
    refine ⟨tried, listed, rfl, fun edit member => ?_, fun edit member =>
      Edit.fits_iff.mp (fits edit member), apart.pairwise fun edit member =>
        Edit.ordered (fits edit member), ?_, spliced, ?_⟩
    · exact mem_madeOf (by rw [listed]; exact List.mem_mergeSort.mpr member)
    · intro front edit made back same
      rw [decided front edit made back same, ← Edit.fits_iff]
      simp [Edit.Goes]
    · exact @Spliced.editInPlace? _ _ _ [] _ spliced rfl
  · intro others perm distinct
    rw [applyEdits, applyEdits, mergeSort_eq_of_perm distinct perm]

/-- An edit inside another one is left out, whichever is given first, and so is one that is cut
inside a character. -/
theorem applyEdits_tried_nested :
    let content := "<p>你好</p>".toList
    let edits : List Edit := [⟨⟨3, 9⟩, "a", 0⟩, ⟨⟨4, 6⟩, "c", 2⟩, ⟨⟨6, 9⟩, "b", 1⟩]
    (edits.map (·.span)).Nodup ∧ applyEdits content edits.reverse = applyEdits content edits ∧
      applyEdits content edits = ("<p>a</p>".toList, [2, 1]) := by
  intro content edits
  have distinct : (edits.map (·.span)).Nodup := by decide
  refine ⟨distinct, (applyEdits_tried content edits).2 _ edits.reverse_perm distinct, ?_⟩
  rw [applyEdits, List.mergeSort_of_pairwise (by decide)]
  decide

end Phrasebook.Rewriting
