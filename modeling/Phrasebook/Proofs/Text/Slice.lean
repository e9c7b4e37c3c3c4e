import Phrasebook.Text.Quoted
import Phrasebook.Text.Span
import Mathlib.Data.List.Nodup

/-!
Cuts and slices of a text, said without positions. A cut succeeds exactly at the byte length of a
front part, and what a slice answers is what stands in the text between a front part and a back
part. What stands at spans of a text is sorted by their starts, and where these are the same by
their ends; things of which no two stand at the same span come into one order, however they are
given.
-/

namespace Phrasebook.Text

theorem byteLength_concat (cs : List Char) (c : Char) :
    byteLength (cs ++ [c]) = byteLength cs + c.utf8Size := by
  rw [byteLength_append]
  rfl

theorem byteLength_replicate_blank (n : Nat) : byteLength (List.replicate n ' ') = n := by
  induction n with
  | zero => rfl
  | succ n ih => rw [List.replicate_succ, byteLength, ih, Nat.add_comm]; rfl

/-- What each byte of a text is marked with, if each of its characters has a mark. -/
def byteMarks {α : Type} (m : List (Char × α)) : List α :=
  m.flatMap fun x => List.replicate x.1.utf8Size x.2

theorem length_byteMarks {α : Type} (m : List (Char × α)) :
    (byteMarks m).length = byteLength (m.map (·.1)) := by
  induction m with
  | nil => rfl
  | cons x m ih =>
    rw [byteMarks, List.flatMap_cons, List.length_append, ← byteMarks, ih, List.length_replicate]
    rfl

theorem splitBytes?_append (front back : List Char) :
    splitBytes? (byteLength front) (front ++ back) = some (front, back) := by
  induction front with
  | nil => cases back <;> rfl
  | cons c front ih =>
    obtain ⟨n, hn⟩ : ∃ n, byteLength (c :: front) = n + 1 :=
      Nat.exists_eq_add_one.mpr (Nat.add_pos_left c.utf8Size_pos _)
    have size : c.utf8Size ≤ n + 1 := by rw [← hn]; exact Nat.le_add_right _ _
    have rest : n + 1 - c.utf8Size = byteLength front := by rw [← hn]; simp [byteLength]
    rw [hn, List.cons_append, splitBytes?, if_pos size, rest, ih]
    rfl

theorem splitBytes?_eq_some_iff {n : Nat} {cs front back : List Char} :
    splitBytes? n cs = some (front, back) ↔ cs = front ++ back ∧ byteLength front = n := by
  constructor
  · exact splitBytes?_eq_append
  · rintro ⟨rfl, rfl⟩
    exact splitBytes?_append front back

theorem slice?_eq_some_iff {cs mid : List Char} {span : Span} :
    slice? cs span = some mid ↔ ∃ front back, cs = front ++ mid ++ back ∧
      span.start = byteLength front ∧ span.stop = byteLength front + byteLength mid := by
  constructor
  · intro found
    unfold slice? at found
    split at found
    · rename_i order
      cases first : splitBytes? span.start cs with
      | none => simp [first] at found
      | some parts =>
        obtain ⟨front, rest⟩ := parts
        cases second : splitBytes? (span.stop - span.start) rest with
        | none => simp [first, second] at found
        | some parts =>
          obtain ⟨inner, back⟩ := parts
          obtain rfl : inner = mid := by simpa [first, second] using found
          obtain ⟨rfl, hfront⟩ := splitBytes?_eq_some_iff.mp first
          obtain ⟨rfl, hinner⟩ := splitBytes?_eq_some_iff.mp second
          exact ⟨front, back, by simp, by omega, by omega⟩
    · cases found
  · rintro ⟨front, back, rfl, start, stop⟩
    have order : span.start ≤ span.stop := by omega
    have length : span.stop - span.start = byteLength mid := by omega
    rw [slice?, if_pos order, length, start, List.append_assoc, splitBytes?_append]
    simp [splitBytes?_append]

/-- A front part with fewer bytes is part of one with more. -/
theorem append_eq_append_of_le {a b c d : List Char} (same : a ++ b = c ++ d)
    (le : byteLength a ≤ byteLength c) : ∃ e, c = a ++ e ∧ b = e ++ d := by
  rcases List.append_eq_append_iff.mp same with longer | ⟨e, rfl, rfl⟩
  · exact longer
  · rw [byteLength_append] at le
    cases e with
    | nil => exact ⟨[], by simp, rfl⟩
    | cons f e =>
      have filled := f.utf8Size_pos
      rw [byteLength] at le
      omega

/-- A part of a text that begins and ends inside another one is part of that. -/
theorem exists_parts_within {x part y front mid back : List Char}
    (same : x ++ part ++ y = front ++ mid ++ back) (starts : byteLength x ≤ byteLength front)
    (ends : byteLength front + byteLength mid ≤ byteLength x + byteLength part) :
    ∃ f b, front = x ++ f ∧ part = f ++ mid ++ b ∧ back = b ++ y := by
  rw [← byteLength_append, ← byteLength_append] at ends
  obtain ⟨b, outer, rfl⟩ := append_eq_append_of_le same.symm ends
  rw [List.append_assoc] at outer
  obtain ⟨f, rfl, inner⟩ := append_eq_append_of_le outer starts
  exact ⟨f, b, rfl, by rw [inner, List.append_assoc], rfl⟩

theorem slice?_append (front mid back : List Char) :
    slice? (front ++ mid ++ back)
      ⟨byteLength front, byteLength front + byteLength mid⟩ = some mid :=
  slice?_eq_some_iff.mpr ⟨front, back, rfl, rfl, rfl⟩

/-- Two cuts in order have a part of the text between them. -/
theorem slice?_between {text first behind front back : List Char} (cut : text = first ++ behind)
    (later : text = front ++ back) (order : byteLength first ≤ byteLength front) :
    ∃ mid, front = first ++ mid ∧ slice? text ⟨byteLength first, byteLength front⟩ = some mid := by
  obtain ⟨mid, rfl, rfl⟩ := append_eq_append_of_le (cut.symm.trans later) order
  refine ⟨mid, rfl, ?_⟩
  rw [later, byteLength_append]
  exact slice?_append first mid back

/-- A slice of a part is a slice of the whole. -/
theorem slice?_shift {front inner back mid : List Char} {span : Span}
    (found : slice? inner span = some mid) :
    slice? (front ++ inner ++ back) (span.shift (byteLength front)) = some mid := by
  obtain ⟨before, after, rfl, start, stop⟩ := slice?_eq_some_iff.mp found
  refine slice?_eq_some_iff.mpr ⟨front ++ before, after ++ back, by simp, ?_, ?_⟩
  · simp [Span.shift, start, byteLength_append]
  · simp [Span.shift, stop, byteLength_append, Nat.add_assoc]

variable {q : Char} {cs ds : List Char}

/-- A text that quotes of a kind hold to its end: a backslash takes the next character with it. -/
inductive HeldIn (quote : Char) : List Char → Prop
  | nil : HeldIn quote []
  | plain {c : Char} {cs : List Char} : c ≠ '\\' → c ≠ quote → HeldIn quote cs →
      HeldIn quote (c :: cs)
  | escaped {c : Char} {cs : List Char} : HeldIn quote cs → HeldIn quote ('\\' :: c :: cs)

theorem HeldIn.append (first : HeldIn q cs) (second : HeldIn q ds) : HeldIn q (cs ++ ds) := by
  induction first with
  | nil => exact second
  | plain unescaped open_ _ ih => exact .plain unescaped open_ ih
  | escaped _ ih => exact .escaped ih

theorem HeldIn.of_forall (plain : ∀ c ∈ cs, c ≠ '\\' ∧ c ≠ q) : HeldIn q cs := by
  induction cs with
  | nil => exact .nil
  | cons c cs ih =>
    obtain ⟨⟨unescaped, open_⟩, plain⟩ := List.forall_mem_cons.mp plain
    exact .plain unescaped open_ (ih plain)

theorem HeldIn.quoteChars (proper : q ∉ ['\\', 'n', 'r']) (apart : q = '\'' ∨ q ∉ cs) :
    HeldIn q (quoteChars cs) := by
  induction cs with
  | nil => exact .nil
  | cons c cs ih =>
    have rest := ih (apart.imp_right fun outside inside => outside (List.mem_cons_of_mem c inside))
    refine HeldIn.append ?_ rest
    unfold quoteChar
    split
    case h_5 plain quote _ _ =>
      have open_ : c ≠ q := by
        rintro rfl
        exact apart.elim quote fun outside => outside List.mem_cons_self
      exact .plain plain open_ .nil
    all_goals exact .escaped .nil

end Phrasebook.Text

namespace Phrasebook.Span

theorem before_iff {a b : Span} :
    a.before b = true ↔ a.start < b.start ∨ a.start = b.start ∧ a.stop ≤ b.stop := by
  simp [before]

theorem before_trans (a b c : Span) (first : a.before b = true) (second : b.before c = true) :
    a.before c = true := by
  rw [before_iff] at *
  omega

theorem before_total (a b : Span) : (a.before b || b.before a) = true := by
  rw [Bool.or_eq_true, before_iff, before_iff]
  omega

theorem eq_of_before {a b : Span} (first : a.before b = true)
    (second : b.before a = true) : a = b := by
  rw [before_iff] at first second
  obtain ⟨start, stop⟩ := a
  obtain ⟨start', stop'⟩ := b
  simp only [mk.injEq] at *
  omega

universe u
variable {α : Type u} (span : α → Span)

theorem pairwise_mergeSort (things : List α) :
    (things.mergeSort fun a b => (span a).before (span b)).Pairwise fun a b =>
      (span a).before (span b) = true :=
  List.pairwise_mergeSort (fun a b c => before_trans (span a) (span b) (span c))
    (fun a b => before_total (span a) (span b)) things

/-- Things at different spans come into one order, in whatever order they are given. -/
theorem mergeSort_eq_of_perm {things others : List α} (distinct : (things.map span).Nodup)
    (perm : others.Perm things) :
    (others.mergeSort fun a b => (span a).before (span b)) =
      things.mergeSort fun a b => (span a).before (span b) := by
  have both := (List.mergeSort_perm others fun a b => (span a).before (span b)).trans
    (perm.trans (List.mergeSort_perm things fun a b => (span a).before (span b)).symm)
  refine both.eq_of_pairwise (fun a b first second before after => ?_)
    (pairwise_mergeSort span others) (pairwise_mergeSort span things)
  exact List.inj_on_of_nodup_map distinct (perm.mem_iff.mp (List.mem_mergeSort.mp first))
    (List.mem_mergeSort.mp second) (eq_of_before before after)

end Phrasebook.Span
