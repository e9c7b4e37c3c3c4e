import Phrasebook.Text.Search
import Mathlib.Data.List.Basic

/-!
Pieces of a text between separators. No piece holds a separator, the pieces of two texts with a
separator between them are those of the one and those of the other, and the pieces give the text
back. A pattern is found in a text exactly if it is a part of it.
-/

namespace Phrasebook.Text

theorem contains_iff_infix {pattern cs : List Char} :
    contains pattern cs = true ↔ pattern <:+: cs := by
  induction cs with
  | nil =>
    rw [List.infix_nil, contains, splitAtFirst?]
    cases pattern <;> simp
  | cons c cs ih =>
    rw [List.infix_cons_iff, ← ih, ← List.isPrefixOf_iff_prefix, contains, splitAtFirst?]
    split
    · rename_i here
      exact ⟨fun _ => .inl here, fun _ => rfl⟩
    · rename_i absent
      rw [Option.isSome_map]
      exact ⟨.inr, Or.rec (fun here => absurd here absent) id⟩

variable {sep : Char}

theorem splitOnChar_ne_nil (sep : Char) (cs : List Char) : splitOnChar sep cs ≠ [] := by
  cases cs with
  | nil => simp [splitOnChar]
  | cons c cs =>
    rw [splitOnChar]
    split
    · simp
    · split <;> simp

/-- A separator ends a piece, and any other character makes the first one longer. -/
theorem splitOnChar_cons (sep c : Char) (cs : List Char) :
    ∃ piece rest, splitOnChar sep cs = piece :: rest ∧
      splitOnChar sep (c :: cs) = if c = sep then [] :: piece :: rest
        else (c :: piece) :: rest := by
  obtain ⟨piece, rest, pieces⟩ := List.exists_cons_of_ne_nil (splitOnChar_ne_nil sep cs)
  exact ⟨piece, rest, pieces, by rw [splitOnChar, pieces]⟩

theorem splitOnChar_of_not_mem {cs : List Char} (none : sep ∉ cs) : splitOnChar sep cs = [cs] := by
  induction cs with
  | nil => rfl
  | cons c cs ih =>
    obtain ⟨piece, rest, pieces, grown⟩ := splitOnChar_cons sep c cs
    have other : c ≠ sep := fun same => none (same ▸ List.mem_cons_self)
    obtain ⟨rfl, rfl⟩ :=
      List.cons.inj (pieces.symm.trans (ih fun listed => none (List.mem_cons_of_mem _ listed)))
    rw [grown, if_neg other]

theorem splitOnChar_append_sep (sep : Char) (front back : List Char) :
    splitOnChar sep (front ++ sep :: back) = splitOnChar sep front ++ splitOnChar sep back := by
  induction front with
  | nil =>
    obtain ⟨piece, rest, pieces, grown⟩ := splitOnChar_cons sep sep back
    rw [List.nil_append, grown, if_pos rfl, ← pieces]
    rfl
  | cons c front ih =>
    obtain ⟨piece, rest, pieces, grown⟩ := splitOnChar_cons sep c front
    obtain ⟨other, more, longer, whole⟩ := splitOnChar_cons sep c (front ++ sep :: back)
    rw [ih, pieces, List.cons_append] at longer
    obtain ⟨rfl, rfl⟩ := List.cons.inj longer
    rw [List.cons_append, whole, grown]
    split <;> rfl

/-- Text without a separator makes the last piece longer. -/
theorem splitOnChar_append {tail : List Char} (none : sep ∉ tail) (front : List Char) :
    ∃ pieces last, splitOnChar sep (front ++ tail) = pieces ++ [last ++ tail] := by
  induction front with
  | nil => exact ⟨[], [], splitOnChar_of_not_mem none⟩
  | cons c front ih =>
    obtain ⟨pieces, last, whole⟩ := ih
    obtain ⟨piece, rest, split, grown⟩ := splitOnChar_cons sep c (front ++ tail)
    rw [List.cons_append, grown, ← split, whole]
    rw [whole] at split
    by_cases same : c = sep
    · exact ⟨[] :: pieces, last, by rw [if_pos same]; rfl⟩
    · rw [if_neg same]
      cases pieces with
      | nil =>
        obtain ⟨rfl, rfl⟩ := List.cons.inj split
        exact ⟨[], c :: last, rfl⟩
      | cons first pieces =>
        obtain ⟨rfl, rfl⟩ := List.cons.inj split
        exact ⟨(c :: first) :: pieces, last, rfl⟩

/-- A piece is made of characters of the text, and none of them is a separator. -/
theorem mem_of_mem_splitOnChar {cs piece : List Char}
    (listed : piece ∈ splitOnChar sep cs) {c : Char} (member : c ∈ piece) : c ≠ sep ∧ c ∈ cs := by
  induction cs generalizing piece with
  | nil =>
    obtain rfl := List.mem_singleton.mp listed
    cases member
  | cons d cs ih =>
    obtain ⟨first, rest, pieces, grown⟩ := splitOnChar_cons sep d cs
    have deeper : ∀ {piece}, piece ∈ first :: rest → c ∈ piece → c ≠ sep ∧ c ∈ d :: cs :=
      fun listed member => (ih (pieces ▸ listed) member).imp_right (List.mem_cons_of_mem _)
    rw [grown] at listed
    split at listed
    · rcases List.mem_cons.mp listed with rfl | listed
      · cases member
      · exact deeper listed member
    · rename_i other
      rcases List.mem_cons.mp listed with rfl | listed
      · rcases List.mem_cons.mp member with rfl | member
        · exact ⟨other, List.mem_cons_self⟩
        · exact deeper List.mem_cons_self member
      · exact deeper (List.mem_cons_of_mem _ listed) member

theorem length_le_of_mem_splitOnChar {cs piece : List Char} (listed : piece ∈ splitOnChar sep cs) :
    piece.length ≤ cs.length := by
  induction cs generalizing piece with
  | nil =>
    obtain rfl := List.mem_singleton.mp listed
    exact Nat.le_refl _
  | cons c cs ih =>
    obtain ⟨first, rest, pieces, grown⟩ := splitOnChar_cons sep c cs
    have shorter : ∀ {piece}, piece ∈ first :: rest → piece.length ≤ cs.length :=
      fun listed => ih (pieces ▸ listed)
    rw [grown] at listed
    rw [List.length_cons]
    split at listed
    · rcases List.mem_cons.mp listed with rfl | listed
      · exact Nat.zero_le _
      · exact Nat.le_succ_of_le (shorter listed)
    · rcases List.mem_cons.mp listed with rfl | listed
      · exact Nat.succ_le_succ (shorter List.mem_cons_self)
      · exact Nat.le_succ_of_le (shorter (List.mem_cons_of_mem _ listed))

/-- A text is its pieces with the separator between them. -/
theorem join_splitOnChar (sep : Char) (cs : List Char) :
    [sep].intercalate (splitOnChar sep cs) = cs := by
  induction cs with
  | nil => simp [splitOnChar]
  | cons c cs ih =>
    obtain ⟨piece, rest, pieces, grown⟩ := splitOnChar_cons sep c cs
    rw [grown, ← ih, pieces]
    by_cases same : c = sep
    · subst sep
      simp [List.intercalate]
    · cases rest <;> simp [same, List.intercalate]

/-- Pieces without separators are found again. -/
theorem splitOnChar_intercalate {pieces : List (List Char)} (filled : pieces ≠ [])
    (none : ∀ piece ∈ pieces, sep ∉ piece) :
    splitOnChar sep ([sep].intercalate pieces) = pieces := by
  induction pieces with
  | nil => exact (filled rfl).elim
  | cons piece rest ih =>
    have first := splitOnChar_of_not_mem (none piece List.mem_cons_self)
    cases rest with
    | nil => simpa [List.intercalate] using first
    | cons next rest =>
      rw [List.intercalate_cons_cons, List.append_assoc, List.singleton_append,
        splitOnChar_append_sep, first, ih (List.cons_ne_nil _ _) fun piece listed =>
          none piece (List.mem_cons_of_mem _ listed)]
      rfl

/-- Some characters before a text make its first piece longer, and leave the others. -/
theorem nil_mem_splitOnChar_append {front cs : List Char} (filled : front ≠ [])
    (none : sep ∉ front) : [] ∈ splitOnChar sep (front ++ cs) ↔ [] ∈ (splitOnChar sep cs).tail := by
  obtain ⟨piece, rest, pieces⟩ := List.exists_cons_of_ne_nil (splitOnChar_ne_nil sep cs)
  have longer : splitOnChar sep (front ++ cs) = (front ++ piece) :: rest := by
    clear filled
    induction front with
    | nil => exact pieces
    | cons c front ih =>
      obtain ⟨other, none⟩ := List.ne_and_not_mem_of_not_mem_cons none
      obtain ⟨first, more, split, grown⟩ := splitOnChar_cons sep c (front ++ cs)
      obtain ⟨rfl, rfl⟩ := List.cons.inj (split.symm.trans (ih none))
      rw [List.cons_append, grown, if_neg (Ne.symm other)]
      rfl
  rw [longer, pieces, List.tail_cons, List.mem_cons]
  exact or_iff_right fun empty => filled (List.append_eq_nil_iff.mp empty.symm).1

theorem head_splitOnChar_eq_nil_iff {cs piece : List Char} {rest : List (List Char)}
    (pieces : splitOnChar sep cs = piece :: rest) : piece = [] ↔ cs = [] ∨ cs.head? = some sep := by
  cases cs with
  | nil =>
    obtain ⟨rfl, -⟩ := List.cons.inj pieces
    simp
  | cons c cs =>
    obtain ⟨first, more, -, grown⟩ := splitOnChar_cons sep c cs
    rw [grown] at pieces
    split at pieces <;> obtain ⟨rfl, -⟩ := List.cons.inj pieces <;> simp [*]

/-- Behind the first piece there is an empty one where a separator follows another one, or ends the
text. -/
theorem nil_mem_tail_splitOnChar_iff {cs : List Char} :
    [] ∈ (splitOnChar sep cs).tail ↔ [sep, sep] <:+: cs ∨ cs.getLast? = some sep := by
  induction cs with
  | nil => simp [splitOnChar]
  | cons c cs ih =>
    obtain ⟨piece, rest, pieces, grown⟩ := splitOnChar_cons sep c cs
    have first := head_splitOnChar_eq_nil_iff pieces
    rw [pieces, List.tail_cons] at ih
    rw [grown, List.infix_cons_iff]
    by_cases same : c = sep
    · subst c
      have follows : [sep, sep] <+: sep :: cs ↔ cs.head? = some sep := by
        cases cs with
        | nil => simp
        | cons d cs =>
          rw [List.cons_prefix_cons, List.cons_prefix_cons, List.head?_cons, Option.some_inj]
          exact ⟨fun both => both.2.1.symm, fun same => ⟨rfl, same.symm, List.nil_prefix⟩⟩
      have ends : (sep :: cs).getLast? = some sep ↔ cs = [] ∨ cs.getLast? = some sep := by
        cases cs <;> simp
      rw [if_pos rfl, List.tail_cons, List.mem_cons, eq_comm, first, ih, follows, ends]
      grind
    · rw [if_neg same, List.tail_cons, ih]
      cases cs <;> simp [List.prefix_cons_iff, same, Ne.symm same]

/-- A piece is empty where a separator begins or ends the text or follows another one. -/
theorem nil_mem_splitOnChar_iff {cs : List Char} : [] ∈ splitOnChar sep cs ↔
    cs = [] ∨ cs.head? = some sep ∨ cs.getLast? = some sep ∨ [sep, sep] <:+: cs := by
  obtain ⟨piece, rest, pieces⟩ := List.exists_cons_of_ne_nil (splitOnChar_ne_nil sep cs)
  have behind := @nil_mem_tail_splitOnChar_iff sep cs
  rw [pieces, List.tail_cons] at behind
  rw [pieces, List.mem_cons, eq_comm, head_splitOnChar_eq_nil_iff pieces, behind, or_assoc,
    or_comm (a := _ <:+: _)]

theorem intercalate_append {front back : List (List Char)} (filled : back ≠ []) :
    [sep].intercalate (front ++ back) = front.flatMap (· ++ [sep]) ++ [sep].intercalate back := by
  induction front with
  | nil => rfl
  | cons piece front ih =>
    obtain ⟨next, rest, parts⟩ : ∃ next rest, front ++ back = next :: rest :=
      List.exists_cons_of_ne_nil (List.append_ne_nil_of_right_ne_nil _ filled)
    rw [List.cons_append, parts, List.intercalate_cons_cons, ← parts, ih, List.flatMap_cons]
    simp

/-- Of texts that are joined behind the same ones, pieces without separators are found again. -/
theorem intercalate_append_inj {front as bs : List (List Char)} (first : as ≠ []) (second : bs ≠ [])
    (noneFirst : ∀ piece ∈ as, sep ∉ piece) (noneSecond : ∀ piece ∈ bs, sep ∉ piece)
    (same : [sep].intercalate (front ++ as) = [sep].intercalate (front ++ bs)) : as = bs := by
  rw [intercalate_append first, intercalate_append second] at same
  have joined := List.append_cancel_left same
  rw [← splitOnChar_intercalate first noneFirst, joined, splitOnChar_intercalate second noneSecond]

end Phrasebook.Text
