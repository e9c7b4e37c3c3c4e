import Phrasebook.Proofs.Text.Character
import Phrasebook.Resource.Leaves
import Mathlib.Data.List.Basic

/-!
The leaves of a resource tree. The texts are among the leaves, and any other leaf shows a value that
has no blank in it. Two changes of the texts give the same tree only if they agree on all of them.
-/

namespace Phrasebook

namespace Text

/-- A text with something in it and without a blank anywhere. -/
structure Solid (text : String) : Prop where
  filled : text ≠ ""
  visible : ∀ c ∈ text.toList, isSpace c = false

theorem visible_of_any {cs : List Char} (none : cs.any isSpace = false) :
    ∀ c ∈ cs, isSpace c = false := by
  simpa using none

theorem solid_of_any {text : String} (filled : text ≠ "") (none : text.toList.any isSpace = false) :
    Solid text :=
  ⟨filled, visible_of_any none⟩

theorem visible_append {a b : String} (first : ∀ c ∈ a.toList, isSpace c = false)
    (second : ∀ c ∈ b.toList, isSpace c = false) : ∀ c ∈ (a ++ b).toList, isSpace c = false := by
  intro c member
  rw [String.toList_append] at member
  exact (List.mem_append.mp member).elim (first c) (second c)

theorem Solid.append {a b : String} (first : Solid a) (second : ∀ c ∈ b.toList, isSpace c = false) :
    Solid (a ++ b) :=
  ⟨fun empty => first.filled (String.append_eq_empty_iff.mp empty).1,
    visible_append first.visible second⟩

theorem Solid.behind {a b : String} (first : ∀ c ∈ a.toList, isSpace c = false) (second : Solid b) :
    Solid (a ++ b) :=
  ⟨fun empty => second.filled (String.append_eq_empty_iff.mp empty).2,
    visible_append first second.visible⟩

theorem solid_natural (n : Nat) : Solid (toString n) := by
  refine ⟨fun empty => ?_, fun c member => ?_⟩
  · have digits : Nat.toDigits 10 n = [] := by
      simpa using congrArg String.toList empty
    exact Nat.toDigits_ne_nil digits
  · have listed : c ∈ Nat.toDigits 10 n := by simpa using member
    exact isSpace_eq_false_of_isDigit (Nat.isDigit_of_mem_toDigits (by decide) (by decide) listed)

theorem solid_integer (n : Int) : Solid (toString n) := by
  cases n with
  | ofNat n => exact solid_natural n
  | negSucc n =>
    have sign : ∀ c ∈ "-".toList, isSpace c = false := visible_of_any (by decide)
    exact Solid.behind sign (solid_natural (n + 1))

theorem visible_zeros (n : Nat) :
    ∀ c ∈ (String.ofList (List.replicate n '0')).toList, isSpace c = false := by
  intro c member
  rw [String.toList_ofList] at member
  rw [List.eq_of_mem_replicate member]
  decide

end Text

open Text

theorem visible_part {text : String} (solid : Solid text) {cs : List Char}
    (part : ∀ c ∈ cs, c ∈ text.toList) : ∀ c ∈ (String.ofList cs).toList, isSpace c = false := by
  intro c member
  rw [String.toList_ofList] at member
  exact solid.visible c (part c member)

theorem DecimalDigits.solid_positional (d : DecimalDigits) : Solid d.positional := by
  have digits := solid_natural d.digits
  unfold positional
  simp only
  split
  · exact digits.append (visible_zeros _)
  · split
    · have point : Solid "." := solid_of_any (by decide) (by decide)
      refine (Solid.behind (visible_part digits fun c => ?_) point).append
        (visible_part digits fun c => List.mem_of_mem_drop)
      exact List.mem_of_mem_take
    · have front : Solid "0." := solid_of_any (by decide) (by decide)
      exact Solid.behind (front.append (visible_zeros _)).visible digits

theorem DecimalDigits.solid_scientific (d : DecimalDigits) : Solid d.scientific := by
  have digits := solid_natural d.digits
  have mark : Solid "e" := solid_of_any (by decide) (by decide)
  have point : Solid "." := solid_of_any (by decide) (by decide)
  have first := visible_part digits fun c => List.mem_of_mem_take (i := 1)
  have fraction : ∀ c ∈ (if (toString d.digits).toList.length ≤ 1 then ""
      else "." ++ String.ofList ((toString d.digits).toList.drop 1)).toList, isSpace c = false := by
    split
    · simp
    · exact visible_append point.visible (visible_part digits fun c => List.mem_of_mem_drop)
  have sign : ∀ e : Int, ∀ c ∈ (if e < 0 then "-" else "+").toList, isSpace c = false := by
    intro e
    split <;> exact visible_of_any (by decide)
  have front := Solid.behind (visible_append first fraction) mark
  exact (front.append (sign _)).append (solid_natural _).visible

theorem Binary64.solid_dataText {value : Binary64} {text : String}
    (shown : value.dataText? = some text) : Solid text := by
  cases value with
  | infinite negative => cases shown
  | finite negative m e =>
    obtain rfl := Option.some.inj shown
    have sign : ∀ c ∈ (if negative then "-" else "").toList, isSpace c = false := by
      split <;> exact visible_of_any (by decide)
    refine Solid.behind sign ?_
    split
    · exact DecimalDigits.solid_scientific _
    · split
      · exact (DecimalDigits.solid_positional _).append (visible_of_any (by decide))
      · exact DecimalDigits.solid_positional _

/-- A value that is no text is shown without a blank. -/
theorem Scalar.solid_toText (value : Scalar) : Solid value.toText := by
  have spelled : value.toText = match value with
      | .null => "null"
      | .boolean true => "true"
      | .boolean false => "false"
      | .number (.whole n) => toString n
      | .number (.binary b) => b.dataText?.getD "null" := by
    unfold toText
    cases value with
    | null => rfl
    | boolean value => cases value <;> rfl
    | number value =>
      cases value <;> simp [toJson, Json.compact, Json.compactChars, Json.numberText]
  rw [spelled]
  split
  · exact solid_of_any (by decide) (by decide)
  · exact solid_of_any (by decide) (by decide)
  · exact solid_of_any (by decide) (by decide)
  · exact solid_integer _
  · rename_i b
    cases shown : b.dataText? with
    | none => exact solid_of_any (by decide) (by decide)
    | some text => exact Binary64.solid_dataText shown

namespace ResourceNode

variable {f g : String → String → String}

mutual

theorem mapTexts_eq_iff (path : String) : ∀ node : ResourceNode,
    node.mapTexts f path = node.mapTexts g path ↔
      ∀ leaf ∈ node.texts path, f leaf.1 leaf.2 = g leaf.1 leaf.2
  | text value => by simp [mapTexts, texts]
  | scalar value => by simp [mapTexts, texts]
  | group members => by simpa [mapTexts, texts] using mapMembers_eq_iff path members

theorem mapMembers_eq_iff (path : String) : ∀ members : List (String × ResourceNode),
    mapMembers f path members = mapMembers g path members ↔
      ∀ leaf ∈ memberTexts path members, f leaf.1 leaf.2 = g leaf.1 leaf.2
  | [] => by simp [mapMembers, memberTexts]
  | (name, node) :: members => by
    rw [mapMembers, mapMembers, memberTexts, List.cons.injEq, Prod.mk.injEq, List.forall_mem_append,
      mapTexts_eq_iff, mapMembers_eq_iff]
    exact and_congr_left fun _ => and_iff_right rfl

end

mutual

theorem mem_leaves {path : String} {leaf : String × String} : ∀ {node : ResourceNode},
    leaf ∈ node.leaves path → leaf ∈ node.texts path ∨ ∃ value : Scalar, leaf.2 = value.toText
  | text _, found => .inl found
  | scalar value, found => .inr ⟨value, by rw [List.mem_singleton.mp found]⟩
  | group _, found => mem_memberLeaves found

theorem mem_memberLeaves {path : String} {leaf : String × String} :
    ∀ {members : List (String × ResourceNode)}, leaf ∈ memberLeaves path members →
      leaf ∈ memberTexts path members ∨ ∃ value : Scalar, leaf.2 = value.toText
  | (_, _) :: _, found => by
    rcases List.mem_append.mp found with found | found
    · exact (mem_leaves found).imp_left (List.mem_append_left _)
    · exact (mem_memberLeaves found).imp_left (List.mem_append_right _)

end

mutual

theorem mem_leaves_of_mem_texts {path : String} {leaf : String × String} : ∀ {node : ResourceNode},
    leaf ∈ node.texts path → leaf ∈ node.leaves path
  | text _, found => found
  | group _, found => mem_memberLeaves_of_mem_memberTexts found

theorem mem_memberLeaves_of_mem_memberTexts {path : String} {leaf : String × String} :
    ∀ {members : List (String × ResourceNode)}, leaf ∈ memberTexts path members →
      leaf ∈ memberLeaves path members
  | (_, _) :: _, found => by
    rcases List.mem_append.mp found with found | found
    · exact List.mem_append_left _ (mem_leaves_of_mem_texts found)
    · exact List.mem_append_right _ (mem_memberLeaves_of_mem_memberTexts found)

end
end ResourceNode

namespace ResourceTree

variable {tree : ResourceTree}

/-- Two changes of the texts give the same tree exactly if they agree on every text. -/
theorem mapTexts_eq_iff {f g : String → String → String} :
    tree.mapTexts f = tree.mapTexts g ↔ ∀ leaf ∈ tree.texts, f leaf.1 leaf.2 = g leaf.1 leaf.2 := by
  simp only [mapTexts, texts, ResourceTree.mk.injEq, List.map_inj_left, List.forall_mem_flatMap,
    Prod.mk.injEq, true_and, ResourceNode.mapTexts_eq_iff]

theorem mem_leaves_of_mem_texts {leaf : String × String} (found : leaf ∈ tree.texts) :
    leaf ∈ tree.leaves := by
  obtain ⟨named, member, found⟩ := List.mem_flatMap.mp found
  exact List.mem_flatMap.mpr ⟨named, member, ResourceNode.mem_leaves_of_mem_texts found⟩

/-- A leaf is a text or shows another value. -/
theorem mem_leaves {leaf : String × String} (found : leaf ∈ tree.leaves) :
    leaf ∈ tree.texts ∨ ∃ value : Scalar, leaf.2 = value.toText := by
  obtain ⟨named, member, found⟩ := List.mem_flatMap.mp found
  exact (ResourceNode.mem_leaves found).imp_left fun text =>
    List.mem_flatMap.mpr ⟨named, member, text⟩

end ResourceTree
end Phrasebook
