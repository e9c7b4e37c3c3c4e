import Phrasebook.Locale.Translation
import Phrasebook.Proofs.Locale.TemplateText
import Phrasebook.Proofs.Resource.Leaves
import Mathlib.Data.List.Forall2

/-!
From a resource tree to its translation. The walk over the tree carries the list of texts without a
translation along; what it gives is the tree with every text replaced in its place, and a list with
exactly the other texts, in order. By way of the file of a template, every text gets the translation
that was filled in for it exactly if all phrases and translations survive the file, and they do
unless a blank without an escape stands at an end.
-/

namespace Phrasebook

namespace ResourceNode

theorem run_bind {σ α β : Type} (walk : StateM σ α) (next : α → StateM σ β) (state : σ) :
    (walk >>= next).run state = (next (walk.run state).1).run (walk.run state).2 := rfl

theorem run_pure {σ α : Type} (a : α) (state : σ) :
    (pure a : StateM σ α).run state = (a, state) := rfl

variable {ι : Type} {f : String → String → StateM (List ι) String} {g h : String → String → String}
  {note? : String × String → Option ι}

/-- A change of texts with a list that is carried along: each text may add one item behind the
others. -/
def Notes (f : String → String → StateM (List ι) String) (g : String → String → String)
    (note? : String × String → Option ι) : Prop :=
  ∀ key value noted, (f key value).run noted = (g key value, noted ++ (note? (key, value)).toList)

mutual

/-- The walk changes each text by itself, and adds the items of the texts in their order. -/
theorem run_mapTextsM (notes : Notes f g note?) (path : String) (noted : List ι) :
    ∀ node : ResourceNode, (node.mapTextsM f path).run noted =
      (node.mapTexts g path, noted ++ (node.texts path).filterMap note?)
  | text value => by
    rw [mapTextsM, run_bind, notes, run_pure, mapTexts, texts]
    cases here : note? (path, value) <;> simp [here]
  | scalar value =>
    by rw [mapTextsM, run_pure, mapTexts, texts, List.filterMap_nil, List.append_nil]
  | group members => by
    rw [mapTextsM, run_bind, run_mapMembersM notes path noted members, run_pure, mapTexts, texts]

theorem run_mapMembersM (notes : Notes f g note?) (path : String) (noted : List ι) :
    ∀ members : List (String × ResourceNode), (mapMembersM f path members).run noted =
      (mapMembers g path members, noted ++ (memberTexts path members).filterMap note?)
  | [] => by rw [mapMembersM, run_pure, mapMembers, memberTexts,
      List.filterMap_nil, List.append_nil]
  | (name, node) :: members => by
    rw [mapMembersM, run_bind, run_mapTextsM notes (keyBelow path name) noted node, run_bind,
      run_mapMembersM notes path _ members, run_pure, mapMembers, memberTexts,
      List.filterMap_append, List.append_assoc]

end

mutual

/-- Two nodes that are alike but for their texts, which are related key by key. -/
inductive Alike (related : String → String → String → Prop) :
    String → ResourceNode → ResourceNode → Prop
  | text {path value other : String} : related path value other →
      Alike related path (.text value) (.text other)
  | scalar {path : String} (value : Scalar) : Alike related path (.scalar value) (.scalar value)
  | group {path : String} {members others : List (String × ResourceNode)} :
      AllAlike related path members others → Alike related path (.group members) (.group others)

/-- Members with the same names in the same order, alike one by one. -/
inductive AllAlike (related : String → String → String → Prop) :
    String → List (String × ResourceNode) → List (String × ResourceNode) → Prop
  | nil {path : String} : AllAlike related path [] []
  | cons {path name : String} {node other : ResourceNode}
      {members others : List (String × ResourceNode)} :
      Alike related (keyBelow path name) node other → AllAlike related path members others →
      AllAlike related path ((name, node) :: members) ((name, other) :: others)

end

mutual

theorem alike_mapTexts {related : String → String → String → Prop}
    (holds : ∀ key value, related key value (g key value)) (path : String) :
    ∀ node : ResourceNode, Alike related path node (node.mapTexts g path)
  | text value => .text (holds path value)
  | scalar value => .scalar value
  | group members => .group (allAlike_mapMembers holds path members)

theorem allAlike_mapMembers {related : String → String → String → Prop}
    (holds : ∀ key value, related key value (g key value)) (path : String) :
    ∀ members : List (String × ResourceNode), AllAlike related path members
      (mapMembers g path members)
  | [] => .nil
  | (name, node) :: members =>
    .cons (alike_mapTexts holds (keyBelow path name) node) (allAlike_mapMembers holds path members)

end
end ResourceNode

namespace ResourceTree

open ResourceNode (Notes)

variable {ι : Type} {f : String → String → StateM (List ι) String} {g : String → String → String}
  {note? : String × String → Option ι}

theorem run_mapTextsM (notes : Notes f g note?) (tree : ResourceTree) (noted : List ι) :
    (tree.mapTextsM f).run noted = (tree.mapTexts g, noted ++ tree.texts.filterMap note?) := by
  obtain ⟨modules⟩ := tree
  rw [mapTextsM, ResourceNode.run_bind, ResourceNode.run_pure, mapTexts, texts]
  induction modules generalizing noted with
  | nil => exact Prod.ext rfl (List.append_nil _).symm
  | cons named modules ih =>
    have rest := Prod.mk.inj (ih (noted ++ (named.2.texts named.1).filterMap note?))
    rw [ResourceTree.mk.injEq] at rest
    rw [List.mapM_cons, ResourceNode.run_bind, ResourceNode.run_bind, ResourceNode.run_bind,
      ResourceNode.run_mapTextsM notes, ResourceNode.run_pure,
        ResourceNode.run_pure, rest.1, rest.2]
    simp

end ResourceTree

namespace Template

variable (t : Template)

/-- What becomes of a text: its translation, or a blank if there is none. -/
def Translates (phrase text : String) : Prop :=
  match t.lookup phrase with
  | .translated translation => text = translation
  | .empty | .missing => text = ""

theorem notes_translateText :
    ResourceNode.Notes t.translateText (fun _ phrase => t.translationOf phrase)
      fun leaf => (t.gap? leaf.2).map fun gap => ⟨leaf.1, leaf.2, gap⟩ := by
  intro key phrase noted
  dsimp only [translateText, translationOf, gap?]
  cases t.lookup phrase with
  | translated text => exact Prod.ext rfl (List.append_nil _).symm
  | empty | missing => rfl

/-- The walk gives the tree with every text translated, and the texts that have no translation. -/
theorem translateTree_eq (tree : ResourceTree) : t.translateTree tree =
    (t.translate tree, t.missing tree) := by
  rw [translateTree, ResourceTree.run_mapTextsM t.notes_translateText, List.nil_append]
  rfl

theorem translates_translationOf (phrase : String) :
    t.Translates phrase (t.translationOf phrase) := by
  unfold Translates translationOf
  cases t.lookup phrase <;> rfl

/-- Whether a template has a translation for a phrase. -/
def isTranslated (phrase : String) : Bool :=
  match t.lookup phrase with
  | .translated _ => true
  | .empty | .missing => false

theorem gap?_eq (phrase : String) : t.gap? phrase = if t.isTranslated phrase then none
    else some (if t.lookup phrase = .empty then .empty else .missing) := by
  unfold gap? isTranslated
  cases t.lookup phrase <;> rfl

theorem missing_eq (tree : ResourceTree) :
    t.missing tree = (tree.texts.filter fun leaf => !t.isTranslated leaf.2).map fun leaf =>
      ⟨leaf.1, leaf.2, if t.lookup leaf.2 = .empty then .empty else .missing⟩ := by
  unfold missing
  rw [← List.filterMap_eq_map, List.filterMap_filter]
  refine List.filterMap_congr fun leaf _ => ?_
  change (t.gap? leaf.2).map _ = _
  rw [gap?_eq]
  cases t.isTranslated leaf.2 <;> rfl

/-- The main statement about the translation of a tree, for every tree and every template. The new
tree has the same keys in the same order at every level and the same values that are no texts, and a
text is replaced by its translation or, if there is none, by a blank. The list has one item for each
text without a translation, depth first, with its key, the phrase and why it has none; so it is as
long as there are such texts. -/
theorem translateTree_alike (tree : ResourceTree) :
    let (translated, missing) := t.translateTree tree
    List.Forall₂ (fun named other => other.1 = named.1 ∧
        ResourceNode.Alike (fun _ => t.Translates) named.1 named.2 other.2) tree.modules
        translated.modules ∧
    missing = (tree.texts.filter fun leaf => !t.isTranslated leaf.2).map (fun leaf =>
      ⟨leaf.1, leaf.2, if t.lookup leaf.2 = .empty then .empty else .missing⟩) ∧
    missing.length = tree.texts.countP fun leaf => !t.isTranslated leaf.2 := by
  rw [translateTree_eq]
  refine ⟨?_, t.missing_eq tree, ?_⟩
  · refine List.forall₂_map_right_iff.mpr (List.forall₂_same.mpr fun named _ => ⟨rfl, ?_⟩)
    exact ResourceNode.alike_mapTexts (fun _ => t.translates_translationOf) _ _
  · rw [t.missing_eq tree, List.length_map, List.countP_eq_length_filter]

end Template

namespace Template

open Text

theorem writable_of_solid {text : String} (solid : Solid text) : Writable text.toList := by
  constructor
  · intro c head blank
    rw [solid.visible c (List.mem_of_mem_head? head)] at blank
    cases blank
  · intro c last blank
    rw [solid.visible c (List.mem_of_getLast? last)] at blank
    cases blank

/-- A template with a translation for every phrase in use. -/
def filledBy (t : Template) (translation : String → String) : Template :=
  { t with entries := t.entries.map fun entry => (entry.1, translation entry.1) }

/-- What is read of the file of a tree's template after every phrase got its translation. -/
def returned (tree : ResourceTree) (translation : String → String) : Template :=
  read (render ((ofTree tree).filledBy translation))

variable {tree : ResourceTree} {translation : String → String}

/-- Phrases that can be read back come back, each with what can be read back of its translation. -/
theorem lookup_returned (legible : ∀ leaf ∈ tree.texts, Legible leaf.2) {leaf : String × String}
    (found : leaf ∈ tree.texts) :
    (returned tree translation).entries.lookup leaf.2 = some (held (translation leaf.2)) := by
  have phrases : ∀ entry ∈ (ofTree tree).entries, Legible entry.1 := by
    intro entry member
    obtain ⟨other, listed, rfl⟩ := List.mem_map.mp (mem_sortedTable member)
    rcases ResourceTree.mem_leaves listed with text | ⟨value, shown⟩
    · exact legible other text
    · have solid := value.solid_toText
      rw [← shown] at solid
      exact ⟨solid.filled, writable_of_solid solid⟩
  have rising : Rising ((ofTree tree).filledBy translation).entries :=
    (rising_sortedTable _).map fun phrase _ => translation phrase
  have filled : ∀ entry ∈ ((ofTree tree).filledBy translation).entries, Legible entry.1 := by
    intro entry member
    obtain ⟨other, listed, rfl⟩ := List.mem_map.mp member
    exact phrases other listed
  have whole := read_render rising .nil filled (by intro entry none; cases none)
  have listed : leaf.2 ∈ (tree.leaves.map fun entry => (entry.2, "")).map (·.1) := by
    simp only [List.map_map]
    exact List.mem_map.mpr ⟨leaf, ResourceTree.mem_leaves_of_mem_texts found, rfl⟩
  obtain ⟨blank, present⟩ := Option.isSome_iff_exists.mp (lookup_sortedTable_isSome listed)
  rw [returned, whole]
  refine (lookup_map_entries (fun _ => held) leaf.2 _).trans ?_
  have entry := lookup_map_entries (fun phrase (_ : String) => translation phrase) leaf.2
      (ofTree tree).entries
  rw [filledBy, entry, ofTree, present]
  rfl

/-- A phrase that is there lasts, and so does its translation. -/
theorem lasting_of_lookup {t : Template} (lasting : BothLast t) {phrase : String}
    (present : t.lookup phrase ≠ .missing) :
    Legible phrase ∧ Writable (t.translationOf phrase).toList := by
  have blank : Writable "".toList := ⟨by simp, by simp⟩
  have entry : ∃ value, Legible phrase ∧ Writable value.toList ∧
      t.lookup phrase = if value.isEmpty then .empty else .translated value := by
    unfold lookup at present ⊢
    cases first : t.entries.lookup phrase with
    | some value =>
      have member := mem_of_lookup first
      exact ⟨value, lasting.1.legible _ member, lasting.1.writable _ member, rfl⟩
    | none =>
      cases second : t.retained.lookup phrase with
      | some value =>
        have member := mem_of_lookup second
        exact ⟨value, lasting.2.legible _ member, lasting.2.writable _ member, rfl⟩
      | none =>
        rw [first, second] at present
        exact absurd rfl present
  obtain ⟨value, legible, writable, found⟩ := entry
  refine ⟨legible, ?_⟩
  unfold translationOf
  rw [found]
  split
  · rename_i text translated
    split at translated
    · cases translated
    · cases translated
      exact writable
  · exact blank

/-- Every text of the tree gets exactly the translation that was filled in for it, and exactly the
blank ones are reported, as empty: this holds if and only if all phrases and translations can be
written, which a phrase that is not empty and a translation can unless a blank without an escape
stands at an end. -/
theorem translate_returned_iff (tree : ResourceTree) (translation : String → String) :
    ((returned tree translation).translate tree =
      tree.mapTexts (fun _ phrase => translation phrase) ∧
      (returned tree translation).missing tree =
        (tree.texts.filter fun (_, phrase) => (translation phrase).isEmpty).map
          fun (key, phrase) => ⟨key, phrase, .empty⟩) ↔
    ∀ leaf ∈ tree.texts, Legible leaf.2 ∧ Writable (translation leaf.2).toList := by
  constructor
  · rintro ⟨translated, reported⟩ leaf found
    have same : (returned tree translation).translationOf leaf.2 = translation leaf.2 :=
      ResourceTree.mapTexts_eq_iff.mp translated leaf found
    have present : (returned tree translation).lookup leaf.2 ≠ .missing := by
      intro gone
      have listed : ⟨leaf.1, leaf.2, .missing⟩ ∈ (returned tree translation).missing tree :=
        List.mem_filterMap.mpr ⟨leaf, found, by simp [gap?, gone]⟩
      rw [reported] at listed
      obtain ⟨other, -, made⟩ := List.mem_map.mp listed
      cases congrArg MissingTranslation.gap made
    rw [← same]
    exact lasting_of_lookup (bothLast_read _) present
  · intro good
    have lookups : ∀ leaf ∈ tree.texts, (returned tree translation).lookup leaf.2 =
        if (translation leaf.2).isEmpty then .empty else .translated (translation leaf.2) := by
      intro leaf found
      have entry : (returned tree translation).entries.lookup leaf.2 =
          some (held (translation leaf.2)) :=
        lookup_returned (fun other text => (good other text).1) found
      rw [held_of_writable (good leaf found).2] at entry
      rw [lookup, entry]
      rfl
    constructor
    · refine ResourceTree.mapTexts_eq_iff.mpr fun leaf found => ?_
      rw [translationOf, lookups leaf found]
      by_cases blank : (translation leaf.2).isEmpty = true
      · rw [if_pos blank, String.isEmpty_iff.mp blank]
      · rw [if_neg blank]
    · rw [missing, ← List.filterMap_eq_map, List.filterMap_filter]
      refine List.filterMap_congr fun leaf found => ?_
      simp only [gap?, lookups leaf found]
      by_cases blank : (translation leaf.2).isEmpty = true
      · rw [if_pos blank, if_pos blank]
        rfl
      · rw [if_neg blank, if_neg blank]
        rfl

/-- A phrase that begins with a wide blank. -/
private def wideSpaced : ResourceTree := ⟨[("Common", .group [("greeting", .text "　你好")])]⟩

/-- Its line is read as that of another phrase, so that its translation is lost. -/
theorem wide_space_lost :
    ((returned wideSpaced fun _ => "Hello").translate wideSpaced).text?
      "Common.greeting" = some "" ∧ (returned wideSpaced fun _ => "Hello").missing wideSpaced =
        [⟨"Common.greeting", "　你好", .missing⟩] ∧
      (returned wideSpaced fun _ => "Hello").entries = [("你好", "Hello")] := by
  have back : returned wideSpaced (fun _ => "Hello") = ⟨[("你好", "Hello")], []⟩ := by
    rw [returned, read, lines_render, renderedLines, List.foldl_append, List.foldl_append,
      foldl_readLine_header]
    decide +kernel
  rw [back]
  decide +kernel

end Template

end Phrasebook
