import Phrasebook.Proofs.Project.Reached
import Phrasebook.Rewriting.Import

/-!
What an inserted import denotes. A specifier is always relative, and from the directory of the file
it leads to the translation module, unless the directory keeps a `..` behind what it shares with the
path of the module.
-/

namespace Phrasebook

namespace Path

open Text

variable {path base : Path} {way front target rest : List Component} {component : Component}

theorem named_append_slash (front back : List Char) :
    named (front ++ '/' :: back) = named front ++ named back := by
  rw [named, splitOnChar_append_sep, namedComponents_append]
  rfl

theorem named_text (step : component.IsStep) : named component.text.toList = [component] := by
  obtain rfl | ⟨name, rfl, isPiece⟩ := step
  · decide
  · obtain ⟨filled, noDot, noDots⟩ := isPiece.toList_ne
    rw [named, Component.text, splitOnChar_of_not_mem isPiece.noSlash,
      namedComponents_name filled noDot noDots, String.ofList_toList]

theorem named_intercalate (steps : ∀ component ∈ way, component.IsStep) :
    named (['/'].intercalate (way.map fun component => component.text.toList)) = way := by
  induction way with
  | nil => rfl
  | cons component way ih =>
    have first := named_text (steps component List.mem_cons_self)
    have others := ih fun component listed => steps component (List.mem_cons_of_mem _ listed)
    cases way with
    | nil => simpa [List.intercalate] using first
    | cons next way =>
      rw [List.map_cons] at others
      rw [List.map_cons, List.map_cons, List.intercalate_cons_cons, List.append_assoc,
        List.singleton_append, named_append_slash, first, others]
      rfl

theorem named_spelled (parts : path.components = way)
    (steps : ∀ component ∈ way, component.IsStep) : named path.spelled.toList = way := by
  rw [toList_spelled, parts, named_intercalate steps]

/-- The slash of the root and the one behind it do not count. -/
theorem named_spelled_absolute (parts : path.components = .root :: rest)
    (steps : ∀ component ∈ rest, component.IsStep) : named path.spelled.toList = rest := by
  rw [toList_spelled, parts]
  refine Eq.trans ?_ (named_intercalate steps)
  cases rest with
  | nil => rfl
  | cons next rest =>
    rw [List.map_cons, List.map_cons, List.intercalate_cons_cons]
    exact (named_slash _).trans (named_slash _)

theorem components_join_step (base : Path) (step : component.IsStep) :
    (base.join ⟨component.text⟩).components = base.components ++ [component] := by
  obtain rfl | ⟨name, rfl, isPiece⟩ := step
  · by_cases empty : base.text = ""
    · have only : base.join ⟨".."⟩ = ⟨".."⟩ := by simp [join, isAbsolute, empty]
      rw [components_of_empty empty]
      exact congrArg components only
    · exact components_join empty rfl
  · exact components_join_name base isPiece

theorem components_ofComponents (steps : ∀ component ∈ way, component.IsStep) :
    (ofComponents way).components = way := by
  have joined (base : Path) :
      (way.foldl (fun path component => path.join ⟨component.text⟩) base).components =
      base.components ++ way := by
    induction way generalizing base with
    | nil => exact (List.append_nil _).symm
    | cons component way ih =>
      rw [List.foldl_cons, ih fun component listed =>
        steps component (List.mem_cons_of_mem _ listed),
        components_join_step base (steps component List.mem_cons_self), List.append_assoc]
      rfl
  exact joined ⟨""⟩

end Path

namespace Rewriting

open Phrasebook.Path

/-- A specifier is the way to the module, with `./` in front if it begins with neither `./` nor
`../`. -/
theorem importSpecifier_eq (module file : Path) :
    ("./".toList <+: (importSpecifier none module file).toList ∨
      "../".toList <+: (importSpecifier none module file).toList) ∧
    named (importSpecifier none module file).toList = named
      ((reachedFrom? (file.parent?.getD ⟨""⟩) module.withoutExtension).getD
        module.withoutExtension).spelled.toList := by
  unfold importSpecifier
  dsimp only
  split
  · rename_i dotted
    rw [Bool.or_eq_true, List.isPrefixOf_iff_prefix, List.isPrefixOf_iff_prefix] at dotted
    exact ⟨dotted.symm, rfl⟩
  · rw [String.toList_append]
    exact ⟨.inl (List.prefix_append ..), named_dot_slash _⟩

theorem components_join_dotted {directory : Path} (filled : directory.text ≠ "")
    {specifier : String}
    (dotted : "./".toList <+: specifier.toList ∨ "../".toList <+: specifier.toList) :
    (directory.join ⟨specifier⟩).components = directory.components ++ named specifier.toList := by
  refine components_join filled ?_
  rw [isAbsolute_eq, beq_eq_false_iff_ne]
  intro slash
  rcases dotted with ⟨rest, whole⟩ | ⟨rest, whole⟩ <;> simp [← whole] at slash

variable {module file directory : Path} {front target base : List Path.Component}

/-- From the directory of a file its import leads to the module exactly if the directory keeps no
`..`, or the way that is taken too high comes to the root. -/
theorem lexical_importSpecifier_iff (absolute : module.isAbsolute = true)
    (placed : file.isAbsolute = true) (found : file.parent? = some directory)
    (divided : Divided module.withoutExtension directory front target base) :
    (directory.join ⟨importSpecifier none module file⟩).lexical = module.withoutExtension.lexical ↔
      .parent ∉ base ∨
      if target ≠ [] ∧ base.head? = some .parent then PassesRoot directory.lexical
        (front.tail ++ target)
      else PassesRoot (follow [] front) target := by
  have full := isAbsolute_withoutExtension absolute
  have within := isAbsolute_parent? placed found
  obtain ⟨dotted, spelled⟩ := importSpecifier_eq module file
  obtain ⟨less, rfl, steps, baseSteps⟩ := divided.shares_root full within
  have resolved : (directory.join ⟨importSpecifier none module file⟩).lexical =
      follow directory.lexical (named (importSpecifier none module file).toList) := by
    rw [lexical, components_join_dotted (fun empty => ?_) dotted, follow_append]
    · rfl
    · rw [isAbsolute_iff, components_of_empty empty] at within
      cases within
  have module_eq : module.withoutExtension.lexical = follow (follow [] less) target := by
    rw [lexical, divided.parts, ← follow_append]
    rfl
  have directory_eq : directory.lexical = follow (follow [] less) base := by
    rw [lexical, divided.others, ← follow_append]
    rfl
  rw [resolved, spelled, found, Option.getD_some,
    divided.reachedFrom?_eq (full.trans within.symm) baseSteps]
  split
  · rename_i up
    have listed : .parent ∈ base := List.mem_of_mem_head? up.2
    rw [Option.getD_none, named_spelled_absolute divided.parts steps,
      or_iff_right (not_not_intro listed), module_eq, ← follow_append, eq_comm]
    exact follow_eq_iff (Nat.zero_le _)
  · have taken : ∀ component ∈ wayBack base ++ target, component.IsStep := by
      intro component listed
      rcases List.mem_append.mp listed with up | listed
      · obtain ⟨-, -, rfl⟩ := List.mem_map.mp up
        exact .inl rfl
      · exact steps component (List.mem_append_right _ listed)
    rw [Option.getD_some, named_spelled (components_ofComponents taken) taken,
      directory_eq, module_eq]
    exact follow_steps_iff baseSteps _

/-- An import is relative, and from the directory of the file it leads to the module without its
extension, if the path of the directory has no `..`. With one in front it still does so exactly if
none is left behind what the two paths share, or the way comes to the root. -/
theorem importSpecifier_denotes (module file : Path) (absolute : module.isAbsolute = true)
    (placed : file.isAbsolute = true) :
    ("./".toList <+: (importSpecifier none module file).toList ∨
      "../".toList <+: (importSpecifier none module file).toList) ∧
    (∀ directory, file.parent? = some directory → .parent ∉ directory.components →
      (directory.join ⟨importSpecifier none module file⟩).lexical =
        module.withoutExtension.lexical) ∧
    ∀ directory front target base, file.parent? = some directory →
      Divided module.withoutExtension directory front target base →
      ((directory.join ⟨importSpecifier none module file⟩).lexical =
        module.withoutExtension.lexical ↔ .parent ∉ base ∨
        if target ≠ [] ∧ base.head? = some .parent then PassesRoot directory.lexical
          (front.tail ++ target)
        else PassesRoot (follow [] front) target) := by
  refine ⟨(importSpecifier_eq module file).1, fun directory found level => ?_,
    fun directory front target base found => lexical_importSpecifier_iff absolute placed found⟩
  obtain ⟨front, target, base, divided⟩ := exists_divided module.withoutExtension directory
  refine (lexical_importSpecifier_iff absolute placed found divided).mpr (.inl fun up => level ?_)
  rw [divided.others]
  exact List.mem_append_right _ up

/-- A `..` that the two paths share does no harm. -/
theorem importSpecifier_denotes_shared :
    isAbsolute ⟨"/work/../p/src/lang/index.js"⟩ = true ∧
    isAbsolute ⟨"/work/../p/src/views/a.vue"⟩ = true ∧
    (⟨"/work/../p/src/views/a.vue"⟩ : Path).parent? = some ⟨"/work/../p/src/views"⟩ ∧
    Divided (withoutExtension ⟨"/work/../p/src/lang/index.js"⟩) ⟨"/work/../p/src/views"⟩
      [.root, .normal "work", .parent, .normal "p", .normal "src"] [.normal "lang", .normal "index"]
      [.normal "views"] ∧
    (join ⟨"/work/../p/src/views"⟩ ⟨importSpecifier none ⟨"/work/../p/src/lang/index.js"⟩
      ⟨"/work/../p/src/views/a.vue"⟩⟩).lexical = ["p", "src", "lang", "index"] := by
  have found : (⟨"/work/../p/src/views/a.vue"⟩ : Path).parent? =
      some ⟨"/work/../p/src/views"⟩ := by decide +kernel
  have divided : Divided (withoutExtension ⟨"/work/../p/src/lang/index.js"⟩)
    ⟨"/work/../p/src/views"⟩
      [.root, .normal "work", .parent, .normal "p", .normal "src"] [.normal "lang", .normal "index"]
      [.normal "views"] :=
    ⟨by decide +kernel, by decide +kernel, by rintro _ ⟨⟩; decide⟩
  have denotes :=
    (importSpecifier_denotes ⟨"/work/../p/src/lang/index.js"⟩ ⟨"/work/../p/src/views/a.vue"⟩
    (by decide) (by decide)).2.2 _ _ _ _ found divided
  refine ⟨by decide, by decide, found, divided, (denotes.mpr (.inl (by decide))).trans ?_⟩
  decide +kernel

/-- A file that is reached through `..` from the project imports a module that is not there. -/
theorem importSpecifier_outside :
    isAbsolute ⟨"/p/i18n/src/lang/index.js"⟩ = true ∧
    isAbsolute ⟨"/p/i18n/../web/src/a.js"⟩ = true ∧
    (⟨"/p/i18n/../web/src/a.js"⟩ : Path).parent? = some ⟨"/p/i18n/../web/src"⟩ ∧
    importSpecifier none ⟨"/p/i18n/src/lang/index.js"⟩ ⟨"/p/i18n/../web/src/a.js"⟩ =
      ".///p/i18n/src/lang/index" ∧
    (join ⟨"/p/i18n/../web/src"⟩ ⟨importSpecifier none ⟨"/p/i18n/src/lang/index.js"⟩
      ⟨"/p/i18n/../web/src/a.js"⟩⟩).lexical ≠
    (withoutExtension ⟨"/p/i18n/src/lang/index.js"⟩).lexical := by
  refine ⟨by decide, by decide, ?_, ?_, ?_⟩ <;> decide +kernel

end Rewriting
end Phrasebook
