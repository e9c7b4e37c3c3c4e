import Phrasebook.Proofs.Project.Relative

/-!
Ways between paths, read by their components alone: `..` drops the last directory, and nothing is
above the root. The steps from a base to a path lead there from the base, if the base keeps no `..`
behind what the two share in front. If it keeps one, they lead to another place, unless the way goes
over the root, behind which all ways are one.
-/

namespace Phrasebook.Path

open Text

/-- Where one component leads. -/
def Component.next (place : List String) : Component → List String
  | root => []
  | current => place
  | parent => place.dropLast
  | normal name => place ++ [name]

/-- Where a way leads. -/
def follow (place : List String) (way : List Component) : List String :=
  way.foldl Component.next place

/-- The names down to what a path denotes. -/
def lexical (path : Path) : List String := follow [] path.components

/-- A way that comes to the root, at its start or later. -/
def PassesRoot (place : List String) (way : List Component) : Prop :=
  ∃ front, front <+: way ∧ follow place front = []

/-- Two ways that share nothing in front. -/
def Apart (way other : List Component) : Prop :=
  ∀ component, way.head? = some component → other.head? ≠ some component

/-- The components of two paths, with those in front that they share. -/
structure Divided (path other : Path) (front target base : List Component) : Prop where
  parts : path.components = front ++ target
  others : other.components = front ++ base
  apart : Apart target base

/-- A component that stands behind others. -/
def Component.IsStep (component : Component) : Prop :=
  component = .parent ∨ ∃ name, component = .normal name ∧ IsPiece name

variable {path other : Path} {place start : List String} {way front target base : List Component}
  {component : Component}

theorem follow_append (place : List String) (front back : List Component) :
    follow place (front ++ back) = follow (follow place front) back :=
  List.foldl_append

theorem length_next_le (place : List String) (component : Component) :
    (component.next place).length ≤ place.length + 1 := by
  cases component <;> simp [Component.next]
  omega

theorem length_next_mono (shorter : place.length ≤ start.length) (component : Component) :
    (component.next place).length ≤ (component.next start).length := by
  cases component <;> simp [Component.next] <;> omega

theorem length_follow_le (place : List String) (way : List Component) :
    (follow place way).length ≤ place.length + way.length := by
  induction way generalizing place with
  | nil => exact Nat.le_refl _
  | cons component way ih =>
    have first := length_next_le place component
    have rest := ih (component.next place)
    change (follow (component.next place) way).length ≤ _
    rw [List.length_cons]
    omega

/-- Each step up costs a step down. -/
theorem length_follow_lt (up : .parent ∈ way) (place : List String) :
    (follow place way).length < place.length + way.length := by
  obtain ⟨front, back, rfl⟩ := List.append_of_mem up
  have before := length_follow_le place front
  have after := length_follow_le (follow place front).dropLast back
  have whole : follow place (front ++ .parent :: back) =
      follow (follow place front).dropLast back :=
    follow_append place front (.parent :: back)
  rw [whole, List.length_append, List.length_cons]
  rw [List.length_dropLast] at after
  omega

/-- The way back up, whatever it leads over. -/
def wayBack (way : List Component) : List Component := way.map fun _ => .parent

theorem follow_wayBack (place : List String) (way : List Component) :
    follow place (wayBack way) = place.take (place.length - way.length) := by
  induction way generalizing place with
  | nil => simp [follow, wayBack]
  | cons component way ih =>
    change follow place.dropLast (wayBack way) = _
    rw [ih, List.dropLast_eq_take, List.take_take, List.length_take, List.length_cons]
    congr 1
    omega

theorem follow_wayBack_names (steps : ∀ component ∈ way, component.IsStep) (down : .parent ∉ way)
    (place : List String) : follow (follow place way) (wayBack way) = place := by
  obtain ⟨names, rfl⟩ : ∃ names, way = normals names := by
    induction way with
    | nil => exact ⟨[], rfl⟩
    | cons component way ih =>
      obtain ⟨other, still⟩ := List.ne_and_not_mem_of_not_mem_cons down
      obtain rfl | ⟨name, rfl, -⟩ := steps component List.mem_cons_self
      · exact (other rfl).elim
      · obtain ⟨names, rfl⟩ :=
          ih (fun component listed => steps component (List.mem_cons_of_mem _ listed)) still
        exact ⟨name :: names, rfl⟩
  have led (place : List String) : follow place (normals names) = place ++ names := by
    induction names generalizing place with
    | nil => exact (List.append_nil _).symm
    | cons name names ih =>
      have rest := ih (fun component listed => steps component (List.mem_cons_of_mem _ listed))
        (fun listed => down (List.mem_cons_of_mem _ listed)) (place ++ [name])
      rwa [List.append_assoc] at rest
  rw [led, follow_wayBack]
  simp [normals]

/-- Of two places one stays less deep than the other as long as that one does not come to the root.
-/
theorem length_follow_lt_follow (less : place.length < start.length)
    (never : ¬PassesRoot start way) : (follow place way).length < (follow start way).length := by
  induction way generalizing place start with
  | nil => exact less
  | cons component way ih =>
    have on : ¬PassesRoot (component.next start) way := fun ⟨front, inside, root⟩ =>
      never ⟨component :: front, List.cons_prefix_cons.mpr ⟨rfl, inside⟩, root⟩
    have some : component.next start ≠ [] := fun root => on ⟨[], List.nil_prefix, root⟩
    refine ih ?_ on
    have long := List.length_pos_iff.mpr some
    cases component <;> simp [Component.next] at long ⊢ <;> omega

theorem follow_eq_of_passesRoot (deep : place.length ≤ start.length)
    (passes : PassesRoot start way) : follow place way = follow start way := by
  induction way generalizing place start with
  | nil =>
    obtain ⟨front, inside, root⟩ := passes
    obtain rfl := List.prefix_nil.mp inside
    obtain rfl : start = [] := root
    rw [List.length_eq_zero_iff.mp (Nat.le_zero.mp deep)]
  | cons component way ih =>
    obtain ⟨front, inside, root⟩ := passes
    cases front with
    | nil =>
      obtain rfl : start = [] := root
      rw [List.length_eq_zero_iff.mp (Nat.le_zero.mp deep)]
    | cons first front =>
      obtain ⟨rfl, below⟩ := List.cons_prefix_cons.mp inside
      exact ih (length_next_mono deep first) ⟨front, below, root⟩

/-- From a place that is less deep, a way leads to the same place exactly if it passes the root. -/
theorem follow_eq_iff (shorter : place.length ≤ start.length - 1) :
    follow place way = follow start way ↔ PassesRoot start way := by
  refine ⟨fun same => ?_, follow_eq_of_passesRoot (Nat.le_trans shorter (Nat.sub_le ..))⟩
  by_contra never
  have some : start ≠ [] := fun root => never ⟨[], List.nil_prefix, root⟩
  have long := List.length_pos_iff.mpr some
  have less :=
    length_follow_lt_follow (Nat.lt_of_le_of_lt shorter (Nat.sub_lt long Nat.one_pos)) never
  rw [same] at less
  exact Nat.lt_irrefl _ less

theorem stepsFrom?_front (front target base : List Component) :
    stepsFrom? [] (front ++ target) (front ++ base) = stepsFrom? [] target base := by
  induction front with
  | nil => rfl
  | cons component front ih => simpa [stepsFrom?] using ih

theorem stepsFrom?_nil (done base : List Component) :
    stepsFrom? done [] base = some (done ++ wayBack base) := by
  induction base generalizing done with
  | nil => simp [stepsFrom?, wayBack]
  | cons component base ih => simp [stepsFrom?, ih, wayBack]

/-- There are no steps if there is something to reach and the base begins with `..`. -/
theorem stepsFrom?_apart (apart : Apart target base)
    (steps : ∀ component ∈ base, component.IsStep) : stepsFrom? [] target base =
      if target ≠ [] ∧ base.head? = some .parent then none else some (wayBack base ++ target) := by
  cases target with
  | nil => simp [stepsFrom?_nil]
  | cons first target =>
    cases base with
    | nil => simp [stepsFrom?, wayBack]
    | cons up base =>
      have other : first ≠ up := fun same => apart first rfl (congrArg some same.symm)
      obtain rfl | ⟨name, rfl, -⟩ := steps up List.mem_cons_self
      · simp [stepsFrom?, other]
      · simp [stepsFrom?, other, wayBack]

theorem Divided.reachedFrom?_eq (divided : Divided path other front target base)
    (alike : path.isAbsolute = other.isAbsolute) (steps : ∀ component ∈ base, component.IsStep) :
    reachedFrom? other path =
      if target ≠ [] ∧ base.head? = some .parent then none else some
        (ofComponents (wayBack base ++ target)) := by
  rw [reachedFrom?, alike, if_pos (beq_self_eq_true _), divided.parts,
    divided.others, stepsFrom?_front, stepsFrom?_apart divided.apart steps]
  split <;> rfl

theorem exists_divided (path other : Path) :
    ∃ front target base, Divided path other front target base := by
  have split (way others : List Component) :
      ∃ front target base, way = front ++ target ∧ others = front ++ base ∧ Apart target base := by
    induction way generalizing others with
    | nil => exact ⟨[], [], others, rfl, rfl, nofun⟩
    | cons component way ih =>
      by_cases same : others.head? = some component
      · obtain ⟨rest, rfl⟩ := List.head?_eq_some_iff.mp same
        obtain ⟨front, target, base, rfl, rfl, apart⟩ := ih rest
        exact ⟨component :: front, target, base, rfl, rfl, apart⟩
      · refine ⟨[], component :: way, others, rfl, rfl, ?_⟩
        rintro _ ⟨⟩
        exact same
  obtain ⟨front, target, base, parts, others, apart⟩ := split path.components other.components
  exact ⟨front, target, base, parts, others, apart⟩

/-- The steps lead to what they were taken for exactly if the base keeps no `..`, or the way passes
the root. -/
theorem follow_steps_iff (steps : ∀ component ∈ base, component.IsStep) (place : List String) :
    follow (follow place base) (wayBack base ++ target) = follow place target ↔
      .parent ∉ base ∨ PassesRoot place target := by
  rw [follow_append]
  by_cases up : .parent ∈ base
  · refine (follow_eq_iff ?_).trans (or_iff_right (not_not_intro up)).symm
    have short := length_follow_lt up place
    rw [follow_wayBack, List.length_take]
    omega
  · exact iff_of_true (by rw [follow_wayBack_names steps up]) (.inl up)

theorem components_absolute {path : Path} (absolute : path.isAbsolute = true) :
    ∃ rest, path.components = .root :: rest ∧ ∀ component ∈ rest, component.IsStep := by
  obtain ⟨rest, parts⟩ := List.head?_eq_some_iff.mp ((isAbsolute_iff path).mp absolute)
  refine ⟨rest, parts, fun component listed => ?_⟩
  rcases components_eq path with ⟨first, -, same⟩ | same
  · rw [parts] at same
    obtain ⟨-, same⟩ := List.cons.inj same
    obtain ⟨noRoot, noCurrent⟩ := of_mem_namedComponents (same ▸ listed)
    cases component with
    | root => exact (noRoot rfl).elim
    | current => exact (noCurrent rfl).elim
    | parent => exact .inl rfl
    | normal name =>
      have member : .normal name ∈ path.components := by
        rw [parts]
        exact List.mem_cons_of_mem _ listed
      exact .inr ⟨name, rfl, (mem_components member).1⟩
  · rw [parts] at same
    have first : Component.root ∈ named path.text.toList := same ▸ List.mem_cons_self
    exact ((of_mem_namedComponents first).1 rfl).elim

/-- Full paths share the root at least. -/
theorem Divided.shares_root (divided : Divided path other front target base)
    (absolute : path.isAbsolute = true) (absoluteToo : other.isAbsolute = true) :
    ∃ less, front = .root :: less ∧
      (∀ component ∈ less ++ target, component.IsStep) ∧ ∀ component ∈ base, component.IsStep := by
  obtain ⟨down, root, steps⟩ := components_absolute absolute
  obtain ⟨away, rootToo, stepsToo⟩ := components_absolute absoluteToo
  have parts := root.symm.trans divided.parts
  have others := rootToo.symm.trans divided.others
  cases front with
  | nil =>
    rw [List.nil_append] at parts others
    exact (divided.apart .root (by rw [← parts]; rfl) (by rw [← others]; rfl)).elim
  | cons first less =>
    obtain ⟨rfl, rfl⟩ := List.cons.inj parts
    obtain ⟨-, rfl⟩ := List.cons.inj others
    exact ⟨less, rfl, steps, fun component listed =>
      stepsToo component (List.mem_append_right _ listed)⟩

/-- What remains of an absolute path is absolute, if anything does. -/
theorem isAbsolute_of_isPrefix {path : Path} (absolute : path.isAbsolute = true) {cs : List Char}
    (inside : cs <+: path.text.toList) (filled : cs ≠ []) :
    isAbsolute ⟨String.ofList cs⟩ = true := by
  obtain ⟨c, cs, rfl⟩ := List.exists_cons_of_ne_nil filled
  obtain ⟨rest, whole⟩ := inside
  rw [isAbsolute_eq, beq_iff_eq] at absolute ⊢
  rw [String.toList_ofList, ← absolute, ← whole]
  rfl

theorem trimBackReversed_isSuffix (cs : List Char) : trimBackReversed cs <:+ cs := by
  fun_induction trimBackReversed cs with
  | case1 cs ih => exact ih.trans (List.suffix_cons ..)
  | case2 cs ih => exact ih.trans ((List.suffix_cons ..).trans (List.suffix_cons ..))
  | case3 cs => exact List.suffix_refl cs

theorem trimBack_isPrefix (cs : List Char) : trimBack cs <+: cs := by
  have reversed := List.reverse_prefix.mpr (trimBackReversed_isSuffix cs.reverse)
  rwa [List.reverse_reverse] at reversed

theorem isAbsolute_parent? {path parent : Path} (absolute : path.isAbsolute = true)
    (found : path.parent? = some parent) : parent.isAbsolute = true := by
  rw [parent?] at found
  split at found
  · cases found
  · cases found
  · rename_i last _ _
    have inside : trimBack ((trimBack path.text.toList).reverse.drop last.text.length).reverse <+:
        path.text.toList := by
      refine (trimBack_isPrefix _).trans (List.IsPrefix.trans ?_ (trimBack_isPrefix _))
      have reversed := List.reverse_prefix.mpr
          (List.drop_suffix last.text.length (trimBack path.text.toList).reverse)
      rwa [List.reverse_reverse] at reversed
    dsimp only at found
    split at found
    · obtain rfl := Option.some.inj found
      rfl
    · rename_i notBoth
      obtain rfl := Option.some.inj found
      refine isAbsolute_of_isPrefix absolute inside fun empty => notBoth ?_
      rw [absolute, empty]
      rfl

/-- A component that is a name is no longer than the path. -/
theorem length_le_of_mem {path : Path} {name : String} (listed : .normal name ∈ path.components) :
    name.length ≤ path.text.toList.length := by
  have short {cs : List Char} (listed : .normal name ∈ named cs) : name.length ≤ cs.length := by
    obtain ⟨piece, member, kept⟩ := List.mem_filterMap.mp listed
    have length := length_le_of_mem_splitOnChar member
    split at kept
    · cases kept
    · split at kept
      · cases kept
      · obtain rfl := Component.normal.inj (Option.some.inj kept)
        rwa [String.length_ofList]
  rcases components_eq path with ⟨first, isMark, parts⟩ | parts
  · rw [parts] at listed
    rcases List.mem_cons.mp listed with rfl | listed
    · rcases isMark with mark | mark <;> cases mark
    · exact (short listed).trans (by rw [List.length_drop]; omega)
  · exact short (parts ▸ listed)

/-- A file name is there still when the end of the path is trimmed. -/
theorem length_le_of_fileName? {path : Path} {name : String} (found : path.fileName? = some name) :
    name ≠ "" ∧ name.length ≤ (trimBack path.text.toList).length := by
  have last : path.components.getLast? = some (.normal name) := by
    rw [fileName?] at found
    split at found
    · rename_i same
      rw [same, Option.some.inj found]
    · cases found
  have listed := List.mem_of_getLast? last
  have trimmed := components_trimBackReversed path.text.toList.reverse
  rw [List.reverse_reverse, String.ofList_toList] at trimmed
  rcases trimmed with same | ⟨-, root⟩
  · refine ⟨(mem_components listed).1.filled, ?_⟩
    have there := length_le_of_mem (same ▸ listed)
    rwa [String.toList_ofList] at there
  · rw [root] at last
    cases last

theorem stem_ne_empty {name : String} (filled : name ≠ "") : (splitExtension name).1 ≠ "" := by
  unfold splitExtension
  dsimp only
  split
  · exact filled
  · rename_i named
    simp only [Bool.or_eq_true, List.isEmpty_iff, not_or] at named
    simpa using named.1

theorem length_extension_lt {name extension : String}
    (found : (splitExtension name).2 = some extension) : extension.length < name.length := by
  unfold splitExtension at found
  dsimp only at found
  split at found
  · cases found
  · rename_i named
    obtain rfl := Option.some.inj found
    simp only [Bool.or_eq_true, List.isEmpty_iff, List.drop_eq_nil_iff, List.length_reverse,
      String.length_toList, not_or] at named
    rw [String.length_ofList, List.length_reverse]
    omega

theorem isAbsolute_upToStem {path : Path} (absolute : path.isAbsolute = true) :
    path.upToStem.isAbsolute = true := by
  rw [upToStem]
  split
  · rename_i name stem found stemmed
    obtain ⟨filled, long⟩ := length_le_of_fileName? found
    refine isAbsolute_of_isPrefix absolute ((List.take_prefix ..).trans (trimBack_isPrefix _)) ?_
    rw [stem?, found] at stemmed
    obtain rfl : (splitExtension name).1 = stem := Option.some.inj stemmed
    have stays : 0 < (splitExtension name).1.length :=
      Nat.pos_of_ne_zero fun none => stem_ne_empty filled (String.length_eq_zero_iff.mp none)
    have some : 0 < name.length := Nat.pos_of_ne_zero fun none =>
      filled (String.length_eq_zero_iff.mp none)
    rw [← List.length_pos_iff, List.length_take]
    omega
  · exact absolute

/-- A module keeps a full path when its extension is dropped. -/
theorem isAbsolute_withoutExtension {path : Path} (absolute : path.isAbsolute = true) :
    path.withoutExtension.isAbsolute = true := by
  rw [withoutExtension]
  split
  · rename_i extension found
    rw [extension?] at found
    obtain ⟨name, isName, found⟩ := Option.bind_eq_some_iff.mp found
    have short := length_extension_lt found
    have long := (length_le_of_fileName? isName).2.trans
        (trimBack_isPrefix path.text.toList).length_le
    refine isAbsolute_upToStem (isAbsolute_of_isPrefix absolute (List.take_prefix ..) ?_)
    rw [← List.length_pos_iff, List.length_take, String.length_toList] at *
    omega
  · exact isAbsolute_upToStem absolute

end Phrasebook.Path
