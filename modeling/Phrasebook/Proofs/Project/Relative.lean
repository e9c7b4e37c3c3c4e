import Phrasebook.Proofs.Disk.State
import Phrasebook.Proofs.Project.Path
import Phrasebook.Time.Instant
import Mathlib.Data.List.TakeWhile

/-!
Paths seen from a root. What lies under a root is spelled by the components behind those of the
root, and two paths of files below one directory are never spelled alike. Paths that lead down name
by name, put behind any base, are reached from the place of the base, and two of them never lead to
one place from there.
-/

namespace Phrasebook.Path

open Text

/-- The components that a text stands for behind a slash. -/
def named (cs : List Char) : List Component := namedComponents (splitOnChar '/' cs)

theorem named_slash (cs : List Char) : named ('/' :: cs) = named cs := by
  have split := splitOnChar_append_sep '/' [] cs
  rw [List.nil_append] at split
  rw [named, split, namedComponents_append]
  rfl

theorem named_dot_slash (cs : List Char) : named ('.' :: '/' :: cs) = named cs := by
  have split : splitOnChar '/' ('.' :: '/' :: cs) = [['.']] ++ splitOnChar '/' cs :=
    splitOnChar_append_sep '/' ['.'] cs
  rw [named, split, namedComponents_append]
  rfl

theorem named_trimFront (cs : List Char) : named (trimFront cs) = named cs := by
  fun_induction trimFront cs with
  | case1 cs ih => rw [ih, named_slash]
  | case2 cs ih => rw [ih, named_dot_slash]
  | case3 => rfl
  | case4 => rfl

/-- A text with nothing to drop in front. -/
structure Trimmed (cs : List Char) : Prop where
  noSlash : cs.head? ≠ some '/'
  noDot : ∀ rest, cs ≠ '.' :: '/' :: rest
  noLone : cs ≠ ['.']

theorem trimmed_trimFront (cs : List Char) : Trimmed (trimFront cs) := by
  fun_induction trimFront cs with
  | case1 cs ih => exact ih
  | case2 cs ih => exact ih
  | case3 => exact ⟨by simp, by simp, by simp⟩
  | case4 cs slash dot lone =>
    refine ⟨fun same => ?_, dot, lone⟩
    obtain ⟨rest, rfl⟩ := List.head?_eq_some_iff.mp same
    exact slash rest rfl

/-- The first piece of a trimmed text is neither empty nor a dot. -/
theorem Trimmed.first {cs : List Char} (trimmed : Trimmed cs) (filled : cs ≠ []) :
    ∃ piece more, splitOnChar '/' cs = piece :: more ∧ piece ≠ [] ∧ piece ≠ ['.'] ∧
      namedComponents more = named (cs.dropWhile (· != '/')) := by
  have parts : cs = cs.takeWhile (· != '/') ++ cs.dropWhile (· != '/') :=
    List.takeWhile_append_dropWhile.symm
  have inside : '/' ∉ cs.takeWhile (· != '/') := fun member => by
    simpa using List.mem_takeWhile_imp member
  have some : cs.takeWhile (· != '/') ≠ [] := by
    cases cs with
    | nil => exact (filled rfl).elim
    | cons c cs =>
      have other : c ≠ '/' := fun same => trimmed.noSlash (by rw [same]; rfl)
      simp [other]
  cases rest : cs.dropWhile (· != '/') with
  | nil =>
    rw [rest, List.append_nil] at parts
    refine ⟨cs, [], ?_, filled, trimmed.noLone, rfl⟩
    exact splitOnChar_of_not_mem (parts ▸ inside)
  | cons c more =>
    obtain rfl : c = '/' := by
      have head := List.head?_dropWhile_not (· != '/') cs
      rw [rest] at head
      simpa using head
    rw [rest] at parts
    refine ⟨cs.takeWhile (· != '/'), splitOnChar '/' more, ?_, some, fun dot =>
      ?_, (named_slash more).symm⟩
    · have split := splitOnChar_append_sep '/' (cs.takeWhile (· != '/')) more
      rw [← parts, splitOnChar_of_not_mem inside] at split
      exact split
    · rw [dot] at parts
      exact trimmed.noDot more parts

theorem Trimmed.named_eq {cs : List Char} (trimmed : Trimmed cs) (filled : cs ≠ []) :
    ∃ component, named cs = component :: named (cs.dropWhile (· != '/')) := by
  obtain ⟨piece, more, split, some, noDot, rest⟩ := trimmed.first filled
  by_cases dots : piece = ['.', '.']
  · exact ⟨.parent, by rw [named, split, ← rest]; simp [namedComponents, dots]⟩
  · refine ⟨.normal (String.ofList piece), ?_⟩
    rw [named, split, ← rest]
    simp [namedComponents, some, noDot, dots]

theorem Trimmed.components {cs : List Char} (trimmed : Trimmed cs) :
    components ⟨String.ofList cs⟩ = named cs := by
  by_cases empty : cs = []
  · subst empty
    rfl
  · obtain ⟨piece, more, split, -, noDot, -⟩ := trimmed.first empty
    rw [components_relative empty trimmed.noSlash, named, split]
    split
    · rename_i same
      exact (noDot (List.cons.inj same).1).elim
    · rfl

/-- Dropping components in front of a text. -/
theorem dropComponents_spec (n : Nat) (cs : List Char) :
    Trimmed (dropComponents n cs) ∧ named (dropComponents n cs) = (named cs).drop n := by
  induction n generalizing cs with
  | zero => exact ⟨trimmed_trimFront cs, named_trimFront cs⟩
  | succ n ih =>
    rw [dropComponents]
    obtain ⟨trimmed, rest⟩ := ih ((trimFront cs).dropWhile (· != '/'))
    refine ⟨trimmed, rest.trans ?_⟩
    by_cases empty : trimFront cs = []
    · have none : named cs = [] := by rw [← named_trimFront, empty]; rfl
      rw [none, empty]
      exact List.drop_nil
    · obtain ⟨component, whole⟩ := (trimmed_trimFront cs).named_eq empty
      rw [← named_trimFront cs, whole]
      rfl

theorem components_trimBack_dropComponents (n : Nat) (cs : List Char) :
    components ⟨String.ofList (trimBack (dropComponents n cs))⟩ = (named cs).drop n := by
  obtain ⟨trimmed, rest⟩ := dropComponents_spec n cs
  have back := components_trimBackReversed (dropComponents n cs).reverse
  rw [List.reverse_reverse, trimmed.components, rest] at back
  refine back.resolve_right fun root => ?_
  have first := head?_namedComponents (splitOnChar '/' (dropComponents n cs))
  change (named (dropComponents n cs)).head? ≠ _ at first
  rw [rest, root.2] at first
  exact first rfl

/-- The components of a path, with what stands in front of them. -/
theorem components_eq (path : Path) :
    (∃ first, (first = .root ∨ first = .current) ∧
      path.components = first :: named (path.text.toList.drop 1)) ∨
    path.components = named path.text.toList := by
  rw [components]
  split
  · rename_i empty
    rw [empty]
    exact .inr rfl
  · rename_i cs text
    rw [text]
    exact .inl ⟨.root, .inl rfl, rfl⟩
  · split
    · rename_i pieces split
      refine .inl ⟨.current, .inr rfl, congrArg _ ?_⟩
      cases text : path.text.toList with
      | nil =>
        rw [text] at split
        cases split
      | cons c cs =>
        obtain ⟨piece, rest, parts, grown⟩ := splitOnChar_cons '/' c cs
        rw [text, grown] at split
        split at split
        · cases (List.cons.inj split).1
        · obtain ⟨same, rfl⟩ := List.cons.inj split
          obtain ⟨-, rfl⟩ := List.cons.inj same
          rw [List.drop_one, List.tail_cons, named, parts]
          rfl
    · exact .inr rfl

/-- What is behind the components of a base. -/
theorem components_strip? {base path : Path} (inside : base.components <+: path.components) :
    ∃ rest, strip? base path = some rest ∧ path.components = base.components ++
      rest.components := by
  have starts : path.startsWith base = true := List.isPrefixOf_iff_prefix.mpr inside
  obtain ⟨behind, parts⟩ := inside
  have marked {first : Component} {rest : List Component}
    (isMark : first = .root ∨ first = .current)
      (whole : first :: rest ++ behind = path.components) :
      path.components = first :: rest ++
        components
        ⟨String.ofList (trimBack (dropComponents rest.length (path.text.toList.drop 1)))⟩ := by
    rw [components_trimBack_dropComponents]
    rcases components_eq path with ⟨other, -, same⟩ | same
    · rw [← whole] at same
      obtain ⟨-, same⟩ := List.cons.inj same
      rw [← same, List.append_eq, List.drop_left, whole]
    · have listed : first ∈ named path.text.toList := same ▸ whole ▸ List.mem_cons_self
      exact (isMark.elim (of_mem_namedComponents listed).1 (of_mem_namedComponents listed).2).elim
  rw [strip?, if_pos starts]
  split
  · rename_i none
    exact ⟨path, rfl, by rw [none, List.nil_append]⟩
  · rename_i rest root
    exact ⟨_, rfl, root ▸ marked (.inl rfl) (root ▸ parts)⟩
  · rename_i rest current
    exact ⟨_, rfl, current ▸ marked (.inr rfl) (current ▸ parts)⟩
  · rename_i filled noRoot noCurrent
    refine ⟨_, rfl, ?_⟩
    rw [components_trimBack_dropComponents]
    rcases components_eq path with ⟨first, isMark, same⟩ | same
    · obtain ⟨other, rest, some⟩ := List.exists_cons_of_ne_nil filled
      rw [← parts, some] at same
      obtain ⟨rfl, -⟩ := List.cons.inj same
      rcases isMark with rfl | rfl
      · exact (noRoot rest some).elim
      · exact (noCurrent rest some).elim
    · rw [← same, ← parts, List.drop_left]

theorem toList_spelled (path : Path) :
    path.spelled.toList = ['/'].intercalate
      (path.components.map fun component => component.text.toList) := by
  simp [spelled, Function.comp_def]

/-- The components of names. -/
def normals (names : List String) : List Component := names.map .normal

theorem normals_injective {as bs : List String} (same : normals as = normals bs) : as = bs :=
  List.map_injective_iff.mpr (fun _ _ => Component.normal.inj) same

theorem texts_normals (names : List String) :
    ((normals names).map fun component => component.text.toList) = names.map String.toList := by
  simp [normals, Component.text]

theorem slash_not_mem_texts {names : List String} (pieces : ∀ name ∈ names, IsPiece name) :
    ∀ piece ∈ names.map String.toList, '/' ∉ piece := by
  intro piece listed
  obtain ⟨name, member, rfl⟩ := List.mem_map.mp listed
  exact (pieces name member).noSlash

/-- Two paths with the same components in front and names behind are spelled alike only if they are
the same. -/
theorem spelled_injective {a b : Path} {front : List Component} {as bs : List String}
    (first : as ≠ []) (second : bs ≠ []) (firstPieces : ∀ name ∈ as, IsPiece name)
    (secondPieces : ∀ name ∈ bs, IsPiece name) (firstParts : a.components = front ++ normals as)
    (secondParts : b.components = front ++ normals bs)
    (same : a.spelled = b.spelled) : as = bs := by
  have joined := congrArg String.toList same
  rw [toList_spelled, toList_spelled, firstParts, secondParts, List.map_append, List.map_append,
    texts_normals, texts_normals] at joined
  have texts := intercalate_append_inj (by simpa using first) (by simpa using second)
    (slash_not_mem_texts firstPieces) (slash_not_mem_texts secondPieces) joined
  exact List.map_injective_iff.mpr (fun _ _ => String.toList_inj.mp) texts

/-- Names alone are never spelled with a slash in front. -/
theorem head?_spelled_normals {path : Path} {names : List String}
    (pieces : ∀ name ∈ names, IsPiece name) (parts : path.components = normals names) :
    path.spelled.toList.head? ≠ some '/' := by
  rw [toList_spelled, parts, texts_normals]
  cases names with
  | nil => simp [List.intercalate]
  | cons name names =>
    have isPiece := pieces name List.mem_cons_self
    obtain ⟨c, cs, text⟩ := List.exists_cons_of_ne_nil isPiece.toList_ne.1
    have other : c ≠ '/' :=
      fun same => isPiece.noSlash (by rw [text, same]; exact List.mem_cons_self)
    have head : ∃ more, ['/'].intercalate (name.toList :: names.map String.toList) = c :: more := by
      cases names with
      | nil => exact ⟨cs, by simp [List.intercalate, text]⟩
      | cons next names =>
        rw [List.map_cons, List.intercalate_cons_cons, text]
        exact ⟨_, rfl⟩
    obtain ⟨more, whole⟩ := head
    rw [List.map_cons, whole]
    exact fun same => other (Option.some.inj same)

theorem head?_spelled_root {path : Path} {rest : List Component}
    (parts : path.components = .root :: rest) : path.spelled.toList.head? = some '/' := by
  rw [toList_spelled, parts]
  cases rest with
  | nil => simp [List.intercalate, Component.text]
  | cons next rest =>
    rw [List.map_cons, List.map_cons, List.intercalate_cons_cons]
    rfl

/-- Names alone are spelled alike only if they are the same. -/
theorem spelled_normals_injective {a b : Path} {as bs : List String}
    (firstPieces : ∀ name ∈ as, IsPiece name) (secondPieces : ∀ name ∈ bs, IsPiece name)
    (firstParts : a.components = normals as) (secondParts : b.components = normals bs)
    (same : a.spelled = b.spelled) : as = bs := by
  have empty {path : Path} {names : List String} (pieces : ∀ name ∈ names, IsPiece name)
      (parts : path.components = normals names) (none : path.spelled.toList = []) : names = [] := by
    by_contra filled
    rw [toList_spelled, parts, texts_normals] at none
    have split := splitOnChar_intercalate (by simpa using filled) (slash_not_mem_texts pieces)
    rw [none] at split
    obtain ⟨name, names, rfl⟩ := List.exists_cons_of_ne_nil filled
    exact (pieces name List.mem_cons_self).toList_ne.1 (List.cons.inj split).1.symm
  have nothing {path : Path} (parts : path.components = normals []) : path.spelled.toList = [] := by
    rw [toList_spelled, parts]
    rfl
  by_cases first : as = []
  · subst first
    exact (empty secondPieces secondParts (same ▸ nothing firstParts)).symm
  · by_cases second : bs = []
    · subst second
      exact empty firstPieces firstParts (same ▸ nothing secondParts)
    · exact @spelled_injective a b [] as bs first second firstPieces secondPieces
        firstParts secondParts same

/-- What a path is called, seen from a root. -/
theorem relativeTo_of_inside {root path : Path} (inside : root.components <+: path.components) :
    ∃ rest : Path, path.components = root.components ++ rest.components ∧
    relativeTo root path = rest.spelled := by
  obtain ⟨rest, stripped, parts⟩ := components_strip? inside
  exact ⟨rest, parts, by rw [relativeTo, stripped]; rfl⟩

theorem relativeTo_of_outside {root path : Path} (outside : ¬ root.components <+: path.components) :
    relativeTo root path = path.spelled := by
  have starts : path.startsWith root = false := by
    rw [startsWith, Bool.eq_false_iff]
    exact fun inside => outside (List.isPrefixOf_iff_prefix.mp inside)
  rw [relativeTo, strip?, if_neg (by rw [starts]; exact Bool.false_ne_true)]
  rfl

/-- Below a directory that lies under the root, or is given by a full path, every path has a name of
its own. -/
theorem relativeTo_injective {root start a b : Path} {as bs : List String} (first : as ≠ [])
    (second : bs ≠ []) (firstPieces : ∀ name ∈ as, IsPiece name)
    (secondPieces : ∀ name ∈ bs, IsPiece name)
    (firstParts : a.components = start.components ++ normals as)
    (secondParts : b.components = start.components ++ normals bs)
    (under : root.components <+: start.components ∨ ∃ rest, start.components = .root :: rest)
    (same : relativeTo root a = relativeTo root b) : as = bs := by
  by_cases inside : root.components <+: start.components
  · obtain ⟨behind, parts⟩ := inside
    obtain ⟨p, pParts, pSpelled⟩ := @relativeTo_of_inside root a (by
      rw [firstParts, ← parts, List.append_assoc]; exact List.prefix_append ..)
    obtain ⟨q, qParts, qSpelled⟩ := @relativeTo_of_inside root b (by
      rw [secondParts, ← parts, List.append_assoc]; exact List.prefix_append ..)
    rw [firstParts, ← parts, List.append_assoc] at pParts
    rw [secondParts, ← parts, List.append_assoc] at qParts
    exact spelled_injective first second firstPieces secondPieces
      (List.append_cancel_left pParts).symm (List.append_cancel_left qParts).symm
      (pSpelled.symm.trans (same.trans qSpelled))
  · obtain ⟨rest, absolute⟩ := under.resolve_left inside
    -- A path that the root leads to goes through the start to the root, and then on by names.
    have through {path : Path} {names : List String} (pieces : ∀ name ∈ names, IsPiece name)
        (parts : path.components = start.components ++ normals names)
        (within : root.components <+: path.components) :
        ∃ (middle behind : List String) (left : Path), names = middle ++ behind ∧
          root.components = start.components ++ normals middle ∧ left.components = normals behind ∧
          relativeTo root path = left.spelled := by
      obtain ⟨left, leftParts, spelled⟩ := relativeTo_of_inside within
      obtain ⟨more, rootParts⟩ := (List.prefix_or_prefix_of_prefix within
        (parts ▸ List.prefix_append ..)).resolve_left inside
      rw [parts, ← rootParts, List.append_assoc] at leftParts
      obtain ⟨middle, behind, rfl, middleParts, behindParts⟩ :=
        List.map_eq_append_iff.mp (List.append_cancel_left leftParts)
      exact ⟨middle, behind, left, rfl, by
        rw [← rootParts, ← middleParts]; rfl, behindParts.symm, spelled⟩
    have outer {path : Path} {names : List String}
      (parts : path.components = start.components ++ normals names)
        (outside : ¬ root.components <+: path.components) :
        (relativeTo root path).toList.head? = some '/' := by
      rw [relativeTo_of_outside outside]
      exact head?_spelled_root (parts.trans (by rw [absolute]; rfl))
    have inner {path : Path} {names : List String} (pieces : ∀ name ∈ names, IsPiece name)
        (parts : path.components = start.components ++ normals names)
        (within : root.components <+: path.components) :
        (relativeTo root path).toList.head? ≠ some '/' := by
      obtain ⟨middle, behind, left, rfl, -, leftParts, spelled⟩ := through pieces parts within
      rw [spelled]
      exact head?_spelled_normals
        (fun name listed => pieces name (List.mem_append_right _ listed)) leftParts
    by_cases firstIn : root.components <+: a.components <;>
      by_cases secondIn : root.components <+: b.components
    · obtain ⟨middle, behind, p, rfl, middleParts, parts, spelled⟩ :=
        through firstPieces firstParts firstIn
      obtain ⟨middle', behind', q, rfl, middleParts', parts', spelled'⟩ :=
        through secondPieces secondParts secondIn
      have middles :=
        normals_injective (List.append_cancel_left (middleParts.symm.trans middleParts'))
      have behinds := spelled_normals_injective
        (fun name listed => firstPieces name (List.mem_append_right _ listed))
        (fun name listed => secondPieces name (List.mem_append_right _ listed)) parts parts'
        (spelled.symm.trans (same.trans spelled'))
      rw [middles, behinds]
    · exact (inner firstPieces firstParts firstIn (same ▸ outer secondParts secondIn)).elim
    · exact (inner secondPieces secondParts secondIn (same ▸ outer firstParts firstIn)).elim
    · rw [relativeTo_of_outside firstIn, relativeTo_of_outside secondIn] at same
      exact spelled_injective first second firstPieces secondPieces firstParts secondParts same

end Phrasebook.Path

namespace Phrasebook

namespace Path

variable {path other : Path}

/-- A path of names, spelled as it is. -/
structure IsInner (path : Path) : Prop where
  names : ∃ names, names ≠ [] ∧ path.components = normals names
  spelled : path.text = path.spelled

theorem IsInner.ext (first : IsInner path) (second : IsInner other)
    (same : path.components = other.components) : path = other := by
  have texts : path.text = other.text :=
    by rw [first.spelled, second.spelled, Path.spelled, Path.spelled, same]
  cases path
  exact congrArg Path.mk texts

theorem IsInner.not_head (inner : IsInner path) (component : Component)
    (mark : ∀ name, component ≠ .normal name) : path.components.head? ≠ some component := by
  obtain ⟨names, -, parts⟩ := inner.names
  rw [parts]
  cases names with
  | nil => exact nofun
  | cons name names => exact fun same => mark name (Option.some.inj same).symm

theorem IsInner.isAbsolute (inner : IsInner path) : path.isAbsolute = false := by
  rw [Bool.eq_false_iff]
  exact fun absolute => inner.not_head .root (fun _ => nofun) ((isAbsolute_iff path).mp absolute)

theorem IsInner.components_join (inner : IsInner path) (base : Path) :
    (base.join path).components = base.components ++ path.components := by
  by_cases empty : base.text = ""
  · have only : base.join path = path := by simp [join, inner.isAbsolute, empty]
    rw [only, components_of_empty empty, List.nil_append]
  · have parts : path.components = named path.text.toList := by
      rcases components_eq path with ⟨first, mark, same⟩ | same
      · refine (inner.not_head first ?_ (by rw [same]; rfl)).elim
        intro name same
        rcases mark with rfl | rfl <;> cases same
      · exact same
    rw [Path.components_join empty inner.isAbsolute, parts, named]

theorem IsInner.fileName?_join (inner : IsInner path) (base : Path) :
    ∃ front name, path.components = front ++ [.normal name] ∧
    (base.join path).fileName? = some name := by
  obtain ⟨names, filled, parts⟩ := inner.names
  obtain ⟨front, name, rfl⟩ := List.eq_nil_or_concat names |>.resolve_left filled
  have last : path.components = normals front ++ [.normal name] := by rw [parts]; simp [normals]
  refine ⟨normals front, name, last, ?_⟩
  rw [fileName?, inner.components_join base, last, ← List.append_assoc, List.getLast?_concat]

end Path

namespace Disk.State

theorem lead_normals {place other : Place} {names : List String}
    (led : lead place (Path.normals names) = .ok other) : other = place ++ names := by
  induction names generalizing place with
  | nil => exact (Except.ok.inj led).symm.trans (List.append_nil _).symm
  | cons name names ih =>
    change lead place (.normal name :: Path.normals names) = _ at led
    rw [lead_cons, step] at led
    split at led
    · cases led
    · rw [ih led, List.append_assoc]
      rfl

/-- An inner path leads down from where its base leads. -/
theorem lead_join_inner {home place : Place} {path : Path} (inner : path.IsInner) {base : Path}
    (led : lead home (base.join path).components = .ok place) :
    ∃ above names, lead home base.components = .ok above ∧ path.components = Path.normals names ∧
      place = above ++ names := by
  obtain ⟨names, -, parts⟩ := inner.names
  rw [inner.components_join base, lead_append] at led
  cases first : lead home base.components with
  | error fault => rw [first] at led; cases led
  | ok above =>
    rw [first, parts] at led
    exact ⟨above, names, rfl, parts, lead_normals led⟩

/-- Behind one base two inner paths never lead to one place. -/
theorem lead_join_inner_injective {home place : Place} {path other : Path} (inner : path.IsInner)
    (second : other.IsInner) {base : Path} (led : lead home (base.join path).components = .ok place)
    (led' : lead home (base.join other).components = .ok place) : path = other := by
  obtain ⟨above, names, leads, parts, rfl⟩ := lead_join_inner inner led
  obtain ⟨above', names', leads', parts', same⟩ := lead_join_inner second led'
  obtain rfl := Except.ok.inj (leads.symm.trans leads')
  obtain rfl := List.append_cancel_left same
  exact inner.ext second (parts.trans parts'.symm)

end Disk.State

namespace Instant

theorem slash_not_mem_padded (width n : Nat) : '/' ∉ (padded width n).toList := by
  intro slash
  rw [padded, String.toList_ofList] at slash
  rcases List.mem_append.mp slash with zero | digit
  · cases List.eq_of_mem_replicate zero
  · have plain : (toString n).toList = Nat.toDigits 10 n := by simp [toString, Nat.repr]
    rw [plain] at digit
    have isDigit := Nat.isDigit_of_mem_toDigits (by decide) (by decide) digit
    revert isDigit
    decide

/-- The form for names of files is a part of a name. -/
theorem slash_not_mem_fileText (time : Instant) : '/' ∉ time.fileText.toList := by
  simp [fileText, dateText, yearText, clock, slash_not_mem_padded]
  split <;> decide

end Instant

end Phrasebook
