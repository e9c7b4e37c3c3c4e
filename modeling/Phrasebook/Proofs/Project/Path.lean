import Phrasebook.Project.Path
import Phrasebook.Proofs.Text.Split
import Mathlib.Data.String.Basic

/-!
Paths by their components. The components of a path inside another one follow those of the other,
and a name that is put behind a path is its last component.
-/

namespace Phrasebook.Path

open Text

/-- A text that is a component of its own in a path, and a name there. -/
structure IsPiece (name : String) : Prop where
  filled : name ≠ ""
  noSlash : '/' ∉ name.toList
  noDot : name ≠ "."
  noDots : name ≠ ".."

/-- A name that a file or a directory can have. -/
structure IsName (name : String) : Prop extends IsPiece name where
  noEnd : '\x00' ∉ name.toList
  short : name.utf8ByteSize ≤ 255

theorem namedComponents_append (front back : List (List Char)) :
    namedComponents (front ++ back) = namedComponents front ++ namedComponents back :=
  List.filterMap_append

theorem components_of_empty {path : Path} (empty : path.text = "") : path.components = [] := by
  rcases path with ⟨text⟩
  obtain rfl : text = "" := empty
  rfl

/-- The components of a path that begins with a slash. -/
theorem components_slash (cs : List Char) :
    components ⟨String.ofList ('/' :: cs)⟩ = .root :: namedComponents (splitOnChar '/' cs) := by
  simp [components]

/-- The components of a path that does not. -/
theorem components_relative {cs : List Char} (filled : cs ≠ []) (relative : cs.head? ≠ some '/') :
    components ⟨String.ofList cs⟩ =
      match splitOnChar '/' cs with
      | ['.'] :: pieces => .current :: namedComponents pieces
      | pieces => namedComponents pieces := by
  cases cs with
  | nil => exact (filled rfl).elim
  | cons c cs =>
    have other : c ≠ '/' := fun same => relative (by rw [same]; rfl)
    simp only [components, String.toList_ofList]
    split
    · rename_i same
      cases same
    · rename_i same
      exact (other (List.cons.inj same).1).elim
    · rfl

/-- What follows a slash behind a path comes behind the components of the path. -/
theorem components_append_slash {front : List Char} (filled : front ≠ []) (back : List Char) :
    components ⟨String.ofList (front ++ '/' :: back)⟩ =
      components ⟨String.ofList front⟩ ++ namedComponents (splitOnChar '/' back) := by
  obtain ⟨c, cs, rfl⟩ := List.exists_cons_of_ne_nil filled
  by_cases slash : c = '/'
  · subst c
    rw [List.cons_append, components_slash, components_slash, splitOnChar_append_sep,
      namedComponents_append]
    rfl
  · have relative : (c :: cs).head? ≠ some '/' := fun same => slash (Option.some.inj same)
    rw [components_relative filled relative,
      components_relative (List.append_ne_nil_of_left_ne_nil filled _) relative,
      splitOnChar_append_sep]
    obtain ⟨piece, rest, pieces⟩ := List.exists_cons_of_ne_nil (splitOnChar_ne_nil '/' (c :: cs))
    rw [pieces, List.cons_append]
    by_cases dot : piece = ['.']
    · subst dot
      simp only [namedComponents_append, List.cons_append]
    · have plain (others : List (List Char)) : (match piece :: others with
          | ['.'] :: pieces => .current :: namedComponents pieces
          | pieces => namedComponents pieces) = namedComponents (piece :: others) := by
        split
        · rename_i same
          exact (dot (List.cons.inj same).1).elim
        · rfl
      rw [plain, plain, ← List.cons_append, namedComponents_append]

/-- A slash at the end adds nothing. -/
theorem components_ends_slash {front : List Char} (filled : front ≠ []) :
    components ⟨String.ofList (front ++ ['/'])⟩ = components ⟨String.ofList front⟩ := by
  rw [components_append_slash filled]
  exact List.append_nil _

theorem isAbsolute_eq (path : Path) : path.isAbsolute = (path.text.toList.head? == some '/') := rfl

/-- The components of a path inside another one. -/
theorem components_join {base path : Path} (filled : base.text ≠ "")
    (relative : path.isAbsolute = false) :
    (base.join path).components = base.components ++ namedComponents
      (splitOnChar '/' path.text.toList) := by
  obtain ⟨front, rfl⟩ : ∃ front, base = ⟨String.ofList front⟩ := ⟨base.text.toList, by simp⟩
  have some : front ≠ [] := by rintro rfl; exact filled rfl
  have text : (String.ofList front).isEmpty = false := by simpa using filled
  rw [join, relative, text]
  simp only [Bool.false_eq_true, if_false, Bool.false_or, String.toList_ofList, beq_iff_eq]
  split
  · rename_i slash
    obtain ⟨less, rfl⟩ : ∃ less, front = less ++ ['/'] :=
      ⟨_, (List.dropLast_append_getLast? _ slash).symm⟩
    have whole : String.ofList (less ++ ['/']) ++ path.text =
        String.ofList (less ++ '/' :: path.text.toList) := by
      apply String.toList_inj.mp
      simp
    rw [whole]
    by_cases root : less = []
    · subst root
      exact (components_slash _).trans rfl
    · rw [components_append_slash root, components_ends_slash root]
  · have whole : String.ofList front ++ "/" ++ path.text =
        String.ofList (front ++ '/' :: path.text.toList) := by
      apply String.toList_inj.mp
      simp
    rw [whole, components_append_slash some]

theorem IsPiece.toList_ne {name : String} (isPiece : IsPiece name) :
    name.toList ≠ [] ∧ name.toList ≠ ['.'] ∧ name.toList ≠ ['.', '.'] :=
  ⟨fun same => isPiece.filled (String.toList_inj.mp same), fun same =>
    isPiece.noDot (String.toList_inj.mp same),
    fun same => isPiece.noDots (String.toList_inj.mp same)⟩

theorem namedComponents_name {piece : List Char} (filled : piece ≠ []) (noDot : piece ≠ ['.'])
    (noDots : piece ≠ ['.', '.']) : namedComponents [piece] = [.normal (String.ofList piece)] := by
  simp [namedComponents, filled, noDot, noDots]

theorem IsPiece.isAbsolute {name : String} (isPiece : IsPiece name) :
    isAbsolute ⟨name⟩ = false := by
  rw [isAbsolute_eq, beq_eq_false_iff_ne]
  exact fun same => isPiece.noSlash (List.mem_of_mem_head? same)

theorem components_join_name (base : Path) {name : String} (isPiece : IsPiece name) :
    (base.join ⟨name⟩).components = base.components ++ [.normal name] := by
  obtain ⟨filled, noDot, noDots⟩ := isPiece.toList_ne
  have whole : splitOnChar '/' name.toList = [name.toList] := splitOnChar_of_not_mem isPiece.noSlash
  have last : namedComponents [name.toList] = [.normal name] := by
    rw [namedComponents_name filled noDot noDots, String.ofList_toList]
  by_cases empty : base.text = ""
  · have only : base.join ⟨name⟩ = ⟨name⟩ := by simp [join, isPiece.isAbsolute, empty]
    have none : base.components = [] := components_of_empty empty
    have parts := components_relative filled fun same =>
      isPiece.noSlash (List.mem_of_mem_head? same)
    rw [String.ofList_toList, whole] at parts
    rw [only, none, parts, List.nil_append]
    split
    · rename_i same
      exact (noDot (List.cons.inj same).1).elim
    · exact last
  · rw [components_join empty isPiece.isAbsolute]
    exact congrArg _ ((congrArg _ whole).trans last)

theorem fileName?_join_name (base : Path) {name : String} (isPiece : IsPiece name) :
    (base.join ⟨name⟩).fileName? = some name := by
  rw [fileName?, components_join_name base isPiece,
    List.getLast?_append_of_ne_nil _ (List.cons_ne_nil _ _)]
  rfl

theorem extension?_join_name (base : Path) {name : String} (isPiece : IsPiece name) :
    (base.join ⟨name⟩).extension? = (splitExtension name).2 := by
  rw [extension?, fileName?_join_name base isPiece]
  rfl

theorem stem?_join_name (base : Path) {name : String} (isPiece : IsPiece name) :
    (base.join ⟨name⟩).stem? = some (splitExtension name).1 := by
  rw [stem?, fileName?_join_name base isPiece]
  rfl

/-- Names that are put behind one path are in the order of the texts. -/
theorem text_join_le (base : Path) {a b : String} (first : IsPiece a)
    (second : IsPiece b) (le : a ≤ b) : (base.join ⟨a⟩).text ≤ (base.join ⟨b⟩).text := by
  have cancel (front as bs : List Char) : front ++ as < front ++ bs ↔ as < bs := by
    induction front with
    | nil => exact Iff.rfl
    | cons c front ih => simp [ih]
  rw [← String.not_lt, String.lt_iff_toList_lt] at le ⊢
  simp only [join, first.isAbsolute, second.isAbsolute, Bool.false_eq_true, if_false]
  split
  · simpa [cancel] using le
  · simpa [cancel] using le

/-- The text of a path inside another one is the text of the other, with a slash or not, and its
own. -/
theorem text_join (base : Path) {path : Path} (relative : path.isAbsolute = false) :
    ((base.join path).text = base.text ++ path.text ∧
      (base.text = "" ∨ base.text.toList.getLast? = some '/')) ∨
    ((base.join path).text = base.text ++ "/" ++ path.text ∧ base.text ≠ "") := by
  rw [join, relative, if_neg (by simp)]
  split
  · rename_i ends
    refine .inl ⟨rfl, ?_⟩
    rcases Bool.or_eq_true_iff.mp ends with empty | slash
    · exact .inl (String.isEmpty_iff.mp empty)
    · exact .inr (beq_iff_eq.mp slash)
  · rename_i ends
    refine .inr ⟨rfl, fun empty => ends ?_⟩
    rw [empty]
    rfl

/-- The last component of a path ends as the path does. -/
theorem components_join_append (base : Path) {front tail : String} (noSlash : '/' ∉ tail.toList)
    (long : 3 ≤ tail.toList.length) (relative : isAbsolute ⟨front ++ tail⟩ = false) :
    ∃ components last, (base.join ⟨front ++ tail⟩).components =
      components ++ [.normal (last ++ tail)] := by
  obtain ⟨pieces, last, whole⟩ := splitOnChar_append noSlash front.toList
  have text : (front ++ tail).toList = front.toList ++ tail.toList := by simp
  have named (pieces : List (List Char)) : namedComponents (pieces ++ [last ++ tail.toList]) =
      namedComponents pieces ++ [.normal (String.ofList last ++ tail)] := by
    have other (short : List Char) (brief : short.length < 3) : last ++ tail.toList ≠ short := by
      intro same
      rw [← same, List.length_append] at brief
      omega
    rw [namedComponents_append, namedComponents_name (other [] (by decide))
      (other ['.'] (by decide)) (other ['.', '.'] (by decide))]
    simp
  by_cases empty : base.text = ""
  · have only : base.join ⟨front ++ tail⟩ = ⟨front ++ tail⟩ := by simp [join, relative, empty]
    have filled : front.toList ++ tail.toList ≠ [] := by
      intro none
      rw [(List.append_eq_nil_iff.mp none).2] at long
      exact absurd long (by decide)
    have first : (front.toList ++ tail.toList).head? ≠ some '/' := by
      rw [isAbsolute_eq, text, beq_eq_false_iff_ne] at relative
      exact relative
    have parts := components_relative filled first
    rw [← text, String.ofList_toList, text, whole] at parts
    rw [only, parts]
    split
    · rename_i others same
      cases pieces with
      | nil =>
        have dot := congrArg List.length (List.cons.inj same).1
        rw [List.length_append, List.length_singleton] at dot
        omega
      | cons piece pieces =>
        obtain ⟨-, rfl⟩ := List.cons.inj same
        exact ⟨.current :: namedComponents pieces, String.ofList last, congrArg _ (named pieces)⟩
    · exact ⟨_, _, named pieces⟩
  · rw [components_join empty relative, text, whole, named, ← List.append_assoc]
    exact ⟨_, _, rfl⟩

/-- The extension of a name is what stands behind its last dot. -/
theorem splitExtension_append {front extension : String} (noDot : '.' ∉ extension.toList)
    (more : extension ≠ "") : splitExtension (front ++ ("." ++ extension)) =
      if front = "" then ("." ++ extension, none) else (front, some extension) := by
  have reversed : (front ++ ("." ++ extension)).toList.reverse =
      extension.toList.reverse ++ '.' :: front.toList.reverse := by simp
  have after : (front ++ ("." ++ extension)).toList.reverse.takeWhile (· != '.') =
      extension.toList.reverse := by
    have all : ∀ c ∈ extension.toList.reverse, (c != '.') = true := fun c member =>
      bne_iff_ne.mpr fun dot => noDot (dot ▸ List.mem_reverse.mp member)
    rw [reversed, List.takeWhile_append_of_pos all,
      List.takeWhile_cons_of_neg (by simp), List.append_nil]
  have before : (front ++ ("." ++ extension)).toList.reverse.drop
    (extension.toList.reverse.length + 1) =
      front.toList.reverse := by
    rw [reversed, List.drop_append]
    simp
  rw [splitExtension, after, before]
  by_cases empty : front = ""
  · simp [empty]
  · have noDots : (front ++ ("." ++ extension) == "..") = false := by
      rw [beq_eq_false_iff_ne]
      intro same
      have length := congrArg (fun text => text.toList.length) same
      have one : 0 < front.toList.length :=
        List.length_pos_iff.mpr fun none => empty (String.toList_inj.mp none)
      have other : 0 < extension.toList.length :=
        List.length_pos_iff.mpr fun none => more (String.toList_inj.mp none)
      simp at length
      omega
    have named : front.toList.reverse.isEmpty = false := by simpa using empty
    rw [named, noDots, if_neg empty]
    simp

/-- A component that is a name has the form of a name, and its characters are characters of the
path. -/
theorem mem_components {path : Path} {name : String} (listed : .normal name ∈ path.components) :
    IsPiece name ∧ ∀ c ∈ name.toList, c ∈ path.text.toList := by
  have named {cs : List Char} {pieces : List (List Char)}
    (all : ∀ piece ∈ pieces, piece ∈ splitOnChar '/' cs)
      (listed : .normal name ∈ namedComponents pieces) :
      IsPiece name ∧ ∀ c ∈ name.toList, c ∈ cs := by
    obtain ⟨piece, member, kept⟩ := List.mem_filterMap.mp listed
    have chars : ∀ c ∈ piece, c ≠ '/' ∧ c ∈ cs := fun c => mem_of_mem_splitOnChar (all piece member)
    split at kept
    · cases kept
    · rename_i dropped
      split at kept
      · cases kept
      · rename_i dots
        obtain rfl := Component.normal.inj (Option.some.inj kept)
        simp only [Bool.or_eq_true, List.isEmpty_iff, beq_iff_eq, not_or] at dropped dots
        refine ⟨⟨fun same => dropped.1 ?_, fun slash => ?_, fun same =>
          dropped.2 ?_, fun same => dots ?_⟩, ?_⟩
        · rw [← String.toList_ofList (l := piece), same]
          rfl
        · rw [String.toList_ofList] at slash
          exact (chars _ slash).1 rfl
        · rw [← String.toList_ofList (l := piece), same]
          rfl
        · rw [← String.toList_ofList (l := piece), same]
          rfl
        · rw [String.toList_ofList]
          exact fun c member => (chars c member).2
  rw [components] at listed
  split at listed
  · cases listed
  · rename_i cs text
    rcases List.mem_cons.mp listed with root | listed
    · cases root
    · obtain ⟨isPiece, chars⟩ := named (fun piece member => member) listed
      refine ⟨isPiece, fun c member => ?_⟩
      rw [text]
      exact List.mem_cons_of_mem _ (chars c member)
  · split at listed
    · rename_i pieces
      rcases List.mem_cons.mp listed with current | listed
      · cases current
      · exact named (fun piece member => by rw [pieces]; exact List.mem_cons_of_mem _ member) listed
    · exact named (fun piece member => member) listed

theorem of_mem_namedComponents {pieces : List (List Char)} {component : Component}
    (listed : component ∈ namedComponents pieces) : component ≠ .root ∧ component ≠ .current := by
  obtain ⟨piece, -, kept⟩ := List.mem_filterMap.mp listed
  split at kept
  · cases kept
  · split at kept <;> cases kept <;> exact ⟨nofun, nofun⟩

theorem head?_namedComponents (pieces : List (List Char)) :
    (namedComponents pieces).head? ≠ some .root :=
  fun root => (of_mem_namedComponents (List.mem_of_mem_head? root)).1 rfl

theorem isAbsolute_iff (path : Path) : path.isAbsolute = true ↔
    path.components.head? = some .root := by
  rw [isAbsolute_eq, beq_iff_eq, components]
  split
  · simp_all
  · simp_all
  · rename_i other
    refine iff_of_false (fun slash => ?_) ?_
    · obtain ⟨cs, text⟩ := List.head?_eq_some_iff.mp slash
      exact other cs text
    · split
      · exact nofun
      · exact head?_namedComponents _

theorem components_trimBackReversed (cs : List Char) :
    components ⟨String.ofList (trimBackReversed cs).reverse⟩ =
      components ⟨String.ofList cs.reverse⟩ ∨
    trimBackReversed cs = [] ∧ components ⟨String.ofList cs.reverse⟩ = [.root] := by
  fun_induction trimBackReversed cs with
  | case1 cs ih =>
    rw [List.reverse_cons]
    by_cases empty : cs = []
    · subst empty
      exact .inr ⟨rfl, rfl⟩
    · rwa [components_ends_slash (fun none => empty (List.reverse_eq_nil_iff.mp none))]
  | case2 cs ih =>
    rw [List.reverse_cons, List.reverse_cons, List.append_assoc]
    by_cases empty : cs = []
    · subst empty
      exact .inr ⟨rfl, rfl⟩
    · have same :=
        components_append_slash (fun none => empty (List.reverse_eq_nil_iff.mp none)) ['.']
      have nothing : namedComponents (splitOnChar '/' ['.']) = [] := rfl
      rw [nothing, List.append_nil] at same
      rwa [List.singleton_append, same]
  | case3 cs => exact .inl rfl

/-- A name behind other text stays when the end of the text is trimmed. -/
theorem trimBack_append_name (front : List Char) {name : String} (isPiece : IsPiece name) :
    trimBack (front ++ name.toList) = front ++ name.toList := by
  obtain ⟨filled, noDot, -⟩ := isPiece.toList_ne
  have last : ∀ c ∈ name.toList.reverse, c ≠ '/' := fun c member slash =>
    isPiece.noSlash (slash ▸ List.mem_reverse.mp member)
  have same : trimBackReversed (name.toList.reverse ++ front.reverse) =
      name.toList.reverse ++ front.reverse := by
    cases reversed : name.toList.reverse with
    | nil => exact (filled (List.reverse_eq_nil_iff.mp reversed)).elim
    | cons c cs =>
      rw [reversed] at last
      rw [List.cons_append]
      unfold trimBackReversed
      split
      · rename_i slash
        exact (last c List.mem_cons_self (List.cons.inj slash).1).elim
      · rename_i other dot
        obtain ⟨rfl, rest⟩ := List.cons.inj dot
        cases cs with
        | nil => exact (noDot (List.reverse_eq_iff.mp reversed)).elim
        | cons d cs =>
          exact (last d (List.mem_cons_of_mem _ List.mem_cons_self) (List.cons.inj rest).1).elim
      · rfl
  rw [trimBack, List.reverse_append, same]
  simp

/-- The path of a file without its name leads where the path of its directory leads. -/
theorem parent?_join_name (base : Path) {name : String} (isPiece : IsPiece name) :
    ∃ parent, (base.join ⟨name⟩).parent? = some parent ∧ parent.components = base.components := by
  obtain ⟨front, text, same⟩ : ∃ front, (base.join ⟨name⟩).text.toList = front ++ name.toList ∧
      components ⟨String.ofList front⟩ = base.components := by
    have base_eq : (⟨String.ofList base.text.toList⟩ : Path) = base := by simp
    rcases text_join base isPiece.isAbsolute with ⟨text, -⟩ | ⟨text, filled⟩
    · exact ⟨base.text.toList, by simp [text], by rw [base_eq]⟩
    · refine ⟨base.text.toList ++ ['/'], by simp [text], ?_⟩
      rw [components_ends_slash fun none => filled (String.toList_inj.mp none), base_eq]
  have last : (base.join ⟨name⟩).components.getLast? = some (.normal name) := by
    rw [components_join_name base isPiece, List.getLast?_append_of_ne_nil _ (List.cons_ne_nil _ _)]
    rfl
  have body : (((trimBack (front ++ name.toList)).reverse.drop name.length).reverse) = front := by
    rw [trimBack_append_name front isPiece, List.reverse_append, ← String.length_toList,
      ← List.length_reverse, List.drop_left, List.reverse_reverse]
  rw [parent?, last]
  simp only [Component.text, text, body]
  have trimmed := components_trimBackReversed front.reverse
  rw [List.reverse_reverse, same] at trimmed
  change components ⟨String.ofList (trimBack front)⟩ = _ ∨
    trimBackReversed front.reverse = [] ∧ _ at trimmed
  have absolute := isAbsolute_iff (base.join ⟨name⟩)
  rw [components_join_name base isPiece] at absolute
  split
  · rename_i both
    obtain ⟨empty, slash⟩ := Bool.and_eq_true_iff.mp both
    refine ⟨_, rfl, ?_⟩
    rcases trimmed with trimmed | ⟨-, root⟩
    · rw [List.isEmpty_iff.mp empty] at trimmed
      rw [← trimmed] at absolute
      cases absolute.mp slash
    · exact root.symm
  · rename_i notBoth
    refine ⟨_, rfl, ?_⟩
    rcases trimmed with trimmed | ⟨empty, root⟩
    · exact trimmed
    · refine (notBoth (Bool.and_eq_true_iff.mpr ⟨?_, absolute.mpr (by rw [root]; rfl)⟩)).elim
      rw [trimBack, empty]
      rfl

end Phrasebook.Path
