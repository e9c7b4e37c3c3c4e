import Phrasebook.Proofs.Decimal.Notation
import Phrasebook.Proofs.Resource.Growth
import Phrasebook.Proofs.Result
import Phrasebook.Proofs.Script.Data
import Phrasebook.Proofs.Text.Table
import Phrasebook.Resource.ModuleFile
import Mathlib.Data.List.Nodup

/-!
Module files that are written and read again. The script parser reads the object literal of a module
as the members that it was written for, with any names, texts and finite numbers, to any depth of
groups. So a tree whose modules are groups of data is read back from its files, and what is put into
such a tree leaves it one. What a module file is read as is such data, unless a number in it is too
large: this one becomes a null, which no module file stands for.
-/

namespace Phrasebook

namespace ResourceNode

open Script Text
open Script.Grammar (Closes)
open Json (newLine quoted)

/-- Data with no scalars but truth values and finite numbers, and with no name twice in a group. No
number of a module is negative, since a sign in front of one is an operator. -/
inductive IsData : ResourceNode → Prop
  | text (value : String) : IsData (.text value)
  | boolean (value : Bool) : IsData (.scalar (.boolean value))
  | number {m : Nat} {e : Int} (known : (m = 0 ∧ e = 0) ∨ Binary64.InRange m e) :
    IsData (.scalar (.number (.binary (.finite false m e))))
  | group {members : List (String × ResourceNode)} (distinct : (members.map (·.1)).Nodup)
    (each : ∀ member ∈ members, IsData member.2) : IsData (.group members)

/-- That a number that was too large stands in the data. -/
inductive HasNull : ResourceNode → Prop
  | here : HasNull (.scalar .null)
  | inside {members : List (String × ResourceNode)} {entry : String × ResourceNode}
    (listed : entry ∈ members) (null : HasNull entry.2) : HasNull (.group members)

/-- What may stand behind the literal of a value. -/
inductive Follows : List Char → Prop
  | comma (cs : List Char) : Follows (',' :: cs)
  | line (depth : Nat) (cs : List Char) : Follows (newLine depth ++ '\x7d' :: cs)
  | semicolon (cs : List Char) : Follows (';' :: cs)

theorem Follows.closes {tail : List Char} (follows : Follows tail) (p : Nat)
    (comments : List Span) : Closes (stateAt ⟨tail, p⟩ comments) := by
  cases follows with
  | comma cs => exact .comma ..
  | line depth cs =>
    rw [stateAt_newLine]
    exact .brace ..
  | semicolon cs => exact .semicolon ..

theorem Follows.endsWord {tail : List Char} (follows : Follows tail) : EndsWord tail := by
  cases follows <;> exact ⟨by decide, by decide⟩

/-- That the literal of a value is read as an expression for the value. Three productions lead from
an expression to its first operand, and each further level of them costs at least a brace. -/
def ReadBack (node : ResourceNode) : Prop :=
  ∀ (depth n p : Nat) (c : Context) (tail : List Char) (comments : List Span),
    3 * (node.literal depth).length ≤ n → (node.literal depth).length ≤ c.limit → Follows tail →
    ∃ tree q, ModuleFile.valueOf tree = .ok node ∧
      productions n .assignment c (stateAt ⟨' ' :: (node.literal depth ++ tail), p⟩ comments) =
        .ok tree (stateAt ⟨tail, q⟩ comments)

theorem readBack_text (value : String) : ReadBack (.text value) := by
  intro depth n p c tail comments enough room follows
  have filled : 0 < (literal depth (.text value)).length := by simp [literal, quoted]
  obtain ⟨n, rfl⟩ : ∃ less, n = less + 3 := Nat.exists_eq_add_of_le' (by omega)
  rw [literal, stateAt_blank, nextLexeme_quoted]
  exact ⟨_, _, rfl, Grammar.assignment_of_primary (.string ..) rfl
    (follows.closes _ comments) (.string ..) (Nat.lt_of_lt_of_le filled room)⟩

theorem readBack_boolean (value : Bool) : ReadBack (.scalar (.boolean value)) := by
  intro depth n p c tail comments enough room follows
  have form : literal depth (.scalar (.boolean value)) = (cond value "true" "false").toList := by
    cases value <;> rfl
  have filled : 0 < (literal depth (.scalar (.boolean value))).length := by
    rw [form]
    cases value <;> decide
  obtain ⟨n, rfl⟩ : ∃ less, n = less + 3 := Nat.exists_eq_add_of_le' (by omega)
  have word : isIdentifier (cond value "true" "false") = true := by cases value <;> decide
  rw [form, stateAt_blank, nextLexeme_identifier word follows.endsWord]
  cases value with
  | false =>
    exact ⟨_, _, rfl, Grammar.assignment_of_primary (.no ..) rfl
      (follows.closes _ comments) (.boolean ..) (Nat.lt_of_lt_of_le filled room)⟩
  | true =>
    exact ⟨_, _, rfl, Grammar.assignment_of_primary (.yes ..) rfl
      (follows.closes _ comments) (.boolean ..) (Nat.lt_of_lt_of_le filled room)⟩

theorem readBack_number {m : Nat} {e : Int} (known : (m = 0 ∧ e = 0) ∨ Binary64.InRange m e) :
    ReadBack (.scalar (.number (.binary (.finite false m e)))) := by
  intro depth n p c tail comments enough room follows
  obtain ⟨text, plain, shown, value⟩ := Binary64.exists_numeral known
  have form : literal depth (.scalar (.number (.binary (.finite false m e)))) = text.chars := by
    rw [literal, Scalar.toText, Scalar.toJson, Json.compact, String.toList_ofList,
      Json.compactChars, Json.numberText, shown, Option.getD_some, String.toList_ofList]
  obtain ⟨first, others, filled, -⟩ := plain.head
  have least : 0 < (literal depth (.scalar (.number (.binary (.finite false m e))))).length := by
    rw [form, filled]
    exact Nat.succ_pos _
  have scalar : ModuleFile.scalarOf text.numeral = .number (.binary (.finite false m e)) := by
    rw [ModuleFile.scalarOf, ModuleFile.binary, value]
  obtain ⟨n, rfl⟩ : ∃ less, n = less + 3 := Nat.exists_eq_add_of_le' (by omega)
  rw [form, stateAt_blank, plain.nextLexeme follows.endsWord]
  refine ⟨_, _, ?_, Grammar.assignment_of_primary (.number ..) rfl (follows.closes _ comments)
    (.number ..) (Nat.lt_of_lt_of_le least room)⟩
  rw [ModuleFile.valueOf, scalar]

/-- The state at a member. -/
theorem stateAt_member (name : String) (node : ResourceNode) (depth : Nat)
    (tail : List Char) (p : Nat) (comments : List Span) :
    ∃ token kind start q, Grammar.IsKey token kind ∧
      (∀ span, ModuleFile.keyOf (.node kind span []) = .ok name) ∧
      stateAt ⟨memberLiteral depth (name, node) ++ tail, p⟩ comments =
        ⟨⟨token, start, ⟨':' :: ' ' :: (literal depth node ++ tail), q⟩, true⟩, p, comments⟩ := by
  have form : memberLiteral depth (name, node) ++ tail =
      newLine depth ++ (memberName name ++ ':' :: ' ' :: (literal depth node ++ tail)) := by
    simp [memberLiteral]
  rw [form, stateAt_newLine, memberName]
  split
  · rename_i identifier
    have ends : EndsWord (':' :: ' ' :: (literal depth node ++ tail)) := ⟨by decide, by decide⟩
    rw [nextLexeme_identifier identifier ends]
    exact ⟨_, _, _, _, .word name, fun _ => rfl, rfl⟩
  · rw [nextLexeme_quoted]
    exact ⟨_, _, _, _, .string (some name), fun _ => rfl, rfl⟩

/-- A member is read as a property. -/
theorem ReadBack.member {node : ResourceNode} (back : ReadBack node) (name : String) {depth n : Nat}
    {c : Context} {tail : List Char} (enough : 3 * (node.literal depth).length ≤ n)
    (room : (node.literal depth).length ≤ c.limit) (follows : Follows tail) (p : Nat)
    (comments : List Span) :
    let s := stateAt ⟨memberLiteral depth (name, node) ++ tail, p⟩ comments
    ∃ property q, Parser.isMark .closeBrace c s = .ok false s ∧ Parser.atEnd c s = .ok false s ∧
      Grammar.objectProperty (productions n) c s = .ok property (stateAt ⟨tail, q⟩ comments) ∧
      ∀ properties members, ModuleFile.membersOf properties = .ok members →
        ModuleFile.membersOf (property :: properties) = .ok ((name, node) :: members) := by
  intro s
  obtain ⟨token, kind, start, q, key, named, state⟩ :=
    stateAt_member name node depth tail p comments
  obtain ⟨tree, stop, value, read⟩ := back depth n (q + 1) c tail comments enough room follows
  have same : s = _ := state
  rw [same]
  refine ⟨_, stop, ?_, ?_, Grammar.objectProperty_of_assignment key read, ?_⟩
  · cases key <;> rfl
  · cases key <;> rfl
  · intro properties members others
    rw [ModuleFile.membersOf, named, value, others]
    rfl

theorem length_memberLiterals (depth : Nat) (name : String) (node : ResourceNode)
    (members : List (String × ResourceNode)) :
    (node.literal depth).length + 1 + (memberLiterals depth members).length ≤
      (memberLiterals depth ((name, node) :: members)).length := by
  simp only [memberLiterals, memberLiteral, List.length_append, List.length_cons]
  omega

/-- Members on lines of their own are read as the properties of an object. -/
theorem readsItems_members {members : List (String × ResourceNode)} {name : String}
    {node : ResourceNode} (first : ReadBack node) (each : ∀ member ∈ members, ReadBack member.2)
    {depth n : Nat} {c : Context} (outer : Nat) (tail : List Char)
    (enough : 3 * (memberLiterals depth ((name, node) :: members)).length ≤ n)
    (room : (memberLiterals depth ((name, node) :: members)).length ≤ c.limit) (p : Nat)
    (comments : List Span) :
    ∃ properties q, Parser.ReadsItems (Grammar.objectProperty (productions n)) .closeBrace c
        (stateAt ⟨memberLiteral depth (name, node) ++ (memberLiterals depth members ++
          (newLine outer ++ '\x7d' :: tail)), p⟩ comments) properties
        (stateAt ⟨newLine outer ++ '\x7d' :: tail, q⟩ comments) ∧
      ModuleFile.membersOf properties = .ok ((name, node) :: members) ∧
      properties.length ≤ (memberLiterals depth ((name, node) :: members)).length := by
  have size := length_memberLiterals depth name node members
  have small : 3 * (node.literal depth).length ≤ n ∧
      (node.literal depth).length ≤ c.limit := by omega
  induction members generalizing name node p with
  | nil =>
    obtain ⟨property, q, other, more, read, named⟩ :=
      first.member name small.1 small.2 (.line outer tail) p comments
    refine ⟨[property], q, .last other more read ?_, named [] [] rfl, ?_⟩
    · rw [stateAt_newLine]
      rfl
    · rw [List.length_singleton]
      omega
  | cons next members ih =>
    obtain ⟨nextName, next⟩ := next
    have nextSize := length_memberLiterals depth nextName next members
    obtain ⟨property, q, other, more, read, named⟩ := first.member name small.1 small.2
      (.comma (memberLiteral depth (nextName, next) ++ (memberLiterals depth members ++
        (newLine outer ++ '\x7d' :: tail)))) p comments
    obtain ⟨properties, stop, items, others, count⟩ := @ih nextName next (each _ List.mem_cons_self)
      (fun member listed => each member (List.mem_cons_of_mem _ listed)) (by omega)
      (by omega) (q + 1) nextSize (by omega)
    refine ⟨property :: properties, stop, ?_, named _ _ others, ?_⟩
    · rw [memberLiterals, List.cons_append, List.cons_append, List.append_assoc]
      exact .cons other more read rfl items
    · rw [List.length_cons]
      omega

theorem readBack_empty : ReadBack (.group []) := by
  intro depth n p c tail comments enough room follows
  have size : (literal depth (.group [])).length = 2 := rfl
  obtain ⟨n, rfl⟩ : ∃ less, n = less + 3 := Nat.exists_eq_add_of_le' (by omega)
  exact ⟨_, _, rfl, Grammar.assignment_of_listUntil (Parser.listUntil_of_closed rfl)
    (follows.closes _ comments) (by omega)⟩

theorem readBack_group {members : List (String × ResourceNode)}
    (distinct : (members.map (·.1)).Nodup) (each : ∀ member ∈ members, ReadBack member.2) :
    ReadBack (.group members) := by
  cases members with
  | nil => exact readBack_empty
  | cons first members =>
    obtain ⟨name, node⟩ := first
    intro depth n p c tail comments enough room follows
    have form : literal depth (.group ((name, node) :: members)) ++ tail =
        '\x7b' :: (memberLiteral (depth + 1) (name, node) ++ (memberLiterals (depth + 1) members ++
          (newLine depth ++ '\x7d' :: tail))) := by
      simp [literal]
    have size : (memberLiterals (depth + 1) ((name, node) :: members)).length + 1 ≤
        (literal depth (.group ((name, node) :: members))).length := by
      simp only [literal, memberLiterals, List.length_append, List.length_cons]
      omega
    obtain ⟨n, rfl⟩ : ∃ less, n = less + 3 := Nat.exists_eq_add_of_le' (by omega)
    let inside : Context := { c with arrowAt := some (p + 1), allowIn := true }
    have fits : (memberLiterals (depth + 1) ((name, node) :: members)).length ≤ inside.limit :=
      Nat.le_of_succ_le (Nat.le_trans size room)
    obtain ⟨properties, q, items, named, count⟩ := @readsItems_members members name node
      (each _ List.mem_cons_self) (fun member listed => each member (List.mem_cons_of_mem _ listed))
      (depth + 1) n inside depth tail (by omega) fits (p + 2) comments
    have list := Parser.listUntil_of_readsItems items (by decide) (Nat.le_trans count fits)
    rw [form]
    rw [stateAt_newLine] at list
    refine ⟨_, _, ?_, Grammar.assignment_of_listUntil list (follows.closes _ comments) (by omega)⟩
    rw [ModuleFile.valueOf, named, Except.map, tableOf_of_nodup distinct]

theorem IsData.readBack {node : ResourceNode} (data : IsData node) : ReadBack node := by
  induction data with
  | text value => exact readBack_text value
  | boolean value => exact readBack_boolean value
  | number known => exact readBack_number known
  | group distinct _ ih => exact readBack_group distinct ih

end ResourceNode

namespace ModuleFile

open Script Text

/-- The object that is exported is a group. -/
theorem objectOf_eq_ok_iff {tree : Tree} {members : List (String × ResourceNode)} :
    objectOf tree = .ok members ↔ valueOf tree = .ok (.group members) := by
  fun_induction objectOf tree with
  | case1 span inner ih =>
    rw [valueOf]
    exact ih
  | case2 span properties =>
    rw [valueOf]
    cases membersOf properties with
    | error fault => exact iff_of_false (fun read => by cases read) (fun read => by cases read)
    | ok listed => exact ⟨fun read => by cases read; rfl, fun read => by cases read; rfl⟩
  | case3 tree noParens noObject =>
    refine iff_of_false (fun read => by cases read) fun value => ?_
    unfold valueOf at value
    split at value
    · exact (noParens _ _ rfl).elim
    · exact (noObject _ _ rfl).elim
    all_goals cases value

/-- A value is no declaration. -/
theorem defaultExport?_of_valueOf {tree : Tree} {node : ResourceNode}
    (value : valueOf tree = .ok node) (span : Span) :
    defaultExport? [.node .exportDefault span [tree]] = some tree := by
  obtain ⟨kind, inner, parts⟩ := tree
  cases kind <;> first | rfl | contradiction

theorem literal_group (members : List (String × ResourceNode)) :
    ∃ cs, (ResourceNode.group members).literal 0 = '\x7b' :: cs := by
  cases members with
  | nil => exact ⟨_, rfl⟩
  | cons member members =>
    rw [ResourceNode.literal]
    exact ⟨_, rfl⟩

/-- The script of a module exports the data that it is written for. -/
theorem parse_moduleText {members : List (String × ResourceNode)}
    (data : ResourceNode.IsData (.group members)) :
    ∃ script tree span, parse .javaScript
      (ResourceNode.group members).moduleText.toList = .ok script ∧ script.items =
        [.node .exportDefault span [tree]] ∧ valueOf tree = .ok (.group members) := by
  obtain ⟨cs, literal⟩ := literal_group members
  have text : (ResourceNode.group members).moduleText.toList =
      "export default ".toList ++ '\x7b' :: (cs ++ [';', '\n']) := by
    have between (front back : String) :
        (front ++ String.ofList ((ResourceNode.group members).literal 0) ++ back).toList =
          front.toList ++ '\x7b' :: (cs ++ back.toList) := by simp [literal]
    exact between "export default " ";\n"
  let size := ("export default ".toList ++ '\x7b' :: (cs ++ [';', '\n'])).length
  have short : ((ResourceNode.group members).literal 0).length ≤ size := by
    simp only [literal, size, List.length_append, List.length_cons]
    omega
  obtain ⟨depth, deep⟩ : ∃ depth, 16 * (size + 2) = depth + 1 := Nat.exists_eq_add_of_le' (by omega)
  obtain ⟨tree, q, value, read⟩ := data.readBack 0 depth 14
    { dialect := .javaScript, limit := size + 2, allowIn := true } [';', '\n'] [] (by omega)
    (Nat.le_add_right_of_le short) (.semicolon ['\n'])
  rw [literal] at read
  obtain ⟨script, parsed, items⟩ := parse_exportDefault rfl deep read
  exact ⟨script, tree, _, by rw [text, parsed], items, value⟩

/-- A script that exports nothing but one object is read as its members. -/
theorem read_of_exported {text : String} {members : List (String × ResourceNode)}
    (exported : ∃ script tree span, parse .javaScript text.toList = .ok script ∧ script.items =
      [.node .exportDefault span [tree]] ∧ valueOf tree = .ok (.group members)) :
    read text = .ok members := by
  obtain ⟨script, tree, span, parsed, items, value⟩ := exported
  rw [read, parsed]
  simp only [items, defaultExport?_of_valueOf value, objectOf_eq_ok_iff.mpr value]

/-- Data is read back from the module file that is written for it. -/
theorem read_moduleText {members : List (String × ResourceNode)}
    (data : ResourceNode.IsData (.group members)) :
    read (ResourceNode.group members).moduleText = .ok members :=
  read_of_exported (parse_moduleText data)

/-- A number is read as data, unless it is too large. -/
theorem isData_scalarOf {value : Numeral} (finite : scalarOf value ≠ .null) :
    ResourceNode.IsData (.scalar (scalarOf value)) := by
  unfold scalarOf at finite ⊢
  cases number : binary value with
  | infinite negative =>
    rw [number] at finite
    exact absurd rfl finite
  | finite negative m e =>
    obtain rfl := Binary64.sign_of_ofDecimal number
    exact .number (Binary64.inRange_of_ofDecimal number)

/-- What is read of a value is data, unless a number in it is too large. -/
theorem isData_of_valueOf (tree : Tree) : ∀ node, valueOf tree = .ok node →
    ¬ node.HasNull → node.IsData := by
  refine valueOf.induct (fun tree => ∀ node, valueOf tree = .ok node →
      ¬ node.HasNull → node.IsData)
    (fun properties => ∀ members, membersOf properties = .ok members →
      ∀ member ∈ members, ¬ member.2.HasNull → member.2.IsData)
    ?parens ?object ?string ?noString ?template ?number ?boolean ?other ?nil ?property ?spread
    ?method tree
  case parens =>
    intro span inner ih node value finite
    rw [valueOf] at value
    exact ih node value finite
  case object =>
    intro span properties ih node value finite
    rw [valueOf] at value
    cases read : membersOf properties with
    | error fault =>
      rw [read] at value
      cases value
    | ok members =>
      rw [read] at value
      cases value
      refine .group (nodup_tableOf members) fun entry listed => ?_
      exact ih members read entry (mem_tableOf listed) fun null => finite (.inside listed null)
  case string =>
    intro text span parts node value finite
    cases value
    exact .text text
  case noString =>
    intro span parts node value finite
    cases value
  case template =>
    intro chunks span node value finite
    cases value
    exact .text _
  case number =>
    intro number span parts node value finite
    cases value
    exact isData_scalarOf fun null => finite (null ▸ .here)
  case boolean =>
    intro truth span parts node value finite
    cases value
    exact .boolean truth
  case other =>
    intro tree parens object string noString template number boolean node value finite
    rw [valueOf] at value <;> first | cases value | assumption
  case nil =>
    intro members read
    cases read
    exact List.forall_mem_nil _
  case property =>
    intro span key value properties first others members read
    rw [membersOf] at read
    obtain ⟨name, -, read⟩ := ok_of_bind read
    obtain ⟨node, held, read⟩ := ok_of_bind read
    obtain ⟨more, rest, read⟩ := ok_of_bind read
    cases read
    exact List.forall_mem_cons.mpr ⟨first node held, others more rest⟩
  case spread =>
    intro span parts properties members read
    cases read
  case method =>
    intro property properties noPair noSpread members read
    rw [membersOf] at read <;> first | cases read | assumption

/-- What is read of a module file is data, unless a number in it is too large. -/
theorem isData_of_read {text : String} {members : List (String × ResourceNode)}
    (done : read text = .ok members) (finite : ¬ (ResourceNode.group members).HasNull) :
    ResourceNode.IsData (.group members) := by
  unfold read at done
  split at done
  · cases done
  · split at done
    · cases done
    · exact isData_of_valueOf _ _ (objectOf_eq_ok_iff.mp done) finite

private def marked : List (String × ResourceNode) := [
  ("", .text ""), ("default", .scalar (.boolean true)), ("with-dash", .group []),
  ("第\n一\u2028", .group [
    ("true", .text "\u0001\"\\' */ \x7b😀\x7d"),
      ("__proto__", .group [("0", .scalar (.boolean false))])])]

theorem read_moduleText_marked :
    ResourceNode.IsData (.group marked) ∧ read
      (ResourceNode.group marked).moduleText = .ok marked := by
  have data : ResourceNode.IsData (.group marked) := by
    refine .group (by decide) ?_
    simp only [marked, List.mem_cons, List.not_mem_nil, or_false]
    rintro member (rfl | rfl | rfl | rfl)
    · exact .text _
    · exact .boolean _
    · exact .group .nil nofun
    · refine .group (by decide) ?_
      simp only [List.mem_cons, List.not_mem_nil, or_false]
      rintro member (rfl | rfl)
      · exact .text _
      · exact .group (by decide) (by simpa using .boolean false)
  exact ⟨data, read_moduleText data⟩

end ModuleFile

namespace ResourceNode

variable {members grown : List (String × ResourceNode)} {node : ResourceNode}

theorem IsData.distinct (data : IsData (.group members)) : (members.map (·.1)).Nodup := by
  cases data
  assumption

theorem IsData.member (data : IsData (.group members)) {entry : String × ResourceNode}
    (listed : entry ∈ members) : IsData entry.2 := by
  cases data with
  | group distinct each => exact each entry listed

theorem IsData.put (data : IsData (.group members)) (name : String) (new : IsData node) :
    IsData (.group (Text.put name node members)) := by
  refine .group (Text.nodup_put node data.distinct) fun entry listed => ?_
  rcases Text.mem_put listed with rfl | old
  · exact new
  · exact data.member old

theorem isData_chain (value : String) (path : List String) : IsData (chain value path) := by
  induction path with
  | nil => exact .text value
  | cons name path ih => exact .group (List.nodup_singleton _) (by simpa using ih)

/-- Texts that are put below a group of data leave it one. -/
theorem IsData.insertBelow {key value : String} {passed path : List String}
    (data : IsData (.group members))
    (done : insertBelow key value passed path members = .ok grown) : IsData (.group grown) := by
  fun_induction ResourceNode.insertBelow key value passed path members generalizing grown with
  | case1 => cases done
  | case2 passed name members free =>
    cases done
    exact data.put name (.text value)
  | case3 =>
    cases done
    exact data
  | case4 => cases done
  | case5 => cases done
  | case6 passed name next path members free =>
    cases done
    exact data.put name (isData_chain value (next :: path))
  | case7 passed name next path members inner held ih =>
    cases below : ResourceNode.insertBelow key value (name :: passed) (next :: path) inner with
    | error conflict => rw [below] at done; cases done
    | ok deeper =>
      rw [below] at done
      cases done
      exact data.put name (ih (data.member (Text.mem_of_lookup held)) below)
  | case8 => cases done

end ResourceNode

namespace ResourceTree

/-- Modules with names of their own, each of them a group of data. -/
structure Stored (tree : ResourceTree) : Prop where
  data : ResourceNode.IsData (.group tree.modules)
  groups : ∀ entry ∈ tree.modules, ∃ members, entry.2 = .group members

theorem Stored.insert {tree grown : ResourceTree} {key value : String} (stored : tree.Stored)
    (done : tree.insert key value = .ok grown) : grown.Stored := by
  refine ⟨stored.data.insertBelow (insertBelow_of_insert done), ?_⟩
  -- A key has two parts at least, so that what stands at the first one is a group.
  have long := isKeyPath_of_insert done
  have below := insertBelow_of_insert done
  cases path : Text.splitDots key with
  | nil => rw [path] at below; cases below
  | cons name rest =>
    rw [path] at below long
    cases rest with
    | nil => cases long
    | cons next rest =>
      have put {members : List (String × ResourceNode)} :
        ∀ entry ∈ Text.put name (.group members) tree.modules,
          ∃ members, entry.2 = .group members := by
        intro entry listed
        rcases Text.mem_put listed with rfl | old
        · exact ⟨members, rfl⟩
        · exact stored.groups entry old
      rw [ResourceNode.insertBelow] at below
      split at below
      · rw [← Except.ok.inj below]
        exact put
      · rename_i inner held
        cases deeper : ResourceNode.insertBelow key value [name] (next :: rest) inner with
        | error conflict => rw [deeper] at below; cases below
        | ok more =>
          rw [deeper] at below
          rw [← Except.ok.inj below]
          exact put
      · cases below

end ResourceTree

end Phrasebook
