import Phrasebook.Proofs.Occurrence.Location
import Phrasebook.Proofs.Text.Slice
import Mathlib.Data.List.Range

/-!
The occurrences of one file. They are its candidates in source order and nothing else. The ordinals
count the occurrences of each construct from zero, so that region, site, source and ordinal together
tell any two of them apart; and where no two candidates stand at the same span it makes no
difference in which order they were found.
-/

namespace Phrasebook.Occurrence

variable {file : String} {earlier candidates : List Candidate}

/-- What was found, without what numbering adds. -/
def candidate (o : Occurrence) : Candidate where
  region := o.region
  line := o.line
  site := o.site
  span := o.span
  kind := o.kind
  text := o.text
  raw := o.raw
  captured := o.captured

theorem candidates_numberFrom :
    (numberFrom file earlier candidates).map candidate = candidates := by
  induction candidates generalizing earlier with
  | nil => rfl
  | cons c candidates ih =>
    rw [numberFrom, List.map_cons, ih]
    rfl

/-- Numbering puts the candidates in source order and loses none of what they say. -/
theorem candidates_number :
    (number file candidates).map candidate = candidates.mergeSort Candidate.before :=
  candidates_numberFrom

theorem pairwise_before_number :
    (number file candidates).Pairwise fun a b => a.span.before b.span = true := by
  have sorted := Span.pairwise_mergeSort Candidate.span candidates
  rw [show (candidates.mergeSort fun a b => a.span.before b.span) = _ from
    (@candidates_number file candidates).symm] at sorted
  exact List.pairwise_map.mp sorted

/-- Whether a candidate is of a construct: of this site and this source, in this region. -/
def isOf (region : Region) (site : Site) (raw : String) (c : Candidate) : Bool :=
  c.region = region ∧ c.site = site ∧ c.raw = raw

theorem sameText_eq_isOf (c : Candidate) (region : Region) (site : Site) (raw : String)
    (here : isOf region site raw c = true) : c.sameText = isOf region site raw := by
  obtain ⟨rfl, rfl, rfl⟩ := of_decide_eq_true here
  funext other
  rw [Bool.eq_iff_iff, Candidate.sameText, isOf, decide_eq_true_iff,
    Bool.and_eq_true, Bool.and_eq_true, beq_iff_eq, beq_iff_eq, beq_iff_eq, and_assoc]
  exact and_congr eq_comm (and_congr eq_comm eq_comm)

/-- Behind other candidates, the ordinals of a construct go on from their number. -/
theorem ordinals_numberFrom (region : Region) (site : Site) (raw : String) :
    ((numberFrom file earlier candidates).filter (isOf region site raw ∘ candidate)).map
      (·.ordinal) = List.range' (earlier.countP (isOf region site raw))
        (candidates.countP (isOf region site raw)) := by
  induction candidates generalizing earlier with
  | nil => rfl
  | cons c candidates ih =>
    have next := @ih (c :: earlier)
    have same : (isOf region site raw ∘ candidate) (ofCandidate file earlier c) =
        isOf region site raw c := rfl
    rw [numberFrom]
    by_cases here : isOf region site raw c = true
    · rw [List.filter_cons_of_pos (by rw [same, here]), List.map_cons, next,
        List.countP_cons_of_pos here, List.countP_cons_of_pos here, List.range'_succ]
      congr 1
      exact congrArg (earlier.countP ·) (sameText_eq_isOf c region site raw here)
    · rw [List.filter_cons_of_neg (by rw [same]; exact here), next, List.countP_cons_of_neg here,
        List.countP_cons_of_neg here]

/-- No two occurrences of a file agree in region, site, source and ordinal. -/
theorem sameSite_getElem_iff (i j : Fin (number file candidates).length) :
    (number file candidates)[i].sameSite (number file candidates)[j] = true ↔ i = j := by
  have apart : (number file candidates).Pairwise fun a b => a.sameSite b = false :=
    pairwise_numberFrom
  have later := List.pairwise_iff_getElem.mp apart
  constructor
  · intro same
    rcases Nat.lt_trichotomy i j with less | equal | more
    · rw [Fin.getElem_fin, Fin.getElem_fin, later i j i.isLt j.isLt less] at same
      cases same
    · exact Fin.ext equal
    · rw [sameSite_comm, Fin.getElem_fin, Fin.getElem_fin, later j i j.isLt i.isLt more] at same
      cases same
  · rintro rfl
    exact sameSite_self _

theorem number_eq_of_perm {others : List Candidate} (perm : others.Perm candidates)
    (distinct : (candidates.map (·.span)).Nodup) : number file others = number file candidates :=
  congrArg (numberFrom file []) (Span.mergeSort_eq_of_perm Candidate.span distinct perm)

/-- The main statement about numbering. The occurrences of a file are its candidates in the order of
their spans; two of them are the same construct by region, site, source and ordinal only if they are
one and the same; the ordinals of a construct are 0, 1, 2 and so on in that order; and candidates at
different spans give the same occurrences in whatever order the regions were scanned. -/
theorem number_ordered_apart (file : String) (candidates : List Candidate) :
    let found := number file candidates
    (found.map candidate).Perm candidates ∧
    (found.Pairwise fun a b =>
      a.span.start < b.span.start ∨ a.span.start = b.span.start ∧ a.span.stop ≤ b.span.stop) ∧
    (∀ i j : Fin found.length, found[i].sameSite found[j] = true ↔ i = j) ∧
    (∀ region site raw, let alike := found.filter fun o =>
      o.region = region ∧ o.site = site ∧ o.raw = raw
      alike.map (·.ordinal) = List.range alike.length) ∧
    ∀ others : List Candidate, others.Perm candidates → (candidates.map (·.span)).Nodup →
      number file others = found := by
  intro found
  refine ⟨?_, ?_, sameSite_getElem_iff, fun region site raw => ?_, fun others perm distinct =>
    number_eq_of_perm perm distinct⟩
  · rw [candidates_number]
    exact List.mergeSort_perm candidates Candidate.before
  · exact pairwise_before_number.imp Span.before_iff.mp
  · intro alike
    have counted : alike.map (·.ordinal) = List.range' 0 _ :=
      @ordinals_numberFrom file [] (candidates.mergeSort Candidate.before) region site raw
    have length := congrArg List.length counted
    rw [List.length_map, List.length_range'] at length
    rw [counted, ← length, List.range_eq_range']

/-- Three texts of a template as they were found, the first of them standing last. -/
private def greetings : List Candidate :=
  [(3, 40, "你好"), (2, 10, "你好"), (2, 20, "再见")].map fun (line, start, text) =>
    ⟨.template, line, .text, ⟨start, start + 6⟩, .plain, text, text, []⟩

/-- Turned round, they give the same occurrences, and the text that stands twice is told apart. -/
theorem number_ordered_apart_greetings :
    let found := number "src/App.vue" greetings
    found.map (fun o => (o.locationKey, o.ordinal)) = [("src/App.vue::template::line:2", 0),
      ("src/App.vue::template::line:2#2", 0), ("src/App.vue::template::line:3", 1)] ∧
    number "src/App.vue" greetings.reverse = found := by
  intro found
  have distinct : (greetings.map (·.span)).Nodup := by decide
  have sorted : greetings.mergeSort Candidate.before = greetings.tail ++ greetings.take 1 := by
    simp [greetings, List.mergeSort, Candidate.before, Span.before]
  refine ⟨?_, (number_ordered_apart "src/App.vue" greetings).2.2.2.2 _
    greetings.reverse_perm distinct⟩
  rw [show found = numberFrom "src/App.vue" [] _ from congrArg _ sorted]
  decide

end Phrasebook.Occurrence
