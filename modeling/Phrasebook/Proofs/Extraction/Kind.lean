import Phrasebook.Proofs.Extraction.Phrase

/-!
Plain and interpolated occurrences. A literal of a script is interpolated exactly if something is
captured in it. So is a text of the markup, except where its double braces are all closed before any
are opened.
-/

namespace Phrasebook

/-- A text of the markup that has double braces but no expression between them. -/
def Occurrence.Unpaired (o : Occurrence) : Prop := o.site = .text ∧ Markup.BracesApart o.raw.toList

namespace Extraction

variable {settings : Settings} {file : String} {kind : FileKind} {content : List Char}

/-- An occurrence whose kind tells whether something is captured in it, unless its braces are
unpaired: then it is interpolated although nothing is. -/
def KindTold (o : Occurrence) : Prop :=
  (¬ o.Unpaired → (o.kind = .interpolated ↔ o.captured ≠ [])) ∧
    (o.Unpaired → o.kind = .interpolated ∧ o.captured = [])

theorem kindTold_of_yields {source : List Char} {placement : Placement} {script : Script.Document}
    {place : LiteralFinding.Place} {c : Candidate}
    (yields : ScriptScan.Yields settings source placement file script place { candidates := [c] })
    (before : List Candidate) : KindTold (Occurrence.ofCandidate file before c) := by
  cases yields with
  | candidate c expressions reasoned region line site span raw sources captured kind text =>
    have literal : c.site ≠ .text := by
      rw [site]
      unfold LiteralFinding.siteOf
      split <;> exact Site.noConfusion
    refine ⟨fun _ => ?_, fun unpaired => absurd unpaired.1 literal⟩
    change c.kind = .interpolated ↔ c.captured ≠ []
    rw [kind]
    cases c.captured <;> simp

theorem KindTold.of_plain {o : Occurrence} (kind : o.kind = .plain) (captured : o.captured = [])
    (paired : ¬ o.Unpaired) : KindTold o := by
  refine ⟨fun _ => ?_, fun unpaired => absurd unpaired paired⟩
  rw [kind, captured]
  exact iff_of_false OccurrenceKind.noConfusion fun some => some rfl

theorem kindTold_of_markup {block : Block} {c : Candidate}
    (found : c ∈ (TemplateScan.ofBlock settings block file).candidates) (before : List Candidate) :
    KindTold (Occurrence.ofCandidate file before c) := by
  rcases TemplateScan.kind_of_mem_ofBlock found with fragment | verbatim | captures
  · exact .of_plain fragment.kind fragment.captured fun unpaired => fragment.site unpaired.1
  · exact .of_plain verbatim.kind verbatim.captured fun unpaired => verbatim.unbraced unpaired.2.1
  · have unpaired : (Occurrence.ofCandidate file before c).Unpaired ↔ c.captured = [] := by
      rw [captures.captured, Binding.bind_eq_nil_iff, List.map_eq_nil_iff]
      exact ⟨fun unpaired => (Markup.bracesApart_iff.mp unpaired.2).2, fun none =>
        ⟨captures.site, Markup.bracesApart_iff.mpr ⟨captures.braced, none⟩⟩⟩
    rw [KindTold, unpaired]
    exact ⟨fun some => iff_of_true captures.kind some, fun none => ⟨captures.kind, none⟩⟩

/-- The main statement about kinds. An occurrence of a file is interpolated exactly if something is
captured in it; the exception is a text of the markup whose double braces are all closed before any
are opened, which counts as interpolated with nothing captured. -/
theorem interpolated_iff_captured {content : String} {extraction : Extraction}
    (extracted : ofFile settings file kind content = .ok extraction) {o : Occurrence}
    (member : o ∈ extraction.occurrences) :
    (¬ o.Unpaired → (o.kind = .interpolated ↔ o.captured ≠ [])) ∧
      (o.Unpaired → o.kind = .interpolated ∧ o.captured = []) := by
  obtain ⟨scan, scanned, made⟩ := ok_of_bind extracted
  obtain rfl := Except.ok.inj made
  obtain ⟨c, candidate, before, rfl⟩ := Occurrence.mem_number member
  rcases yields_or_markup scanned candidate with
    ⟨part, found, script, read, place, listed, placement, offset, yields⟩ | ⟨block, marked⟩
  · exact kindTold_of_yields yields before
  · exact kindTold_of_markup marked before

/-- A text with braces turned round counts as interpolated. -/
theorem braces_turned_round :
    ∃ extraction, ofFile (Settings.ofConfig {}) "App.vue" .component
        "<template><p>\x7d\x7d 你好 \x7b\x7b</p></template>" = .ok extraction ∧
      extraction.occurrences.map (fun o => (o.kind, o.captured)) = [(.interpolated, [])] :=
  ok_of_map_toOption (by decide +kernel)

/-- A greeting with a name in it is interpolated, and the name is captured. -/
theorem interpolated_iff_captured_greeting :
    ∃ extraction, ofFile (Settings.ofConfig {}) "App.vue" .component
        "<template><p>你好\x7b\x7b name \x7d\x7d</p></template>" = .ok extraction ∧
      extraction.occurrences.length = 1 ∧ ∀ o ∈ extraction.occurrences,
        ¬ o.Unpaired ∧ (o.kind = .interpolated ↔ o.captured ≠ []) ∧ o.captured =
          [⟨"name", "name"⟩] := by
  let greeting : Occurrence :=
    ⟨"App.vue::template::line:1", "App.vue", .template, 1, .text, 0, ⟨13, 29⟩,
    .interpolated, "你好\x7bname\x7d", "你好\x7b\x7b name \x7d\x7d", [⟨"name", "name"⟩]⟩
  obtain ⟨extraction, extracted, only⟩ :
    ∃ extraction, ofFile (Settings.ofConfig {}) "App.vue" .component
      "<template><p>你好\x7b\x7b name \x7d\x7d</p></template>" = .ok extraction ∧
      extraction.occurrences = [greeting] := ok_of_map_toOption (by decide +kernel)
  refine ⟨extraction, extracted, by rw [only]; rfl, fun o member => ?_⟩
  have told := interpolated_iff_captured extracted member
  rw [only] at member
  obtain rfl := List.mem_singleton.mp member
  have paired : ¬ greeting.Unpaired := by
    rw [Occurrence.Unpaired, Markup.bracesApart_iff, ← Markup.braced_iff]
    decide +kernel
  exact ⟨paired, told.1 paired, rfl⟩

end Extraction

end Phrasebook
