import Phrasebook.Proofs.Json.Reading
import Phrasebook.Proofs.Text.Table
import Phrasebook.Snapshot.Json

/-!
Snapshots and their files. Whatever an extraction found, the rewriting that follows reads back from
the file the snapshot that was written.
-/

namespace Phrasebook

namespace Decoder

/-- A list is read back if each item is. -/
theorem mapM_of_each {α β : Type} {read : α → Except DecodeError β} {write : β → α} {items : List β}
    (each : ∀ item ∈ items, read (write item) = .ok item) :
    (items.map write).mapM read = .ok items := by
  induction items with
  | nil => rfl
  | cons item items ih =>
    rw [List.map_cons, List.mapM_cons, each item List.mem_cons_self,
      ih fun other member => each other (List.mem_cons_of_mem _ member)]
    rfl

end Decoder

theorem Site.ofJson_toJson (site : Site) : Site.ofJson site.toJson = .ok site := by
  cases site <;> rfl

theorem Region.word_text (region : Region) :
    Decoder.word Region.words (.text region.text) = .ok region := by
  cases region <;> rfl

theorem OccurrenceKind.word_text (kind : OccurrenceKind) :
    Decoder.word OccurrenceKind.words (.text kind.toText) = .ok kind := by
  cases kind <;> rfl

theorem Span.ofJson_toJson (span : Span) : Span.ofJson span.toJson = .ok span := rfl

theorem Binding.ofJson_toJson (b : Binding) : Binding.ofJson b.toJson = .ok b := rfl

theorem Binding.list_listToJson (bindings : List Binding) :
    Decoder.list Binding.ofJson (Binding.listToJson bindings) = .ok bindings :=
  Decoder.mapM_of_each fun b _ => b.ofJson_toJson

theorem SnapshotMetadata.ofJson_toJson (m : SnapshotMetadata) :
    SnapshotMetadata.ofJson m.toJson = .ok m := rfl

namespace Occurrence

/-- What the decoder makes of an occurrence, in its fields that are more than a text or a number. -/
private def decoded (o : Occurrence) (captured : Except DecodeError (List Binding)) :
    Except DecodeError Occurrence := do
  let region ← Decoder.word Region.words (.text o.region.text)
  let site ← Site.ofJson o.site.toJson
  let kind ← Decoder.word OccurrenceKind.words (.text o.kind.toText)
  return { o with region, site, kind, captured := ← captured }

private theorem decoded_captured (o : Occurrence) : decoded o (.ok o.captured) = .ok o := by
  rw [decoded, Region.word_text, Site.ofJson_toJson, OccurrenceKind.word_text]
  rfl

theorem ofJson_toJson (o : Occurrence) : ofJson o.toJson = .ok o := by
  rw [← decoded_captured o]
  obtain ⟨locationKey, file, region, line, site, ordinal, span, kind, text, raw, captured⟩ := o
  -- The member for the expressions is left out if there are none.
  cases captured with
  | nil => rfl
  | cons b captured =>
    rw [← Binding.list_listToJson (b :: captured)]
    rfl

/-- That the positions of an occurrence have 64 bits. -/
structure Bounded (o : Occurrence) : Prop where
  line : Json.Fits o.line
  ordinal : Json.Fits o.ordinal
  start : Json.Fits o.span.start
  stop : Json.Fits o.span.stop

end Occurrence

theorem SnapshotEntry.ofJson_toJson (e : SnapshotEntry) :
    SnapshotEntry.ofJson e.toJson = .ok e := by
  obtain ⟨key, bindings, occurrence⟩ := e
  have simple (bindings : List Binding) : (do
      let bindings ← (.ok bindings : Except DecodeError (List Binding))
      return ⟨key, bindings, ← Occurrence.ofJson occurrence.toJson⟩) =
      (.ok ⟨key, bindings, occurrence⟩ : Except DecodeError SnapshotEntry) := by
    rw [occurrence.ofJson_toJson]
    rfl
  rw [← simple]
  cases bindings with
  | nil => rfl
  | cons b bindings =>
    rw [← Binding.list_listToJson (b :: bindings)]
    rfl

namespace Snapshot

/-- That the keys of the entries rise and all numbers have 64 bits. -/
structure Bounded (s : Snapshot) : Prop where
  rising : Text.Rising s.entries
  plainCount : Json.Fits s.metadata.plainCount
  interpolatedCount : Json.Fits s.metadata.interpolatedCount
  total : Json.Fits s.metadata.total
  skippedCount : Json.Fits s.metadata.skippedCount
  fileCount : Json.Fits s.metadata.fileCount
  each : ∀ entry ∈ s.entries, entry.2.occurrence.Bounded

theorem ofJson_toJson {s : Snapshot} (rising : Text.Rising s.entries) :
    ofJson s.toJson = .ok s := by
  obtain ⟨metadata, entries⟩ := s
  have each : (entries.map fun pair => (pair.1, pair.2.toJson)).mapM
      (fun pair => (SnapshotEntry.ofJson pair.2).map fun entry => (pair.1, entry)) = .ok entries :=
    Decoder.mapM_of_each fun pair _ => by
      rw [pair.2.ofJson_toJson]
      rfl
  have sorted : Text.sortedTable entries = entries := Text.foldl_insertSorted_append rising
  change (Text.sortedTable <$> (entries.map _).mapM _ >>= fun entries =>
    pure (Snapshot.mk metadata entries) : Except DecodeError Snapshot) = _
  rw [each]
  simp only [Functor.map, Except.map, sorted]
  rfl

end Snapshot

section Storable

open Json (Fits Storable)

variable (levels : Nat)

theorem Site.storable (site : Site) : Storable (levels + 1) site.toJson := by
  cases site <;> exact .object (by simp [Storable.text])

theorem Span.storable {span : Span} (start : Fits span.start) (stop : Fits span.stop) :
    Storable (levels + 1) span.toJson :=
  .object (by simp [Storable.natural start, Storable.natural stop])

theorem Binding.storable (b : Binding) : Storable (levels + 1) b.toJson :=
  .object (by simp [Storable.text])

theorem Binding.storable_member (name : String) (bindings : List Binding) :
    ∀ member ∈ Binding.member name bindings, Storable (levels + 2) member.2 := by
  intro member listed
  rw [Binding.member] at listed
  split at listed
  · contradiction
  · rw [List.mem_singleton.mp listed]
    refine .array fun item listed => ?_
    obtain ⟨b, -, rfl⟩ := List.mem_map.mp listed
    exact b.storable levels

theorem Occurrence.Bounded.storable {o : Occurrence} (bounded : o.Bounded) :
    Storable (levels + 3) o.toJson :=
  .object (List.forall_mem_append.mpr ⟨by
    simp [Storable.text, Storable.natural bounded.line, Storable.natural bounded.ordinal,
      o.site.storable (levels + 1), Span.storable (levels + 1) bounded.start bounded.stop],
    Binding.storable_member levels "captured" o.captured⟩)

theorem SnapshotEntry.storable {e : SnapshotEntry} (bounded : e.occurrence.Bounded) :
    Storable (levels + 4) e.toJson :=
  .object (List.forall_mem_append.mpr ⟨List.forall_mem_append.mpr ⟨by simp [Storable.text],
    Binding.storable_member (levels + 1) "bindings" e.bindings⟩, by simp [bounded.storable levels]⟩)

theorem Snapshot.Bounded.storable {s : Snapshot} (bounded : s.Bounded) :
    Storable (levels + 6) s.toJson := by
  have metadata : Storable (levels + 5) s.metadata.toJson := .object (by
    simp [Storable.text, Storable.natural bounded.plainCount,
      Storable.natural bounded.interpolatedCount,
      Storable.natural bounded.total, Storable.natural bounded.skippedCount,
      Storable.natural bounded.fileCount])
  have entries : Storable (levels + 5)
      (.object (s.entries.map fun pair => (pair.1, pair.2.toJson))) := by
    refine .object fun member listed => ?_
    obtain ⟨pair, held, rfl⟩ := List.mem_map.mp listed
    exact SnapshotEntry.storable levels (bounded.each pair held)
  exact .object (by simp [metadata, entries])

end Storable

namespace Snapshot

/-- A snapshot is read back from its file, whatever was found and however it reads. -/
theorem read_render_bounded {s : Snapshot} (bounded : s.Bounded) : read s.render = .ok s := by
  rw [read, render, Json.read_pretty (bounded.storable 121)]
  simp only [ofJson_toJson bounded.rising]

/-- A title with a captured expression, beside an entry under the empty key. -/
private def titled : Snapshot where
  metadata := ⟨"2024-01-01T00:00:00Z", 0, 2, 2, 0, 0xffffffffffffffff⟩
  entries := [
    ("", ⟨"", [], ⟨"", "", .file, 0, .literal, 0, ⟨9, 3⟩, .plain, "", "\u0000\"\\", []⟩⟩),
    ("a.vue::template::line:1",
      ⟨"common.hello", [⟨"name", "user.name"⟩], ⟨"a.vue::template::line:1",
      "a.vue", .template, 1, .attribute "title", 3, ⟨10, 0xffffffffffffffff⟩, .interpolated,
      "你好\n\x7bname\x7d", "你好\n$\x7buser.name\x7d", [⟨"name", "user.name"⟩, ⟨"val1", "\u2028"⟩]⟩⟩)]

theorem read_render_titled : titled.Bounded ∧ read titled.render = .ok titled := by
  have bounded : titled.Bounded := {
    rising := List.pairwise_pair.mpr (String.lt_iff_toList_lt.mpr (by decide))
    plainCount := by decide
    interpolatedCount := by decide
    total := by decide
    skippedCount := by decide
    fileCount := by decide
    each := by
      simp only [titled, List.mem_cons, List.not_mem_nil, or_false]
      rintro entry (rfl | rfl) <;> constructor <;> decide }
  exact ⟨bounded, read_render_bounded bounded⟩

end Snapshot
end Phrasebook
