import Phrasebook.Json.Decode
import Phrasebook.Occurrence.Basic

/-!
Occurrences as JSON.
-/

namespace Phrasebook

def Region.words : List (String × Region) :=
  [("template", .template), ("script", .script), ("file", .file)]

namespace Site

def toJson : Site → Json
  | text => .object [("type", .text "text")]
  | run => .object [("type", .text "run")]
  | ternaryBranch => .object [("type", .text "ternaryBranch")]
  | .attribute name => .object [("type", .text "attribute"), ("name", .text name)]
  | literal => .object [("type", .text "literal")]
  | templateLiteral => .object [("type", .text "templateLiteral")]

/-- A site other than an attribute. -/
private def simple? : String → Option Site
  | "text" => some text
  | "run" => some run
  | "ternaryBranch" => some ternaryBranch
  | "literal" => some literal
  | "templateLiteral" => some templateLiteral
  | _ => none

/-- Reads a site: its type, and for an attribute the name. -/
def ofJson : Decoder Site
  | .array (.text "attribute" :: rest) => do
    let record ← JsonRecord.read ["name"] (.array rest)
    return .attribute (← record.required "name" Decoder.text)
  | .array [.text type] =>
    match simple? type with
    | some site => .ok site
    | none => .error (.unknown type)
  | .object members => do
    match ← Decoder.member? members "type" with
    | none => throw (.missing "type")
    | some type =>
      let type ← Decoder.text type
      if type == "attribute" then
        let record ← JsonRecord.read ["name"] (.object (members.filter (·.1 != "type")))
        return .attribute (← record.required "name" Decoder.text)
      else match simple? type with
      | some site => return site
      | none => throw (.unknown type)
  | _ => .error (.wrongType "a site")

end Site

namespace OccurrenceKind

def toText : OccurrenceKind → String
  | plain => "Plain"
  | interpolated => "Interpolated"

def words : List (String × OccurrenceKind) := [("Plain", plain), ("Interpolated", interpolated)]

end OccurrenceKind

namespace Span

def toJson (span : Span) : Json :=
  .object [("start", .natural span.start), ("end", .natural span.stop)]

/-- Reads a span, which has no members but its two ends. -/
def ofJson : Decoder Span := fun json => do
  let record ← JsonRecord.read ["start", "end"] json
  if let .object members := json then
    if members.any fun (name, _) => name != "start" && name != "end" then throw (.unknown "field")
  return ⟨← record.required "start" Decoder.natural, ← record.required "end" Decoder.natural⟩

end Span

namespace Binding

def toJson (b : Binding) : Json :=
  .object [("label", .text b.label), ("expression", .text b.expression)]

def ofJson : Decoder Binding := fun json => do
  let record ← JsonRecord.read ["label", "expression"] json
  return ⟨← record.required "label" Decoder.text, ← record.required "expression" Decoder.text⟩

def listToJson (bindings : List Binding) : Json := .array (bindings.map toJson)

/-- A member for the bindings, which is left out if there are none. -/
def member (name : String) (bindings : List Binding) : List (String × Json) :=
  if bindings.isEmpty then [] else [(name, listToJson bindings)]

end Binding

namespace Occurrence

def toJson (o : Occurrence) : Json :=
  .object ([
    ("locationKey", .text o.locationKey),
    ("file", .text o.file),
    ("region", .text o.region.text),
    ("line", .natural o.line),
    ("site", o.site.toJson),
    ("ordinal", .natural o.ordinal),
    ("span", o.span.toJson),
    ("kind", .text o.kind.toText),
    ("text", .text o.text),
    ("rawText", .text o.raw)] ++ Binding.member "captured" o.captured)

private def fieldNames : List String := [
  "locationKey", "file", "region", "line", "site", "ordinal", "span", "kind", "text", "rawText",
  "captured"]

def ofJson : Decoder Occurrence := fun json => do
  let r ← JsonRecord.read fieldNames json
  return {
    locationKey := ← r.required "locationKey" Decoder.text
    file := ← r.required "file" Decoder.text
    region := ← r.required "region" (Decoder.word Region.words)
    line := ← r.required "line" Decoder.natural
    site := ← r.required "site" Site.ofJson
    ordinal := ← r.required "ordinal" Decoder.natural
    span := ← r.required "span" Span.ofJson
    kind := ← r.required "kind" (Decoder.word OccurrenceKind.words)
    text := ← r.required "text" Decoder.text
    raw := ← r.required "rawText" Decoder.text
    captured := ← r.withDefault "captured" (Decoder.list Binding.ofJson) [] }

end Occurrence

def SkipReason.toJsonText : SkipReason → String
  | comment => "comment"
  | diagnosticCall => "diagnosticCall"
  | moduleSpecifier => "moduleSpecifier"
  | routeMetadata => "routeMetadata"
  | complexInterpolation => "complexInterpolation"

def Skip.toJson (s : Skip) : Json :=
  .object [
    ("file", .text s.file), ("line", .natural s.line), ("text", .text s.text),
    ("reason", .text s.reason.toJsonText)]

end Phrasebook
