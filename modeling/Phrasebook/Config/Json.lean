import Phrasebook.Config.Basic
import Phrasebook.Json.Decode
import Phrasebook.Text.Table

/-!
The configuration as JSON. Reading takes the default for every field that is left out.
-/

namespace Phrasebook

def KeyStrategy.words : List (String × KeyStrategy) := [("semantic", semantic), ("hash", hash)]

def KeyStrategy.toText : KeyStrategy → String
  | semantic => "semantic"
  | hash => "hash"

namespace KeyPrefixRule

def toJson (rule : KeyPrefixRule) : Json :=
  .object [("pattern", .text rule.pattern), ("prefix", .text rule.name)]

def ofJson : Decoder KeyPrefixRule := fun json => do
  let record ← JsonRecord.read ["pattern", "prefix"] json
  return ⟨← record.required "pattern" Decoder.text, ← record.required "prefix" Decoder.text⟩

end KeyPrefixRule

namespace CallSpellings

def toJson (calls : CallSpellings) : Json :=
  .object [
    ("template", .text calls.template), ("component", .text calls.component),
    ("module", .text calls.module), ("moduleBinding", .text calls.moduleBinding)]

def ofJson : Decoder CallSpellings := fun json => do
  let record ← JsonRecord.read ["template", "component", "module", "moduleBinding"] json
  let default : CallSpellings := {}
  return {
    template := ← record.withDefault "template" Decoder.text default.template
    component := ← record.withDefault "component" Decoder.text default.component
    module := ← record.withDefault "module" Decoder.text default.module
    moduleBinding := ← record.withDefault "moduleBinding" Decoder.text default.moduleBinding }

end CallSpellings

namespace Config

def optionalText : Option String → Json
  | some value => .text value
  | none => .null

def toJson (c : Config) : Json :=
  .object [
    ("targetRoot", .text c.targetRoot),
    ("fileExtensions", .texts c.fileExtensions),
    ("excludeDirs", .texts c.excludeDirs),
    ("excludeFiles", .texts c.excludeFiles),
    ("outputDir", .text c.outputDir),
    ("defaultLocale", .text c.defaultLocale),
    ("keyMappings", .object (c.keyMappings.map fun (phrase, key) => (phrase, .text key))),
    ("keyPrefixes", .array (c.keyPrefixes.map KeyPrefixRule.toJson)),
    ("defaultKeyPrefix", .text c.defaultKeyPrefix),
    ("keyStrategy", .text c.keyStrategy.toText),
    ("generateSecondaryLocale", .boolean c.generateSecondaryLocale),
    ("secondaryLocale", .text c.secondaryLocale),
    ("importPath", optionalText c.importPath),
    ("translationModule", .text c.translationModule),
    ("backup", .boolean c.backup),
    ("backupDir", .text c.backupDir),
    ("preview", .boolean c.preview),
    ("checkedAttributes", .texts c.checkedAttributes),
    ("diagnosticObjects", .texts c.diagnosticObjects),
    ("routeConfigNames", .texts c.routeConfigNames),
    ("targetScript", .text c.targetScript),
    ("calls", c.calls.toJson)]

private def fieldNames : List String := [
  "targetRoot", "fileExtensions", "excludeDirs", "excludeFiles", "outputDir", "defaultLocale",
  "keyMappings", "keyPrefixes", "defaultKeyPrefix", "keyStrategy", "generateSecondaryLocale",
  "secondaryLocale", "importPath", "translationModule", "backup", "backupDir", "preview",
  "checkedAttributes", "diagnosticObjects", "routeConfigNames", "targetScript", "calls"]

private def mappings : Decoder (List (String × String))
  | .object members => do
    let pairs ← members.mapM fun (phrase, key) => return (phrase, ← Decoder.text key)
    return Text.sortedTable pairs
  | _ => .error (.wrongType "an object")

def ofJson : Decoder Config := fun json => do
  let r ← JsonRecord.read fieldNames json
  let d : Config := {}
  let text := Decoder.text
  let texts := Decoder.list Decoder.text
  return {
    targetRoot := ← r.withDefault "targetRoot" text d.targetRoot
    fileExtensions := ← r.withDefault "fileExtensions" texts d.fileExtensions
    excludeDirs := ← r.withDefault "excludeDirs" texts d.excludeDirs
    excludeFiles := ← r.withDefault "excludeFiles" texts d.excludeFiles
    outputDir := ← r.withDefault "outputDir" text d.outputDir
    defaultLocale := ← r.withDefault "defaultLocale" text d.defaultLocale
    keyMappings := ← r.withDefault "keyMappings" mappings d.keyMappings
    keyPrefixes := ← r.withDefault "keyPrefixes" (Decoder.list KeyPrefixRule.ofJson) d.keyPrefixes
    defaultKeyPrefix := ← r.withDefault "defaultKeyPrefix" text d.defaultKeyPrefix
    keyStrategy := ← r.withDefault "keyStrategy" (Decoder.word KeyStrategy.words) d.keyStrategy
    generateSecondaryLocale :=
      ← r.withDefault "generateSecondaryLocale" Decoder.boolean d.generateSecondaryLocale
    secondaryLocale := ← r.withDefault "secondaryLocale" text d.secondaryLocale
    importPath := ← r.withDefault "importPath" (Decoder.optional text) d.importPath
    translationModule := ← r.withDefault "translationModule" text d.translationModule
    backup := ← r.withDefault "backup" Decoder.boolean d.backup
    backupDir := ← r.withDefault "backupDir" text d.backupDir
    preview := ← r.withDefault "preview" Decoder.boolean d.preview
    checkedAttributes := ← r.withDefault "checkedAttributes" texts d.checkedAttributes
    diagnosticObjects := ← r.withDefault "diagnosticObjects" texts d.diagnosticObjects
    routeConfigNames := ← r.withDefault "routeConfigNames" texts d.routeConfigNames
    targetScript := ← r.withDefault "targetScript" text d.targetScript
    calls := ← r.withDefault "calls" CallSpellings.ofJson d.calls }

end Config
end Phrasebook
