import Phrasebook.Component.Split
import Phrasebook.Extraction.Script
import Phrasebook.Extraction.Template
import Phrasebook.Occurrence.Number
import Phrasebook.Project.Path

/-!
Extraction of one file: the embedded text of a component or of a script.
-/

namespace Phrasebook

inductive FileKind
  | component
  | script (dialect : Script.Dialect)
deriving DecidableEq, Repr

/-- The kind that the extension of a path implies. -/
def FileKind.ofPath? (path : Path) : Option FileKind := do
  let extension ← path.extension?
  if extension == "vue" then return .component
  else return .script (← Script.Dialect.ofExtension? extension)

/-- What a file holds. -/
structure Extraction where
  occurrences : List Occurrence := []
  skips : List Skip := []

namespace Extraction

def scriptScan (settings : Settings) (file : String) (block : ScriptBlock) :
    Except ExtractionError RegionScan :=
  ScriptScan.ofSource settings block.dialect block.block.content
    ⟨.script, block.block.offset, block.block.startLine⟩ file

def templateScan (settings : Settings) (file : String) (block : Block) :
    Except ExtractionError RegionScan :=
  if TemplateScan.cutsCharacter settings block then .error .misaligned
  else .ok (TemplateScan.ofBlock settings block file)

/-- The scan of all regions of a file. The script of a component comes before its markup. -/
def scanFile (settings : Settings) (file : String) (kind : FileKind) (content : List Char) :
    Except ExtractionError RegionScan :=
  match kind with
  | .script dialect => ScriptScan.ofSource settings dialect content .wholeFile file
  | .component => do
    let component := Component.split content
    let script ← match component.script with
      | some block => scriptScan settings file block
      | none => pure {}
    let template ← match component.template with
      | some block => templateScan settings file block
      | none => pure {}
    return script.append template

/-- The occurrences of a file in source order, and the text that was left alone. -/
def ofFile (settings : Settings) (file : String) (kind : FileKind) (content : String) :
    Except ExtractionError Extraction := do
  let scan ← scanFile settings file kind content.toList
  return ⟨Occurrence.number file scan.candidates, scan.skips⟩

end Extraction
end Phrasebook
