import Phrasebook.Config.Check
import Phrasebook.Occurrence.Basic
import Phrasebook.Text.Case
import Phrasebook.WritingSystem.Basic

/-!
What a search for embedded text needs to know, and what it finds.
-/

namespace Phrasebook

structure Settings where
  writing : WritingSystem
  /-- Attributes of tags that are searched. -/
  attributes : List String
  diagnosticObjects : List String
  /-- Names of route configurations, in lower case. -/
  routeNames : List String

namespace Settings

def ofConfig (config : Config) : Settings where
  writing := config.writingSystem
  attributes := config.checkedAttributes
  diagnosticObjects := config.diagnosticObjects
  routeNames := config.routeConfigNames.map Text.lowercase

def isRouteName (settings : Settings) (name : String) : Bool :=
  settings.routeNames.contains (Text.lowercase name)

def isDiagnostic (settings : Settings) (name : String) : Bool :=
  settings.diagnosticObjects.contains name

end Settings

/-- What one region holds: candidates, and text that is left alone. -/
structure RegionScan where
  candidates : List Candidate := []
  skips : List Skip := []

def RegionScan.append (a b : RegionScan) : RegionScan :=
  ⟨a.candidates ++ b.candidates, a.skips ++ b.skips⟩

end Phrasebook
