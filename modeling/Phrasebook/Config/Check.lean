import Phrasebook.Config.Basic
import Phrasebook.Project.Glob
import Phrasebook.WritingSystem.Lookup

/-!
Conditions that a configuration must meet: patterns that can be read, names for keys that are not
empty, and a writing system that exists.
-/

namespace Phrasebook.Config

inductive Problem
  | excludePattern (pattern : String) (error : Glob.Error)
  | keyPattern (pattern : String) (error : Glob.Error)
  | emptyKeyName (pattern : String)
  | unknownWritingSystem (name : String)
  | emptyDefaultKeyName
deriving DecidableEq, Repr

def Problem.message : Problem → String
  | excludePattern pattern error =>
    s!"Invalid glob pattern in 'excludeFiles': \"{pattern}\": {error.message}"
  | keyPattern pattern error =>
    s!"Invalid glob pattern in 'keyPrefixes': \"{pattern}\": {error.message}"
  | emptyKeyName pattern => s!"Empty prefix in 'keyPrefixes' for pattern \"{pattern}\""
  | unknownWritingSystem name => s!"Unknown script in 'targetScript': \"{name}\""
  | emptyDefaultKeyName => "'defaultKeyPrefix' must not be empty"

/-- Whether a name for keys consists of dots alone. -/
def isEmptyKeyName (name : String) : Bool := name.toList.all (· == '.')

/-- Whether a rule's pattern is a glob and not a part of a path. -/
def hasWildcard (pattern : String) : Bool := pattern.toList.any fun c => c == '*' || c == '?'

def checkExclude (pattern : String) : Except Problem Unit :=
  match Glob.read pattern with
  | .ok _ => .ok ()
  | .error error => .error (.excludePattern pattern error)

def checkRule (rule : KeyPrefixRule) : Except Problem Unit := do
  if hasWildcard rule.pattern then
    match Glob.read rule.pattern with
    | .ok _ => pure ()
    | .error error => throw (.keyPattern rule.pattern error)
  if isEmptyKeyName rule.name then throw (.emptyKeyName rule.pattern)

/-- The first condition that a configuration fails to meet. -/
def check (c : Config) : Except Problem Unit := do
  c.excludeFiles.forM checkExclude
  c.keyPrefixes.forM checkRule
  if (WritingSystem.ofName? c.targetScript).isNone then throw (.unknownWritingSystem c.targetScript)
  if isEmptyKeyName c.defaultKeyPrefix then throw .emptyDefaultKeyName

/-- The writing system to look for; Han characters if the name is unknown. -/
def writingSystem (c : Config) : WritingSystem := (WritingSystem.ofName? c.targetScript).getD .han

end Phrasebook.Config
