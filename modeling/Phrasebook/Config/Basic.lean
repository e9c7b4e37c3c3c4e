import Phrasebook.Json.Value

/-!
The configuration of a project. Every field has a default.
-/

namespace Phrasebook

/-- How a key is found for a phrase that has none yet. -/
inductive KeyStrategy
  /-- The built-in dictionary goes first. -/
  | semantic
  | hash
deriving DecidableEq, Repr

/-- Files whose path fits the pattern put their keys under the name. -/
structure KeyPrefixRule where
  pattern : String
  name : String
deriving DecidableEq, Repr

/-- How a translation call is spelled in markup, in the script of a component and in a module, and
the name that a module imports for it. -/
structure CallSpellings where
  template : String := "$t"
  component : String := "this.$t"
  module : String := "i18n.t"
  moduleBinding : String := "i18n"
deriving DecidableEq, Repr

structure Config where
  targetRoot : String := "./"
  fileExtensions : List String := [".vue", ".js", ".ts"]
  excludeDirs : List String :=
    ["node_modules", "dist", ".git", "build", "public", "i18n", "locales", "lang", "output"]
  excludeFiles : List String := ["*.min.js", "*.test.js", "*.spec.js"]
  outputDir : String := "./output"
  defaultLocale : String := "zh-cn"
  /-- Keys given by hand, sorted by phrase, each phrase once. -/
  keyMappings : List (String × String) := [
    ("保存", "Common.save"), ("删除", "Common.delete"), ("取消", "Common.cancel"),
    ("提交", "Common.submit"), ("确认", "Common.confirm"), ("编辑", "Common.edit")]
  keyPrefixes : List KeyPrefixRule := []
  defaultKeyPrefix : String := "Common"
  keyStrategy : KeyStrategy := .semantic
  generateSecondaryLocale : Bool := false
  secondaryLocale : String := "en-us"
  importPath : Option String := some "@/lang"
  translationModule : String := "src/lang/index.js"
  backup : Bool := true
  backupDir : String := "./backup"
  preview : Bool := false
  checkedAttributes : List String := ["placeholder", "title", "label", "alt", "value"]
  diagnosticObjects : List String := ["console"]
  routeConfigNames : List String := ["routes", "router", "routerConfig"]
  targetScript : String := "Han"
  calls : CallSpellings := {}
deriving DecidableEq, Repr

end Phrasebook
