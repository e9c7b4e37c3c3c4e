import Phrasebook.Text.Case

/-!
The script that loads the modules of all locales.
-/

namespace Phrasebook.Locale

/-- The file of a module. -/
def moduleFileName (name : String) : String := Text.decapitalize name ++ ".js"

def bootstrapLines (locale : String) : List String := [
  "import Vue from 'vue';",
  "import VueI18n from 'vue-i18n';",
  "",
  "Vue.use(VueI18n);",
  "",
  "const context = require.context('./', true, /^\\.\\/[^/]+\\/[^/]+\\.js$/);",
  "",
  "const messages = \x7b\x7d;",
  "context.keys().forEach(key => \x7b",
  "  const [, locale, file] = key.match(/^\\.\\/([^/]+)\\/([^/]+)\\.js$/);",
  "  const moduleName = file.charAt(0).toUpperCase() + file.slice(1);",
  "  messages[locale] = messages[locale] || \x7b\x7d;",
  "  messages[locale][moduleName] = context(key).default;",
  "\x7d);",
  "",
  "const i18n = new VueI18n(\x7b",
  "  locale: '" ++ locale ++ "',",
  "  fallbackLocale: '" ++ locale ++ "',",
  "  messages,",
  "\x7d);",
  "",
  "export default i18n;"]

def bootstrap (defaultLocale : String) : String :=
  String.join ((bootstrapLines (Text.lowercase defaultLocale)).map (· ++ "\n"))

end Phrasebook.Locale
