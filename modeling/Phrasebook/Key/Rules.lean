import Phrasebook.Config.Basic
import Phrasebook.Project.Glob
import Phrasebook.Text.Case
import Phrasebook.Text.Hash
import Phrasebook.Text.Search
import Phrasebook.Text.Space

/-!
The rules that a configuration gives for keys, and short phrases with a customary English name.
-/

namespace Phrasebook.Key

def dictionary : List (String × String) := [
  ("提交", "submit"), ("取消", "cancel"), ("确认", "confirm"), ("确定", "confirm"),
  ("删除", "delete"), ("编辑", "edit"), ("保存", "save"), ("添加", "add"), ("新增", "add"),
  ("搜索", "search"), ("查询", "query"), ("重置", "reset"), ("返回", "back"), ("首页", "home"),
  ("用户", "user"), ("管理", "management"), ("设置", "settings"), ("登录", "login"),
  ("退出", "logout"), ("注册", "register"), ("导出", "export"), ("导入", "import"),
  ("上传", "upload"), ("下载", "download"), ("操作", "action"), ("状态", "status"),
  ("正常", "normal"), ("禁用", "disabled"), ("启用", "enabled"), ("成功", "success"),
  ("失败", "failed"), ("警告", "warning"), ("错误", "error"), ("提示", "tips")]

/-- Files by the pattern of their path, or by a part of it in any case of letters. -/
inductive FileMatch
  | glob (pattern : Glob)
  | part (lowercased : String)
deriving DecidableEq, Repr

namespace FileMatch

def accepts (file : String) : FileMatch → Bool
  | glob pattern => pattern.accepts file
  | part lowercased => Text.contains lowercased.toList (Text.lowercase file).toList

/-- A text without wildcards is a part of a path. A pattern that cannot be read matches nothing. -/
def read? (pattern : String) : Option FileMatch :=
  if pattern.toList.any fun c => c == '*' || c == '?' then
    (Glob.read pattern).toOption.map glob
  else some (part (Text.lowercase pattern))

end FileMatch

structure Rules where
  /-- Keys given by hand, by phrase. -/
  overrides : List (String × String)
  strategy : KeyStrategy
  modules : List (FileMatch × String)
  defaultModule : String
deriving DecidableEq, Repr

/-- The name of a module, which has no dots at its end. -/
def moduleName (name : String) : String :=
  let body := (Text.trim name.toList).reverse.dropWhile (· == '.')
  Text.capitalize (String.ofList body.reverse)

/-- A key given by hand, its module capitalized like all others. -/
def givenKey (key : String) : String :=
  let body := Text.trim key.toList
  match Text.splitAtFirst? ['.'] body with
  | some (name, rest) => Text.capitalize (String.ofList name) ++ "." ++ String.ofList rest
  | none => String.ofList body

namespace Rules

def ofConfig (config : Config) : Rules where
  overrides := config.keyMappings.map fun (phrase, key) => (phrase, givenKey key)
  strategy := config.keyStrategy
  modules := config.keyPrefixes.filterMap fun rule =>
    (FileMatch.read? rule.pattern).map fun files => (files, moduleName rule.name)
  defaultModule := moduleName config.defaultKeyPrefix

/-- The module of a file's phrases: that of the first rule for the file. -/
def moduleOf (rules : Rules) (file : String) : String :=
  ((rules.modules.find? fun (files, _) => files.accepts file).map (·.2)).getD rules.defaultModule

/-- The name that a phrase suggests for itself. -/
def suggest (strategy : KeyStrategy) (phrase : String) : String :=
  match strategy, dictionary.lookup phrase with
  | .semantic, some word => word
  | _, _ => "text" ++ Text.hash phrase

end Rules

end Phrasebook.Key
