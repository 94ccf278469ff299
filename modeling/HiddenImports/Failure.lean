import HiddenImports.Disk
import HiddenImports.Fault

/-!
# What can go wrong around the rules
-/

namespace HiddenImports

/-- Why a plugin, a table or an answer cannot be had. -/
inductive Failure where
  /-- A file of rules cannot be read. -/
  | unreadable (path : String) (cause : ReadError)
  /-- A file of rules holds no table. -/
  | undecodable (path : String) (cause : Fault)
  /-- The table of a layer does not pass the check by itself. -/
  | badLayer (path : String) (cause : Fault)
  /-- The rules as a whole are defective. -/
  | badRules (cause : Fault)
  /-- The shared plugin was asked for before there was one. -/
  | notInitialized
  /-- The shared plugin cannot be made from a configuration. -/
  | notCreated (cause : Failure)
  /-- The shared plugin cannot be made from a table. -/
  | notCreatedFromTable (cause : Failure)
  /-- Something receives the log records already. -/
  | logTaken
  /-- A file other than one of rules cannot be read. -/
  | io (cause : ReadError)
  deriving DecidableEq, Repr

def Failure.message : Failure → String
  | .unreadable path cause => s!"规则加载失败：本地路径[{path}]读取失败: {cause.message}"
  | .undecodable path cause => s!"规则加载失败：本地路径[{path}]解析失败: {cause.message}"
  | .badLayer path cause => s!"规则加载失败：{path}: {cause.message}"
  | .badRules cause => s!"规则处理失败：{cause.message}"
  | .notInitialized => "插件未初始化: call init_global_plugin before global_plugin"
  | .notCreated cause =>
    s!"插件初始化失败: Failed to create ImplicitImportsPlugin instance: {cause.message}"
  | .notCreatedFromTable cause =>
    s!"插件初始化失败: Failed to create ImplicitImportsPlugin with custom rules: {cause.message}"
  | .logTaken => "插件初始化失败: LogTracer install failed: "
    ++ "attempted to set a logger after the logging system was already initialized"
  | .io cause => s!"IO操作失败：{cause.message}"

end HiddenImports
