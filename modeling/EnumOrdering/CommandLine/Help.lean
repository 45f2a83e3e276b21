import EnumOrdering.CommandLine.Arguments

/-!
# Help

The texts that explain the command line, one for the program and one for each of
its commands.
-/

namespace EnumOrdering.CommandLine

/-- What the program is for. -/
def about : String := "Hot-reloadable enumeration ordering for document ranking"

/-- What each command does. -/
def Level.about : Level → String
  | .program => CommandLine.about
  | .serve => "启动 HTTP 打分服务（默认）"
  | .check => "加载一次数据源并打印报告"
  | .eval => "对若干字段值求值"

/-- What each topic is about. -/
def Topic.about : Topic → String
  | .level l => l.about
  | .help => "Print this message or the help of the given subcommand(s)"

/-- How the arguments of a level are written. -/
def Level.usage : Level → String
  | .program => "enum-rank [OPTIONS] [COMMAND]"
  | .serve => "enum-rank serve [OPTIONS]"
  | .check => "enum-rank check [OPTIONS]"
  | .eval => "enum-rank eval [OPTIONS] <FIELD> [VALUES]..."

/-- The lines on the options that every level has. -/
def sharedOptions : List String :=
  ["  -c, --config <CONFIG>  配置文件路径（默认 ~/.config/enum-rank/config.toml）",
    "  -h, --help             Print help"]

/-- The lines on what a level takes besides them. -/
def Level.details : Level → List String
  | .program =>
    ["Commands:", "  serve  " ++ Level.serve.about, "  check  " ++ Level.check.about,
      "  eval   " ++ Level.eval.about,
      "  help   " ++ Topic.help.about, "", "Options:"]
  | .serve => ["Options:", "      --bind <BIND>      覆盖配置中的监听地址"]
  | .check => ["Options:"]
  | .eval =>
    ["Arguments:", "  <FIELD>      ", "  [VALUES]...  ", "", "Options:",
      "      --op <OP>          0 = EVALUATE, 1 = RELOAD_THEN_EVALUATE, 2 = RELOAD_ONLY "
        ++ "[default: 0]"]

/-- The help on a level. -/
def Level.help (level : Level) : String :=
  "\n".intercalate
    ([level.about, "", "Usage: " ++ level.usage, ""] ++ level.details ++ sharedOptions) ++ "\n"

/-- The help on the command that gives help. -/
def helpOnHelp : String :=
  "\n".intercalate
    [Topic.help.about, "", "Usage: enum-rank help [COMMAND]...", "", "Arguments:",
      "  [COMMAND]...  Print help for the subcommand(s)"] ++ "\n"

/-- The help on a topic. -/
def Topic.text : Topic → String
  | .level l => l.help
  | .help => helpOnHelp

end EnumOrdering.CommandLine
