import ReportIndex.Command.Arguments

/-!
Contract: what the program tells a user about its command line.

Owns:
- the help text;
- the words for every notice.

Does not own: the rules that a command line breaks.
-/

namespace ReportIndex.Command

def helpText : String :=
  "\n".intercalate
    [ "Usage: reports-gen [OPTIONS] <COMMAND>",
      "",
      "Commands:",
      "  render  Write the index page, or a page for each version",
      "          --catalog <FILE> [--out <PATH>] [--doc-version <VERSION>] [--theme <THEME>]",
      "          [--asset-base <URL>] [--strategy <ENCODING>] [--param <NAME>]",
      "          [--title <TITLE>] [--fragment]",
      "  check   Look for the illustrations of every card",
      "          --catalog <FILE> --assets <DIRECTORY>",
      "  list    Print the cards",
      "          --catalog <FILE> [--doc-version <VERSION>] [--json]",
      "  help    Print this text",
      "",
      "Options:",
      "      --log-level <FILTER>  Which events are shown [default: info]",
      "      --config <FILE>       The settings [default: reports.toml]",
      "  -h, --help                Print this text",
      "  -V, --version             Print the version",
      "" ]

def UsageNotice.message : UsageNotice → String
  | .helpRequested => "help is asked for"
  | .versionRequested => "the version is asked for"
  | .nothingAsked => "no command is given"
  | .missingCommand => "no command follows the options"
  | .unknownCommand => "there is no such command"
  | .missingArgument => "an option that the command needs is missing"
  | .unknownArgument => "there is no such option or argument"
  | .missingValue => "an option has no value"
  | .unacceptedValue => "an option does not accept its value"
  | .repeatedOption => "an option is given more than once"
  | .unexpectedValue => "an option that takes no value has one"

end ReportIndex.Command
