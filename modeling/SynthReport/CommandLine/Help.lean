import SynthReport.Text.Lines

/-! # Help texts

The lines that are shown when help or the version is asked for. -/

namespace SynthReport

/-- **The full help**, with a paragraph for each option. -/
def fullHelp : String := textOfLines [
  "Summarize Enumo nightly experiment records as comparison tables",
  "",
  "Usage: enumo-report [OPTIONS]",
  "",
  "Options:",
  "  -i, --input <PATH>",
  "          JSON file holding the array of experiment records",
  "          ",
  "          [default: nightly/data/output.json]",
  "",
  "  -r, --report <REPORT>",
  "          Report to generate",
  "",
  "          Possible values:",
  "          - baseline: Enumo rulesets against a named baseline",
  "          - variant:  Direct generation against rules ported from BV4",
  "          ",
  "          [default: baseline]",
  "",
  "  -b, --baseline <NAME>",
  "          Only include records whose baseline name contains this text (case-sensitive)",
  "          ",
  "          [default: oopsla]",
  "",
  "      --output-markdown <PATH>",
  "          Also write the report as a Markdown table",
  "",
  "      --output-json <PATH>",
  "          Also write the report as JSON",
  "",
  "      --console-width <COLUMNS>",
  "          Override console width (default: auto-detect)",
  "",
  "  -q, --quiet",
  "          Don't print the table, only the summary Useful together with --output-markdown / --output-json",
  "",
  "  -h, --help",
  "          Print help (see a summary with '-h')",
  "",
  "  -V, --version",
  "          Print version"]

/-- **The summary of the help**, with a line for each option. -/
def helpSummary : String := textOfLines [
  "Summarize Enumo nightly experiment records as comparison tables",
  "",
  "Usage: enumo-report [OPTIONS]",
  "",
  "Options:",
  "  -i, --input <PATH>             JSON file holding the array of experiment records [default: nightly/data/output.json]",
  "  -r, --report <REPORT>          Report to generate [default: baseline] [possible values: baseline, variant]",
  "  -b, --baseline <NAME>          Only include records whose baseline name contains this text (case-sensitive) [default: oopsla]",
  "      --output-markdown <PATH>   Also write the report as a Markdown table",
  "      --output-json <PATH>       Also write the report as JSON",
  "      --console-width <COLUMNS>  Override console width (default: auto-detect)",
  "  -q, --quiet                    Don't print the table, only the summary Useful together with --output-markdown / --output-json",
  "  -h, --help                     Print help (see more with '--help')",
  "  -V, --version                  Print version"]

/-- The help text, in full or as a summary. -/
def helpText (full : Bool) : String := if full then fullHelp else helpSummary

/-- **The name and version of the program.** -/
def versionText : String := "enumo-report 0.1.0\n"

end SynthReport
