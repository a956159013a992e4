import HeaderEnum.Text.Split

/-!
# Help text

What the program prints about its flags.
-/

namespace HeaderEnum.CommandLine

/-- The help text, which ends with a line feed. -/
def helpText : String := Text.joinLines [
  "usage: cenumgen [-h] [--input INPUT] [--output OUTPUT] [--enum ENUM]",
  "                [--match MATCH] [--drop-prefix PREFIX] [--drop-suffix SUFFIX]",
  "                [--case-style STYLE] [--access LEVEL] [--import MODULE]",
  "                [--config CONFIG] [--expand] [--verbose]",
  "",
  "Generate a Swift enum from the #define constants of a C header",
  "",
  "options:",
  "  -h, --help            show this help message and exit",
  "  --input INPUT         C header to scan",
  "  --output OUTPUT       Swift file to write",
  "  --enum ENUM           Name of the generated enum",
  "  --match MATCH         Only include #define names that match this regex",
  "  --drop-prefix PREFIX  Drop this prefix from the C name (repeatable)",
  "  --drop-suffix SUFFIX  Drop this suffix from the C name (repeatable)",
  "  --case-style STYLE    lowerCamel (default), upperCamel, keep",
  "  --access LEVEL        public, internal, package, fileprivate, private",
  "  --import MODULE       Add an import to the generated file (repeatable)",
  "  --config CONFIG       Load settings from a JSON config file",
  "  --expand              Write the RawRepresentable extension instead of the",
  "                        macro markers",
  "  --verbose, -v         Enable debug logging",
  ""]

end HeaderEnum.CommandLine
