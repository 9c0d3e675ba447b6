/-! The help text of the command line. -/

namespace GuardedText.Tool

def helpText : String :=
  String.join [
    "\n",
    "Usage: preprocess [file] [options]\n",
    "\n",
    "Reads <file> (or stdin when omitted) and writes the text selected by the\n",
    "defined symbols.\n",
    "\n",
    "Options:\n",
    "  -D, --define <symbol>   Activate a symbol (repeatable)\n",
    "  --prefix <prefix>       Directive prefix (default: $PPD_DIRECTIVE_PREFIX or \"#\")\n",
    "  -o, --output <file>     Write the result to a file instead of stdout\n",
    "  --list-symbols          Print the symbols referenced by guards, one per line\n",
    "  --json                  Output as JSON (includes metadata)\n",
    "  --no-color              Disable ANSI colors in error messages\n",
    "  -h, --help              Show this help message\n",
    "\n",
    "Exit codes:\n",
    "  0 - Success\n",
    "  1 - Error (unreadable input, syntax error, invalid configuration)\n"]

end GuardedText.Tool
