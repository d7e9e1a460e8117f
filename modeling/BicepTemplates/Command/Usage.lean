import BicepTemplates.Command.Arguments

/-! # Help texts -/

namespace BicepTemplates

namespace Setting

def placeholder : Setting → String
  | directory => "<DIRECTORY>"
  | inputFile => "<INPUT_FILE>"
  | outputFile => "<OUTPUT_FILE>"
  | outputFormat => "<FORMAT>"

def help : Setting → String
  | directory => "Change the work directory"
  | inputFile => "Load the manifest from a file"
  | outputFile => "Write the template to a file instead of stdout"
  | outputFormat => "The format of the listing: json or yaml"

def usageLine (s : Setting) : String :=
  s!"  -{s.letter}, --{s.name} {s.placeholder}\n          {s.help}"

end Setting

namespace Topic

def usage : Topic → String
  | program => "Usage: bicepgen [OPTIONS] <COMMAND>"
  | render => "Usage: bicepgen render [OPTIONS]"
  | identifier => "Usage: bicepgen identifier [OPTIONS] <SEEDS>..."

def summary : Topic → String
  | program => "deterministic bicep template synthesis"
  | render => "Render a manifest as bicep"
  | identifier => "Print the identifiers generated for seeds"

def commandLines : Topic → List String
  | program => ["", "Commands:", s!"  render      {render.summary}",
      s!"  identifier  {identifier.summary}", "  help        Print the help of a command"]
  | _ => []

def inquiryLines : Topic → List String
  | program => ["  -h, --help\n          Print help", "  -V, --version\n          Print version"]
  | _ => ["  -h, --help\n          Print help"]

def help (t : Topic) : String :=
  "\n".intercalate ([t.summary, "", t.usage] ++ t.commandLines ++ ["", "Options:"] ++
    t.settings.map Setting.usageLine ++ t.inquiryLines) ++ "\n"

end Topic

end BicepTemplates
