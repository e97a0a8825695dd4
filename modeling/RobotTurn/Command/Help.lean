/-! The pages of help that a command line can ask for. -/
namespace RobotTurn.Command

/-- What a page of help is about. -/
inductive Topic where
  | everything
  | sandbox
  | process
  | help
  deriving DecidableEq, Repr

/-- A page of help: sections of labels, each with what it stands for. -/
structure Page where
  about : Option String := none
  usage : String
  sections : List (String × List (String × String))

namespace Page

/-- A label filled up with spaces. -/
def padded (label : String) (width : Nat) : String :=
  label ++ String.ofList (List.replicate (width - label.length) ' ')

/-- The entries of a section. Their texts stand below each other, two columns behind the
widest label. -/
def entries (es : List (String × String)) : List String :=
  let width := (es.map (·.1.length)).foldl max 0
  es.map fun (label, text) => "  " ++ padded label width ++ "  " ++ text

def lines (p : Page) : List String :=
  (p.about.toList.flatMap fun a => [a, ""]) ++ [s!"Usage: {p.usage}"] ++
    p.sections.flatMap fun (title, es) => ["", title ++ ":"] ++ entries es

def text (p : Page) : String :=
  String.join (p.lines.map (· ++ "\n"))

end Page

def helpOption : String × String := ("-h, --help", "Print help")

def statesArgument : String × String :=
  ("<STATES>", "Turn states, one JSON document per line")

def sandboxAbout : String := "Run a wasm robot in the sandbox"
def processAbout : String := "Run a robot program speaking the line protocol"
def helpAbout : String := "Print this message or the help of the given subcommand(s)"

def Topic.page : Topic → Page
  | everything => {
      usage := "rumble <COMMAND>"
      sections := [
        ("Commands", [("wasm", sandboxAbout), ("process", processAbout), ("help", helpAbout)]),
        ("Options", [helpOption, ("-V, --version", "Print version")])] }
  | sandbox => {
      about := sandboxAbout
      usage := "rumble wasm [OPTIONS] <GUEST> <STATES>"
      sections := [
        ("Arguments", [("<GUEST>", "Guest module (.wasm or .wat)"), statesArgument]),
        ("Options", [
          ("    --payload <PAYLOAD>", "File whose contents are passed to the robot's init"),
          ("    --cache <CACHE>", "Directory for precompiled modules"),
          ("    --max-memory <MAX_MEMORY>", "Linear memory limit in bytes"),
          ("    --turn-timeout <TURN_TIMEOUT>",
            "Abandon the game when a turn runs longer than this (milliseconds)"),
          helpOption])] }
  | process => {
      about := processAbout
      usage := "rumble process <STATES> -- <COMMAND>..."
      sections := [
        ("Arguments", [statesArgument, ("<COMMAND>...", "Program and its arguments")]),
        ("Options", [helpOption])] }
  | help => {
      about := helpAbout
      usage := "rumble help [COMMAND]..."
      sections := [("Arguments", [("[COMMAND]...", "Print help for the subcommand(s)")])] }

/-- The answer to a question for the version. -/
def version : String := "rumble 0.1.0\n"

end RobotTurn.Command
