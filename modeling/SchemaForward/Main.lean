import SchemaForward.CommandLine.Run
import SchemaForward.Json.Printer

/-!
# The program

Reads the files that an invocation names, runs it on them, and writes back what has changed. A
database file holds the record of its catalogue as text. A run that asks is made twice: without an
answer, which tells what to ask, and then with it.
-/

namespace SchemaForward.CommandLine

/-- How the program is called. -/
def usage : String :=
  "Forward-engineer schema models into dialect-specific DDL\n\n" ++
  "Usage: oxide-forward [OPTIONS] <COMMAND>\n\n" ++
  "Commands:\n" ++
  "  generate <MODEL>  Print the DDL script for a model\n" ++
  "  forward <MODEL>   Generate the DDL and apply it to the target database\n" ++
  "  dialects          List the built-in dialects\n" ++
  "  help              Print this message\n\n" ++
  "Options:\n" ++
  "  -d, --database <DATABASE>  Database URL of the target\n" ++
  "  -c, --config <CONFIG>      JSON configuration file\n" ++
  "  -v, --verbose              Enable verbose output\n" ++
  "  -h, --help                 Print help\n" ++
  "  -V, --version              Print version\n\n" ++
  "Options of generate and forward:\n" ++
  "      --dialect <DIALECT>            Built-in dialect name\n" ++
  "      --dialect-file <DIALECT_FILE>  Custom dialect definition (JSON)\n" ++
  "      --schema-name <SCHEMA_NAME>    Schema to qualify object names with\n\n" ++
  "Options of generate:\n" ++
  "  -o, --output <OUTPUT>  Write the script to a file instead of stdout\n\n" ++
  "Options of forward:\n" ++
  "  -y, --yes             Drop conflicting objects without asking\n" ++
  "      --keep-conflicts  Leave conflicting objects in place\n" ++
  "      --dry-run         Show conflicts and SQL without executing (dry run)\n"

/-- The contents of a database file: the catalogue that its text describes, else that text. -/
def storedContents (text : String) : FileContents :=
  match (Json.ofText? text).bind Sqlite.Catalogue.ofJson? with
  | some catalogue => .database catalogue
  | none => .text text

/-- The text of a file with given contents, if it has one. -/
def storedText? : FileContents → Option String
  | .text value => some value
  | .database catalogue => some catalogue.toJson.render
  | .other => none

/-- The locations that a path leads through. -/
def locationsOf (path : String) : List Location :=
  let names := Location.steps path
  (List.range (names.length + 1)).map fun count =>
    (names.take count).foldl Location.step (Location.start path)

/-- Something is at a path. -/
def isThere (path : String) : IO Bool := do
  try
    discard (IO.FS.realPath path)
    return true
  catch _ => return false

/-- The directory with what is at a location. -/
def withLocation (contentsOf : String → FileContents) (directory : Directory)
    (location : Location) : IO Directory := do
  let path := location.path
  if ← isThere (path ++ "/.") then
    return { directory with folders := directory.folders ++ [path] }
  else if ← isThere path then
    let contents ←
      try
        let text ← IO.FS.readFile path
        pure (contentsOf text)
      catch _ => pure .other
    return directory.replace location contents
  else return directory

/-- The directory with what is at the locations of paths. -/
def withPaths (contentsOf : String → FileContents) (directory : Directory)
    (paths : List String) : IO Directory :=
  (paths.flatMap locationsOf).foldlM (withLocation contentsOf) directory

/-- The surroundings of an invocation. -/
def readSurroundings (invocation : Invocation) : IO Surroundings := do
  let databaseAddress ← IO.getEnv "DATABASE_URL"
  let settings ← withPaths .text {} invocation.configuration.toList
  let configured := configurationOf invocation { directory := settings, databaseAddress }
  let configuration := configured.toOption.getD {}
  let texts ← withPaths .text settings
    (textPaths invocation configuration ++ (outputPath? invocation).toList)
  let directory ← withPaths storedContents texts (databasePaths invocation configuration)
  return { directory, databaseAddress }

/-- Writes the files that have changed. -/
def writeFiles (before after : Directory) : IO Unit :=
  after.files.forM fun file =>
    unless before.files.contains file do
      if let some text := storedText? file.2 then IO.FS.writeFile file.1 text

/-- Runs an invocation. -/
def perform (invocation : Invocation) : IO UInt32 := do
  let surroundings ← readSurroundings invocation
  let first := run invocation surroundings
  IO.eprint first.warnings
  IO.print first.output
  (← IO.getStdout).flush
  let result ←
    if first.asked then do
      let input ← (← IO.getStdin).getLine
      pure (run invocation { surroundings with input })
    else pure first
  writeFiles surroundings.directory result.directory
  match result.error with
  | none => return 0
  | some error =>
    IO.eprintln s!"Error: {error.message}"
    return 1

end SchemaForward.CommandLine

open SchemaForward.CommandLine in
/-- The program. -/
def main (arguments : List String) : IO UInt32 := do
  match Invocation.ofArguments arguments with
  | .ok invocation =>
    try perform invocation
    catch problem =>
      IO.eprintln s!"Error: {problem}"
      return 1
  | .error .help =>
    IO.print usage
    return 0
  | .error .version =>
    IO.println "oxide-forward 0.1.0"
    return 0
  | .error .misuse =>
    IO.eprint usage
    return 2
