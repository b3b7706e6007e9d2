import SchemaForward.Text.Letters

/-!
# Command line arguments

Options that concern every command come before the command, those of a command after it. An option
may be given once; its value follows as the next argument or behind an equals sign, or directly
behind a one-letter option. One-letter options may be written together. After two dashes everything
is taken as it stands.

Reading arguments either gives an invocation, or asks for help or the version, or fails; nothing
else is told about misuse here.
-/

namespace SchemaForward.CommandLine

/-- What is given about the script of a command. -/
structure ScriptArguments where
  model : String
  dialect : Option String
  dialectFile : Option String
  schemaName : Option String
  deriving DecidableEq, Repr, Inhabited

/-- A command. -/
inductive Command where
  | generate (script : ScriptArguments) (output : Option String)
  | forward (script : ScriptArguments) (drop keep dryRun : Bool)
  | dialects
  deriving DecidableEq, Repr, Inhabited

/-- A command and the settings that come before it. -/
structure Invocation where
  database : Option String
  configuration : Option String
  verbose : Bool
  command : Command
  deriving DecidableEq, Repr, Inhabited

/-- Why there is nothing to run. -/
inductive NoInvocation where
  | help
  | version
  | misuse
  deriving DecidableEq, Repr, Inhabited

/-- What an option takes: nothing, any text, or a path, which is never empty. -/
inductive OptionValue where
  | none
  | text
  | path
  deriving DecidableEq, Repr, Inhabited

/-- An option, by its long name and perhaps a letter. -/
structure OptionRule where
  name : String
  letter : Option Char
  takes : OptionValue
  deriving DecidableEq, Repr, Inhabited

/-- The name of a command. -/
inductive CommandName where
  | generate
  | forward
  | dialects
  | help
  deriving DecidableEq, Repr, Inhabited

/-- The spellings of the commands. -/
def commandNames : List (String × CommandName) :=
  [("generate", .generate), ("forward", .forward), ("dialects", .dialects), ("help", .help)]

/-- The options before the command. -/
def globalOptions : List OptionRule :=
  [⟨"database", some 'd', .text⟩, ⟨"config", some 'c', .path⟩, ⟨"verbose", some 'v', .none⟩]

/-- The options about the script of a command. -/
def scriptOptions : List OptionRule :=
  [⟨"dialect", none, .text⟩, ⟨"dialect-file", none, .path⟩, ⟨"schema-name", none, .text⟩]

/-- The options of a command, or those before it. -/
def optionsOf : Option CommandName → List OptionRule
  | none => globalOptions
  | some .generate => scriptOptions ++ [⟨"output", some 'o', .path⟩]
  | some .forward =>
    scriptOptions ++
      [⟨"yes", some 'y', .none⟩, ⟨"keep-conflicts", none, .none⟩, ⟨"dry-run", none, .none⟩]
  | some .dialects => []
  | some .help => []

/-- What has been read of the arguments: the command, the options given, the plain arguments after
the command, an option that still lacks its value, and whether options have ended. -/
structure ArgumentReader where
  command : Option CommandName := none
  given : List (String × String) := []
  plain : List String := []
  pending : Option OptionRule := none
  ended : Bool := false
  deriving Repr, Inhabited

namespace ArgumentReader

/-- The value given for an option. -/
def value? (reader : ArgumentReader) (name : String) : Option String :=
  reader.given.lookup name

/-- The option was given. -/
def has (reader : ArgumentReader) (name : String) : Bool :=
  (reader.value? name).isSome

/-- An option with its value. -/
def give (reader : ArgumentReader) (rule : OptionRule) (value : String) :
    Except NoInvocation ArgumentReader :=
  if reader.has rule.name || (rule.takes == .path && value.isEmpty) then .error .misuse
  else .ok { reader with given := reader.given ++ [(rule.name, value)], pending := none }

/-- An option without a value of its own: complete, or waiting for the next argument. -/
def open? (reader : ArgumentReader) (rule : OptionRule) : Except NoInvocation ArgumentReader :=
  if rule.takes == .none then reader.give rule ""
  else .ok { reader with pending := some rule }

/-- A plain argument: the command, or something after it. Commands about a script take one, the path
of a model. After the word for help all arguments are plain, and name a command. -/
def addPlain (reader : ArgumentReader) (argument : String) : Except NoInvocation ArgumentReader :=
  let accepted : Except NoInvocation ArgumentReader :=
    .ok { reader with plain := reader.plain ++ [argument] }
  match reader.command with
  | some .generate => if reader.plain.isEmpty && !argument.isEmpty then accepted else .error .misuse
  | some .forward => if reader.plain.isEmpty && !argument.isEmpty then accepted else .error .misuse
  | some .dialects => .error .misuse
  | some .help =>
    if reader.plain.isEmpty && (commandNames.lookup argument).isSome then accepted
    else .error .misuse
  | none =>
    if reader.ended then .error .misuse
    else
      match commandNames.lookup argument with
      | some name => .ok { reader with command := some name, ended := name == .help }
      | none => .error .misuse

/-- A long option, given what stands behind its dashes. -/
def addLong (reader : ArgumentReader) (text : List Char) : Except NoInvocation ArgumentReader :=
  let name := String.ofList (text.takeWhile (· != '='))
  let attached := text.dropWhile (· != '=')
  match (optionsOf reader.command).find? (·.name == name), attached with
  | some rule, [] => reader.open? rule
  | some rule, _ :: value =>
    if rule.takes == .none then .error .misuse else reader.give rule (String.ofList value)
  | none, [] =>
    if name == "help" then .error .help
    else if name == "version" && reader.command.isNone then .error .version
    else .error .misuse
  | none, _ => .error .misuse

/-- One-letter options written together. The first that takes a value takes the rest. -/
def addShort (reader : ArgumentReader) : List Char → Except NoInvocation ArgumentReader
  | [] => .ok reader
  | letter :: rest =>
    match (optionsOf reader.command).find? (·.letter == some letter) with
    | some rule =>
      if rule.takes == .none then
        match reader.give rule "" with
        | .ok next => addShort next rest
        | .error reason => .error reason
      else
        match rest with
        | [] => reader.open? rule
        | '=' :: value => reader.give rule (String.ofList value)
        | value => reader.give rule (String.ofList value)
    | none =>
      if letter == 'h' then .error .help
      else if letter == 'V' && reader.command.isNone then .error .version
      else .error .misuse

/-- One more argument. An option never is the value of another. -/
def add (reader : ArgumentReader) (argument : String) : Except NoInvocation ArgumentReader :=
  if reader.ended then reader.addPlain argument
  else
    match argument.toList, reader.pending with
    | '-' :: _ :: _, some _ => .error .misuse
    | _, some rule => reader.give rule argument
    | ['-', '-'], none => .ok { reader with ended := true }
    | '-' :: '-' :: long, none => reader.addLong long
    | '-' :: first :: rest, none => reader.addShort (first :: rest)
    | _, none => reader.addPlain argument

/-- What is given about a script, if its model is. -/
def script (reader : ArgumentReader) : Except NoInvocation ScriptArguments :=
  match reader.plain with
  | [] => .error .misuse
  | model :: _ =>
    .ok ⟨model, reader.value? "dialect", reader.value? "dialect-file",
      reader.value? "schema-name"⟩

/-- The command that was given. -/
def finish (reader : ArgumentReader) : Except NoInvocation Command :=
  if reader.pending.isSome then .error .misuse
  else
    match reader.command with
    | none => .error .misuse
    | some .generate => reader.script.map (.generate · (reader.value? "output"))
    | some .forward =>
      if reader.has "yes" && reader.has "keep-conflicts" then .error .misuse
      else
        reader.script.map
          (.forward · (reader.has "yes") (reader.has "keep-conflicts")
            (reader.has "dry-run"))
    | some .dialects => .ok .dialects
    | some .help => .error .help

end ArgumentReader

/-- The arguments up to a point, one after another. -/
def readAll (reader : ArgumentReader) : List String → Except NoInvocation ArgumentReader
  | [] => .ok reader
  | argument :: rest =>
    match reader.add argument with
    | .ok next => readAll next rest
    | .error reason => .error reason

/-- The invocation that arguments spell. -/
def Invocation.ofArguments (arguments : List String) : Except NoInvocation Invocation :=
  match readAll {} arguments with
  | .error reason => .error reason
  | .ok reader =>
    reader.finish.map fun command =>
      ⟨reader.value? "database", reader.value? "config", reader.has "verbose", command⟩

end SchemaForward.CommandLine
