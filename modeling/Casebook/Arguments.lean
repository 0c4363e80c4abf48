import Casebook.Report.Basic

namespace Casebook.Arguments

inductive Task where
  | importFile (path : String)
  | query (reference : String)
  | cacheKey (reference : String)
  | stats
  deriving DecidableEq, Repr

structure Invocation where
  dataDir : String
  configFile : Option String
  format : Report.Format
  task : Task
  deriving DecidableEq, Repr

inductive Request where
  | run (invocation : Invocation)
  | help
  | version
  | misused
  deriving DecidableEq, Repr

inductive Token where
  | separator
  | long (name : String) (value : Option String)
  | short (letters : List Char)
  | plain (text : String)
  deriving DecidableEq, Repr

def afterEquals : List Char → Option String
  | '=' :: value => some (String.ofList value)
  | _ => none

def Token.ofArgument (argument : String) : Token :=
  match argument.toList with
  | ['-', '-'] => .separator
  | '-' :: '-' :: rest =>
    .long (String.ofList (rest.takeWhile (· != '='))) (afterEquals (rest.dropWhile (· != '=')))
  | ['-'] => .plain argument
  | '-' :: rest => .short rest
  | _ => .plain argument

inductive Setting where
  | dataDir
  | configFile
  | format
  deriving DecidableEq, Repr

structure Settings where
  dataDir : Option String := none
  configFile : Option String := none
  format : Option Report.Format := none

-- A path is not empty, a format has a known name, and nothing is set twice.
def Settings.set (settings : Settings) (setting : Setting) (value : String) : Option Settings :=
  match setting with
  | .dataDir =>
    if settings.dataDir.isSome || value.isEmpty then none else some { settings with dataDir := some value }
  | .configFile =>
    if settings.configFile.isSome || value.isEmpty then none else some { settings with configFile := some value }
  | .format =>
    match settings.format, Report.Format.ofName? value with
    | none, some format => some { settings with format := some format }
    | _, _ => none

def Settings.invoke (settings : Settings) (task : Task) : Request :=
  .run
    { dataDir := settings.dataDir.getD "./casedb_data"
      configFile := settings.configFile
      format := settings.format.getD .table
      task }

inductive Meaning where
  | set (setting : Setting) (value : String)
  | setNext (setting : Setting)
  | help
  | version
  | unknown
  deriving DecidableEq, Repr

def Meaning.ofSetting (setting : Setting) (value : Option String) : Meaning :=
  match value with
  | some value => .set setting value
  | none => .setNext setting

def Meaning.ofLong (name : String) (value : Option String) : Meaning :=
  if name = "data-dir" then .ofSetting .dataDir value
  else if name = "config" then .ofSetting .configFile value
  else if name = "format" then .ofSetting .format value
  else if name = "help" then if value.isNone then .help else .unknown
  else if name = "version" then if value.isNone then .version else .unknown
  else .unknown

-- The value may be joined to its letter, with or without an equals sign.
def joinedValue : List Char → Option String
  | [] => none
  | '=' :: value => some (String.ofList value)
  | value => some (String.ofList value)

def Meaning.ofShort : List Char → Meaning
  | 'd' :: rest => .ofSetting .dataDir (joinedValue rest)
  | 'c' :: rest => .ofSetting .configFile (joinedValue rest)
  | 'h' :: _ => .help
  | 'V' :: _ => .version
  | _ => .unknown

def taskArgument (settings : Settings) (task : String → Option Task) (found : Option Task) (plainOnly : Bool) :
    List String → Request
  | [] =>
    match found with
    | some task => settings.invoke task
    | none => .misused
  | argument :: rest =>
    let take (text : String) : Request :=
      match found, task text with
      | none, some task' => taskArgument settings task (some task') plainOnly rest
      | _, _ => .misused
    if plainOnly then take argument
    else
      match Token.ofArgument argument with
      | .separator => taskArgument settings task found true rest
      | .plain text => take text
      | .long name value => if name = "help" ∧ value.isNone then .help else .misused
      | .short letters => if letters.head? = some 'h' then .help else .misused

def pathTask (task : String → Task) (path : String) : Option Task := if path.isEmpty then none else some (task path)

def noArgument (settings : Settings) (task : Task) : List String → Request :=
  taskArgument settings (fun _ => none) (some task) false

def taskNames : List String := ["import", "query", "cache-key", "stats", "help"]

def helpAbout : List String → Request
  | [] => .help
  | [name] => if name ∈ taskNames then .help else .misused
  | _ => .misused

def ofTask (settings : Settings) (name : String) (rest : List String) : Request :=
  if name = "import" then taskArgument settings (pathTask .importFile) none false rest
  else if name = "query" then taskArgument settings (some ∘ .query) none false rest
  else if name = "cache-key" then taskArgument settings (some ∘ .cacheKey) none false rest
  else if name = "stats" then noArgument settings .stats rest
  else if name = "help" then helpAbout rest
  else .misused

def meaningOf : Token → Meaning
  | .long name value => .ofLong name value
  | .short letters => .ofShort letters
  | .separator | .plain _ => .unknown

def ofSettings (settings : Settings) : List String → Request
  | [] => .misused
  | argument :: rest =>
    match Token.ofArgument argument with
    | .plain name => ofTask settings name rest
    | token =>
      match meaningOf token with
      | .help => .help
      | .version => .version
      | .unknown => .misused
      | .set setting value =>
        match settings.set setting value with
        | some settings => ofSettings settings rest
        | none => .misused
      | .setNext setting =>
        match rest with
        | [] => .misused
        | value :: rest =>
          match Token.ofArgument value with
          | .plain value =>
            match settings.set setting value with
            | some settings => ofSettings settings rest
            | none => .misused
          | _ => .misused

def read (arguments : List String) : Request := ofSettings {} arguments

end Casebook.Arguments
