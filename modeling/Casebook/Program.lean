import Casebook.Arguments
import Casebook.Command
import Casebook.ConfigFile

namespace Casebook

structure Outcome where
  code : UInt32
  output : String
  errors : String
  deriving DecidableEq, Repr

namespace Program
open Arguments (Invocation Request Task)

abbrev Files := String → Except String String

-- An opened store, and the files as they are from then on: opening makes the data directory.
structure Opened where
  store : Store
  files : Files

abbrev Stores := String → Except String Opened

-- The data directory that a run went to, and the store to be kept in it if there was one to open.
structure Left where
  dataDir : String
  store : Option Store

def noSuchFile : String := "No such file or directory (os error 2)"

def readConfig (files : Files) : Option String → Except Command.Failure Config
  | none => .ok {}
  | some path =>
    match files path with
    | .error detail => .error (.unreadable detail)
    | .ok text =>
      match Config.ofText text with
      | some config => .ok config
      | none => .error (.malformed "not a configuration")

def command (files : Files) : Task → Command
  | .importFile path => .importCases (files path)
  | .query reference => .query reference
  | .cacheKey reference => .cacheKey reference
  | .stats => .stats

-- The configuration is read before the store is opened, and the store is opened before anything else is read. A run that
-- does not get as far as the data directory leaves nothing.
def perform (files : Files) (stores : Stores) (invocation : Invocation) :
    Except Command.Failure String × Option Left :=
  match readConfig files invocation.configFile with
  | .error failure => (.error failure, none)
  | .ok config =>
    match stores invocation.dataDir with
    | .error detail => (.error (.core (.storage detail)), some ⟨invocation.dataDir, none⟩)
    | .ok opened =>
      let (result, store) :=
        Command.run config invocation.format opened.store (command opened.files invocation.task)
      (result, some ⟨invocation.dataDir, some store⟩)

def outcome : Except Command.Failure String → Outcome
  | .ok text => ⟨0, text ++ "\n", ""⟩
  | .error failure => ⟨1, "", "Error: " ++ failure.message ++ "\n"⟩

def usage : String :=
  "Query a case store as a tree\n\nUsage: casedb [OPTIONS] <COMMAND>\n\nCommands:\n" ++
    "  import     Load cases from a JSON array file\n" ++
    "  query      Select children by the predicates on a reference's last segment\n" ++
    "  cache-key  Show whether a reference is cacheable and the id it maps to\n" ++
    "  stats      Project the store and print engine counters\n" ++
    "  help       Print this message or the help of the given subcommand(s)\n\nOptions:\n" ++
    "  -d, --data-dir <DATA_DIR>  Store directory [default: ./casedb_data]\n" ++
    "  -c, --config <CONFIG>      Instance configuration file (JSON)\n" ++
    "      --format <FORMAT>      Output format [default: table] [possible values: table, json]\n" ++
    "  -h, --help                 Print help\n  -V, --version              Print version\n"

def run (files : Files) (stores : Stores) : Request → Outcome × Option Left
  | .help => (⟨0, usage, ""⟩, none)
  | .version => (⟨0, "casedb 0.1.0\n", ""⟩, none)
  | .misused => (⟨2, "", usage⟩, none)
  | .run invocation =>
    let (result, left) := perform files stores invocation
    (outcome result, left)

end Program
end Casebook
