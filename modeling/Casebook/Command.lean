import Casebook.Import
import Casebook.Collection.Children
import Casebook.Reference.Reader
import Casebook.Report.Basic
import Casebook.Source.Stored

namespace Casebook

-- Local, since what proofs import has an instance for all of Except.
local instance decidableContent : DecidableEq (Except String String)
  | .ok text, .ok other => decidable_of_iff (text = other) (by simp)
  | .error detail, .error other => decidable_of_iff (detail = other) (by simp)
  | .ok _, .error _ | .error _, .ok _ => .isFalse nofun

-- Every command works on a collection of its own, and only an import changes the store.
inductive Command where
  -- The text of the file, or what stood in the way of reading it.
  | importCases (content : Except String String)
  | query (reference : String)
  | cacheKey (reference : String)
  | stats
  deriving DecidableEq

namespace Command

inductive Failure where
  | core (error : Error)
  | unreadable (detail : String)
  | malformed (detail : String)
  deriving DecidableEq, Repr

def Failure.message : Failure → String
  | .core error => error.message
  | .unreadable detail => "io error: " ++ detail
  | .malformed detail => "invalid json: " ++ detail

def putAll : List Case → Store → Except Error Unit × Store
  | [], store => (.ok (), store)
  | record :: rest, store =>
    match store.put record with
    | (.error error, store) => (.error error, store)
    | (.ok (), store) => putAll rest store

-- The whole document is read before anything is put; what was put before a failure stays.
def runImport (content : Except String String) (format : Report.Format) (store : Store) :
    Except Failure String × Store :=
  match content with
  | .error detail => (.error (.unreadable detail), store)
  | .ok text =>
    match ImportedCase.listOfText text with
    | none => (.error (.malformed "not a list of cases"), store)
    | some inputs =>
      match putAll (inputs.map ImportedCase.toCase) store with
      | (.error error, store) => (.error (.core error), store)
      | (.ok (), store) =>
        (.ok (Report.message ("Imported " ++ toString inputs.length ++ " case(s)") format), store)

def start (config : Config) (store : Store) : Session Store := ⟨store, { config }⟩

def rowAt (store : Store) (roster : Roster) (position : Nat) : Except Error (Option Report.Row) :=
  match roster.idAt position with
  | none => .ok none
  | some id => (store.get id).map fun record => record.map fun record => ⟨position, record⟩

def rowsAt (store : Store) (roster : Roster) (positions : List Nat) : Except Error (List Report.Row) :=
  (positions.mapM (rowAt store roster)).map fun rows => rows.filterMap id

def select (config : Config) (reference : Reference) (store : Store) :
    Except Error (List Report.Row × Option Hint) × Store :=
  let session := start config store
  match Session.positions .stored (session.collection.queue reference.finalPredicates) session with
  | (.error error, _, session) => (.error error, session.source)
  | (.ok positions, _, session) =>
    match Session.roster .stored session with
    | (.error error, session) => (.error error, session.source)
    | (.ok roster, session) =>
      ((rowsAt session.source roster positions).map fun rows => (rows, session.collection.hint), session.source)

def runQuery (config : Config) (text : String) (format : Report.Format) (store : Store) :
    Except Error String × Store :=
  match Reference.parse text with
  | .error error => (.error error, store)
  | .ok reference =>
    let (selected, store) := select config reference store
    (selected.map fun answer => Report.cases answer.1 format ++ "\n" ++ Report.hint answer.2 format, store)

def keyOf (config : Config) (reference : Reference) (store : Store) : Except Error (Option CaseId) × Store :=
  if config.pinpoints reference then
    let (key, session) := Session.cacheKey .stored reference (start config store)
    (key, session.source)
  else (.ok none, store)

def runCacheKey (config : Config) (text : String) (format : Report.Format) (store : Store) :
    Except Error String × Store :=
  match Reference.parse text with
  | .error error => (.error error, store)
  | .ok reference =>
    let (key, store) := keyOf config reference store
    (key.map fun id => Report.cacheKey text (config.pinpoints reference) id format, store)

def runStats (config : Config) (store : Store) : Except Error String × Store :=
  match Session.roster .stored (start config store) with
  | (.error error, session) => (.error error, session.source)
  | (.ok _, session) => (.ok session.collection.counters.exposition, session.source)

def fromCore : Except Error String × Store → Except Failure String × Store :=
  Prod.map (·.mapError .core) id

def run (config : Config) (format : Report.Format) (store : Store) :
    Command → Except Failure String × Store
  | .importCases content => runImport content format store
  | .query reference => fromCore (runQuery config reference format store)
  | .cacheKey reference => fromCore (runCacheKey config reference format store)
  | .stats => fromCore (runStats config store)

end Command
end Casebook
