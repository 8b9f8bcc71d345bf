import ActorDirectory.Store.KeyValue
import ActorDirectory.Store.Table

namespace ActorDirectory

inductive Reply where
  | fault (fault : StoreFault)
  | nothing
  | yes
  | text (value : String)
  | row (row : Row) (etag : String)
  deriving DecidableEq, Repr

inductive Asked where
  | ensureKeyspace
  | get (key : String)
  | setIfAbsent (key value : String)
  | deleteIfEqual (key expected : String)
  | createTable
  | insert (row : Row)
  | read (cluster row : String)
  | delete (cluster row etag : String)
  deriving DecidableEq, Repr

-- A store that answers from a script, whatever it is asked, and remembers what that was.
structure ScriptedStore where
  replies : List Reply := []
  asked : List Asked := []
  deriving DecidableEq, Repr

namespace Asked

def makesContainer : Asked → Bool
  | ensureKeyspace => true
  | createTable => true
  | _ => false

end Asked

namespace Reply

def isYes : Reply → Bool
  | yes => true
  | _ => false

def text? : Reply → Option String
  | text value => some value
  | _ => none

def row? : Reply → Option (Row × String)
  | .row stored etag => some (stored, etag)
  | _ => none

end Reply

namespace ScriptedStore

def ask (asked : Asked) (read : Reply → α) : Call ScriptedStore StoreFault α := fun store =>
  let calls := store.asked ++ [asked]
  match store.replies with
  | [] => (.error (.unavailable "script exhausted"), { store with asked := calls })
  | .fault fault :: replies => (.error fault, ⟨replies, calls⟩)
  | reply :: replies => (.ok (read reply), ⟨replies, calls⟩)

def keyValueClient : KeyValueClient ScriptedStore where
  ensureKeyspace := ask .ensureKeyspace fun _ => ()
  get := fun key => ask (.get key) Reply.text?
  setIfAbsent := fun key value => ask (.setIfAbsent key value) Reply.isYes
  deleteIfEqual := fun key expected => ask (.deleteIfEqual key expected) Reply.isYes

def tableClient : TableClient ScriptedStore where
  createTable := ask .createTable fun _ => ()
  insert := fun row => ask (.insert row) fun reply => reply.text?.getD ""
  read := fun cluster row => ask (.read cluster row) Reply.row?
  delete := fun cluster row etag => ask (.delete cluster row etag) fun _ => ()

end ScriptedStore
end ActorDirectory
