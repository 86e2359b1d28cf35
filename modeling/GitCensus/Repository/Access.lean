import GitCensus.CatFile.Client
import GitCensus.CatFile.Server
import GitCensus.Repository.Basic
/-!
# Access to a repository

A repository is asked for objects through a client of two object servers, or through
its object database.
-/

namespace GitCensus.Repository

/-- A repository that has been opened for questions. -/
inductive Access where
  | client (c : CatFile.Client CatFile.Server)
  | database (d : Database)

namespace Access

def openClient (r : Repository) : Access :=
  let (headers, payloads) := CatFile.Server.pair r.objectMap
  client (.connect headers payloads)

def openDatabase (r : Repository) : Access := database r.database

def clientStore : Store (CatFile.Client CatFile.Server) :=
  CatFile.Client.store CatFile.Server.transport

def store : Store Access where
  readHeader id
    | client c => let (answer, c) := clientStore.readHeader id c; (answer, client c)
    | database d => let (answer, d) := Database.store.readHeader id d; (answer, database d)
  readTree id
    | client c => let (answer, c) := clientStore.readTree id c; (answer, client c)
    | database d => let (answer, d) := Database.store.readTree id d; (answer, database d)

def close : Access → Access
  | client c => client (c.close CatFile.Server.transport)
  | database d => database d.close

/-- The notes that have been made so far. -/
def notes : Access → List String
  | client _ => []
  | database d => d.indexed.reverse.map Database.indexNote

end Access

def absentText (path : String) : String := "Repository not found: " ++ path

end GitCensus.Repository
