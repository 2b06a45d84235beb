import PinballScout.Relational.Table

/-!
# Files as the tool sees them

The tool reads at most three files per call: a configuration, a league snapshot, a league
database. A `Session` is a computation that asks for files one at a time and is told what each
path leads to; whoever runs it answers from a real file system or from a table of files.

`Files` is such a table: files by absolute path, under a working directory. A path is taken
relative to the working directory unless it starts with `/`; `.` parts are dropped and `..`
parts climb. Every directory above a file exists; a path that goes through a file leads
nowhere, and so does a path ending in `/` that names a file.
-/

namespace PinballScout

/-- What a path leads to. -/
inductive Entry where
  /-- Nothing. -/
  | missing
  | directory
  /-- A path that passes through a file as if it were a directory. -/
  | throughFile
  /-- A file holding text. -/
  | text (content : String)
  /-- A file whose bytes are not text. -/
  | binary
  /-- A file holding a league database. -/
  | database (db : Database)

namespace Entry

/-- Whether the entry is a regular file. -/
def isFile : Entry → Bool
  | .text _ | .binary | .database _ => true
  | _ => false

/-- Whether anything is there. -/
def present : Entry → Bool
  | .missing | .throughFile => false
  | _ => true

/-- The database a file holds as the database engine opens it: an empty file is an empty
database, any other file that holds no league database is not a database at all. -/
def openDatabase : Entry → Database
  | .database db => db
  | .text "" => .tables []
  | _ => .unreadable

end Entry

/-- A computation that reads files as it goes. -/
inductive Session (α : Type) where
  | done (a : α)
  | read (path : String) (next : Entry → Session α)

namespace Session

/-- Runs one session, then another on its result. -/
def bind {α β : Type} : Session α → (α → Session β) → Session β
  | .done a, f => f a
  | .read path next, f => .read path fun e => (next e).bind f

instance : Monad Session where
  pure := .done
  bind := bind

/-- Asks what a path leads to. -/
def entry (path : String) : Session Entry := .read path .done

/-- The result, every path answered by `look`. -/
def runWith {α : Type} (look : String → Entry) : Session α → α
  | .done a => a
  | .read path next => runWith look (next (look path))

end Session

/-- Files and directories by absolute path, and the working directory. -/
structure Files where
  cwd : String
  files : List (String × Entry)
  /-- Directories that hold no file. -/
  directories : List String

namespace Files

/-- The parts of an absolute path: relative paths start at `cwd`; `.` is dropped, `..` climbs. -/
def parts (cwd path : String) : List String :=
  let full := if path.startsWith "/" then path else cwd ++ "/" ++ path
  let step (acc : List String) (part : String) : List String :=
    if part == "" || part == "." then acc
    else if part == ".." then acc.drop 1
    else part :: acc
  ((full.splitOn "/").foldl step []).reverse

/-- A path from its parts. -/
def join (parts : List String) : String := String.join (parts.map ("/" ++ ·))

/-- What a path leads to. -/
def look (fs : Files) (path : String) : Entry :=
  let ps := parts fs.cwd path
  let file? (p : List String) : Option Entry := (fs.files.find? (parts "/" ·.1 == p)).map (·.2)
  let prefixes := (List.range ps.length).map ps.take
  if prefixes.any fun p => (file? p).isSome then .throughFile
  else
    match file? ps with
    | some e => if path.endsWith "/" then .throughFile else e
    | none =>
      let below (f : String × Entry) : Bool :=
        let fp := parts "/" f.1
        ps.isPrefixOf fp && ps.length < fp.length
      let holds (d : String) : Bool := ps.isPrefixOf (parts "/" d)
      if ps.isEmpty || fs.files.any below || holds fs.cwd || fs.directories.any holds then .directory
      else .missing

end Files

end PinballScout
