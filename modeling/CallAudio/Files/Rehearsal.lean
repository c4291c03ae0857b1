import CallAudio.Files

/-! # Files for rehearsals

A store of files that lives in memory, writes down what is asked of it and fails when told to.
A file needs no directory here.
-/

namespace CallAudio

structure Rehearsal where
  /-- The files, no two under the same path. -/
  files : List (Path × String)
  /-- Every request to write, also a refused one. -/
  writes : List (Path × String)
  /-- Every request to make a directory. -/
  directories : List Path
  refusesReading : Bool
  refusesWriting : Bool

namespace Rehearsal

def empty : Rehearsal := ⟨[], [], [], false, false⟩

def content? (store : Rehearsal) (path : Path) : Option String :=
  (store.files.find? fun file => file.1.same path).map (·.2)

def put (store : Rehearsal) (path : Path) (content : String) : Rehearsal :=
  { store with files := (path, content) :: store.files.filter fun file => !file.1.same path }

def read (store : Rehearsal) (path : Path) : Except FileError String :=
  if store.refusesReading then .error .readRefused
  else match store.content? path with
    | some content => .ok content
    | none => .error (.notFound path)

def write (store : Rehearsal) (path : Path) (content : String) :
    Except FileError Unit × Rehearsal :=
  let store := { store with writes := store.writes ++ [(path, content)] }
  if store.refusesWriting then (.error .writeRefused, store) else (.ok (), store.put path content)

instance : FileStore (StateM Rehearsal) where
  read path := do return (← get).read path
  write path content := modifyGet (·.write path content)
  contains path := do return ((← get).content? path).isSome
  createDirectory path := do
    modify fun store => { store with directories := store.directories ++ [path] }
    return .ok ()

end Rehearsal

end CallAudio
