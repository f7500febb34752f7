import Launcher.Run.Call

/-!
# Whole files

A file is read as a whole or not at all, and replaced as a whole. Reading goes on where a signal
interrupts it. Replacing removes what was there before and makes the new file executable.

## Main definitions

* `Launcher.WholeFile.read?` — the content of a file.
* `Launcher.WholeFile.replace` — a new file in place of the old.
-/

namespace Launcher.WholeFile

/-- The most bytes asked for by one read. -/
def chunkSize : Nat := 4096

/-- Reads chunk after chunk until a read gives nothing. `chunks` holds those read so far, latest
first. Only interruptions that never cease use up the `fuel`, and then the reading never ends. -/
def readOn : Nat → Reader → List Bytes → Action (Except OsError Bytes)
  | 0, _, _ => throw .unending
  | fuel + 1, reader, chunks => do
      match ← Action.read reader chunkSize with
      | .error e =>
          if e.errno = some (Errno.interrupted.number : Int) then readOn fuel reader chunks
          else return .error e
      | .ok ([], _) => return .ok chunks.reverse.flatten
      | .ok (chunk, rest) => readOn fuel rest (chunk :: chunks)

/-- The most reads that a file can take: one for each byte, those up to the last one for which a
fault asks, and one that gives nothing. -/
def readLimit (m : Machine) : Reader → Nat
  | .directory => Fault.lastNumber m.faults (.read chunkSize) + 1
  | .file unread => unread.length + Fault.lastNumber m.faults (.read chunkSize) + 1

/-- The content of a file, or `none` if it cannot be opened or read. -/
def read? (path : Path) : Action (Option Bytes) := do
  match ← Action.openToRead path with
  | .error e =>
      Action.log Level.debug (lit "Cannot open " ++ path.quoted ++ lit ": " ++ e.render)
      return none
  | .ok reader =>
      let result ← readOn (readLimit (← get).machine reader) reader []
      if let .error e := result then
        Action.log Level.debug (lit "Cannot read " ++ path.quoted ++ lit ": " ++ e.render)
      -- The file is closed whatever came of the reading, and a failure to close it counts most.
      match ← Action.close with
      | .error e => Action.fail (.system e)
      | .ok () => return result.toOption

/-- Replaces the file at the path by a new one with the content. Of a write and a close that both
fail, the write gives the error. -/
def replace (path : Path) (content : Bytes) : Action (Except OsError Unit) := do
  if let .error e ← Action.unlink path then
    if e.errno ≠ some (Errno.noEntry.number : Int) then return .error e
  match ← Action.openToWrite path with
  | .error e => return .error e
  | .ok location =>
      let written ← Action.write location content
      let closed ← Action.close
      match written, closed with
      | .error e, _ => return .error e
      | .ok _, .error e => return .error e
      | .ok n, .ok () =>
          if n = content.length then return .ok ()
          Action.log Level.debug
            (lit "Short write to " ++ path.quoted ++ lit ": " ++ decimal n ++ lit " of " ++
              decimal content.length ++ lit " bytes")
          return .error (.shortWrite n content.length)

end Launcher.WholeFile
