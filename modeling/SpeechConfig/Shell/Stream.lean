/-
# Streams

Opening files, and reading and writing where a stream of a shell leads.
-/
import SpeechConfig.FileSystem.Operations
import SpeechConfig.Shell.State

namespace SpeechConfig.Shell

/-- Why a stream cannot be used. -/
inductive StreamFault where
  | notOpen
  | noSpace
  | isDirectory
  | noDevice
  | files (fault : FileSystem.Fault)
deriving DecidableEq, Repr

def StreamFault.reason : StreamFault → String
  | .notOpen => "Bad file descriptor"
  | .noSpace => "No space left on device"
  | .isDirectory => "Is a directory"
  | .noDevice => "No such device or address"
  | .files fault => fault.reason

/-- How much a pipe holds while nobody reads. -/
def pipeRoom : Nat := 65536

/-- How many zeros are read where they have no end. -/
def zerosRead : Nat := 1048576

/-- The place of the first octet of a kind at or behind a place, or the end. -/
def indexFrom (bytes : ByteArray) (octet : UInt8) : Nat → Nat → Nat
  | 0, i => i
  | n + 1, i =>
    match bytes.data[i]? with
    | none => i
    | some b => if b = octet then i else indexFrom bytes octet n (i + 1)

/-- Content with other octets written over it from a place on. -/
def overwrite (content new : ByteArray) (offset : Nat) : ByteArray :=
  if offset = content.size then content ++ new
  else
    let front := if offset < content.size then content.extract 0 offset
      else content ++ ⟨Array.replicate (offset - content.size) 0⟩
    front ++ new ++ content.extract (offset + new.size) content.size

namespace Act

/-- The open file behind a stream, with its number. -/
def openedAt (stream : Nat) : Act (Option (Nat × OpenFile)) := do
  let s ← get
  match s.process.streams.lookup stream with
  | none => return none
  | some i => return s.world.opened[i]?.map fun f => (i, f)

def register (f : OpenFile) : Act Nat := do
  let w ← world
  updateWorld fun w => { w with opened := w.opened.push f }
  return w.opened.size

def newBuffer (b : Buffer) : Act Nat := do
  let w ← world
  updateWorld fun w => { w with buffers := w.buffers.push b }
  return w.buffers.size

def connect (stream openNumber : Nat) : Act Unit :=
  update fun p =>
    { p with streams := (stream, openNumber) :: p.streams.filter fun e => e.1 != stream }

def closeStream (stream : Nat) : Act Unit :=
  update fun p => { p with streams := p.streams.filter fun e => e.1 != stream }

def updateOpened (i : Nat) (f : OpenFile → OpenFile) : Act Unit :=
  updateWorld fun w => { w with opened := w.opened.modify i f }

def updateBuffer (i : Nat) (f : Buffer → Buffer) : Act Unit :=
  updateWorld fun w => { w with buffers := w.buffers.modify i f }

def writeOpened (i : Nat) (f : OpenFile) (text : String) : Act (Except StreamFault Unit) := do
  if !f.writable then return .error .notOpen
  else match f.target with
  | .nothing | .zeros => return .ok ()
  | .full => return .error .noSpace
  | .directory _ => return .error .isDirectory
  | .buffer b =>
    let w ← world
    let size := ((w.buffers[b]?.map Buffer.size).getD 0) + text.length
    updateBuffer b fun buffer =>
      { buffer with pending := (w.clock, text) :: buffer.pending, size := size }
    match w.buffers[b]?.bind Buffer.limit with
    | some limit => if limit < size then throw (.killed 13)
    | none => pure ()
    return .ok ()
  | .file l =>
    let w ← world
    match w.files.node? l with
    | some (.file content) =>
      let offset := if f.extend then content.size else f.offset
      let new := Octets.toBytes text
      putNode l (.file (overwrite content new offset))
      updateOpened i fun f => { f with offset := offset + new.size }
      return .ok ()
    | _ => return .ok ()

def write (stream : Nat) (text : String) : Act (Except StreamFault Unit) := do
  match ← openedAt stream with
  | none => return .error .notOpen
  | some (i, f) => if text.isEmpty then return .ok () else writeOpened i f text

/-- Writes to a stream, whether or not that is possible. -/
def put (stream : Nat) (text : String) : Act Unit := do
  let _ ← write stream text

/-- Writes a line to the error stream. -/
def warn (line : String) : Act Unit :=
  put 2 (line ++ "\n")

/-- Everything that is left to be read from an open file. -/
def restOf (f : OpenFile) : Act (Except StreamFault String) := do
  if !f.readable then return .error .notOpen
  else match f.target with
  | .nothing | .full => return .ok ""
  | .zeros => return .ok (String.ofList (List.replicate zerosRead '\x00'))
  | .directory _ => return .error .isDirectory
  | .buffer b =>
    let w ← world
    return .ok (String.ofList ((w.buffers[b]?.map Buffer.content).getD []))
  | .file l =>
    let w ← world
    match w.files.node? l with
    | some (.file content) => return .ok (Octets.ofBytes (content.extract f.offset content.size))
    | _ => return .ok ""

/-- Goes on behind some octets of an open file. -/
def skip (i : Nat) (f : OpenFile) (count : Nat) : Act Unit := do
  match f.target with
  | .buffer b =>
    updateBuffer b fun buffer => { buffer with unread := buffer.content.drop count, pending := [] }
  | .file _ => updateOpened i fun f => { f with offset := f.offset + count }
  | _ => pure ()

/-- Reads everything that a stream has left. -/
def readAll (stream : Nat) : Act (Except StreamFault String) := do
  match ← openedAt stream with
  | none => return .error .notOpen
  | some (i, f) =>
    let r ← restOf f
    if let .ok text := r then skip i f text.length
    return r

/-- Reads up to a delimiter, which is taken: the text, and whether the delimiter came.
None is the end. -/
def readUntil (stream : Nat) (delimiter : Char) (most : Option Nat) :
    Act (Except StreamFault (Option (String × Bool))) := do
  let cut (text : List Char) : String × Bool × Nat :=
    let text := match most with
      | some n => text.take n
      | none => text
    let line := text.takeWhile (· != delimiter)
    let ended := line.length < text.length
    (String.ofList line, ended, line.length + (if ended then 1 else 0))
  match ← openedAt stream with
  | none => return .error .notOpen
  | some (i, f) =>
    match f.target with
    | .file l =>
      if !f.readable then return .error .notOpen
      else match (← world).files.node? l with
      | some (.file content) =>
        let stop := indexFrom content delimiter.toNat.toUInt8 (content.size + 1) f.offset
        let piece := Octets.ofBytes (content.extract f.offset (min content.size (stop + 1)))
        let (line, ended, count) := cut piece.toList
        skip i f count
        return .ok (if piece.isEmpty then none else some (line, ended))
      | _ => return .ok none
    | .buffer b =>
      if !f.readable then return .error .notOpen
      else
        updateBuffer b fun buffer => { buffer with unread := buffer.content, pending := [] }
        let text := ((← world).buffers[b]?.map Buffer.unread).getD []
        let (line, ended, count) := cut text
        skip i f count
        return .ok (if text.isEmpty then none else some (line, ended))
    | _ =>
      match ← restOf f with
      | .error e => return .error e
      | .ok text =>
        let (line, ended, _) := cut text.toList
        return .ok (if text.isEmpty then none else some (line, ended))

/-- Gives back what was read from the standard input and not used.  A file is set back to
where it was used up to; from a buffer whole blocks of some size were taken. -/
def giveBack (before : Option (Nat × OpenFile)) (block : Nat) (used : Nat) (rest : List Char) : Act Unit := do
  match before with
  | some (i, { target := .file _, offset := start, .. }) =>
    updateOpened i fun f => { f with offset := start + used }
  | some (_, { target := .buffer b, .. }) =>
    let taken := if block = 0 then 0 else (used / block + 1) * block - used
    updateBuffer b fun buffer => { buffer with unread := rest.drop taken ++ buffer.content, pending := [] }
  | _ => pure ()

/-- Everything that was written to a buffer and not read. -/
def bufferText (b : Nat) : Act String := do
  let w ← world
  return String.ofList ((w.buffers[b]?.map Buffer.content).getD [])

/-! ## Opening -/

/-- The stream that a path below the directory of devices names. -/
def deviceStream? (path : String) : Option Nat :=
  if path = "/dev/stdin" then some 0
  else if path = "/dev/stdout" then some 1
  else if path = "/dev/stderr" then some 2
  else if path.startsWith "/dev/fd/" then numberIn? 10 (path.toList.drop 8)
  else if path.startsWith "/proc/self/fd/" then numberIn? 10 (path.toList.drop 14)
  else none

def device? (path : String) : Option (Except StreamFault Target) :=
  match path with
  | "/dev/null" => some (.ok .nothing)
  | "/dev/zero" => some (.ok .zeros)
  | "/dev/urandom" | "/dev/random" => some (.ok .zeros)
  | "/dev/full" => some (.ok .full)
  | "/dev/tty" => some (.error .noDevice)
  | _ => none

def openToRead (path : String) : Act (Except StreamFault Nat) := do
  match deviceStream? path with
  | some n =>
    match (← process).streams.lookup n with
    | some i => return .ok i
    | none => return .error (.files .notFound)
  | none =>
    match device? path with
    | some (.ok t) => return .ok (← register { target := t })
    | some (.error e) => return .error e
    | none =>
      match (← files).walk .follow (pathOf path) with
      | .error e => return .error (.files e)
      | .ok (.absent _ _) => return .error (.files .notFound)
      | .ok (.present l .directory) => return .ok (← register { target := .directory l, writable := false })
      | .ok (.present l _) => return .ok (← register { target := .file l, writable := false })

inductive WriteMode where
  | fresh
  | extend
  | keep
  | careful
deriving DecidableEq, Repr

/-- Opens a path for writing; the file is made if there is none. -/
def openToWrite (path : String) (mode : WriteMode) : Act (Except StreamFault Nat) := do
  match deviceStream? path with
  | some n =>
    match (← process).streams.lookup n with
    | some i => return .ok i
    | none => return .error (.files .notFound)
  | none =>
    match device? path with
    | some (.ok t) => return .ok (← register { target := t })
    | some (.error e) => return .error e
    | none =>
      let fs ← files
      match fs.walk .write (pathOf path) with
      | .error e => return .error (.files e)
      | .ok (.present _ .directory) => return .error .isDirectory
      | .ok (.present l (.file _)) =>
        if mode = .careful then return .error (.files .exists)
        else
          if mode = .fresh then putNode l (.file ByteArray.empty)
          return .ok (← register
            { target := .file l, extend := mode == .extend, readable := mode == .keep })
      | .ok (.present _ (.link _)) => return .error (.files .notFound)
      | .ok (.absent dir name) =>
        let l := name :: dir
        putNode l (.file ByteArray.empty)
        return .ok (← register
          { target := .file l, extend := mode == .extend, readable := mode == .keep })

end Act
end SpeechConfig.Shell
