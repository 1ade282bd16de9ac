import TemplateLint.Machine.FileTree

set_option autoImplicit false

/-!
What all processes of a machine share: its files, the streams that have been opened, and the signals on their
way.

A stream keeps how far it has been read or written, so two descriptors that lead to one stream go on where the
other has stopped.
-/

namespace TemplateLint.Machine

structure Access where
  reads : Bool
  writes : Bool
  appends : Bool
deriving DecidableEq, Repr

inductive Stream where
  /-- Keeps what is written, the latest part first; a limit is the size at which nobody reads on. -/
  | collector (parts : List Octets) (size : Nat) (limit : Option Nat)
  | source (rest : Octets)
  | file (number : Nat) (offset : Nat) (access : Access)
  | device (device : Device)
deriving DecidableEq, Repr

structure Shared where
  files : FileTree
  streams : Array Stream
  signals : List (Nat × Nat)
  next : Nat

inductive Written where
  | done (shared : Shared)
  | closed
  | noRoom
  | unread (shared : Shared)

def overwrite (content : List UInt8) (offset : Nat) (bytes : List UInt8) : List UInt8 :=
  if offset = content.length then content ++ bytes
  else
    content.take offset ++ List.replicate (offset - content.length) 0 ++ bytes ++
      content.drop (offset + bytes.length)

def zeroCount : Nat := 65536

namespace Shared

def openStream (shared : Shared) (stream : Stream) : Nat × Shared :=
  (shared.streams.size, { shared with streams := shared.streams.push stream })

def setStream (shared : Shared) (index : Nat) (stream : Stream) : Shared :=
  { shared with streams := shared.streams.modify index fun _ => stream }

def contentOf (shared : Shared) (number : Nat) : List UInt8 :=
  match shared.files.items[number]? with
  | some ⟨.file content, _, _⟩ => content
  | _ => []

def write (shared : Shared) (index : Nat) (text : Octets) : Written :=
  match shared.streams[index]? with
  | some (.collector parts size limit) =>
      let size := size + text.length
      let shared := shared.setStream index (.collector (text :: parts) size limit)
      if limit.any (fun limit => limit < size) then .unread shared else .done shared
  | some (.file number offset access) =>
      if !access.writes then .closed
      else
        let content := shared.contentOf number
        let offset := if access.appends then content.length else offset
        let content := overwrite content offset (bytesOf text)
        let shared := { shared with files := shared.files.setContent number content }
        .done (shared.setStream index (.file number (offset + text.length) access))
  | some (.device .full) => if text.isEmpty then .done shared else .noRoom
  | some (.device _) => .done shared
  | some (.source _) => .closed
  | none => .closed

def rest? (shared : Shared) (index : Nat) : Option Octets :=
  match shared.streams[index]? with
  | some (.source rest) => some rest
  | some (.file number offset access) =>
      if access.reads then some (octetsOf ((shared.contentOf number).drop offset)) else none
  | some (.device .empty) => some []
  | some (.device _) => some (List.replicate zeroCount nul)
  | some (.collector _ _ _) => none
  | none => none

/-- The next line that is left to be read from a stream, with the line feed that ends it. -/
def line? (shared : Shared) (index : Nat) : Option Octets :=
  match shared.streams[index]? with
  | some (.file number offset access) =>
      if access.reads then
        let bytes := (shared.contentOf number).drop offset
        let line := bytes.takeWhile (· != 10)
        some (octetsOf (bytes.take (line.length + 1)))
      else none
  | _ => (shared.rest? index).map fun rest => rest.take ((rest.takeWhile (· != '\n')).length + 1)

def advance (shared : Shared) (index : Nat) (count : Nat) : Shared :=
  match shared.streams[index]? with
  | some (.source rest) => shared.setStream index (.source (rest.drop count))
  | some (.file number offset access) => shared.setStream index (.file number (offset + count) access)
  | _ => shared

def isFile (shared : Shared) (index : Nat) : Bool :=
  match shared.streams[index]? with
  | some (.file _ _ _) => true
  | _ => false

def collected (shared : Shared) (index : Nat) : Octets :=
  match shared.streams[index]? with
  | some (.collector parts _ _) => parts.reverse.flatten
  | _ => []

def send (shared : Shared) (process signal : Nat) : Shared :=
  { shared with signals := shared.signals ++ [(process, signal)] }

def receive (shared : Shared) (process : Nat) : List Nat × Shared :=
  let isOwn := fun (sent : Nat × Nat) => sent.1 == process
  ((shared.signals.filter isOwn).map Prod.snd,
    { shared with signals := shared.signals.filter fun sent => !isOwn sent })

end Shared

end TemplateLint.Machine
