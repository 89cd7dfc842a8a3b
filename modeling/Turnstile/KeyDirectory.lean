import Turnstile.FileTree
import Turnstile.Flow.Event
import Turnstile.KeyStore
import Turnstile.Text.Lossy

/-! Loading the keys of a directory: every file below it named after its key. -/

namespace Turnstile.KeyDirectory

inductive LoadError
  | walk (path : Bytes)
  | read (path : Bytes)
  | tooLarge (path : Bytes)
  | invalidName (path : Bytes)
  | duplicateKid (kid : String) (first second : Bytes)
  | parse (path : Bytes) (cause : Rsa.KeyError)
  deriving DecidableEq, Repr

/-- The text of an error; `cause` is that of the error behind it, where there is one. -/
def LoadError.message (cause : String) : LoadError → String
  | walk path => s!"walking key directory {Text.lossy path}: {cause}"
  | read path => s!"reading key file {Text.lossy path}: {cause}"
  | tooLarge path => s!"key file {Text.lossy path} exceeds the 1 MiB limit"
  | invalidName path => s!"key file name {Text.lossy path} is not valid UTF-8"
  | duplicateKid kid first second =>
    s!"duplicate KID {kid}: {Text.lossy first} and {Text.lossy second}"
  | parse path _ => s!"parsing key file {Text.lossy path}: {cause}"

def maxKeySize : Nat := 1048576

def extension : Bytes := Bytes.ofString "pem"

/-- The part of a file name before its last dot and the part behind it. A name that starts with
its only dot has no extension. -/
def splitExtension? (name : Bytes) : Option (Bytes × Bytes) :=
  if name = FileTree.dotDot then none
  else (Bytes.splitLast? 46 name).filter fun (stem, _) => !stem.isEmpty

/-- The stem of a key file's name. -/
def keyStem? (name : Bytes) : Option Bytes :=
  (splitExtension? name).bind fun (stem, ext) => if ext = extension then some stem else none

structure Found where
  path : Bytes
  name : Bytes
  isDir : Bool
  deriving DecidableEq, Repr

/-- Name of the last component, trailing slashes and dots aside. -/
def lastName (path : Bytes) : Bytes :=
  ((Bytes.splitOn 47 path).filter fun n => n ≠ [] && n ≠ FileTree.dot).getLast?.getD []

def childPath (path : Bytes) (names : List Bytes) : Bytes := names.foldl FileTree.join path

/-- What a walk met, in order, and whether it came to its end. -/
structure Walk where
  found : List Found
  complete : Bool
  deriving DecidableEq, Repr

/-- The walk from a path. A link is followed at the start only, and even there it is met as a link
first. -/
def visit (root : FileTree) (path : Bytes) : Walk :=
  match root.lookupEntry? path, root.lookup? path with
  | some top, some target =>
    let (met, complete) := FileTree.reach target.walk
    let below := (met.drop 1).map fun (names, e) =>
      Found.mk (childPath path names) (names.getLast?.getD []) e.isDir
    ⟨⟨path, lastName path, top.isDir⟩ :: below, complete⟩
  | _, _ => ⟨[], false⟩

/-- Keys loaded so far, each with the path of its file, the last one first. -/
abbrev Loaded := List (String × Bytes × Rsa.PrivateKey)

/-- Reads one entry; what is no key file is passed over. -/
def loadEntry (root : FileTree) (loaded : Loaded) (f : Found) : Except LoadError Loaded :=
  if f.isDir then .ok loaded
  else match keyStem? f.name with
    | none => .ok loaded
    | some stem =>
      match Bytes.toString? stem with
      | none => .error (.invalidName f.path)
      | some kid =>
        match loaded.find? (·.1 == kid) with
        | some (_, first, _) => .error (.duplicateKid kid first f.path)
        | none =>
          match root.read? f.path with
          | none => .error (.read f.path)
          | some content =>
            if maxKeySize < content.length then .error (.tooLarge f.path)
            else match Rsa.PrivateKey.ofPem content with
              | .error e => .error (.parse f.path e)
              | .ok key => .ok ((kid, f.path, key) :: loaded)

/-- Reads entries up to the first that fails. -/
def loadEntries (root : FileTree) : Loaded → List Found → Loaded × Option LoadError
  | loaded, [] => (loaded, none)
  | loaded, f :: rest =>
    match loadEntry root loaded f with
    | .error e => (loaded, some e)
    | .ok loaded => loadEntries root loaded rest

def loadedEvent (k : String × Bytes × Rsa.PrivateKey) : Event := .keyLoaded k.1 (Text.lossy k.2.1)

/-- The store of all keys below a path, and an event per key that was read. An error of the walk
comes after all that was met before it. -/
def load (root : FileTree) (path : Bytes) : Except LoadError KeyStore × List Event :=
  let walk := visit root path
  let (loaded, failure) := loadEntries root [] walk.found
  let events := loaded.reverse.map loadedEvent
  match failure with
  | some e => (.error e, events)
  | none =>
    if walk.complete then (.ok (KeyStore.ofList (loaded.reverse.map fun k => (k.1, k.2.2))), events)
    else (.error (.walk path), events)

end Turnstile.KeyDirectory
