import Std.Time.DateTime.Timestamp
import Turnstile.Program.Admin
import Turnstile.Program.KeyGenerator
import Turnstile.Program.Seed

/-! The operator's command line. It gathers what the program finds, runs it, and carries out what
it answers. -/

namespace Turnstile

/-- The tree at a path. Links stand for the files they lead to; one that leads to no file is kept
as a link to nothing readable. What cannot be opened is kept as closed. -/
partial def readTree (path : String) : IO FileTree := do
  let path ← IO.FS.realPath path
  if ← path.isDir then
    let some found ← (some <$> path.readDir) <|> pure none | pure (.closed true)
    let entries ← found.toList.mapM fun e => do
      let leadsToDir ← e.path.isDir
      let isLink := (← e.path.symlinkMetadata).type == .symlink
      let entry ←
        if isLink && leadsToDir then pure (FileTree.link (Bytes.ofString "/"))
        else if ← e.path.pathExists then readTree e.path.toString
        else pure (FileTree.link [])
      pure (Bytes.ofString e.fileName, entry)
    pure (.dir entries)
  else
    (do pure (.file (← IO.FS.readBinFile path).data.toList)) <|> pure (.closed false)

def environmentNames : List String := ["KEYS_DIR", "ACTIVE_KID", "TOKEN_ISSUER"]

def readWorld (args : List String) : IO World := do
  let settings ← environmentNames.filterMapM fun name => do
    pure ((← IO.getEnv name).map (name, ·))
  let environment := fun name => (settings.find? (·.1 == name)).map (·.2)
  let files ← match Command.ofArguments? environment args with
    | none => pure FileTree.empty
    | some command =>
      let dir := command.directory
      try
        pure (FileTree.empty.put (FileTree.placeOf (Bytes.ofString dir)) (← readTree dir))
      catch _ => pure FileTree.empty
  let now ← Std.Time.Timestamp.now
  let seed ← IO.getRandomBytes 32
  pure
    { files := files
      environment := environment
      clock := Instant.ofSeconds now.toSecondsSinceUnixEpoch.val
      entropy := Entropy.ofSeed seed.data.toList
      generator := KeyGenerator.key?
      telemetry := default }

def writeKey (key : NewKey) : IO Unit := do
  let path := Text.lossy key.path
  let dir := Text.lossy (FileTree.splitName key.path).1
  unless dir.isEmpty do IO.FS.createDirAll dir
  IO.FS.writeBinFile path ⟨key.content.toArray⟩
  IO.setAccessRights path ⟨⟨true, true, false⟩, ⟨false, false, false⟩, ⟨false, false, false⟩⟩

def usageText : String :=
  "usage: genkey [--dir DIR] [--bits BITS]\n" ++
  "       gentoken [--keys-dir DIR] --kid KID [--issuer ISSUER] [--ttl-secs SECS] SUBJECT ROLES..."

def carryOut : Outcome → IO Unit
  | .done output errors written => do
    if let some key := written then writeKey key
    (← IO.getStderr).putStr errors
    (← IO.getStdout).putStr output
  | .usage => do (← IO.getStderr).putStrLn usageText
  | .failed message => do (← IO.getStderr).putStrLn s!"Error: {message}"
  | .panicked message => do (← IO.getStderr).putStrLn message

end Turnstile

def main (args : List String) : IO UInt32 := do
  let outcome := Turnstile.Admin.run (← Turnstile.readWorld args) args
  Turnstile.carryOut outcome
  pure outcome.code.toUInt32
