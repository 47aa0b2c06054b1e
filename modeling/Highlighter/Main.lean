import Highlighter.CommandLine.Run
import Highlighter.Toml.Document

/-!
# The program

Gathers what an invocation needs to see, runs it, and prints what it leaves behind.
-/

open Highlighter

/-- The cause behind an error of the operating system. Where several causes share a kind of error,
its number tells them apart, which may come with its sign changed. -/
def readErrorOf : IO.Error → ReadError
  | .noFileOrDirectory .. | .noSuchThing .. => .notFound
  | .permissionDenied .. => .denied
  | .inappropriateType _ number _ =>
    if number = 20 ∨ -number = 20 then .notDirectory else .isDirectory
  | .invalidArgument _ number _ =>
    if number = 36 ∨ -number = 36 then .nameTooLong else .other "Invalid argument (os error 22)"
  | error => .other error.toString

/-- The bytes of the file at a path. -/
def contentsOf (path : String) : IO Contents := do
  try
    return .ok (← IO.FS.readBinFile path)
  catch error =>
    return .error (readErrorOf error)

/-- The bytes of a stream, read to its end. -/
partial def drain (stream : IO.FS.Stream) (bytes : ByteArray) : IO ByteArray := do
  let chunk ← stream.read 65536
  if chunk.isEmpty then return bytes else drain stream (bytes ++ chunk)

/-- The bytes on the standard input. -/
def inputContents : IO Contents := do
  try
    return .ok (← drain (← IO.getStdin) .empty)
  catch error =>
    return .error (readErrorOf error)

/-- What an invocation with given options finds around it. Only what it needs is read. -/
def environmentOf (options : Options) : IO Environment := do
  let home ← match options.config, ← IO.getEnv "HOME" with
    | none, some directory => some <$> contentsOf (Config.path directory)
    | _, _ => pure none
  let files ← (options.config.toList ++ options.file.toList).mapM fun path => do
    return (path, ← contentsOf path)
  let input ← if options.file.isNone then inputContents else pure (.ok .empty)
  let noColor := (← IO.getEnv "NO_COLOR").any (· ≠ "")
  return {
    input
    file := fun path => (files.lookup path).getD (.error .notFound)
    home
    decode := Toml.decode
    colors := if noColor then .suppressed else .full }

/-- Runs an invocation. Nothing is read for one that asks for help or has faulty arguments. -/
def main (arguments : List String) : IO UInt32 := do
  let asksForText := arguments.head?.any (["--help", "-h", "--version", "-V"].contains ·)
  let options := if asksForText then none else (Options.parse arguments).toOption
  let environment ← match options with
    | some options => environmentOf options
    | none => pure ⟨.ok .empty, fun _ => .error .notFound, none, Toml.decode, .full⟩
  let outcome := environment.run arguments
  IO.print (String.ofList outcome.output)
  IO.eprint (String.ofList outcome.errors)
  return outcome.code.toUInt32
