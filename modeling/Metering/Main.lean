import Metering.Http
import Metering.Settings.Load
import Metering.Store.Tables

/-!
# The service on a terminal

Reads the settings, whose file the environment variable `CONFIG_FILE` may name,
and then answers requests from the standard input on an empty database. A line
holds a method, a target, and maybe a body in JSON; the answer is a line with a
status and a content.
-/

namespace Metering.Terminal

/-- What a file holds. -/
def readFile (name : String) : IO (Except AccessError ByteArray) := do
  try
    pure (.ok (← IO.FS.readBinFile name))
  catch
    | .inappropriateType .. => pure (.error .isADirectory)
    | _ => pure (.error .notFound)

/-- The words for settings that cannot be used. -/
def explain : Settings.LoadFault → String
  | .unreadable _ => "the settings cannot be read"
  | .faulty .malformed => "the settings are not written in TOML"
  | .faulty (.misshapen e) => e.message .positional
  | .faulty (.invalid i) => i.message

/-- The request that a line holds. -/
def request (line : String) : Http.Request :=
  let words := (Text.pieces ' ' line.trimAscii.toString.toList).map String.ofList
  { method := words.headD ""
    target := (words.drop 1).headD ""
    headers := [("content-type", "application/json")]
    body := String.intercalate " " (words.drop 2) }

/-- The content of a response as text. -/
def content : Http.Payload → String
  | .empty | .objection => ""
  | .content (.plain s) => s
  | .content (.document d) => Json.write d

/-- Answers the lines of the standard input, one after the other. -/
partial def serve (policy : FetchPolicy) (db : Tables) : IO Unit := do
  let line ← (← IO.getStdin).getLine
  if line.isEmpty then return
  let (response, db) := (Http.respond policy (request line)).run db
  IO.println (toString response.status ++ " " ++ content response.payload)
  serve policy db

end Metering.Terminal

/-- Serves with the settings, or tells what is wrong with them. -/
def main : IO UInt32 := do
  let name? ← IO.getEnv "CONFIG_FILE"
  let file ← Metering.Terminal.readFile (name?.getD Metering.Settings.defaultFile)
  match Metering.Settings.ofFile file with
  | .error fault =>
    IO.eprintln ("Error: " ++ Metering.Terminal.explain fault)
    pure 1
  | .ok settings =>
    Metering.Terminal.serve settings.report.policy (Metering.Tables.init.run {}).2
    pure 0
