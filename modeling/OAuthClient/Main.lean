import OAuthClient.CommandLine.Run
import Std.Time.DateTime.Timestamp

/-!
# The program

Runs a command with the arguments, the environment, the clock and the random bytes of the process.
The replies of the service are read from the standard input, one JSON object with a `status` and a
`body` to a line, and only by the commands that send requests. What the commands do is defined
without input and output; this module hands them what they need and prints what comes of them.
-/

namespace OAuthClient.Program

/-- The reply that a line describes. A line without a status tells why no answer arrived. -/
def replyOf (line : String) : Reply :=
  let members := (Json.parse line).toOption.bind Value.members? |>.getD []
  let text (name : String) := ((Value.member members name).orElse (.text "")).plainText
  match Value.member members "status" with
  | .int status => .response { status, text := text "body" }
  | _ => .fault .connection (text "message")

/-- Whether a command sends requests. -/
def sendsRequests : CommandLine.Command → Bool
  | .none | .authorizationUrl _ => false
  | .token _ | .deviceCode _ | .upload _ => true

/-- The lines of a stream up to its end. -/
partial def linesOf (stream : IO.FS.Stream) : IO (List String) := do
  let line ← stream.getLine
  if line.isEmpty then pure []
  else return line :: (← linesOf stream)

/-- The replies of the service, if a command has any use for them. -/
def replies (command : CommandLine.Command) : IO (List Reply) := do
  if sendsRequests command then
    return (← linesOf (← IO.getStdin)).map replyOf
  else pure []

/-- The file that a command reads, if it is there. -/
def store : CommandLine.Command → IO FileStore
  | .upload arguments => do
      try
        let data ← IO.FS.readBinFile arguments.path
        pure ⟨[(arguments.path, data.toList)]⟩
      catch _ => pure {}
  | _ => pure {}

/-- The variables of the environment that the commands look at. -/
def environment : IO Environment := do
  let names := [Environment.tenantId, Environment.clientId, Environment.clientSecret,
    Environment.username, Environment.password, Environment.userId]
  names.filterMapM fun name => return (← IO.getEnv name).map fun value => (name, value)

/-- The world in which a command runs. -/
def world (replies : List Reply) : IO World := do
  let now := Number.whole (← Std.Time.Timestamp.now).toSecondsSinceUnixEpoch.val
  let bytes := (← IO.getRandomBytes 4096).data
  let entropy : Entropy := { byteAt := fun i => bytes.getD (i % bytes.size) 0 }
  pure { start := now, now, entropy, replies }

/-- The line that tells how the program is used. -/
def usage : String :=
  "usage: oauth-client [-h] [-v] \x7b" ++
    String.intercalate "," (CommandLine.subcommands.map Prod.fst) ++ "\x7d ..."

end OAuthClient.Program

/-- Runs a command and ends with its status. -/
def main (arguments : List String) : IO UInt32 := do
  let command := match OAuthClient.CommandLine.Arguments.read arguments with
    | .ok arguments => arguments.command
    | .error _ => .none
  let world ← OAuthClient.Program.world (← OAuthClient.Program.replies command)
  let outcome := OAuthClient.CommandLine.run arguments (← OAuthClient.Program.environment)
    (← OAuthClient.Program.store command) world
  match outcome with
  | .ok outcome => do
      if outcome.usage then IO.println OAuthClient.Program.usage
      for item in outcome.console.printed do
        item.lines.forM (IO.println ·)
      pure (outcome.status.getD 0).toNat.toUInt32
  | .error failure => do
      IO.eprintln failure.message
      pure 1
