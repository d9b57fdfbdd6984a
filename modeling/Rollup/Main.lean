import Rollup.CommandLine.Run
import Rollup.Http.Wire
import Std.Async.TCP
import Std.Async.DNS
/-!
The program on a real host: files, standard streams, and connections to servers.
-/
namespace Rollup.Main

open Std.Async
open Std.Net (IPAddr SocketAddress SocketAddressV4 SocketAddressV6)

/-- The wording of common failures. -/
def describe (e : IO.Error) : String :=
  match e with
  | .noFileOrDirectory .. => "No such file or directory (os error 2)"
  | .permissionDenied .. => "Permission denied (os error 13)"
  | .alreadyExists .. => "File exists (os error 17)"
  | e => toString e

/-- Runs an action and tells why it failed. -/
def attempt {α : Type} (action : IO α) : IO (Except String α) := do
  match (← action.toBaseIO) with
  | .ok x => return .ok x
  | .error e => return .error (describe e)

/-- The directory of a path, empty if the path is a name alone. -/
def directory (path : String) : String :=
  String.ofList ((path.toList.reverse.dropWhile (· != '/')).drop 1).reverse

def save (path content : String) : IO Unit := do
  let parent := directory path
  if !parent.isEmpty then IO.FS.createDirAll parent
  IO.FS.writeFile path content

def socketAddress (address : IPAddr) (port : UInt16) : SocketAddress :=
  match address with
  | .v4 a => .v4 ⟨a, port⟩
  | .v6 a => .v6 ⟨a, port⟩

/-- All that a server sends until it closes the connection. -/
partial def receive (client : TCP.Socket.Client) (before : ByteArray) : Async ByteArray := do
  match (← client.recv? 65536) with
  | some bytes => receive client (before ++ bytes)
  | none => return before

def exchange (url : Http.Url) (body : String) : Async ByteArray := do
  let addresses ← DNS.getAddrInfo url.host (toString url.port)
  match addresses[0]? with
  | none => throw (IO.userError "no address is known")
  | some address =>
    let client ← TCP.Socket.Client.mk
    client.connect (socketAddress address (UInt16.ofNat url.port))
    client.send (url.postText body).toUTF8
    receive client ByteArray.empty

def post (url body : String) : IO (Except (List String) Http.Response) := do
  match Http.Url.ofText? url with
  | none => return .error ["the address is malformed"]
  | some u =>
    match (← attempt (exchange u body).block) with
    | .error why => return .error [why]
    | .ok bytes =>
      match Http.Response.ofBytes? bytes.toList with
      | some r => return .ok r
      | none => return .error ["the response is malformed"]

def host : CommandLine.Host IO where
  standardInput := attempt (do return (← (← IO.getStdin).readToEnd))
  contents path := attempt (IO.FS.readFile path)
  save path content := attempt (save path content)
  post := post

end Rollup.Main

def main (args : List String) : IO UInt32 := do
  let outcome ← Rollup.CommandLine.run Rollup.Main.host args
  IO.print outcome.output
  IO.eprint outcome.errors
  return UInt32.ofNat outcome.exitCode
