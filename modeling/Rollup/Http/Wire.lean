import Rollup.Http.Message
import Rollup.Http.Status
import Rollup.Text.Scanner
import Rollup.Text.Hex
import Rollup.Text.Utf8
/-!
Messages as bytes between a client and a server: how a request is written, and how a response is
read that ends where the connection does.
-/
namespace Rollup.Http

/-- Where a server listens, and what is asked of it. -/
structure Url where
  host : String
  port : Nat
  target : String
  deriving Repr, DecidableEq

/-- An address of the plain protocol. -/
def Url.ofText? (s : String) : Option Url :=
  let scheme := "http://".toList
  if !scheme.isPrefixOf s.toList then none
  else
    let rest := s.toList.drop scheme.length
    let authority := rest.takeWhile (· != '/')
    let target := rest.drop authority.length
    let host := authority.takeWhile (· != ':')
    let target := if target.isEmpty then "/" else String.ofList target
    if host.isEmpty then none
    else match authority.drop host.length with
      | [] => some ⟨String.ofList host, 80, target⟩
      | _ :: port => do
        let port ← (Text.Scanner.digits none).whole? (String.ofList port)
        if port ≤ 0xFFFF then some ⟨String.ofList host, port, target⟩ else none

/-- A request that sends a JSON text. -/
def Url.postText (u : Url) (body : String) : String :=
  "POST " ++ u.target ++ " HTTP/1.1\r\nHost: " ++ u.host ++ ":" ++ toString u.port ++
    "\r\nContent-Type: application/json\r\nContent-Length: " ++ toString body.utf8ByteSize ++
    "\r\nConnection: close\r\n\r\n" ++ body

abbrev Bytes := List UInt8

/-- The bytes up to the end of the line, and those behind it. -/
def splitLine : Bytes → Option (Bytes × Bytes)
  | [] => none
  | 13 :: 10 :: rest => some ([], rest)
  | b :: rest => (splitLine rest).map fun (line, rest) => (b :: line, rest)

/-- The code in a status line, behind the version. -/
def statusOfLine? (line : String) : Option Nat :=
  ((Text.Scanner.digits none) ((line.toList.dropWhile (· != ' ')).drop 1)).map (·.1)

def headerOfLine (line : String) : Header :=
  let name := line.toList.takeWhile (· != ':')
  (String.ofList name, Text.trim (String.ofList (line.toList.drop (name.length + 1))))

/-- The headers up to the empty line, and what is behind it. The fuel bounds their number. -/
def readHeaders : Nat → Bytes → Option (List Header × Bytes)
  | 0, _ => none
  | fuel + 1, bytes => do
    let (line, rest) ← splitLine bytes
    if line.isEmpty then return ([], rest)
    else
      let (headers, rest) ← readHeaders fuel rest
      return (headerOfLine (String.ofList (Text.decodeBytes line)) :: headers, rest)

/-- The number that starts the line in front of a chunk. -/
def chunkSize (line : Bytes) : Nat :=
  let digits := (Text.decodeBytes line).takeWhile fun c => (Text.hexValue? c).isSome
  digits.foldl (fun n c => 16 * n + (Text.hexValue? c).getD 0) 0

/-- The bytes of chunks, without their sizes. The fuel bounds their number. -/
def joinChunks : Nat → Bytes → Bytes
  | 0, _ => []
  | fuel + 1, bytes =>
    match splitLine bytes with
    | none => []
    | some (line, rest) =>
      let size := chunkSize line
      if size = 0 then [] else rest.take size ++ joinChunks fuel (rest.drop (size + 2))

def isChunked (headers : List Header) : Bool :=
  headers.any fun h => Text.sameAsciiFold h.1 "transfer-encoding" && Text.sameAsciiFold h.2 "chunked"

/-- The response that a server sent. -/
def Response.ofBytes? (bytes : Bytes) : Option Response := do
  let (line, rest) ← splitLine bytes
  let status ← statusOfLine? (String.ofList (Text.decodeBytes line))
  let (headers, rest) ← readHeaders rest.length rest
  let body := if isChunked headers then joinChunks rest.length rest else rest
  return ⟨status, headers,
    if isBodiless status then "" else String.ofList (Text.decodeBytes body)⟩

example : Url.ofText? "http://localhost:8080/a?b" = some ⟨"localhost", 8080, "/a?b"⟩ := by
  decide +kernel
example : splitLine [65, 13, 10, 66] = some ([65], [66]) := by decide +kernel

end Rollup.Http
