import Provisioner.Http.Wire
import Provisioner.Invocation
import Std.Async.DNS
import Std.Async.TCP
/-!
# The program

The command line of the provisioner: what it finds around it is read first, then the work that the
invocation stands for is carried out over the network.  Servers are reached without encryption only.
-/

namespace Provisioner.Main

open Std.Async (Async)
open Text.Utf8 (Bytes)

/-! ## Surroundings -/

/-- Why a file cannot be read.  Opening a file counts the numbers of causes down from `2 ^ 32`. -/
def fileError : IO.Error → Manifest.FileError
  | .noFileOrDirectory .. => .missing
  | .permissionDenied _ code detail | .inappropriateType _ code detail
  | .invalidArgument _ code detail | .resourceExhausted _ code detail
  | .noSuchThing _ code detail | .otherError code detail | .hardwareFault code detail =>
    let code := code.toNat
    .ofNumber (if code < 0x80000000 then code else 0x100000000 - code) detail
  | e => .unreadable (toString e)

/-- Read a file. -/
def readFile (path : String) : IO (Except Manifest.FileError Bytes) := do
  match ← (IO.FS.readBinFile path).toBaseIO with
  | .ok bytes => return .ok bytes.toList
  | .error e => return .error (fileError e)

/-- Read the variables. -/
def readVariables : IO Environment := do
  let found ← Invocation.variableNames.mapM fun name => return (name, ← IO.getEnv name)
  return fun name => (found.lookup name).join

/-- Read the files of an invocation; each time, those that are known tell which others to read. -/
def readFiles (args : List String) (host : Host) : Nat → IO Host
  | 0 => return host
  | n + 1 => do
    let files ← (Invocation.paths host args).mapM fun path => return (path, ← readFile path)
    readFiles args { host with files := fun path => (files.lookup path).getD (.error .missing) } n

/-- Read all that an invocation needs, and draw its random numbers. -/
def readHost (args : List String) : IO Host := do
  let host : Host := {
    env := ← readVariables
    files := fun _ => .error .missing
    numbers := {
      account := UInt32.ofNat (← IO.rand 0 0xFFFFFFFF)
      secret := UInt64.ofNat (← IO.rand 0 0xFFFFFFFFFFFFFFFF) } }
  readFiles args host Invocation.depth

/-! ## Network -/

/-- What comes back on a connection until it ends. -/
partial def receive (socket : Std.Async.TCP.Socket.Client) (got : ByteArray) :
    Async ByteArray := do
  match ← socket.recv? 65536 with
  | some more => receive socket (got ++ more)
  | none => return got

/-- The places where an endpoint may listen. -/
def addresses (e : Http.Endpoint) : Async (Array Std.Net.SocketAddress) := do
  let host := (e.host.toList.dropWhile (· == '[')).takeWhile (· != ']')
  let found ← Std.Async.DNS.getAddrInfo (String.ofList host) ""
  let service := UInt16.ofNat e.service
  return found.map fun
    | .v4 addr => .v4 ⟨addr, service⟩
    | .v6 addr => .v6 ⟨addr, service⟩

/-- Connect to the first of several places where something listens. -/
def connect : List Std.Net.SocketAddress → Async Std.Async.TCP.Socket.Client
  | [] => throw (.userError "no address")
  | address :: rest => do
    try
      let socket ← Std.Async.TCP.Socket.Client.mk
      socket.connect address
      return socket
    catch _ => connect rest

/-- Send bytes to an endpoint and receive all that comes back. -/
def exchange (e : Http.Endpoint) (bytes : Bytes) : IO (Except Http.Unreachable Bytes) := do
  match ← (Async.block do connect (← addresses e).toList).toBaseIO with
  | .error _ => return .error ⟨"client error (Connect)"⟩
  | .ok socket =>
    let conversation : Async ByteArray := do
      socket.send ⟨bytes.toArray⟩
      receive socket .empty
    match ← (Async.block conversation).toBaseIO with
    | .ok answer => return .ok answer.toList
    | .error _ => return .error ⟨"client error (SendRequest)"⟩

/-- Send a request for a target to an endpoint. -/
def send (e : Http.Endpoint) (target : String) (request : Http.Request) :
    IO (Except Http.Unreachable Http.Response) := do
  match ← exchange e (request.bytes e.name target) with
  | .error unreachable => return .error unreachable
  | .ok bytes =>
    match Http.Response.ofBytes? bytes with
    | some response => return .ok response
    | none => return .error ⟨"client error (SendRequest)"⟩

/-- Answer an operation of the network. -/
def answer (connection : Kubeconfig.Connection) :
    NetworkOp → IO (Except Http.Unreachable Http.Response)
  | .apiServer request =>
    match Http.Endpoint.ofAddress? connection.server with
    | some e =>
      send e (e.targetOn request.target request.query)
        { request with authorization := connection.authorization }
    | none => return .error ⟨"client error (Connect)"⟩
  | .other request =>
    match Http.Endpoint.ofAddress? request.target with
    | some e => send e e.target request
    | none => return .error ⟨"client error (Connect)"⟩

/-! ## Running -/

/-- Carry out work. -/
def carryOut (connection : Kubeconfig.Connection) :
    Program Network Error Unit → IO (Except Error Unit)
  | .done value => return .ok value
  | .fail error => return .error error
  | .ask op next => do carryOut connection (next (← answer connection op))
  | .clock next => do carryOut connection (next ⟨← IO.monoNanosNow⟩)
  | .sleep length next => do
    IO.sleep (UInt32.ofNat (min length.milliseconds 0xFFFFFFFF))
    carryOut connection next
  | .stall => return .error (.internal "poll" "there is no end to the waiting")

/-- Tell how an invocation ended. -/
def report (code : Nat) (error : Option String) : IO UInt32 := do
  match error with
  | some message => IO.eprintln ("Error: " ++ message)
  | none =>
    if code = 2 then IO.eprintln ("\n".intercalate CommandLine.synopsis)
  return UInt32.ofNat code

end Provisioner.Main

open Provisioner

/-- Run the program. -/
def main (args : List String) : IO UInt32 := do
  match Invocation.ofArguments (← Main.readHost args) args with
  | .finished 0 none => do
    IO.println ("\n".intercalate CommandLine.synopsis)
    return 0
  | .finished code error => Main.report code error
  | .work connection work =>
    let (code, error) := Invocation.exitOf (← Main.carryOut connection work)
    Main.report code error
