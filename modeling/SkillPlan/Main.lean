import Std.Async.DNS
import Std.Async.TCP
import Std.Time.Zoned
import SkillPlan.Cli.Program
import SkillPlan.Http.Transfer
import SkillPlan.Machine

/-!
# The command line

A call is worked out on what is known of the machine. Where it names a file that was not looked at,
or waits for an answer that has not come, the file is read or the request is sent, and the call is
worked out again. When nothing is missing its changes to files are carried out.
-/

namespace SkillPlan.Main

open Std.Async Std.Net

/-! ## Calls that say what they named -/

/-- A machine, and the texts that its functions were called with. -/
structure Host where
  machine : Machine
  named : List String := []

instance : Cancellable Host := ⟨fun h => h.machine.cancelled⟩

instance {A : Type} [Holds A Machine] : Holds A Host :=
  ⟨fun h => Holds.get h.machine, fun a h => { h with machine := Holds.set a h.machine }⟩

/-- A function that notes the values of its variables. -/
def noting (f : SkillFunction Host) : SkillFunction Host where
  view := f.view
  invoke s b h := f.invoke s b { h with named := h.named ++ b.entries.map Prod.snd }

/-- The core functions, each noting its variables. -/
def registry : Registry Host := .ofList (Skills.coreFunctions.map noting)

/-! ## Files -/

/-- The path of a place. -/
def pathOf (place : Place) : String := "/" ++ "/".intercalate place

/-- Looks at what stands at a place. -/
def look (t : FileTree) (place : Place) : IO FileTree := do
  let path := pathOf place
  try
    return t.put place (.file (← IO.FS.readBinFile path))
  catch _ =>
    try
      let _ ← IO.FS.realPath (path ++ "/.") >>= fun p => p.readDir
      return t.put place .directory
    catch _ => return t

/-- Looks at a path and at the directories on the way to it. -/
def lookAlong (t : FileTree) (path : String) : IO FileTree := do
  match t.route path with
  | .error _ => return t
  | .ok r =>
    let place := r.names.foldl (fun p n => if n = ".." then p.dropLast else p ++ [n]) r.start
    (List.range place.length).foldlM (fun t n =>
      if (t.node? (place.take (n + 1))).isSome then pure t else look t (place.take (n + 1))) t

/-- Looks at a directory and at what stands in it. -/
def lookInto (t : FileTree) (path : String) : IO FileTree := do
  let t ← lookAlong t path
  try
    let entries ← (← IO.FS.realPath path).readDir
    entries.foldlM (fun t e => lookAlong t (path ++ "/" ++ e.fileName)) t
  catch _ => return t

/-- Creates the directories and writes the files in which one tree differs from another. -/
def carryOut (before after : FileTree) : IO Unit := do
  for (place, node) in after.nodes.reverse do
    if before.node? place ≠ some node then
      match node with
      | .directory => IO.FS.createDirAll (pathOf place)
      | .file content => IO.FS.writeBinFile (pathOf place) content

/-! ## The network -/

/-- Reads from a connection up to its end. -/
partial def receive (socket : TCP.Socket.Client) (done : ByteArray) : Async ByteArray := do
  match ← socket.recv? 65536 with
  | none => return done
  | some bytes => receive socket (done ++ bytes)

/-- The texts by which a host is looked up. -/
def lookUpName : Http.Host → String
  | .long pieces => Http.Host.longText pieces
  | host => host.text

/-- Sends a request over a plain connection and reads the reply. -/
def exchange (r : Http.Request) : Async Http.Reply := do
  match r.url.host?, r.url.socket? with
  | some host, some number =>
    let addresses ← DNS.getAddrInfo (lookUpName host) (toString number)
    for address in addresses do
      let socket ← TCP.Socket.Client.mk
      let place : SocketAddress := match address with
        | .v4 address => .v4 ⟨address, number.toUInt16⟩
        | .v6 address => .v6 ⟨address, number.toUInt16⟩
      socket.connect place
      socket.send ⟨r.bytes.toArray⟩
      let bytes ← receive socket .empty
      return .ofBytes bytes.toList
    return .dropped
  | _, _ => return .dropped

/-- The reply to a request. Only plain connections are made; without one there is no reply. -/
def replyTo (r : Http.Request) : IO Http.Reply := do
  if r.url.scheme ≠ "http" then return .dropped
  try (exchange r).block catch _ => return .dropped

/-! ## Calls -/

/-- The moment of the call. -/
def moment : IO Moment := do
  let now ← Std.Time.Timestamp.now
  let offset ← try
      let rules ← Std.Time.Database.defaultGetLocalZoneRules
      pure (rules.findLocalTimeTypeForTimestamp now).getTimeZone.offset.second.val
    catch _ => pure 0
  return .ofSeconds (now.toSecondsSinceUnixEpoch.val + offset)

/-- The variables of the environment that a call reads. -/
def environment : IO (List (String × String)) :=
  [Completion.Config.serviceVariable, Completion.Config.modelVariable,
    Completion.Config.urlVariable, Completion.Config.openaiVariable,
    Completion.Config.anthropicVariable].filterMapM fun name => do
      return (← IO.getEnv name).map (name, ·)

/-- Works a call out, looking at files and sending requests as long as something is missing. -/
partial def settle (known : FileTree) (seen : List String) (replies : List Http.Reply)
    (go : FileTree → Http.Network → Cli.Ending Host) : IO (FileTree × Cli.Ending Host) := do
  let ending := go known (.ofReplies replies)
  let new := ending.world.named.filter (!seen.contains ·)
  if !new.isEmpty then
    settle (← new.foldlM lookAlong known) (seen ++ new) replies go
  else
    match ending.world.machine.network.sent[replies.length]? with
    | some r => settle known seen (replies ++ [← replyTo r]) go
    | none => return (known, ending)

/-- A call of the program. -/
def call (args : List String) : IO UInt32 := do
  let here ← IO.FS.realPath "."
  let home := (Text.split '/' here.toString).filter (· ≠ "")
  let clock ← moment
  let env ← environment
  let start : FileTree := { home := home }
  let start ← lookAlong start (pathOf home)
  let start ← args.foldlM lookAlong start
  let store := match Cli.readArguments args with
    | .ok i => i.store
    | .error _ => Cli.defaultStore
  let known ← lookInto start store
  let (known, ending) ← settle known [] [] fun files network =>
    Cli.call registry (env.lookup ·) args
      { machine := { files := files, network := network, clock := clock } }
  carryOut known ending.world.machine.files
  (← IO.getStdout).putStr ending.output
  (← IO.getStderr).putStr ending.messages
  return ending.status.toUInt32

end SkillPlan.Main

/-- Runs the program. -/
def main (args : List String) : IO UInt32 := SkillPlan.Main.call args
