import LintBridge.Loop

/-!
The language server: what the editor's messages do. Requests and closing a document are handled at
once; all other messages begin a task at its turn, which sees the documents as they are by then.
The editor is told of every fault with which a message ends, and a message about a document that
cannot be taken in goes no further.
-/
namespace LintBridge

inductive Message where
  | connected (id : Json) (folders : List String) (rootUri rootPath : Option String)
      (options : Json)
  | initialized
  | opened (d : Document)
  /-- New texts of a document, of which the last one stays. -/
  | changed (uri : String) (version : Json) (texts : List String)
  | saved (uri : String)
  | closed (uri : String)
  | filesChanged (count : Nat)
  | settingsChanged (settings : Json)
  | codeActions (id : Json) (uri : String) (marks : List Mark)
  /-- A change of this many folders of the workspace. -/
  | foldersChanged (count : Nat)
  /-- A request to run a command; the server has none. -/
  | command (id : Json)
  /-- A request that the server does not know. -/
  | unknown (id : Json)
  /-- The request to get ready for the end. -/
  | shutdown (id : Json)
  /-- The answer to a question: the title of the action that was chosen, if any. -/
  | chosen (request : Nat) (title : Option String)
  deriving Repr

inductive Answer where
  | capabilities
  | actions (uri : String) (as : List CodeAction)
  | refused
  | unknownMethod
  | nothing
  deriving Repr

inductive Sent where
  | event (e : Event)
  | response (id : Json) (a : Answer)
  deriving Repr

/-- A server, what it has sent, and whether it has been asked to get ready for the end, after which
it takes in no message. -/
structure Server where
  loop : Loop
  sent : List Sent
  closing : Bool
  deriving Repr

namespace Server

def serverName : String := "marlint-server"

/-- The member of an editor's settings that is meant for the server. -/
def settingsMember : String := "marlint"

def retryTitle : String := "Retry"

def start (h : Host) : Except Fault Server × Host :=
  let (session, h) := Session.make h none Settings.standard none
  (session.map fun s => ⟨Loop.fresh h s .detached true, [], false⟩, h)

/-- Moves the events of the loop into what was sent. -/
def flush (s : Server) : Server :=
  { s with loop := { s.loop with events := [] }, sent := s.sent ++ s.loop.events.map .event }

/-- Answers a request, after all events so far. -/
def respond (s : Server) (id : Json) (a : Answer) : Server :=
  let s := s.flush
  { s with sent := s.sent ++ [.response id a] }

def begin (s : Server) (job : Job) : Server :=
  { s with loop := (s.loop.spawn job .editor).1 }

def complainOf (s : Server) (e : Fault) : Server :=
  { s with loop := s.loop.complainOf e }

/-- Changes the documents that are open and goes on with `next`; the editor is told if that cannot
be. -/
def takeIn (s : Server) (f : Documents → Except Fault Documents) (next : Server → Server) : Server :=
  match s.loop.documents.modify f with
  | .error e => s.complainOf e
  | .ok documents => next { s with loop := { s.loop with documents := documents } }

/-- The payload for the server in an editor's settings, null if there is none. -/
def payloadOf (settings : Json) : Json :=
  .ofOption (settings.get? settingsMember)

/-- Binds the session to the workspace that an editor names, with settings made from its options. -/
def bind (s : Server) (folders : List String) (rootUri rootPath : Option String)
    (options : Json) : Except Fault Server := do
  let settings ← Settings.ofPayload s.loop.host.home options
  let root ← Workspace.root folders rootUri rootPath
  let (session, host) := s.loop.session.attach s.loop.host root (some settings)
  return { s with loop := { s.loop with session := session, host := host } }

/-- The first message. A root that is not refused is a new workspace, in which no document is open
yet, even if the session cannot be bound to it. -/
def connect (s : Server) (id : Json) (folders : List String) (rootUri rootPath : Option String)
    (options : Json) : Server :=
  match rootUri.mapM Documents.diskPath with
  | .error _ => s.respond id .refused
  | .ok _ =>
    let s := { s with loop := { s.loop with documents := .editor Documents.empty } }
    match s.bind folders rootUri rootPath options with
    | .error _ => s.respond id .refused
    | .ok s => s.respond id .capabilities

/-- Takes in new texts of a document, one after another. -/
def change (s : Server) (uri : String) (version : Json) (texts : List String) : Server :=
  let next (s : Server) := s.begin (.validateOpen uri)
  if texts.isEmpty then next s
  else s.takeIn (fun ds => texts.foldlM (fun ds text => ds.change uri text version) ds) next

def close (s : Server) (uri : String) : Server :=
  s.takeIn (fun ds => .ok (ds.close uri)) fun s =>
    let (events, session) := s.loop.session.close uri
    { s with loop := { s.loop with session := session }.emit events }

def handle (s : Server) : Message → Server
  | .connected id folders rootUri rootPath options =>
    s.connect id folders rootUri rootPath options
  | .initialized => s.begin .warmUp
  | .opened d => s.takeIn (·.enter d) (·.begin (.validateOpen d.uri))
  | .changed uri version texts => s.change uri version texts
  | .saved uri => s.begin (.validateOpen uri)
  | .closed uri => s.close uri
  | .filesChanged count => s.begin (.watchedFilesChanged count)
  | .settingsChanged settings => s.begin (.updateSettings (payloadOf settings))
  | .codeActions id uri marks =>
    match s.loop.session.codeActions uri marks with
    | .ok actions => s.respond id (.actions uri actions)
    | .error _ => s.respond id .refused
  | .foldersChanged count => if count = 0 then s else s.takeIn .ok id
  | .command id => s.respond id .refused
  | .unknown id => s.respond id .unknownMethod
  | .shutdown id => { s.respond id .nothing with closing := true }
  | .chosen request title =>
    { s with loop := s.loop.answer request (title == some retryTitle) }

/-- Takes in a message of the editor, unless the server has been asked to get ready for the end. -/
def receive (s : Server) (m : Message) : Server :=
  if s.closing then s else s.handle m

/-- Takes in messages one after another, then takes all turns. -/
def handleAll (s : Server) (messages : List Message) : Server :=
  let s := messages.foldl receive s
  { s with loop := s.loop.settle }.flush

end Server

end LintBridge
