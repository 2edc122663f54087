import ProfileClient.Dialog.Key
/-!
Runs of the dialog with calls under way. A key may start a call. Each call is a task of its own: it
sends its request, waits for what comes of it, and puts the result into a channel with a few places.
Tasks end in any order and wait while the channel is full; the dialog takes the results out, the
oldest first. `Run.step` gives the run after one input, `Run.replay` after a list of them.
-/
namespace ProfileClient

inductive Outcome where
  | loggedIn (response : Json)
  | profile (profile : Json)
  | failed (error : SessionError)
deriving Repr

def Call.outcome (call : Call) (result : Except Failure Json) : Outcome :=
  match call, result with
  | .login .., .ok body => .loggedIn body
  | .profile _, .ok body => .profile body
  | _, .error _ => .failed (.call call.error)

namespace Dialog

/-- Takes in the outcome of a call. A login with a token moves the focus on to the profile. -/
def receive (outcome : Outcome) (dialog : Dialog) : Dialog :=
  let dialog := { dialog with inFlight := dialog.inFlight - 1 }
  match outcome with
  | .loggedIn response =>
    let dialog := { dialog with session := dialog.session.applyLogin response }
    if dialog.session.canFetch then
      { dialog with notice := some .loggedIn, focus := .profileButton }
    else { dialog with notice := some .noToken }
  | .profile profile =>
    { dialog with
      session := dialog.session.applyProfile profile, scroll := 0, notice := some .profileLoaded }
  | .failed error => { dialog with notice := some (.failed error) }

def events (outcome : Outcome) : List Event :=
  match outcome with
  | .loggedIn response =>
    if ((accessToken? response).getD "").isEmpty then [.loginApplied false]
    else [.loginApplied true, .loggedIn]
  | .profile _ => []
  | .failed error => [.requestFailed error.message]

/-- A call under way. Calls are numbered in the order in which they are started. -/
structure Task where
  number : Nat
  call : Call
deriving DecidableEq, Repr

structure Reply where
  task : Task
  delivery : Delivery
deriving DecidableEq, Repr

namespace Reply
variable [Url.Domains]

def result (client : Client) (reply : Reply) : Except Failure Json :=
  client.result reply.task.call reply.delivery

def outcome (client : Client) (reply : Reply) : Outcome :=
  reply.task.call.outcome (reply.result client)

end Reply

def places : Nat := 8

/-- A dialog, what has been started, where each task stands, and what has been logged. All lists
hold the oldest first. -/
structure Run where
  dialog : Dialog
  started : List Call
  /-- The tasks whose requests have not been answered. -/
  pending : List Task
  /-- The tasks that are over and have no place in the channel yet. -/
  replied : List Reply
  channel : List Reply
  /-- What the dialog has taken in. -/
  applied : List Reply
  events : List Event
deriving Repr

inductive Input where
  | press (key : Key)
  | resize (pane : Size)
  /-- The pending task at a place gets to know what came of its request. -/
  | answer (place : Nat) (delivery : Delivery)
  /-- The reply at a place among those that wait goes into the channel. -/
  | post (place : Nat)
  /-- The dialog takes the oldest reply out of the channel. -/
  | take
deriving Repr

namespace Run
variable [Url.Domains]

def start (settings : Settings) : Run where
  dialog := .start settings
  started := []
  pending := []
  replied := []
  channel := []
  applied := []
  events := [.starting settings.baseUrl]

def press (key : Key) (run : Run) : Run :=
  let dialog := run.dialog.press key
  match run.dialog.call? key with
  | none => { run with dialog }
  | some call =>
    { run with
      dialog
      started := run.started ++ [call]
      pending := run.pending ++ [⟨run.started.length, call⟩]
      events := run.events ++ [run.dialog.client.opening call] }

def answer (place : Nat) (delivery : Delivery) (run : Run) : Run :=
  match run.pending[place]? with
  | none => run
  | some task =>
    let reply : Reply := ⟨task, delivery⟩
    { run with
      pending := run.pending.eraseIdx place
      replied := run.replied ++ [reply]
      events := run.events ++ [Client.closing task.call (reply.result run.dialog.client)] }

/-- The run after a reply went into the channel; while the channel is full nothing does. -/
def post (place : Nat) (run : Run) : Run :=
  match run.replied[place]? with
  | none => run
  | some reply =>
    if run.channel.length < places then
      { run with
        replied := run.replied.eraseIdx place
        channel := run.channel ++ [reply] }
    else run

/-- The run after the dialog took in the oldest reply; an empty channel changes nothing. -/
def take (run : Run) : Run :=
  match run.channel with
  | [] => run
  | reply :: channel =>
    let outcome := reply.outcome run.dialog.client
    { run with
      dialog := run.dialog.receive outcome
      channel
      applied := run.applied ++ [reply]
      events := run.events ++ Dialog.events outcome }

def step (input : Input) (run : Run) : Run :=
  match input with
  | .press key => run.press key
  | .resize pane => { run with dialog := run.dialog.resize pane }
  | .answer place delivery => run.answer place delivery
  | .post place => run.post place
  | .take => run.take

def replay (inputs : List Input) (run : Run) : Run :=
  inputs.foldl (fun run input => run.step input) run

/-- The request of each call started; `none` stands for one that cannot be sent. -/
def requests (run : Run) : List (Option Request) :=
  run.started.map run.dialog.client.request?

def drain (run : Run) : Run := run.replay (run.channel.map fun _ => .take)

/-- The run after the end of a pending task whose reply finds a place and is taken in at once. -/
def finish (place : Nat) (delivery : Delivery) (run : Run) : Run :=
  ((run.answer place delivery).post run.replied.length).drain

/-- The run after a key, if calls that nobody answers end at once: those that cannot be sent, and
all of them where the backend is out of reach. -/
def pressSettled (reachable : Bool) (key : Key) (run : Run) : Run :=
  let next := run.press key
  match run.dialog.call? key with
  | none => next
  | some call =>
    if reachable && (run.dialog.client.request? call).isSome then next
    else next.finish run.pending.length .unreachable

end Run
end Dialog
end ProfileClient
