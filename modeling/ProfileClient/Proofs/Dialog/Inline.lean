import Mathlib.Data.List.Forall2
import ProfileClient.Proofs.Dialog.Effects
/-!
The dialog against the session itself: calls that run beside the dialog, each taken in before the
next one is started, do what the same calls on the session do one after the other.
-/
namespace ProfileClient

/-- What is asked of a session, and what comes of its request. -/
inductive Errand where
  | login (delivery : Delivery)
  | fetch (delivery : Delivery)
deriving DecidableEq, Repr

namespace Session

def perform [Url.Domains] (client : Client) (errand : Errand) (session : Session) : Step :=
  match errand with
  | .login delivery => session.login client delivery
  | .fetch delivery => session.fetchProfile client delivery

/-- The steps of errands, each on the session that the one before left. -/
def performAll [Url.Domains] (client : Client) : List Errand → Session → List Step
  | [], _ => []
  | errand :: errands, session =>
    let step := session.perform client errand
    step :: performAll client errands step.session

end Session

namespace Dialog.Run

/-- The run after a call was started on a task of its own. -/
def spawn (call : Call) (dialog : Dialog) (run : Run) : Run :=
  { run with
    dialog
    started := run.started ++ [call]
    pending := run.pending ++ [⟨run.started.length, call⟩]
    events := run.events ++ [run.dialog.client.opening call] }

def startLogin (run : Run) : Run :=
  run.spawn (.login run.dialog.session.email run.dialog.session.password) run.dialog.startLogin

def startFetch (run : Run) : Run :=
  if run.dialog.session.canFetch then
    run.spawn (.profile run.dialog.session.token) run.dialog.startFetch
  else { run with dialog := run.dialog.startFetch }

/-- The enter key on a button is the start of its call, whatever else the run holds. -/
theorem press_enter_of_loginButton {run : Run} (focus : run.dialog.focus = .loginButton) :
    run.press .enter = run.startLogin := by
  simp [press, Dialog.press, enter, call?, focus, startLogin, spawn]

theorem press_enter_of_profileButton {run : Run} (focus : run.dialog.focus = .profileButton) :
    run.press .enter = run.startFetch := by
  cases held : run.dialog.session.canFetch <;>
    simp [press, Dialog.press, enter, call?, focus, startFetch, spawn, held]

/-- Starts the call of an errand and takes in its outcome. -/
def perform [Url.Domains] (errand : Errand) (run : Run) : Run :=
  match errand with
  | .login delivery => run.startLogin.finish run.pending.length delivery
  | .fetch delivery => run.startFetch.finish run.pending.length delivery

/-- The runs after errands, one after the other. -/
def performAll [Url.Domains] : List Errand → Run → List Run
  | [], _ => []
  | errand :: errands, run => run.perform errand :: performAll errands (run.perform errand)

/-- A dialog in any state with nothing beside it. -/
def around (dialog : Dialog) : Run := ⟨dialog, [], [], [], [], [], []⟩

/-- All that was started has been taken in. -/
structure CaughtUp (run : Run) : Prop where
  pending_eq : run.pending = []
  replied_eq : run.replied = []
  channel_eq : run.channel = []
  started_eq : run.started = run.applied.map (·.task.call)

theorem around_caughtUp (dialog : Dialog) : (around dialog).CaughtUp := ⟨rfl, rfl, rfl, rfl⟩

/-- The requests of the calls taken in that reached the backend. -/
def arrived [Url.Domains] (run : Run) : List Request :=
  run.applied.filterMap fun reply =>
    reply.delivery.arrived? (run.dialog.client.request? reply.task.call)

section Finish
variable [Url.Domains] {run : Run} (h : run.CaughtUp) (call : Call) (dialog : Dialog)
  (delivery : Delivery)
include h

theorem CaughtUp.finish_spawn :
    ∃ events, (run.spawn call dialog).finish run.pending.length delivery =
      { run with
        dialog := dialog.receive (call.outcome (dialog.client.result call delivery))
        started := run.started ++ [call]
        applied := run.applied ++ [⟨⟨run.started.length, call⟩, delivery⟩]
        events } := by
  obtain ⟨pending, replied, channel, -⟩ := h
  rcases run with ⟨dialog', started, pending', replied', channel', applied, events⟩
  cases pending
  cases replied
  cases channel
  exact ⟨_, rfl⟩

theorem CaughtUp.finish : run.finish run.pending.length delivery = run := by
  obtain ⟨pending, replied, channel, -⟩ := h
  rcases run with ⟨dialog', started, pending', replied', channel', applied, events⟩
  cases pending
  cases replied
  cases channel
  rfl

end Finish

/-- The texts with which the dialog reports that something failed. -/
def IsErrorText (text : String) : Prop :=
  "Error: ".toList <+: text.toList ∨ text = SessionError.notLoggedIn.message

/-- A text reports the result of a step. -/
inductive Reports : Except SessionError Unit → String → Prop
  | refused : Reports (.error .notLoggedIn) SessionError.notLoggedIn.message
  | failed (error : CallError) :
    Reports (.error (.call error)) ("Error: " ++ (SessionError.call error).message)
  | succeeded {text : String} (noError : ¬ IsErrorText text) : Reports (.ok ()) text

/-- A run stands where a step on the session left off, and waits for nothing. -/
structure Agrees (step : Session.Step) (run : Run) : Prop where
  caughtUp : run.CaughtUp
  session_eq : run.dialog.session = step.session
  reported : ∃ notice, run.dialog.notice = some notice ∧ Reports step.result notice.text

theorem not_isErrorText_of_success {notice : Notice}
    (success : notice ∈ [.loggedIn, .noToken, .profileLoaded]) : ¬ IsErrorText notice.text := by
  simp only [List.mem_cons, List.not_mem_nil, or_false] at success
  unfold IsErrorText
  rcases success with rfl | rfl | rfl <;> decide

theorem receive_ok_reports (dialog : Dialog) (call : Call) (body : Json) :
    ∃ notice, (dialog.receive (call.outcome (.ok body))).notice = some notice ∧
      Reports (.ok ()) notice.text := by
  cases call with
  | login email password =>
      simp only [Call.outcome, receive]
      split
      · exact ⟨.loggedIn, rfl, .succeeded (not_isErrorText_of_success (by simp))⟩
      · exact ⟨.noToken, rfl, .succeeded (not_isErrorText_of_success (by simp))⟩
  | profile token =>
      exact ⟨.profileLoaded, rfl, .succeeded (not_isErrorText_of_success (by simp))⟩

theorem receive_error (dialog : Dialog) (call : Call) (cause : Failure) :
    dialog.receive (call.outcome (.error cause)) =
      { dialog with
        inFlight := dialog.inFlight - 1
        notice := some (.failed (.call call.error)) } := by
  cases call <;> rfl

/-- What one errand does to a run, against the step on the session. -/
structure Follows [Url.Domains] (run : Run) (step : Session.Step) (next : Run) : Prop where
  client_eq : next.dialog.client = run.dialog.client
  agrees : Agrees step next
  arrived_eq : next.arrived = run.arrived ++ step.arrived.toList

section Perform
variable [Url.Domains] {run : Run} (h : run.CaughtUp)
include h

theorem CaughtUp.spawn_follows {call : Call} {dialog : Dialog} {delivery : Delivery}
    {step : Session.Step} {take : Json → Session} (client : dialog.client = run.dialog.client)
    (makes : step.Makes run.dialog.client call delivery dialog.session take)
    (takes : ∀ body, (dialog.receive (call.outcome (.ok body))).session = take body) :
    run.Follows step ((run.spawn call dialog).finish run.pending.length delivery) := by
  obtain ⟨events, finished⟩ := h.finish_spawn call dialog delivery
  rw [client] at finished
  rw [finished]
  refine ⟨?_, ⟨⟨h.pending_eq, h.replied_eq, h.channel_eq, ?_⟩, ?_, ?_⟩, ?_⟩
  · rw [receive_client, client]
  · simp [h.started_eq]
  · cases result : run.dialog.client.result call delivery with
    | ok body => rw [(makes.ok body result).2, takes]
    | error cause => rw [(makes.error cause result).2, receive_error]
  · cases result : run.dialog.client.result call delivery with
    | ok body =>
        rw [(makes.ok body result).1]
        exact receive_ok_reports dialog call body
    | error cause =>
        rw [(makes.error cause result).1, receive_error]
        exact ⟨.failed (.call call.error), rfl, .failed call.error⟩
  · simp only [arrived, receive_client, client, List.filterMap_append, makes.arrived_eq]
    cases reached : delivery.arrived? (run.dialog.client.request? call) <;> simp [reached]

theorem CaughtUp.perform_follows (errand : Errand) :
    run.Follows (run.dialog.session.perform run.dialog.client errand) (run.perform errand) := by
  cases errand with
  | login delivery =>
      have makes := run.dialog.session.login_makes run.dialog.client delivery
      exact h.spawn_follows rfl makes fun _ => receive_session _ _
  | fetch delivery =>
      by_cases held : run.dialog.session.canFetch = true
      · have makes := run.dialog.session.fetchProfile_makes run.dialog.client delivery held
        simp only [perform, startFetch, Session.perform, Dialog.startFetch, if_pos held]
        exact h.spawn_follows rfl makes fun _ => receive_session _ _
      · let refused : Run :=
          { run with dialog := { run.dialog with notice := some .notLoggedIn } }
        have caughtUp : refused.CaughtUp :=
          ⟨h.pending_eq, h.replied_eq, h.channel_eq, h.started_eq⟩
        have performed : run.perform (.fetch delivery) = refused := by
          simp only [perform, startFetch, Dialog.startFetch, if_neg held]
          exact caughtUp.finish delivery
        rw [performed]
        simp only [Session.perform, Session.fetchProfile, if_neg held]
        exact ⟨rfl, ⟨caughtUp, rfl, .notLoggedIn, rfl, .refused⟩, (List.append_nil _).symm⟩

theorem CaughtUp.performAll_follows (errands : List Errand) :
    List.Forall₂ Agrees (run.dialog.session.performAll run.dialog.client errands)
        (run.performAll errands) ∧
      ((run.performAll errands).getLastD run).arrived =
        run.arrived ++
          (run.dialog.session.performAll run.dialog.client errands).filterMap (·.arrived) := by
  induction errands generalizing run with
  | nil => exact ⟨.nil, (List.append_nil _).symm⟩
  | cons errand errands ih =>
      have follows := h.perform_follows errand
      obtain ⟨agree, requests⟩ := ih follows.agrees.caughtUp
      rw [follows.client_eq, follows.agrees.session_eq] at agree requests
      refine ⟨.cons follows.agrees agree, ?_⟩
      rw [performAll, List.getLastD_cons, requests, follows.arrived_eq, List.append_assoc]
      congr 1
      simp only [Session.performAll, List.filterMap_cons]
      cases (run.dialog.session.perform run.dialog.client errand).arrived <;> rfl

end Perform

/-- Whatever errands a session is given, the calls that run beside the dialog leave after each
errand the same session as the calls on the session itself, with a notice of the same result, and
have brought the same requests to the backend. -/
theorem performAll_agrees [Url.Domains] (dialog : Dialog) (errands : List Errand) :
    let steps := dialog.session.performAll dialog.client errands
    let runs := (around dialog).performAll errands
    List.Forall₂ Agrees steps runs ∧
      (runs.getLastD (around dialog)).arrived = steps.filterMap (·.arrived) :=
  (around_caughtUp dialog).performAll_follows errands

end Dialog.Run
end ProfileClient
