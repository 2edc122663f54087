import ProfileClient.Frame.Draw
import ProfileClient.Proofs.Dialog.Loading
import ProfileClient.Proofs.Session.Bearer
/-!
Runs of the dialog with different tokens. A run is followed by a second one in which logins hand out
other tokens: the two stay alike input by input, their calls pairwise and their results pairwise, so
they show, log and send the same but for the header of the fetches.
-/
namespace ProfileClient

/-- The answer 200 with the octets of a text that reads as a value brings that value. -/
theorem Response.content?_of_read {text : List Char} {json : Json}
    (read : Json.read text = .ok json) :
    Response.content? ⟨200, text.flatMap String.utf8EncodeChar, false⟩ = some json := by
  have success : 200 ≤ 200 ∧ 200 < 300 := by decide
  have bodied : 200 ≠ 204 := by decide
  exact content?_eq_some_iff.mpr ⟨success, bodied, rfl, text, rfl, read⟩

theorem Json.handing_sent_handsOut {token : String} (sendable : Sendable token) :
    (handing token).sent.HandsOut := by
  have read := (read_pretty (handing_orderly token) (handing_integral token)).1
  exact .answered (Response.content?_of_read read) rfl sendable

/-- The same outcome, or logins that hand out tokens which can be sent. -/
inductive Outcome.AlikeButToken : Outcome → Outcome → Prop
  | loggedIn {first second : Json} (responses : first.AlikeButToken second) :
    AlikeButToken (.loggedIn first) (.loggedIn second)
  | profile (profile : Json) : AlikeButToken (.profile profile) (.profile profile)
  | failed (error : SessionError) : AlikeButToken (.failed error) (.failed error)

namespace Dialog

theorem events_eq_of_alike {first second : Outcome} (outcomes : first.AlikeButToken second) :
    events first = events second := by
  cases outcomes with
  | loggedIn responses => simp only [events, responses.tokens.isEmpty_eq]
  | _ => rfl

def withToken (token : String) (dialog : Dialog) : Dialog :=
  { dialog with session := dialog.session.withToken token }

/-- Dialogs that differ at most in their tokens, which are alike. -/
inductive AlikeButToken (dialog : Dialog) : Dialog → Prop
  | intro {token : String} (tokens : TokensAlike dialog.session.token token) :
    AlikeButToken dialog (dialog.withToken token)

theorem AlikeButToken.refl (dialog : Dialog) : dialog.AlikeButToken dialog :=
  .intro (.refl dialog.session.token)

section WithToken
variable {dialog : Dialog} {token : String} (tokens : TokensAlike dialog.session.token token)
include tokens

theorem startFetch_withToken :
    (dialog.withToken token).startFetch = dialog.startFetch.withToken token := by
  have held : (dialog.withToken token).session.canFetch = dialog.session.canFetch :=
    Session.withToken_canFetch tokens
  unfold startFetch
  rw [held]
  split <;> rfl

theorem press_withToken (key : Key) :
    (dialog.withToken token).press key = (dialog.press key).withToken token := by
  cases key with
  | enter =>
      have fetch := startFetch_withToken tokens
      rcases dialog with ⟨client, session, quitting, focus, notice, inFlight, scroll, pane⟩
      cases focus with
      | profileButton => exact fetch
      | _ => rfl
  | backspace =>
      rw [press, press, edit_eq, edit_eq]
      rfl
  | char c =>
      rw [press, press, edit_eq, edit_eq]
      split <;> rfl
  | _ => rfl

theorem draw_withToken (size : Size) :
    Frame.draw (dialog.withToken token) size = Frame.draw dialog size := by
  have view : (dialog.withToken token).session.view = dialog.session.view :=
    Session.withToken_view tokens
  simp only [Frame.draw, Frame.drawForm, Frame.drawProfile, view]
  rfl

end WithToken

section Dialogs
variable {first second : Dialog} (dialogs : first.AlikeButToken second)
include dialogs

theorem AlikeButToken.sessions : first.session.AlikeButToken second.session := by
  cases dialogs with
  | intro tokens => exact .intro tokens

theorem AlikeButToken.eq_withToken : second = first.withToken second.session.token := by
  cases dialogs
  rfl

theorem AlikeButToken.client_eq : first.client = second.client := by
  cases dialogs
  rfl

theorem AlikeButToken.draw_eq (size : Size) :
    Frame.draw first size = Frame.draw second size := by
  cases dialogs with
  | intro tokens => exact (draw_withToken tokens size).symm

theorem AlikeButToken.call?_alike (key : Key) :
    Option.Rel Call.AlikeButToken (first.call? key) (second.call? key) := by
  cases dialogs with
  | @intro token tokens =>
      have held : (first.withToken token).session.canFetch = first.session.canFetch :=
        Session.withToken_canFetch tokens
      have focus : (first.withToken token).focus = first.focus := rfl
      unfold call?
      rw [held, focus]
      cases key with
      | enter =>
          cases first.focus with
          | loginButton => exact .some (.login ..)
          | profileButton =>
              dsimp only
              split
              · exact .some (.profile tokens)
              · exact .none
          | _ => exact .none
      | _ => exact .none

theorem AlikeButToken.press (key : Key) :
    (first.press key).AlikeButToken (second.press key) := by
  cases dialogs with
  | intro tokens =>
      rw [press_withToken tokens]
      exact .intro ((press_token key first).symm ▸ tokens)

theorem AlikeButToken.resize (pane : Size) :
    (first.resize pane).AlikeButToken (second.resize pane) := by
  cases dialogs with
  | intro tokens => exact .intro tokens

theorem AlikeButToken.receive {outcome other : Outcome} (outcomes : outcome.AlikeButToken other) :
    (first.receive outcome).AlikeButToken (second.receive other) := by
  cases dialogs with
  | @intro token tokens =>
      cases outcomes with
      | @loggedIn response handed responses =>
          have sessions : (first.session.applyLogin response).AlikeButToken
              ((first.withToken token).session.applyLogin handed) := .intro responses.tokens
          simp only [Dialog.receive, sessions.canFetch_eq]
          split <;> exact .intro responses.tokens
      | profile profile => exact .intro tokens
      | failed error => exact .intro tokens

end Dialogs

structure Task.AlikeButToken (first second : Task) : Prop where
  number_eq : first.number = second.number
  calls : first.call.AlikeButToken second.call

/-- Deliveries that two tasks may have: the same, or such as hand out tokens if both are logins. -/
inductive Task.Answered (task : Task) : Delivery → Delivery → Prop
  | same (delivery : Delivery) : Answered task delivery delivery
  | login {email password : String} {first second : Delivery}
      (call : task.call = .login email password) (deliveries : first.AlikeButToken second) :
    Answered task first second

/-- Replies that bring the dialog the same but for a token. -/
def Reply.AlikeButToken [Url.Domains] (client : Client) (first second : Reply) : Prop :=
  (first.outcome client).AlikeButToken (second.outcome client)

section Replies
variable (client : Client) {first second : Task} (tasks : first.AlikeButToken second)
  {delivery other : Delivery} (deliveries : first.Answered delivery other)
include tasks deliveries

theorem closing_eq_of_answered [Url.Domains] :
    Client.closing first.call (Reply.result client ⟨first, delivery⟩) =
      Client.closing second.call (Reply.result client ⟨second, other⟩) := by
  obtain ⟨number, call⟩ := first
  obtain ⟨number', call'⟩ := second
  obtain ⟨-, calls⟩ := tasks
  dsimp only [Reply.result] at calls ⊢
  cases deliveries with
  | same => rw [calls.closing_eq, calls.result_eq]
  | login isLogin alike =>
      cases isLogin
      cases calls
      rcases client.result_login_alike _ _ alike with
        ⟨cause, failed, failed'⟩ | ⟨json, handed, brought, brought', -⟩
      · rw [failed, failed']
      · rw [brought, brought']
        rfl

theorem outcome_alike_of_answered [Url.Domains] :
    Reply.AlikeButToken client ⟨first, delivery⟩ ⟨second, other⟩ := by
  obtain ⟨number, call⟩ := first
  obtain ⟨number', call'⟩ := second
  obtain ⟨-, calls⟩ := tasks
  dsimp only [Reply.AlikeButToken, Reply.outcome, Reply.result] at calls ⊢
  cases deliveries with
  | same =>
      rw [calls.result_eq]
      cases client.result call delivery with
      | error cause => cases calls <;> exact .failed _
      | ok json =>
          cases calls with
          | login email password => exact .loggedIn (.inl rfl)
          | profile tokens => exact .profile json
  | login isLogin alike =>
      cases isLogin
      cases calls
      rcases client.result_login_alike _ _ alike with
        ⟨cause, failed, failed'⟩ | ⟨json, handed, brought, brought', responses⟩
      · rw [failed, failed']
        exact .failed _
      · rw [brought, brought']
        exact .loggedIn responses

end Replies

section Lists
variable {α β : Type} {R : α → β → Prop} {first : List α} {second : List β}

theorem rel_getElem? (related : List.Forall₂ R first second) (i : Nat) :
    Option.Rel R first[i]? second[i]? := by
  induction related generalizing i with
  | nil => exact .none
  | cons head _ ih =>
      cases i with
      | zero => exact .some head
      | succ i => simpa using ih i

theorem rel_eraseIdx (related : List.Forall₂ R first second) (i : Nat) :
    List.Forall₂ R (first.eraseIdx i) (second.eraseIdx i) := by
  rw [List.eraseIdx_eq_take_drop_succ, List.eraseIdx_eq_take_drop_succ]
  exact List.rel_append (List.forall₂_take i related) (List.forall₂_drop (i + 1) related)

end Lists

namespace Run
variable [Url.Domains]

/-- Runs that differ at most in tokens: those held, those in calls, and those that logins
brought. -/
structure AlikeButToken (first second : Run) : Prop where
  dialogs : first.dialog.AlikeButToken second.dialog
  started : List.Forall₂ Call.AlikeButToken first.started second.started
  pending : List.Forall₂ Task.AlikeButToken first.pending second.pending
  replied : List.Forall₂ (Reply.AlikeButToken first.dialog.client) first.replied second.replied
  channel : List.Forall₂ (Reply.AlikeButToken first.dialog.client) first.channel second.channel
  events_eq : first.events = second.events

theorem start_alike (settings : Settings) : (start settings).AlikeButToken (start settings) :=
  ⟨.refl _, .nil, .nil, .nil, .nil, rfl⟩

section Steps
variable {first second : Run} (runs : first.AlikeButToken second)
include runs

theorem AlikeButToken.press (key : Key) : (first.press key).AlikeButToken (second.press key) := by
  have calls := runs.dialogs.call?_alike key
  have client := runs.dialogs.client_eq
  have kept : (first.dialog.press key).client = first.dialog.client := press_client key first.dialog
  have replied := runs.replied
  have channel := runs.channel
  rw [← kept] at replied channel
  unfold Run.press
  generalize first.dialog.call? key = call at calls ⊢
  generalize second.dialog.call? key = other at calls ⊢
  cases calls with
  | none =>
      exact ⟨runs.dialogs.press key, runs.started, runs.pending, replied, channel, runs.events_eq⟩
  | some alike =>
      refine ⟨runs.dialogs.press key, ?_, ?_, replied, channel, ?_⟩
      · exact List.rel_append runs.started (.cons alike .nil)
      · exact List.rel_append runs.pending (.cons ⟨runs.started.length_eq, alike⟩ .nil)
      · dsimp only
        rw [runs.events_eq, ← client, alike.opening_eq]

theorem AlikeButToken.answer {place : Nat} {delivery other : Delivery}
    (deliveries : ∀ task, first.pending[place]? = some task → task.Answered delivery other) :
    (first.answer place delivery).AlikeButToken (second.answer place other) := by
  have tasks := rel_getElem? runs.pending place
  have client := runs.dialogs.client_eq
  unfold Run.answer
  generalize first.pending[place]? = task at tasks deliveries ⊢
  generalize second.pending[place]? = task' at tasks ⊢
  cases tasks with
  | none => exact runs
  | some alike =>
      have answered := deliveries _ rfl
      have replies := outcome_alike_of_answered first.dialog.client alike answered
      refine { runs with
        pending := rel_eraseIdx runs.pending place
        replied := List.rel_append runs.replied (.cons replies .nil)
        events_eq := ?_ }
      dsimp only
      rw [runs.events_eq, ← client, closing_eq_of_answered _ alike answered]

theorem AlikeButToken.post (place : Nat) :
    (first.post place).AlikeButToken (second.post place) := by
  have replies := rel_getElem? runs.replied place
  unfold Run.post
  generalize first.replied[place]? = reply at replies ⊢
  generalize second.replied[place]? = other at replies ⊢
  cases replies with
  | none => exact runs
  | some alike =>
      dsimp only
      rw [← runs.channel.length_eq]
      split
      · exact { runs with
          replied := rel_eraseIdx runs.replied place
          channel := List.rel_append runs.channel (.cons alike .nil) }
      · exact runs

theorem AlikeButToken.take : first.take.AlikeButToken second.take := by
  have waiting := runs.channel
  have client := runs.dialogs.client_eq
  unfold Run.take
  generalize first.channel = replies at waiting ⊢
  generalize second.channel = others at waiting ⊢
  cases waiting with
  | nil => exact runs
  | @cons reply other _ _ alike rest =>
      rw [Reply.AlikeButToken, client] at alike
      have kept := receive_client (reply.outcome second.dialog.client) first.dialog
      have replied := runs.replied
      rw [← kept] at replied rest
      dsimp only
      rw [client]
      refine ⟨runs.dialogs.receive alike, runs.started, runs.pending, replied, rest, ?_⟩
      dsimp only
      rw [runs.events_eq, events_eq_of_alike alike]

end Steps

end Run

/-- The same input, or two answers to one pending task that it may have in place of each other. -/
inductive Input.AlikeButToken (run : Run) : Input → Input → Prop
  | same (input : Input) : AlikeButToken run input input
  | answer {place : Nat} {task : Task} {delivery other : Delivery}
      (found : run.pending[place]? = some task) (deliveries : task.Answered delivery other) :
    AlikeButToken run (.answer place delivery) (.answer place other)

namespace Run
variable [Url.Domains]

/-- Two lists of inputs that differ, along a run, only in the tokens that logins hand out. -/
def AnsweredAlike (run : Run) : List Input → List Input → Prop
  | [], [] => True
  | first :: inputs, second :: others =>
    first.AlikeButToken run second ∧ (run.step first).AnsweredAlike inputs others
  | _, _ => False

structure ShowsAlikeButToken (first second : Run) : Prop where
  focus_eq : first.dialog.focus = second.dialog.focus
  notice_eq : first.dialog.notice = second.dialog.notice
  inFlight_eq : first.dialog.inFlight = second.dialog.inFlight
  quitting_eq : first.dialog.quitting = second.dialog.quitting
  scroll_eq : first.dialog.scroll = second.dialog.scroll
  view_eq : first.dialog.session.view = second.dialog.session.view
  frame_eq : ∀ size, Frame.draw first.dialog size = Frame.draw second.dialog size
  events_eq : first.events = second.events
  requests_alike :
    List.Forall₂ (Option.Rel Request.AlikeButToken) first.requests second.requests

section Runs
variable {first second : Run} (runs : first.AlikeButToken second)
include runs

theorem AlikeButToken.requests_alike :
    List.Forall₂ (Option.Rel Request.AlikeButToken) first.requests second.requests := by
  rw [requests, requests, ← runs.dialogs.client_eq, List.forall₂_map_left_iff,
    List.forall₂_map_right_iff]
  exact runs.started.imp fun _ _ alike => alike.request_alike first.dialog.client

theorem AlikeButToken.showsAlike : first.ShowsAlikeButToken second := by
  have same := runs.dialogs.eq_withToken
  exact {
    focus_eq := (congrArg Dialog.focus same).symm
    notice_eq := (congrArg Dialog.notice same).symm
    inFlight_eq := (congrArg Dialog.inFlight same).symm
    quitting_eq := (congrArg Dialog.quitting same).symm
    scroll_eq := (congrArg Dialog.scroll same).symm
    view_eq := runs.dialogs.sessions.view_eq
    frame_eq := runs.dialogs.draw_eq
    events_eq := runs.events_eq
    requests_alike := runs.requests_alike }

theorem AlikeButToken.step {input other : Input} (alike : input.AlikeButToken first other) :
    (first.step input).AlikeButToken (second.step other) := by
  cases alike with
  | same input =>
      cases input with
      | press key => exact runs.press key
      | resize pane => exact { runs with dialogs := runs.dialogs.resize pane }
      | answer place delivery => exact runs.answer fun task _ => .same delivery
      | post place => exact runs.post place
      | take => exact runs.take
  | answer found deliveries =>
      refine runs.answer fun task held => ?_
      cases found.symm.trans held
      exact deliveries

theorem AlikeButToken.replay {inputs others : List Input}
    (answered : first.AnsweredAlike inputs others) (n : Nat) :
    (first.replay (inputs.take n)).AlikeButToken (second.replay (others.take n)) := by
  induction n generalizing first second inputs others with
  | zero => exact runs
  | succ n ih =>
      cases inputs with
      | nil =>
          cases others with
          | nil => exact runs
          | cons other others => cases answered
      | cons input inputs =>
          cases others with
          | nil => cases answered
          | cons other others => exact ih (runs.step answered.1) answered.2

end Runs

end Run

/-- What the request that the enter key starts says in its header: on the button for the profile it
names the token held. -/
def authorization? (dialog : Dialog) : Option String :=
  if dialog.focus = .profileButton then some ("Bearer " ++ dialog.session.token) else none

theorem Run.Asks.authorization_eq [Url.Domains] {run : Run} {backend client : Client} {call : Call}
    (asks : run.Asks backend call) {request : Request}
    (sent : client.request? call = some request) :
    request.authorization = run.dialog.authorization? := by
  cases call with
  | login email password =>
      rw [(Client.request?_login sent).2.1, authorization?, asks.1]
      rfl
  | profile token =>
      obtain ⟨focus, rfl, -⟩ := asks
      rw [(Client.request?_profile sent).2.1, authorization?, if_pos focus]

theorem Run.exists_press_of_sent [Url.Domains] (settings : Settings) (inputs : List Input)
    {number : Nat} {request : Request}
    (sent : ((start settings).replay inputs).requests[number]? = some (some request)) :
    ∃ before after, inputs = before ++ .press .enter :: after ∧
      ((start settings).replay before).started.length = number ∧
      request.authorization = ((start settings).replay before).dialog.authorization? := by
  rw [requests, List.getElem?_map, Option.map_eq_some_iff] at sent
  obtain ⟨call, started, sent⟩ := sent
  obtain ⟨before, after, split, length, asks⟩ := exists_press_of_started settings inputs started
  exact ⟨before, after, split, length, asks.authorization_eq sent⟩

end Dialog

/-- The token reaches one header only. Operations on a session, and inputs to a run of the dialog,
that differ in nothing but the tokens which logins hand out return, show and log the same after
every step, and send the same but for the authorization; that of a fetch is the token held at that
moment, and a login has none. -/
theorem token_confined [Url.Domains] (client : Client) (session : Session)
    {operations others : List Session.Operation}
    (done : List.Forall₂ Session.Operation.AlikeButToken operations others) (settings : Settings)
    {inputs inputs' : List Dialog.Input}
    (given : (Dialog.Run.start settings).AnsweredAlike inputs inputs') :
    (List.Forall₂ Session.Step.ShowsAlike (session.operateAll client operations)
        (session.operateAll client others) ∧
      ∀ (before : Session) (operation : Session.Operation) (request : Request),
        (before.operate client operation).arrived = some request →
        request.authorization = operation.authorization? before) ∧
      (∀ n, ((Dialog.Run.start settings).replay (inputs.take n)).ShowsAlikeButToken
        ((Dialog.Run.start settings).replay (inputs'.take n))) ∧
      ∀ (inputs : List Dialog.Input) (number : Nat) (request : Request),
        ((Dialog.Run.start settings).replay inputs).requests[number]? = some (some request) →
        ∃ before after, inputs = before ++ .press .enter :: after ∧
          ((Dialog.Run.start settings).replay before).started.length = number ∧
          request.authorization =
            ((Dialog.Run.start settings).replay before).dialog.authorization? := by
  have steps := (Session.AlikeButToken.refl session).operateAll client done
  have start := Dialog.Run.start_alike settings
  refine ⟨⟨steps.imp fun _ _ alike => alike.showsAlike, ?_⟩, ?_, ?_⟩
  · intro before operation request sent
    exact Session.operate_authorization sent
  · intro n
    exact (start.replay given n).showsAlike
  · intro inputs number request sent
    exact Dialog.Run.exists_press_of_sent settings inputs sent

attribute [local instance] Url.Domains.ascii

/-- A login and a fetch with the token A and with the token B, on a session and in the dialog. -/
theorem token_confined_two_tokens :
    let client : Client := ⟨"http://localhost:8000", none, none⟩
    let session := Session.new "ada@example.org" "secret"
    let operations token := [.login (Json.handing token).sent, .fetch Json.null.sent]
    let settings : Settings :=
      ⟨"http://localhost:8000", some "ada@example.org", none, none, some "secret"⟩
    let inputs token := Dialog.Run.loading (Json.handing token).sent Json.null.sent
    List.Forall₂ Session.Step.ShowsAlike (session.operateAll client (operations "A"))
        (session.operateAll client (operations "B")) ∧
      ((Dialog.Run.start settings).replay ((inputs "A").take 9)).ShowsAlikeButToken
        ((Dialog.Run.start settings).replay ((inputs "B").take 9)) := by
  intro client session operations settings inputs
  have handed : (Json.handing "A").sent.AlikeButToken (Json.handing "B").sent :=
    .inr ⟨Json.handing_sent_handsOut ⟨by decide, by decide⟩,
      Json.handing_sent_handsOut ⟨by decide, by decide⟩⟩
  have done : List.Forall₂ Session.Operation.AlikeButToken (operations "A") (operations "B") :=
    .cons (.login handed) (.cons (.fetch _) .nil)
  have given : (Dialog.Run.start settings).AnsweredAlike (inputs "A") (inputs "B") :=
    ⟨.same _, .same _, .answer rfl (.login rfl handed), .same _, .same _, .same _, .same _, .same _,
      .same _, trivial⟩
  obtain ⟨⟨steps, -⟩, shows, -⟩ := token_confined client session done settings given
  exact ⟨steps, shows 9⟩

end ProfileClient
