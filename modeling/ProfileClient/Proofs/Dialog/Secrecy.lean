import Mathlib.Data.List.Forall2
import ProfileClient.Frame.Draw
import ProfileClient.Proofs.Dialog.Masking
/-!
The password leaves a run only in the bodies of logins. Two runs that differ only in the characters
of their passwords are the same run once these are masked, and all that a run shows, logs and sends
besides that one member can be read off the masked run.
-/
namespace ProfileClient

def Json.without (name : String) : Json → Json
  | .object members => .object (members.filter (·.1 ≠ name))
  | json => json

/-- Requests that differ at most in the value of one member of their bodies. -/
structure Request.AlikeButPassword (first second : Request) : Prop where
  method_eq : first.method = second.method
  url_eq : first.url = second.url
  credentials_eq : first.credentials = second.credentials
  authorization_eq : first.authorization = second.authorization
  contentType_eq : first.contentType = second.contentType
  body_alike : first.body = second.body ∨ ∃ json other : Json, first.body = json.compact ∧
    second.body = other.compact ∧ json.without "password" = other.without "password"

theorem Client.loginBody_without (client : Client) (email password : String) :
    (client.loginBody email password).without "password" =
      (client.loginBody email "").without "password" := by
  simp [loginBody, Json.without]

theorem Request.AlikeButPassword.refl (request : Request) : request.AlikeButPassword request :=
  ⟨rfl, rfl, rfl, rfl, rfl, .inl rfl⟩

theorem Client.request?_login_alike [Url.Domains] (client : Client)
    (email password other : String) :
    Option.Rel Request.AlikeButPassword (client.request? (.login email password))
      (client.request? (.login email other)) := by
  have address : client.address (.login email other) = client.address (.login email password) := rfl
  unfold request?
  rw [address]
  cases Url.read? (client.address (.login email password)).toList with
  | none => exact .none
  | some url =>
      refine .some ⟨rfl, rfl, rfl, rfl, rfl, .inr ⟨_, _, rfl, rfl, ?_⟩⟩
      rw [loginBody_without, ← loginBody_without client email other]

/-- Calls that are the same once masked have requests that differ at most in the password. -/
theorem Client.request?_alike [Url.Domains] (client : Client) {first second : Call}
    (same : first.masked = second.masked) :
    Option.Rel Request.AlikeButPassword (client.request? first) (client.request? second) := by
  cases first with
  | login email password =>
      cases second with
      | login email' other =>
          obtain ⟨rfl, -⟩ := Call.login.inj same
          exact client.request?_login_alike email password other
      | profile token => cases same
  | profile token =>
      cases second with
      | login email password => cases same
      | profile token' =>
          cases same
          cases client.request? (.profile token) with
          | none => exact .none
          | some request => exact .some (.refl request)

@[simp]
theorem Frame.draw_masked (dialog : Dialog) (size : Size) :
    draw dialog.masked size = draw dialog size := by
  have status : drawStatus dialog.masked = drawStatus dialog := by
    funext area canvas
    simp [drawStatus]
  simp [draw, drawTitle, titleLine, drawForm, drawProfile, Window.of, status]

/-- Settings that differ at most in the characters of the password. -/
structure Settings.AlikeButPassword (first second : Settings) : Prop where
  baseUrl_eq : first.baseUrl = second.baseUrl
  email_eq : first.email = second.email
  orgId_eq : first.orgId = second.orgId
  timeoutSecs_eq : first.timeoutSecs = second.timeoutSecs
  passwordLength_eq : (first.password.getD "").length = (second.password.getD "").length

namespace Dialog

/-- The same input, or two characters typed into the password. -/
def Input.AlikeButPassword (focus : Focus) (first second : Input) : Prop :=
  first = second ∨
    focus = .password ∧ ∃ c d : Char,
      first = .press (.char c) ∧ second = .press (.char d) ∧ isTypable c ∧ isTypable d

theorem Input.AlikeButPassword.masked_eq {focus : Focus} {first second : Input}
    (alike : first.AlikeButPassword focus second) : first.masked focus = second.masked focus := by
  rcases alike with rfl | ⟨rfl, c, d, rfl, rfl, typable, typable'⟩
  · rfl
  · simp [masked, maskedKey, typable, typable']

namespace Run

theorem start_masked_eq {first second : Settings} (alike : first.AlikeButPassword second) :
    (start first).masked = (start second).masked := by
  have password := asterisks_eq_iff.mpr alike.passwordLength_eq
  obtain ⟨baseUrl, email, orgId, timeoutSecs, -⟩ := alike
  simp [start, masked, Dialog.start, Dialog.masked, Session.new, Session.masked,
    Settings.clientOptions, baseUrl, email, orgId, timeoutSecs, password]

/-- Two lists of inputs that differ, along a run, only in what is typed into the password. -/
def TypedAlike [Url.Domains] (run : Run) : List Input → List Input → Prop
  | [], [] => True
  | first :: inputs, second :: others =>
    first.AlikeButPassword run.dialog.focus second ∧ (run.step first).TypedAlike inputs others
  | _, _ => False

/-- Two runs that show, log and send the same besides the password in the bodies of logins. -/
structure ShowsAlike [Url.Domains] (first second : Run) : Prop where
  focus_eq : first.dialog.focus = second.dialog.focus
  notice_eq : first.dialog.notice = second.dialog.notice
  inFlight_eq : first.dialog.inFlight = second.dialog.inFlight
  quitting_eq : first.dialog.quitting = second.dialog.quitting
  email_eq : first.dialog.session.email = second.dialog.session.email
  token_eq : first.dialog.session.token = second.dialog.session.token
  profile_eq : first.dialog.session.profile = second.dialog.session.profile
  scroll_eq : first.dialog.scroll = second.dialog.scroll
  view_eq : first.dialog.session.view = second.dialog.session.view
  frame_eq : ∀ size, Frame.draw first.dialog size = Frame.draw second.dialog size
  events_eq : first.events = second.events
  requests_alike :
    List.Forall₂ (Option.Rel Request.AlikeButPassword) first.requests second.requests

section Masked
variable [Url.Domains] {first second : Run}

theorem requests_alike_of_masked_eq (same : first.masked = second.masked) :
    List.Forall₂ (Option.Rel Request.AlikeButPassword) first.requests second.requests := by
  have client : first.dialog.client = second.dialog.client :=
    congrArg (fun run => run.dialog.client) same
  have started : first.started.map Call.masked = second.started.map Call.masked :=
    congrArg started same
  rw [← List.forall₂_eq_eq_eq, List.forall₂_map_left_iff, List.forall₂_map_right_iff] at started
  rw [requests, requests, ← client, List.forall₂_map_left_iff, List.forall₂_map_right_iff]
  exact started.imp fun _ _ => first.dialog.client.request?_alike

/-- All that is shown, logged and sent, but for the password, can be read off the masked run. -/
theorem showsAlike_of_masked_eq (same : first.masked = second.masked) :
    first.ShowsAlike second := by
  have dialog : first.dialog.masked = second.dialog.masked := congrArg dialog same
  have session : first.dialog.session.masked = second.dialog.session.masked :=
    congrArg Dialog.session dialog
  exact {
    focus_eq := by simpa using congrArg Dialog.focus dialog
    notice_eq := by simpa using congrArg Dialog.notice dialog
    inFlight_eq := by simpa using congrArg Dialog.inFlight dialog
    quitting_eq := by simpa using congrArg Dialog.quitting dialog
    email_eq := by simpa using congrArg Session.email session
    token_eq := by simpa using congrArg Session.token session
    profile_eq := by simpa using congrArg Session.profile session
    scroll_eq := by simpa using congrArg Dialog.scroll dialog
    view_eq := by simpa using congrArg Session.view session
    frame_eq := fun size => by simpa using congrArg (Frame.draw · size) dialog
    events_eq := by simpa using congrArg Run.events same
    requests_alike := requests_alike_of_masked_eq same }

theorem step_masked_eq (same : first.masked = second.masked) {input other : Input}
    (alike : input.AlikeButPassword first.dialog.focus other) :
    (first.step input).masked = (second.step other).masked := by
  have focus : first.dialog.focus = second.dialog.focus :=
    congrArg (fun run => run.dialog.focus) same
  rw [step_masked, step_masked, same, alike.masked_eq, focus]

theorem replay_masked_eq {inputs others : List Input} (same : first.masked = second.masked)
    (typed : first.TypedAlike inputs others) (n : Nat) :
    (first.replay (inputs.take n)).masked = (second.replay (others.take n)).masked := by
  induction n generalizing first second inputs others with
  | zero => exact same
  | succ n ih =>
      cases inputs with
      | nil =>
          cases others with
          | nil => exact same
          | cons other others => cases typed
      | cons input inputs =>
          cases others with
          | nil => cases typed
          | cons other others => exact ih (step_masked_eq same typed.1) typed.2

end Masked

/-- Two runs from settings and inputs that differ only in the characters of the password show and
log the same after every input, and what they send differs only in the password in the bodies of
logins. -/
theorem replay_showsAlike [Url.Domains] {first second : Settings}
    (alike : first.AlikeButPassword second)
    {inputs others : List Input} (typed : (start first).TypedAlike inputs others) (n : Nat) :
    ((start first).replay (inputs.take n)).ShowsAlike ((start second).replay (others.take n)) :=
  showsAlike_of_masked_eq (replay_masked_eq (start_masked_eq alike) typed n)

def settingsWith (password : String) : Settings :=
  ⟨Settings.defaultBaseUrl, some "ada@example.org", none, none, some password⟩

/-- A character is typed, deleted and typed again, and a login is sent that nobody answers. -/
def loginTyping (c : Char) : List Input :=
  [.press (.char c), .press .backspace, .press (.char c), .press .enter, .press .enter,
    .answer 0 .dropped, .post 0, .take]

attribute [local instance] Url.Domains.ascii

theorem replay_showsAlike_secret_hidden :
    (settingsWith "secre").AlikeButPassword (settingsWith "hidde") ∧
      (start (settingsWith "secre")).TypedAlike (loginTyping 't') (loginTyping 'n') ∧
      ((start (settingsWith "secre")).replay ((loginTyping 't').take 8)).ShowsAlike
        ((start (settingsWith "hidde")).replay ((loginTyping 'n').take 8)) := by
  have alike : (settingsWith "secre").AlikeButPassword (settingsWith "hidde") :=
    ⟨rfl, rfl, rfl, rfl, rfl⟩
  have typed : (Input.press (.char 't')).AlikeButPassword .password (.press (.char 'n')) :=
    .inr ⟨rfl, 't', 'n', rfl, rfl, by decide, by decide⟩
  have inputs : (start (settingsWith "secre")).TypedAlike (loginTyping 't') (loginTyping 'n') :=
    ⟨typed, .inl rfl, typed, .inl rfl, .inl rfl, .inl rfl, .inl rfl, .inl rfl, trivial⟩
  exact ⟨alike, inputs, replay_showsAlike alike inputs 8⟩

end Run
end Dialog
end ProfileClient
