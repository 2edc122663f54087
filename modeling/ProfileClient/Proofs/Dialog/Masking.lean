import Mathlib.Data.List.InsertIdx
import ProfileClient.Proofs.Dialog.Effects
/-!
Runs with asterisks in place of passwords. Masking goes through calls, sessions, dialogs, tasks and
replies, and it commutes with each input: a run with masked passwords is again a run.
-/
namespace ProfileClient

def asterisks (text : String) : String := String.ofList (List.replicate text.length '*')

@[simp]
theorem length_asterisks (text : String) : (asterisks text).length = text.length := by
  simp [asterisks]

theorem asterisks_eq_iff {first second : String} :
    asterisks first = asterisks second ↔ first.length = second.length := by
  constructor
  · intro same
    have lengths := congrArg String.length same
    rwa [length_asterisks, length_asterisks] at lengths
  · intro same
    rw [asterisks, asterisks, same]

theorem asterisks_push (text : String) (c : Char) :
    asterisks (text.push c) = (asterisks text).push '*' := by
  apply String.toList_injective
  simp [asterisks, List.replicate_succ']

theorem asterisks_withoutLast (text : String) :
    asterisks (Dialog.withoutLast text) = Dialog.withoutLast (asterisks text) := by
  apply String.toList_injective
  simp [asterisks, Dialog.withoutLast, String.length_toList]

namespace Call

def masked : Call → Call
  | .login email password => .login email (asterisks password)
  | .profile token => .profile token

@[simp]
theorem path_masked (call : Call) : call.masked.path = call.path := by
  cases call <;> rfl

@[simp]
theorem outcome_masked (call : Call) (result : Except Failure Json) :
    call.masked.outcome result = call.outcome result := by
  cases call <;> cases result <;> rfl

end Call

namespace Client
variable (client : Client) (call : Call)

@[simp]
theorem address_masked : client.address call.masked = client.address call := by
  simp [address]

@[simp]
theorem opening_masked : client.opening call.masked = client.opening call := by
  cases call <;> rfl

@[simp]
theorem closing_masked (result : Except Failure Json) :
    closing call.masked result = closing call result := by
  cases call <;> cases result <;> rfl

theorem isSome_request?_masked [Url.Domains] :
    (client.request? call.masked).isSome = (client.request? call).isSome := by
  unfold request?
  rw [address_masked]
  cases call with
  | login email password =>
      cases Url.read? (client.address (.login email password)).toList with
      | none => rfl
      | some url => simp only [Call.masked, Option.isSome_some]
  | profile token => simp only [Call.masked]

@[simp]
theorem result_masked [Url.Domains] (delivery : Delivery) :
    client.result call.masked delivery = client.result call delivery := by
  have sendable := isSome_request?_masked client call
  unfold result
  rw [address_masked]
  cases first : client.request? call.masked <;> cases second : client.request? call
  · rfl
  · simp [first, second] at sendable
  · simp [first, second] at sendable
  · cases delivery <;> rfl

end Client

namespace Session

def masked (session : Session) : Session :=
  { session with password := asterisks session.password }

@[simp]
theorem masked_email (session : Session) : session.masked.email = session.email := rfl

@[simp]
theorem masked_token (session : Session) : session.masked.token = session.token := rfl

@[simp]
theorem masked_profile (session : Session) : session.masked.profile = session.profile := rfl

@[simp]
theorem masked_canFetch (session : Session) : session.masked.canFetch = session.canFetch := rfl

@[simp]
theorem view_masked (session : Session) : session.masked.view = session.view := by
  simp [view, masked, canFetch, profileText]

end Session

namespace Dialog

def masked (dialog : Dialog) : Dialog := { dialog with session := dialog.session.masked }

section Fields
variable (dialog : Dialog)

@[simp]
theorem masked_client : dialog.masked.client = dialog.client := rfl

@[simp]
theorem masked_session : dialog.masked.session = dialog.session.masked := rfl

@[simp]
theorem masked_quitting : dialog.masked.quitting = dialog.quitting := rfl

@[simp]
theorem masked_focus : dialog.masked.focus = dialog.focus := rfl

@[simp]
theorem masked_notice : dialog.masked.notice = dialog.notice := rfl

@[simp]
theorem masked_inFlight : dialog.masked.inFlight = dialog.inFlight := rfl

@[simp]
theorem masked_scroll : dialog.masked.scroll = dialog.scroll := rfl

@[simp]
theorem masked_rows (width : Nat) : dialog.masked.rows width = dialog.rows width := rfl

end Fields

/-- The key that has the same effect where the password is masked. -/
def maskedKey (focus : Focus) : Key → Key
  | .char c => if focus = .password ∧ isTypable c then .char '*' else .char c
  | key => key

theorem startFetch_masked (dialog : Dialog) :
    dialog.startFetch.masked = dialog.masked.startFetch := by
  unfold startFetch
  rw [masked_session, Session.masked_canFetch]
  cases dialog.session.canFetch with
  | false => rfl
  | true => rfl

theorem call?_masked (dialog : Dialog) (key : Key) :
    dialog.masked.call? (maskedKey dialog.focus key) = (dialog.call? key).map Call.masked := by
  cases key with
  | enter =>
      change dialog.masked.call? .enter = _
      unfold call?
      rw [masked_focus, masked_session, Session.masked_canFetch]
      cases dialog.focus with
      | profileButton => cases dialog.session.canFetch <;> rfl
      | _ => rfl
  | char c =>
      simp only [maskedKey]
      split <;> rfl
  | _ => rfl

theorem edit_masked {change : String → String} {maskedChange : String → String} (dialog : Dialog)
    (email : dialog.focus = .email → maskedChange = change)
    (password : dialog.focus = .password →
      ∀ text, asterisks (change text) = maskedChange (asterisks text)) :
    (dialog.edit change).masked = dialog.masked.edit maskedChange := by
  rcases dialog with ⟨client, session, quitting, focus, notice, inFlight, scroll, pane⟩
  cases focus with
  | email => rw [email rfl]; rfl
  | password =>
      simp only [edit, masked, Session.masked, password rfl]
  | loginButton => rfl
  | profileButton => rfl

theorem press_masked (dialog : Dialog) (key : Key) :
    (dialog.press key).masked = dialog.masked.press (maskedKey dialog.focus key) := by
  cases key with
  | enter =>
      change dialog.enter.masked = dialog.masked.enter
      rcases dialog with ⟨client, session, quitting, focus, notice, inFlight, scroll, pane⟩
      cases focus with
      | profileButton => exact startFetch_masked _
      | _ => rfl
  | backspace => exact edit_masked dialog (fun _ => rfl) (fun _ => asterisks_withoutLast)
  | char c =>
      by_cases typable : isTypable c
      · by_cases focus : dialog.focus = .password
        · have asterisk : isTypable '*' = true := by decide
          simp only [maskedKey, press, focus, typable, asterisk, and_self, if_true]
          exact edit_masked dialog (fun email => by simp [focus] at email)
            (fun _ text => asterisks_push text c)
        · simp only [maskedKey, press, focus, typable, false_and, if_false, if_true]
          exact edit_masked dialog (fun _ => rfl) (fun password => absurd password focus)
      · simp [maskedKey, press, typable]
  | _ => rfl

theorem receive_masked (dialog : Dialog) (outcome : Outcome) :
    (dialog.receive outcome).masked = dialog.masked.receive outcome := by
  cases outcome with
  | loggedIn response =>
      have same : (dialog.masked.session.applyLogin response).canFetch =
          (dialog.session.applyLogin response).canFetch := rfl
      simp only [receive, same]
      split <;> rfl
  | profile body => rfl
  | failed error => rfl

def Task.masked (task : Task) : Task := { task with call := task.call.masked }

def Reply.masked (reply : Reply) : Reply := { reply with task := reply.task.masked }

theorem Reply.result_masked [Url.Domains] (client : Client) (reply : Reply) :
    reply.masked.result client = reply.result client :=
  client.result_masked reply.task.call reply.delivery

theorem Reply.outcome_masked [Url.Domains] (client : Client) (reply : Reply) :
    reply.masked.outcome client = reply.outcome client := by
  unfold outcome
  rw [result_masked]
  exact Call.outcome_masked _ _

def Input.masked (focus : Focus) : Input → Input
  | .press key => .press (maskedKey focus key)
  | input => input

namespace Run

def masked (run : Run) : Run where
  dialog := run.dialog.masked
  started := run.started.map Call.masked
  pending := run.pending.map Task.masked
  replied := run.replied.map Reply.masked
  channel := run.channel.map Reply.masked
  applied := run.applied.map Reply.masked
  events := run.events

@[simp]
theorem masked_events (run : Run) : run.masked.events = run.events := rfl

theorem press_masked (run : Run) (key : Key) :
    (run.press key).masked = run.masked.press (maskedKey run.dialog.focus key) := by
  have client : run.masked.dialog.client = run.dialog.client := rfl
  have call := call?_masked run.dialog key
  rw [press_eq, press_eq]
  simp only [masked] at client call ⊢
  rw [call, ← Dialog.press_masked]
  cases run.dialog.call? key with
  | none => simp
  | some call => simp [Task.masked, Dialog.masked]

theorem answer_masked [Url.Domains] (run : Run) (place : Nat) (delivery : Delivery) :
    (run.answer place delivery).masked = run.masked.answer place delivery := by
  have found : run.masked.pending[place]? = run.pending[place]?.map Task.masked :=
    List.getElem?_map
  unfold answer
  rw [found]
  cases run.pending[place]? with
  | none => rfl
  | some task =>
      have closing : Client.closing task.call.masked
          (Reply.masked ⟨task, delivery⟩ |>.result run.dialog.client) =
          Client.closing task.call (Reply.result run.dialog.client ⟨task, delivery⟩) := by
        rw [Reply.result_masked, Client.closing_masked]
      change _ = Run.mk _ _ _ _ _ _ (run.events ++ [Client.closing task.call.masked
        (Reply.masked ⟨task, delivery⟩ |>.result run.dialog.client)])
      rw [closing]
      simp only [masked, List.map_append, List.eraseIdx_map]
      rfl

theorem post_masked (run : Run) (place : Nat) :
    (run.post place).masked = run.masked.post place := by
  have found : run.masked.replied[place]? = run.replied[place]?.map Reply.masked :=
    List.getElem?_map
  have length : run.masked.channel.length = run.channel.length := List.length_map _
  unfold post
  rw [found, length]
  cases run.replied[place]? with
  | none => rfl
  | some reply =>
      dsimp only [Option.map_some]
      split
      · simp only [masked, List.map_append, List.eraseIdx_map]
        rfl
      · rfl

theorem take_masked [Url.Domains] (run : Run) : run.take.masked = run.masked.take := by
  have channel : run.masked.channel = run.channel.map Reply.masked := rfl
  unfold take
  rw [channel]
  cases run.channel with
  | nil => rfl
  | cons reply rest =>
      have outcome : reply.masked.outcome run.masked.dialog.client =
          reply.outcome run.dialog.client := Reply.outcome_masked _ _
      simp only [List.map_cons, outcome]
      simp only [masked, List.map_append, receive_masked]
      rfl

/-- A run with masked passwords is a run. -/
theorem step_masked [Url.Domains] (run : Run) (input : Input) :
    (run.step input).masked = run.masked.step (input.masked run.dialog.focus) := by
  cases input with
  | press key => exact press_masked run key
  | resize pane => rfl
  | answer place delivery => exact answer_masked run place delivery
  | post place => exact post_masked run place
  | take => exact take_masked run

end Run
end Dialog
end ProfileClient
