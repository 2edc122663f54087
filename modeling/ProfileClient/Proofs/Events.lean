import ProfileClient.Proofs.Dialog.Accounting
import ProfileClient.Proofs.Text.Clipped
import ProfileClient.Proofs.Text.Utf8
/-!
What calls log. A call logs that it starts and, once it is over, its outcome, wherever it is made
from. The outcome of a call that was answered without success quotes the body of the answer, or its
start where the body is long.
-/
namespace ProfileClient

namespace Event

def isOpening : Event → Bool
  | .sendingLogin _ | .sendingProfile _ => true
  | _ => false

/-- Says how a call ended. -/
def isClosing : Event → Bool
  | .loginSucceeded | .profileFetched | .loginFailed _ | .fetchFailed _ => true
  | _ => false

/-- Comes from the client and not from who makes the call. -/
def isOfCall (event : Event) : Bool := event.isOpening || event.isClosing

end Event

namespace Client
variable (client : Client) (call : Call) (result : Except Failure Json)

@[simp]
theorem isOpening_opening : (client.opening call).isOpening = true := by
  cases call <;> rfl

@[simp]
theorem isClosing_opening : (client.opening call).isClosing = false := by
  cases call <;> rfl

@[simp]
theorem isOpening_closing : (closing call result).isOpening = false := by
  cases call <;> cases result <;> rfl

@[simp]
theorem isClosing_closing : (closing call result).isClosing = true := by
  cases call <;> cases result <;> rfl

theorem opening_words :
    (client.opening call).level = .debug ∧
      (client.opening call).fields = [("url", .text (client.baseUrl ++ call.path))] := by
  cases call <;> exact ⟨rfl, rfl⟩

theorem level_closing_iff :
    ((closing call result).level = .info ↔ ∃ body, result = .ok body) ∧
      ((closing call result).level = .warn ↔ ∃ cause, result = .error cause) := by
  cases call <;> cases result <;> simp [closing, Event.level]

theorem fields_closing (cause : Failure) :
    (closing call (.error cause)).fields = [("error", .text cause.message)] := by
  cases call <;> rfl

end Client

/-- How a message quotes a body: as it is up to 500 octets, and else its start, with a note of how
long the body is. Only the number in the note grows with the body. -/
structure Quotes (shown body : List Char) : Prop where
  short : Text.octets body ≤ 500 → shown = body
  long : 500 < Text.octets body →
    ∃ kept, Text.CutTo 500 body kept ∧ 497 ≤ Text.octets kept ∧
      shown = kept ++ Text.cutNote (Text.octets body)
  bounded : Text.octets shown ≤ 529 + (Nat.toDigits 10 (Text.octets body)).length

theorem clipped_quotes (body : List Char) : Quotes (Text.clipped 500 body) body where
  short := Text.clipped_of_le
  long long := by
    obtain ⟨kept, cut, shown⟩ := Text.clipped_of_lt long
    have near := cut.near
    exact ⟨kept, cut, by omega, shown⟩
  bounded := Text.octets_clipped_le 500 body

/-- The octets that an answer leaves for its body. -/
inductive Response.Leaves (response : Response) : List UInt8 → Prop
  | whole (bodied : response.status ≠ 204 ∧ response.status ≠ 304)
      (complete : response.truncated = false) : Leaves response response.body
  | nothing (lost : response.status = 204 ∨ response.status = 304 ∨ response.truncated = true) :
    Leaves response []

theorem Response.exists_leaves (response : Response) :
    ∃ octets, response.Leaves octets ∧ response.text = Text.Utf8.decodeLossy octets := by
  unfold text received?
  by_cases bodiless : response.isBodiless = true
  · rw [if_pos bodiless]
    refine ⟨[], .nothing ?_, rfl⟩
    simpa [isBodiless, or_assoc] using Or.inl (b := response.truncated = true) bodiless
  · have bodied : response.status ≠ 204 ∧ response.status ≠ 304 := by
      simpa [isBodiless] using bodiless
    rw [if_neg bodiless]
    cases truncated : response.truncated with
    | false => exact ⟨response.body, .whole bodied truncated, rfl⟩
    | true => exact ⟨[], .nothing (.inr (.inr truncated)), (Text.Utf8.decodeLossy_encode []).symm⟩

theorem statusText_eq (status : Nat) :
    statusText status =
      toString status ++ " " ++ (reason? status).getD "<unknown status code>" := by
  unfold statusText
  generalize reason? status = reason
  cases reason <;> rfl

theorem message_badStatus (status : Nat) (body : List Char) :
    (Failure.badStatus status body).message =
      "Status " ++ statusText status ++ ": " ++ String.ofList (Text.clipped 500 body) := rfl

namespace Client

/-- What a call logs: where its request goes, and then how the call ended. An answer without success
is logged with its status and the octets received, shown as a text; octets of a text are shown as
that text. -/
structure Logs [Url.Domains] (client : Client) (call : Call) (delivery : Delivery)
    (first second : Event) : Prop where
  debug : first.level = .debug
  url : first.fields = [("url", .text (client.baseUrl ++ call.path))]
  info_iff : second.level = .info ↔ ∃ body, client.result call delivery = .ok body
  warn_iff : second.level = .warn ↔ ∃ cause, client.result call delivery = .error cause
  refused : ∀ request response, client.request? call = some request →
    delivery = .answered response → ¬ (200 ≤ response.status ∧ response.status < 300) →
      ∃ octets shown, response.Leaves octets ∧ Quotes shown (Text.Utf8.decodeLossy octets) ∧
        (∀ text, octets = text.flatMap String.utf8EncodeChar → Quotes shown text) ∧
        second.fields = [("error", .text ("Status " ++
          (toString response.status ++ " " ++
            (reason? response.status).getD "<unknown status code>") ++
          ": " ++ String.ofList shown))]

theorem record_logs [Url.Domains] (client : Client) (call : Call) (delivery : Delivery) :
    ∃ first second, (client.record call delivery).events = [first, second] ∧
      client.Logs call delivery first second := by
  obtain ⟨debug, url⟩ := client.opening_words call
  obtain ⟨info, warn⟩ := level_closing_iff call (client.result call delivery)
  refine ⟨client.opening call, closing call (client.result call delivery), rfl,
    ⟨debug, url, info, warn, ?_⟩⟩
  rintro request response sent rfl failed
  have result : client.result call (.answered response) =
      .error (.badStatus response.status response.text) := by
    simp [Client.result, sent, Response.isSuccess, failed]
  obtain ⟨octets, leaves, text⟩ := response.exists_leaves
  have quotes := clipped_quotes response.text
  refine ⟨octets, Text.clipped 500 response.text, leaves, ?_, ?_, ?_⟩
  · rwa [text] at quotes ⊢
  · rintro written rfl
    rwa [text, Text.Utf8.decodeLossy_encode] at quotes ⊢
  · rw [result, fields_closing, message_badStatus, statusText_eq]

end Client

namespace Session
variable (client : Client) (delivery : Delivery) (session : Session)

/-- A login adds what the session says of its token. -/
theorem login_events [Url.Domains] :
    (session.login client delivery).events.filter Event.isOfCall =
      (client.record (.login session.email session.password) delivery).events := by
  simp only [login, Client.record]
  cases client.result (.login session.email session.password) delivery <;> rfl

theorem fetchProfile_events [Url.Domains] :
    (session.fetchProfile client delivery).events =
      if session.canFetch then (client.record (.profile session.token) delivery).events
      else [] := by
  simp only [fetchProfile, Client.record]
  split
  · cases client.result (.profile session.token) delivery <;> rfl
  · rfl

end Session

namespace Dialog.Run

/-- The replies of the calls that are over. -/
def ended (run : Run) : List Reply := run.replied ++ (run.channel ++ run.applied)

/-- How the call of a reply ended, as the client logs it. -/
def closingOf [Url.Domains] (client : Client) (reply : Reply) : Event :=
  Client.closing reply.task.call (reply.result client)

/-- Each call started has logged once that it starts, and each that is over once how it ended. -/
structure Logged [Url.Domains] (run : Run) : Prop where
  openings : run.events.filter Event.isOpening = run.started.map run.dialog.client.opening
  closings_perm : (run.events.filter Event.isClosing).Perm
    (run.ended.map (closingOf run.dialog.client))

theorem start_logged [Url.Domains] (settings : Settings) : (start settings).Logged := ⟨rfl, .refl _⟩

/-- What the dialog logs when it takes in an outcome is not of the call. -/
theorem silent_events (outcome : Outcome) :
    (Dialog.events outcome).filter Event.isOpening = [] ∧
      (Dialog.events outcome).filter Event.isClosing = [] := by
  cases outcome with
  | loggedIn response =>
      simp only [Dialog.events]
      split <;> exact ⟨rfl, rfl⟩
  | profile body => exact ⟨rfl, rfl⟩
  | failed error => exact ⟨rfl, rfl⟩

theorem Logged.of_moves [Url.Domains] {run next : Run} {input : Input} (h : run.Logged)
    (moves : run.Moves input next) : next.Logged := by
  obtain ⟨openings, closings⟩ := h
  cases moves with
  | press key =>
      refine ⟨?_, ?_⟩
      · rw [List.filter_append, openings, press_client, List.map_append]
        cases run.dialog.call? key <;> simp
      · rw [List.filter_append, press_client]
        cases run.dialog.call? key <;> simpa [ended] using closings
  | @answer place task delivery found =>
      have last : ∀ reply, (run.ended ++ [reply]).Perm
          (run.replied ++ reply :: (run.channel ++ run.applied)) := by
        intro reply
        exact (List.perm_append_singleton reply run.ended).trans List.perm_middle.symm
      refine ⟨?_, ?_⟩
      · rw [List.filter_append, openings]
        simp
      · rw [List.filter_append]
        refine (closings.append_right _).trans ?_
        simpa [ended, closingOf, Reply.result] using
          (last ⟨task, delivery⟩).map (closingOf run.dialog.client)
  | @post place reply found free =>
      refine ⟨openings, closings.trans (.map _ ?_)⟩
      have moved := eraseIdx_append_perm found run.channel run.applied
      simpa [ended] using moved.symm
  | @take reply rest held =>
      obtain ⟨noOpening, noClosing⟩ := silent_events (reply.outcome run.dialog.client)
      refine ⟨?_, ?_⟩
      · rw [List.filter_append, noOpening, List.append_nil, receive_client]
        exact openings
      · rw [List.filter_append, noClosing, List.append_nil, receive_client]
        refine closings.trans (.map _ (.append_left _ ?_))
        rw [held, ← List.append_assoc]
        exact (List.perm_append_singleton reply (rest ++ run.applied)).symm
  | _ => exact ⟨openings, closings⟩

theorem replay_logged [Url.Domains] (settings : Settings) (inputs : List Input) :
    ((start settings).replay inputs).Logged :=
  replay_induction (fun run input h => h.of_moves (moves_step run input)) inputs
    (start_logged settings)

end Dialog.Run

/-- Each call logs two events, that it starts and how it ended, on a session and in a run of the
dialog as on its own. It ends in success or with a warning, and a warning about an answer without
success quotes the body as far as 500 octets go, cut between characters. -/
theorem calls_logged [Url.Domains] :
    (∀ (client : Client) call delivery, ∃ first second,
      (client.record call delivery).events = [first, second] ∧
        client.Logs call delivery first second) ∧
    (∀ (session : Session) client delivery,
      (session.login client delivery).events.filter Event.isOfCall =
          (client.record (.login session.email session.password) delivery).events ∧
        (session.fetchProfile client delivery).events =
          if session.canFetch then (client.record (.profile session.token) delivery).events
          else []) ∧
    ∀ settings inputs,
      let run := (Dialog.Run.start settings).replay inputs
      run.events.filter Event.isOpening = run.started.map run.dialog.client.opening ∧
        (run.events.filter Event.isClosing).Perm
          ((run.replied ++ (run.channel ++ run.applied)).map fun reply =>
            Client.closing reply.task.call (reply.result run.dialog.client)) := by
  refine ⟨Client.record_logs, fun session client delivery => ?_, fun settings inputs => ?_⟩
  · exact ⟨session.login_events client delivery, session.fetchProfile_events client delivery⟩
  · have logged := Dialog.Run.replay_logged settings inputs
    exact ⟨logged.openings, logged.closings_perm⟩

end ProfileClient
