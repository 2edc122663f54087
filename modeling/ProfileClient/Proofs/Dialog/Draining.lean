import ProfileClient.Proofs.Dialog.Provenance
/-!
Results taken in one after the other. The token follows the last login among them, the profile the
last fetch, and the count their number, so results of different kinds may trade places. Only the
notice tells which one came last.
-/
namespace ProfileClient

def Json.handsToken (response : Json) : Bool := !((accessToken? response).getD "").isEmpty

def Outcome.notice : Outcome → Notice
  | .loggedIn response => if response.handsToken then .loggedIn else .noToken
  | .profile _ => .profileLoaded
  | .failed error => .failed error

theorem Session.applyLogin_canFetch (response : Json) (session : Session) :
    (session.applyLogin response).canFetch = response.handsToken := rfl

namespace Dialog

def receiveAll (outcomes : List Outcome) (dialog : Dialog) : Dialog :=
  outcomes.foldl (fun dialog outcome => dialog.receive outcome) dialog

theorem receiveAll_concat (outcomes : List Outcome) (outcome : Outcome) (dialog : Dialog) :
    dialog.receiveAll (outcomes ++ [outcome]) = (dialog.receiveAll outcomes).receive outcome :=
  List.foldl_append ..

/-- A dialog that took in so many outcomes, with these logins and these fetches among them, each
oldest first, and with this one as the last. -/
def having (logins fetches : List Json) (count : Nat) (last : Option Outcome) (dialog : Dialog) :
    Dialog :=
  { dialog with
    session := { dialog.session with
      token := (logins.getLast?.map fun response => (accessToken? response).getD "").getD
        dialog.session.token
      profile := fetches.getLast?.or dialog.session.profile }
    focus := if logins.any Json.handsToken then .profileButton else dialog.focus
    scroll := if fetches.isEmpty then dialog.scroll else 0
    inFlight := dialog.inFlight - count
    notice := (last.map Outcome.notice).or dialog.notice }

section Having
variable (logins fetches : List Json) (count : Nat) (last : Option Outcome) (dialog : Dialog)

@[simp]
theorem having_notice :
    (dialog.having logins fetches count last).notice =
      (last.map Outcome.notice).or dialog.notice := rfl

/-- An outcome is the last one of its kind, and of them all. -/
theorem receive_having (outcome : Outcome) :
    (dialog.having logins fetches count last).receive outcome =
      dialog.having (logins ++ (loginResponse? outcome).toList)
        (fetches ++ (fetchResponse? outcome).toList) (count + 1) (some outcome) := by
  cases outcome with
  | loggedIn response =>
      simp only [receive, Session.applyLogin_canFetch]
      by_cases hands : response.handsToken = true <;>
        simp [having, loginResponse?, fetchResponse?, Session.applyLogin, Outcome.notice, hands,
          Nat.sub_sub]
  | profile profile =>
      simp [receive, having, loginResponse?, fetchResponse?, Session.applyProfile, Outcome.notice,
        Nat.sub_sub]
  | failed error =>
      simp [receive, having, loginResponse?, fetchResponse?, Outcome.notice, Nat.sub_sub]

end Having

theorem receiveAll_eq_having (outcomes : List Outcome) (dialog : Dialog) :
    dialog.receiveAll outcomes =
      dialog.having (outcomes.filterMap loginResponse?) (outcomes.filterMap fetchResponse?)
        outcomes.length outcomes.getLast? := by
  induction outcomes using List.reverseRecOn with
  | nil => rfl
  | append_singleton outcomes outcome ih =>
      rw [receiveAll_concat, ih, receive_having, List.filterMap_append, List.filterMap_append,
        List.length_append, List.getLast?_concat]
      cases outcome <;> rfl

namespace Run

/-- The results that wait in the channel, the oldest first. -/
def results [Url.Domains] (run : Run) : List Outcome :=
  run.channel.map (·.outcome run.dialog.client)

theorem drain_dialog [Url.Domains] (run : Run) :
    run.drain.dialog = run.dialog.receiveAll run.results := by
  unfold drain results
  induction channel : run.channel generalizing run with
  | nil => rfl
  | cons reply rest ih =>
      have taken := ih run.take (by rw [take, channel])
      have dialog : run.take.dialog = run.dialog.receive (reply.outcome run.dialog.client) := by
        rw [take, channel]
      rw [dialog, receive_client] at taken
      exact taken

end Run

/-- The same outcomes in another order, the logins among themselves in the old one and the fetches
too. -/
structure Reordered (first second : List Outcome) : Prop where
  perm : first.Perm second
  logins_eq : first.filterMap loginResponse? = second.filterMap loginResponse?
  fetches_eq : first.filterMap fetchResponse? = second.filterMap fetchResponse?

/-- Results taken in one after the other leave the same dialog in every order that keeps that of the
logins and that of the fetches, but for the notice, which is that of the last of them. A run takes
in just so what it finds in its channel. -/
theorem receiveAll_reordered [Url.Domains] (dialog : Dialog) {first second : List Outcome}
    (reordered : Reordered first second) :
    dialog.receiveAll second =
        { dialog.receiveAll first with notice := (dialog.receiveAll second).notice } ∧
      (∀ outcomes, (dialog.receiveAll outcomes).notice =
        (outcomes.getLast?.map Outcome.notice).or dialog.notice) ∧
      ∀ run : Run, run.drain.dialog = run.dialog.receiveAll run.results := by
  refine ⟨?_, ?_, Run.drain_dialog⟩
  · obtain ⟨perm, logins, fetches⟩ := reordered
    rw [receiveAll_eq_having first, receiveAll_eq_having second, logins, fetches, perm.length_eq]
    rfl
  · intro outcomes
    rw [receiveAll_eq_having, having_notice]

attribute [local instance] Url.Domains.ascii

/-- A fetch that failed before a login and a fetch with their answers, and after them. -/
theorem receiveAll_reordered_failed_last :
    let login : Outcome := .loggedIn (.object [("access_token", .string "A")])
    let fetch : Outcome := .profile (.array [.null])
    let failure : Outcome := .failed (.call .fetchFailed)
    let dialog := Dialog.start ⟨"http://localhost:8000", none, none, none, none⟩
    Reordered [failure, login, fetch] [fetch, login, failure] ∧
      dialog.receiveAll [fetch, login, failure] =
        { dialog.receiveAll [failure, login, fetch] with
          notice := some (.failed (.call .fetchFailed)) } ∧
      (dialog.receiveAll [failure, login, fetch]).notice = some .profileLoaded := by
  intro login fetch failure dialog
  have reordered : Reordered [failure, login, fetch] [fetch, login, failure] :=
    ⟨List.reverse_perm [fetch, login, failure], rfl, rfl⟩
  obtain ⟨same, notice, -⟩ := receiveAll_reordered dialog reordered
  rw [notice [fetch, login, failure]] at same
  exact ⟨reordered, same, notice [failure, login, fetch]⟩

end Dialog
end ProfileClient
