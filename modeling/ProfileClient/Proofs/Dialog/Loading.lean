import ProfileClient.Proofs.ProfileText
/-!
Runs that load a profile. Whatever value a backend sends, a login and a fetch bring it into the
dialog.
-/
namespace ProfileClient

def Json.handing (token : String) : Json := .object [("access_token", .string token)]

theorem Json.handing_orderly (token : String) : Orderly deepest (handing token) := by
  refine .object (by simp) ?_
  simp only [List.mem_singleton, forall_eq]
  exact .string token

theorem Json.handing_integral (token : String) : (handing token).Integral := by
  refine .object ?_
  simp only [List.mem_singleton, forall_eq]
  exact .string token

namespace Dialog.Run

/-- From a form with an email: to the button, the login with its answer, and the fetch with its. -/
def loading (login fetch : Delivery) : List Input :=
  [.press .enter, .press .enter, .answer 0 login, .post 0, .take,
    .press .enter, .answer 0 fetch, .post 0, .take]

theorem replay_loading [Url.Domains] (settings : Settings) (email token : String)
    {login fetch : Delivery} {response profile : Json} (filled : settings.email = some email)
    (written : email ≠ "")
    (loggedIn : (Client.at settings.baseUrl settings.clientOptions).result
      (.login email (settings.password.getD "")) login = .ok response)
    (handed : accessToken? response = some token) (held : token ≠ "")
    (fetched : (Client.at settings.baseUrl settings.clientOptions).result (.profile token) fetch =
      .ok profile) :
    ((start settings).replay (loading login fetch)).dialog =
      { Dialog.start settings with
        session := ⟨email, settings.password.getD "", token, some profile⟩
        focus := .profileButton
        notice := some .profileLoaded } := by
  simp [replay, loading, step, Run.press, start, Dialog.start, call?, Dialog.press, enter, filled,
    written, Session.new, Dialog.startLogin, Run.answer, Run.post, Run.take, places, Reply.outcome,
    Reply.result, loggedIn, Call.outcome, receive, Session.applyLogin, handed, Session.canFetch,
    held, Dialog.startFetch, fetched, Session.applyProfile]

end Dialog.Run
end ProfileClient
