import Mathlib.Data.List.Nodup
import ProfileClient.Proofs.Dialog.Cause
/-!
The notice against the state it speaks of. A key that starts a call counts it before it says so, and
whatever is taken in replaces the notice, so no notice outlives what made it true.
-/
namespace ProfileClient

def Notice.all : List Notice :=
  [.loggingIn, .fetchingProfile, .loggedIn, .noToken, .notLoggedIn, .profileLoaded,
    .failed .notLoggedIn, .failed (.call .loginFailed), .failed (.call .fetchFailed)]

theorem Notice.mem_all (notice : Notice) : notice ∈ all := by
  cases notice with
  | failed error =>
      cases error with
      | notLoggedIn => decide
      | call error => cases error <;> decide
  | _ => decide

theorem Notice.text_injective : Function.Injective text := by
  have distinct : (all.map text).Nodup := by decide
  intro first second same
  exact List.inj_on_of_nodup_map distinct first.mem_all second.mem_all same

namespace Dialog

/-- The status line reads as said. -/
def Shows (dialog : Dialog) (status : String) : Prop := dialog.notice.map Notice.text = some status

/-- What a notice says of the dialog. -/
def Attests (dialog : Dialog) : Notice → Prop
  | .loggingIn | .fetchingProfile => 1 ≤ dialog.inFlight
  | .loggedIn => dialog.session.token ≠ ""
  | .noToken | .notLoggedIn => dialog.session.token = ""
  | .profileLoaded => ∃ profile, dialog.session.profile = some profile
  | .failed _ => True

def Truthful (dialog : Dialog) : Prop := ∀ notice ∈ dialog.notice, dialog.Attests notice

theorem Truthful.attests {dialog : Dialog} (truthful : dialog.Truthful) (notice : Notice)
    (shown : dialog.Shows notice.text) : dialog.Attests notice := by
  obtain ⟨held, noticed, same⟩ := Option.map_eq_some_iff.mp shown
  rw [← Notice.text_injective same]
  exact truthful held noticed

theorem Attests.of_le {dialog next : Dialog} {notice : Notice} (attests : dialog.Attests notice)
    (counted : dialog.inFlight ≤ next.inFlight) (token : next.session.token = dialog.session.token)
    (profile : next.session.profile = dialog.session.profile) : next.Attests notice := by
  cases notice with
  | loggingIn => exact Nat.le_trans attests counted
  | fetchingProfile => exact Nat.le_trans attests counted
  | loggedIn => exact fun empty => attests (token.symm.trans empty)
  | noToken => exact token.trans attests
  | notLoggedIn => exact token.trans attests
  | profileLoaded =>
      obtain ⟨held, loaded⟩ := attests
      exact ⟨held, profile.trans loaded⟩
  | failed error => trivial

/-- The notices that a key can set: that a call is under way, when it starts one, and that there is
no token to fetch with, when there is none. -/
theorem press_notice (key : Key) (dialog : Dialog) :
    (dialog.press key).notice = dialog.notice ∨
      ((∃ call, dialog.call? key = some call) ∧
        ((dialog.press key).notice = some .loggingIn ∨
          (dialog.press key).notice = some .fetchingProfile)) ∨
      (dialog.session.token = "" ∧ (dialog.press key).notice = some .notLoggedIn) := by
  have set := press_notice_eq key dialog
  rw [keyCause?] at set
  split at set
  · next call started =>
      refine .inr (.inl ⟨⟨call, started⟩, ?_⟩)
      cases call with
      | login email password => exact .inl set
      | profile token => exact .inr set
  · next idle =>
      split at set
      · next refused =>
          obtain ⟨rfl, focus⟩ := refused
          refine .inr (.inr ⟨?_, set⟩)
          simpa [call?, focus, Session.canFetch] using idle
      · exact .inl set

theorem Truthful.press {dialog : Dialog} (truthful : dialog.Truthful) (key : Key) :
    (dialog.press key).Truthful := by
  have counted := press_inFlight key dialog
  intro notice noticed
  rw [Option.mem_def] at noticed
  rcases press_notice key dialog with kept | ⟨⟨call, started⟩, set⟩ | ⟨empty, set⟩
  · rw [kept] at noticed
    exact (truthful notice noticed).of_le (by omega) (press_token ..) (press_profile ..)
  · have waits : 1 ≤ (dialog.press key).inFlight := by
      rw [counted, started]
      exact Nat.le_add_left ..
    rcases set with set | set <;>
      · rw [set] at noticed
        cases noticed
        exact waits
  · rw [set] at noticed
    cases noticed
    exact (press_token ..).trans empty

/-- An outcome sets a notice of its own, which is true whatever the one before said. -/
theorem receive_truthful (outcome : Outcome) (dialog : Dialog) :
    (dialog.receive outcome).Truthful := by
  intro notice noticed
  cases outcome with
  | loggedIn response =>
      simp only [receive] at noticed ⊢
      split at noticed
      · next held =>
          cases noticed
          rw [if_pos held]
          exact (Session.canFetch_iff _).mp held
      · next empty =>
          cases noticed
          rw [if_neg empty]
          exact (Session.not_canFetch_iff _).mp empty
  | profile body =>
      cases noticed
      exact ⟨body, rfl⟩
  | failed error =>
      cases noticed
      trivial

namespace Run

theorem Moves.truthful [Url.Domains] {run next : Run} {input : Input} (moves : run.Moves input next)
    (truthful : run.dialog.Truthful) : next.dialog.Truthful := by
  cases moves with
  | press key => exact truthful.press key
  | resize pane =>
      exact fun notice noticed => (truthful notice noticed).of_le (Nat.le_refl _) rfl rfl
  | take held => exact receive_truthful _ _
  | _ => exact truthful

theorem replay_truthful [Url.Domains] (settings : Settings) (inputs : List Input) :
    ((start settings).replay inputs).dialog.Truthful :=
  replay_induction (fun run input truthful => (moves_step run input).truthful truthful) inputs
    (fun _ none => nomatch none)

/-- In every state of every run the status line is true: a call that it reports under way is still
waited for, a login that it reports left a token, a login or a fetch that it reports without a token
finds none held, and a profile that it reports loaded is held. -/
theorem replay_status_true [Url.Domains] (settings : Settings) (inputs : List Input) :
    let dialog := ((start settings).replay inputs).dialog
    (dialog.Shows "Logging in..." ∨ dialog.Shows "Fetching profile..." → 1 ≤ dialog.inFlight) ∧
      (dialog.Shows "Logged in" → dialog.session.token ≠ "") ∧
      (dialog.Shows "Login response had no access token" ∨
        dialog.Shows "not logged in - log in before fetching the profile" →
          dialog.session.token = "") ∧
      (dialog.Shows "Profile loaded" → ∃ profile, dialog.session.profile = some profile) := by
  intro dialog
  have truthful : dialog.Truthful := replay_truthful settings inputs
  refine ⟨?_, ?_, ?_, ?_⟩
  · rintro (shown | shown)
    · exact truthful.attests .loggingIn shown
    · exact truthful.attests .fetchingProfile shown
  · intro shown
    exact truthful.attests .loggedIn shown
  · rintro (shown | shown)
    · exact truthful.attests .noToken shown
    · exact truthful.attests .notLoggedIn shown
  · intro shown
    exact truthful.attests .profileLoaded shown

attribute [local instance] Url.Domains.ascii

/-- A login without a token, taken in while a second login is under way. -/
theorem replay_status_true_overlapping :
    let dialog := ((start ⟨"http://localhost:8000", some "ada@example.org", none, none,
      none⟩).replay
      [.press .enter, .press .enter, .press .enter,
        .answer 0 (.answered ⟨200, "\x7b\x7d".toUTF8.data.toList, false⟩), .post 0, .take]).dialog
    dialog.inFlight = 1 ∧ dialog.Shows "Login response had no access token" ∧
      dialog.session.token = "" := by
  intro dialog
  have shown : dialog.notice.map Notice.text = some "Login response had no access token" := by
    decide +kernel
  exact ⟨by decide +kernel, shown, (replay_status_true _ _).2.2.1 (.inl shown)⟩

end Run
end Dialog
end ProfileClient
