import ProfileClient.Proofs.Dialog.Scrolling
/-!
The two fields of the form. A field changes by the keys alone that are typed while it has the focus,
one character at its end for each; whatever else happens in between leaves it as it is.
-/
namespace ProfileClient.Dialog

inductive Field where
  | email
  | password
deriving DecidableEq, Repr

namespace Field

def focus : Field → Focus
  | .email => .email
  | .password => .password

def text (session : Session) : Field → String
  | .email => session.email
  | .password => session.password

def prefilled (settings : Settings) : Field → String
  | .email => settings.email.getD ""
  | .password => settings.password.getD ""

end Field

/-- A text after a key: a character goes to its end, unless it is a control character, and backspace
takes the last one away. -/
def typed (text : String) : Key → String
  | .char c => if Text.isControl c then text else text.push c
  | .backspace => String.ofList text.toList.dropLast
  | _ => text

/-- A key that changes a text either puts one character behind it or takes the last one away. -/
theorem typed_cases (text : String) (key : Key) :
    typed text key = text ∨
      (∃ c, key = .char c ∧ Text.isControl c = false ∧ typed text key = text.push c) ∨
      (key = .backspace ∧ ∃ c, text = (typed text key).push c) := by
  cases key with
  | char c =>
      cases control : Text.isControl c with
      | true => exact .inl (if_pos control)
      | false => exact .inr (.inl ⟨c, rfl, control, if_neg (Bool.eq_false_iff.mp control)⟩)
  | backspace =>
      change String.ofList text.toList.dropLast = text ∨ _ ∨
        Key.backspace = .backspace ∧ ∃ c, text = (String.ofList text.toList.dropLast).push c
      rcases List.eq_nil_or_concat text.toList with empty | ⟨front, c, split⟩
      · refine .inl (String.toList_injective ?_)
        rw [String.toList_ofList, empty, List.dropLast_nil]
      · refine .inr (.inr ⟨rfl, c, String.toList_injective ?_⟩)
        rw [String.toList_push, String.toList_ofList, split, List.concat_eq_append,
          List.dropLast_concat]
  | _ => exact .inl rfl

/-- Typing leaves no control character that was not there before. -/
theorem controls_typed (text : String) (key : Key) :
    (typed text key).toList.filter Text.isControl <+: text.toList.filter Text.isControl := by
  rcases typed_cases text key with same | ⟨c, -, plain, added⟩ | ⟨-, c, removed⟩
  · have kept : (typed text key).toList.filter Text.isControl =
        text.toList.filter Text.isControl := by rw [same]
    exact kept ▸ List.prefix_rfl
  · have kept : (typed text key).toList.filter Text.isControl =
        text.toList.filter Text.isControl := by
      rw [added, String.toList_push, List.filter_append,
        List.filter_cons_of_neg (Bool.eq_false_iff.mp plain), List.filter_nil, List.append_nil]
    exact kept ▸ List.prefix_rfl
  · have before := congrArg String.toList removed
    rw [String.toList_push] at before
    rw [before, List.filter_append]
    exact List.prefix_append ..

theorem controls_foldl_typed (text : String) (keys : List Key) :
    (keys.foldl typed text).toList.filter Text.isControl <+: text.toList.filter Text.isControl := by
  induction keys generalizing text with
  | nil => exact List.prefix_rfl
  | cons key keys ih => exact (ih (typed text key)).trans (controls_typed text key)

theorem edit_text (field : Field) (change : String → String) (dialog : Dialog) :
    field.text (dialog.edit change).session =
      if dialog.focus = field.focus then change (field.text dialog.session)
      else field.text dialog.session := by
  rw [edit_eq]
  cases field <;> rfl

/-- A key is typed into the field that has the focus. -/
theorem press_text (field : Field) (key : Key) (dialog : Dialog) :
    field.text (dialog.press key).session =
      if dialog.focus = field.focus then typed (field.text dialog.session) key
      else field.text dialog.session := by
  cases key with
  | enter =>
      rw [press, enter_eq]
      exact (ite_self _).symm
  | backspace => exact edit_text field withoutLast dialog
  | char c =>
      cases control : Text.isControl c with
      | true =>
          have kept : dialog.press (.char c) = dialog := if_neg (by simp [isTypable, control])
          have same : typed (field.text dialog.session) (.char c) = field.text dialog.session :=
            if_pos control
          rw [kept, same, ite_self]
      | false =>
          have edited : dialog.press (.char c) = dialog.edit (·.push c) :=
            if_pos (by simp [isTypable, control])
          have added : typed (field.text dialog.session) (.char c) =
              (field.text dialog.session).push c := if_neg (Bool.eq_false_iff.mp control)
          rw [edited, added]
          exact edit_text field (·.push c) dialog
  | _ => exact (ite_self _).symm

theorem receive_text (field : Field) (outcome : Outcome) (dialog : Dialog) :
    field.text (dialog.receive outcome).session = field.text dialog.session := by
  rw [receive_session]
  cases outcome <;> cases field <;> rfl

namespace Run

/-- The key that an input types into a field. -/
def keysInto (field : Field) (run : Run) : Input → List Key
  | .press key => if run.dialog.focus = field.focus then [key] else []
  | _ => []

theorem step_text [Url.Domains] (field : Field) (run : Run) (input : Input) :
    field.text (run.step input).dialog.session =
      (run.keysInto field input).foldl typed (field.text run.dialog.session) := by
  rw [step_dialog]
  cases input with
  | press key =>
      rw [press_text, keysInto]
      split <;> rfl
  | take =>
      cases run.channel with
      | nil => rfl
      | cons reply rest => exact receive_text ..
  | _ => rfl

theorem replay_text [Url.Domains] (field : Field) (settings : Settings) (inputs : List Input) :
    field.text ((start settings).replay inputs).dialog.session =
      (collect (keysInto field) (start settings) inputs).foldl typed
        (field.prefilled settings) := by
  have started : field.text (start settings).dialog.session = field.prefilled settings := by
    cases field <;> rfl
  rw [← started]
  exact replay_eq_foldl (fun run => field.text run.dialog.session) (step_text field) inputs _

/-- An input that changes a field is a key, pressed while the field has the focus. -/
theorem step_text_cases [Url.Domains] (field : Field) (run : Run) (input : Input) :
    let before := field.text run.dialog.session
    let after := field.text (run.step input).dialog.session
    after = before ∨
      ∃ key, input = .press key ∧ run.dialog.focus = field.focus ∧ after = typed before key := by
  intro before after
  have typing : after = (run.keysInto field input).foldl typed before := step_text field run input
  cases input with
  | press key =>
      rw [keysInto] at typing
      split at typing
      · next focus => exact .inr ⟨key, rfl, focus, typing⟩
      · exact .inl typing
  | _ => exact .inl typing

/-- In every run a field changes only by a key that is pressed while it has the focus, which puts
one character at its end that is no control character, or takes its last one away. So at any time it
holds what it was filled in with, edited by the keys that were pressed while it had the focus, and
no control character but those filled in. A key never changes the token, the profile or the pane,
and only four keys scroll. -/
theorem replay_typing [Url.Domains] (settings : Settings) (inputs : List Input) :
    let run := (start settings).replay inputs
    (∀ (field : Field) (input : Input),
      let before := field.text run.dialog.session
      let after := field.text (run.step input).dialog.session
      after = before ∨
        run.dialog.focus = field.focus ∧
          ((∃ c, input = .press (.char c) ∧ Text.isControl c = false ∧ after = before.push c) ∨
            (input = .press .backspace ∧ ∃ c, before = after.push c))) ∧
    (∀ field : Field,
      field.text run.dialog.session =
          (collect (keysInto field) (start settings) inputs).foldl typed
            (field.prefilled settings) ∧
        (field.text run.dialog.session).toList.filter Text.isControl <+:
          (field.prefilled settings).toList.filter Text.isControl) ∧
    ∀ key,
      let next := (run.step (.press key)).dialog
      next.session.token = run.dialog.session.token ∧
        next.session.profile = run.dialog.session.profile ∧ next.pane = run.dialog.pane ∧
        (next.scroll = run.dialog.scroll ∨ key ∈ [.pageDown, .pageUp, .home, .last]) := by
  intro run
  refine ⟨fun field input => ?_, fun field => ?_, fun key => ?_⟩
  · intro before after
    rcases step_text_cases field run input with same | ⟨key, rfl, focus, typing⟩
    · exact .inl same
    · have change := typed_cases before key
      rw [← typing] at change
      rcases change with same | ⟨c, rfl, plain, added⟩ | ⟨rfl, removed⟩
      · exact .inl same
      · exact .inr ⟨focus, .inl ⟨c, rfl, plain, added⟩⟩
      · exact .inr ⟨focus, .inr ⟨rfl, removed⟩⟩
  · have text : field.text run.dialog.session = _ := replay_text field settings inputs
    refine ⟨text, ?_⟩
    rw [text]
    exact controls_foldl_typed _ _
  · have moved : run.step (.press key) = _ := press_eq key run
    obtain ⟨-, token, profile, pane⟩ := press_keeps key run.dialog
    rw [moved]
    refine ⟨token, profile, pane, ?_⟩
    have scroll := press_scroll key run.dialog
    cases key <;> simp [scroll]

end Run
end ProfileClient.Dialog
