import ProfileClient.Proofs.Answer
import ProfileClient.Proofs.Dialog.Provenance
import ProfileClient.Proofs.Json.RoundTrip
import ProfileClient.Proofs.Session.Atomicity
import ProfileClient.Proofs.Text.Rows
/-!
The profile on the screen is the one that the backend sent: its text reads back, also from the rows
of a pane, and no profile looks like another or like none.
-/
namespace ProfileClient

namespace Json

theorem keeps_of_control {d : Char} (control : ¬ Printable d) :
    ∀ c, Printable c → decide (c ≠ d) = true := by
  intro c printable
  have other : c ≠ d := by
    rintro rfl
    exact control printable
  simpa using other

theorem indented_filter_return : Spacing.indented.filter (· ≠ '\r') = Spacing.indented := by
  have line : ∀ depth, (lineAt depth).filter (· ≠ '\r') = lineAt depth := by
    intro depth
    simp [lineAt]
  simp only [Spacing.filter, Spacing.indented, line]
  rfl

theorem indented_filter_blank (p : Char → Bool) : (Spacing.indented.filter p).Blank := by
  obtain ⟨item, close, colon⟩ := Spacing.indented_blank
  exact ⟨fun depth c mem => item depth c (List.mem_filter.mp mem).1,
    fun depth c mem => close depth c (List.mem_filter.mp mem).1,
    fun c mem => colon c (List.mem_filter.mp mem).1⟩

theorem return_not_mem_pretty (v : Json) : '\r' ∉ v.pretty.toList := by
  intro mem
  rw [pretty, String.toList_ofList] at mem
  have kept := filter_printAt (keeps_of_control (d := '\r') (by decide)) Spacing.indented 0 v
  rw [indented_filter_return] at kept
  rw [← kept] at mem
  simpa using (List.mem_filter.mp mem).2

/-- The text of a value reads back, and so do its rows put together. -/
theorem read_pretty {v : Json} (orderly : Orderly deepest v) (integral : Integral v) :
    Json.read v.pretty.toList = .ok v ∧
      ∀ width, Json.read (Text.wrap width v.pretty.toList).flatten = .ok v := by
  refine ⟨?_, fun width => ?_⟩
  · rw [pretty, String.toList_ofList]
    exact read_of_readsAs (readsAs_printAt Spacing.indented_blank orderly integral 0)
  · rw [Text.flatten_wrap, Text.flatten_lines (return_not_mem_pretty v), pretty,
      String.toList_ofList, filter_printAt (keeps_of_control (by decide))]
    exact read_of_readsAs (readsAs_printAt (indented_filter_blank _) orderly integral 0)

theorem pretty_ne_noProfileText (v : Json) : v.pretty ≠ noProfileText := by
  intro same
  obtain ⟨c, rest, written, starts⟩ := printAt_head .indented 0 v
  have first : c = 'N' := by
    have texts := congrArg String.toList same
    rw [pretty, String.toList_ofList, written] at texts
    exact (List.cons.inj texts).1
  exact starts.ne.2.2 first

end Json

/-- An answer of success whose body is the indented text of a value. -/
def Json.sent (v : Json) : Delivery :=
  .answered ⟨200, v.pretty.toList.flatMap String.utf8EncodeChar, false⟩

/-- Each orderly value of whole numbers can be the answer to a call. -/
theorem Client.result_sent [Url.Domains] {client : Client} {call : Call} {v : Json}
    (sendable : (client.request? call).isSome = true) (orderly : Json.Orderly Json.deepest v)
    (integral : v.Integral) : client.result call v.sent = .ok v := by
  obtain ⟨⟨url, address⟩, header⟩ := isSome_request?_iff.mp sendable
  have success : 200 ≤ 200 ∧ 200 < 300 := by decide
  exact result_eq_ok_iff.mpr
    (.answered address header success (by decide) (Json.read_pretty orderly integral).1)

/-- A profile that a fetch can bring. -/
def Json.Fetched [Url.Domains] (v : Json) : Prop :=
  ∃ client token delivery, Client.Brings client (.profile token) delivery v

theorem Json.Fetched.orderly [Url.Domains] {v : Json} (fetched : v.Fetched) :
    Orderly deepest v := by
  obtain ⟨client, token, delivery, brought⟩ := fetched
  exact brought.orderly

theorem Session.fetched_of_fetchProfile [Url.Domains] {client : Client} {delivery : Delivery}
    {session : Session} (ok : (session.fetchProfile client delivery).result = .ok ()) :
    ∃ v, (session.fetchProfile client delivery).session.profile = some v ∧ v.Fetched := by
  by_cases held : session.token = ""
  · rw [session.fetchProfile_of_empty client delivery held] at ok
    cases ok
  · have settles := session.fetchProfile_settles client delivery held
    obtain ⟨v, brought⟩ := settles.ok_iff.mp ok
    have stored := settles.succeeded v brought
    exact ⟨v, by rw [stored], client, session.token, delivery, brought⟩

/-- Whatever profile a run of the dialog holds, a fetch brought it. -/
theorem Dialog.Run.fetched_of_profile [Url.Domains] {settings : Settings} {inputs : List Input}
    {v : Json} (held : ((start settings).replay inputs).dialog.session.profile = some v) :
    v.Fetched := by
  have last := (replay_sourced settings inputs).profile_eq
  rw [held] at last
  have mem := List.mem_of_getLast? last.symm
  obtain ⟨outcome, taken, brought⟩ := List.mem_filterMap.mp mem
  obtain ⟨⟨⟨number, call⟩, delivery⟩, -, rfl⟩ := List.mem_map.mp taken
  simp only [Reply.outcome, Reply.result] at brought
  cases result : Client.result _ call delivery with
  | error cause =>
      rw [result] at brought
      cases call <;> cases brought
  | ok json =>
      rw [result] at brought
      cases call with
      | login email password => cases brought
      | profile token =>
          cases brought
          exact ⟨_, token, delivery, Client.result_eq_ok_iff.mp result⟩

namespace Session

/-- The text of a profile that a fetch brought and whose numbers are whole reads back, also from the
rows of a pane of any width; so no two of them look the same. Only a session without a profile shows
the placeholder. -/
theorem profileText_faithful [Url.Domains] :
    (∀ (session : Session) (v : Json), session.profile = some v → v.Fetched → v.Integral →
        Json.read session.view.profileText.toList = .ok v ∧
          ∀ width, Json.read (Text.wrap width session.view.profileText.toList).flatten = .ok v) ∧
      (∀ (first second : Session) (v w : Json), first.profile = some v → second.profile = some w →
        v.Fetched ∧ v.Integral → w.Fetched ∧ w.Integral →
        first.view.profileText = second.view.profileText → v = w) ∧
      ∀ session : Session, session.view.profileText = noProfileText ↔ session.profile = none := by
  have shown : ∀ (session : Session) (v : Json), session.profile = some v →
      session.view.profileText = v.pretty := by
    intro session v held
    simp only [view, profileText, held]
  refine ⟨?_, ?_, ?_⟩
  · intro session v held fetched integral
    rw [shown session v held]
    exact Json.read_pretty fetched.orderly integral
  · intro first second v w held held' fetched fetched' same
    rw [shown first v held, shown second w held'] at same
    have read := (Json.read_pretty fetched.1.orderly fetched.2).1
    have read' := (Json.read_pretty fetched'.1.orderly fetched'.2).1
    rw [same, read'] at read
    exact (Except.ok.inj read).symm
  · intro session
    cases held : session.profile with
    | none => simp [view, profileText, held]
    | some v => simp [shown session v held, Json.pretty_ne_noProfileText]

attribute [local instance] Url.Domains.ascii

/-- A backend may send each orderly value of whole numbers as a profile. -/
theorem fetched_of_integral {v : Json} (orderly : Json.Orderly Json.deepest v)
    (integral : v.Integral) : v.Fetched := by
  let client : Client := .at "http://localhost:8000" ⟨none, none⟩
  have sendable : (client.request? (.profile "A")).isSome = true := by decide +kernel
  exact ⟨client, "A", v.sent,
    Client.result_eq_ok_iff.mp (Client.result_sent sendable orderly integral)⟩

/-- A profile with a quote, a line feed and a backslash in its names and strings. -/
theorem profileText_faithful_escaped :
    let v : Json := .object [("a\"b", .number (.whole (-7))), ("c\n", .array [.string "\\", .null])]
    v.Fetched ∧ v.Integral ∧
      ∀ width, Json.read (Text.wrap width
        (view ⟨"ada@example.org", "secret", "A", some v⟩).profileText.toList).flatten = .ok v := by
  intro v
  have integral : v.Integral := by
    refine .object ?_
    simp only [List.mem_cons, List.not_mem_nil, or_false, forall_eq_or_imp, forall_eq]
    refine ⟨.number _, .array ?_⟩
    simp only [List.mem_cons, List.not_mem_nil, or_false, forall_eq_or_imp, forall_eq]
    exact ⟨.string _, .null⟩
  have orderly : Json.Orderly Json.deepest v := by
    refine .object (by decide) ?_
    simp only [List.mem_cons, List.not_mem_nil, or_false, forall_eq_or_imp, forall_eq]
    refine ⟨.number (by simp [Json.Number.InRange]), .array ?_⟩
    simp only [List.mem_cons, List.not_mem_nil, or_false, forall_eq_or_imp, forall_eq]
    exact ⟨.string _, .null⟩
  have fetched := fetched_of_integral orderly integral
  exact ⟨fetched, integral, (profileText_faithful.1 _ v rfl fetched integral).2⟩

end Session
end ProfileClient
