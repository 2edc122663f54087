import Mathlib.Data.List.TakeWhile
import ProfileClient.Proofs.LoginBody
import ProfileClient.Proofs.Session.Atomicity
import ProfileClient.Program
/-!
The whoami command from the line typed to the exit: which email the line stands for, which requests
reach the backend, and when the profile is printed.
-/
namespace ProfileClient

namespace Whoami

/-- The first line of an input, its feed included if it has one. -/
inductive Types : List Char → List UInt8 → Prop
  | line {text : List Char} (rest : List UInt8) (single : '\n' ∉ text) :
    Types (text ++ ['\n']) ((text ++ ['\n']).flatMap String.utf8EncodeChar ++ rest)
  | last {text : List Char} (single : '\n' ∉ text) :
    Types text (text.flatMap String.utf8EncodeChar)

/-- The email that a line stands for: its text between the blanks, or the one given beforehand if
there is no such text. -/
inductive Means (default? : Option String) : List Char → String → Prop
  | typed {before text after : List Char} {first last : Char}
      (leading : ∀ c ∈ before, Text.isBlank c = true)
      (trailing : ∀ c ∈ after, Text.isBlank c = true)
      (starts : text.head? = some first ∧ Text.isBlank first = false)
      (ends : text.getLast? = some last ∧ Text.isBlank last = false) :
    Means default? (before ++ text ++ after) (String.ofList text)
  | blank {line : List Char} (blank : ∀ c ∈ line, Text.isBlank c = true) :
    Means default? line (default?.getD "")

theorem firstLine_append {octets : List UInt8} (rest : List UInt8) (single : 0x0A ∉ octets) :
    firstLine (octets ++ rest) = octets ++ firstLine rest := by
  have others : ∀ octet ∈ octets, decide (octet ≠ 0x0A) = true := by
    intro octet mem
    have other : octet ≠ 0x0A := by
      rintro rfl
      exact single mem
    simpa using other
  rw [firstLine, List.takeWhile_append_of_pos others, List.dropWhile_append_of_pos others,
    List.append_assoc]
  rfl

theorem Types.decode {line : List Char} {input : List UInt8} (types : Types line input) :
    Text.Utf8.decode? (firstLine input) = some line := by
  rw [Text.Utf8.decode?_eq_some_iff]
  cases types with
  | @line text rest single =>
      have feed : String.utf8EncodeChar '\n' = [0x0A] := by decide
      simp only [List.flatMap_append, List.flatMap_singleton, feed, List.append_assoc,
        List.singleton_append]
      rw [firstLine_append _ (Text.Utf8.feed_not_mem_encode single)]
      rfl
  | @last text single =>
      have whole := firstLine_append [] (Text.Utf8.feed_not_mem_encode single)
      rw [List.append_nil] at whole
      rw [whole]
      exact List.append_nil _

/-- Trimming takes blanks off both ends of a line, and off the rest no more can be taken. -/
theorem trim_cut (line : List Char) :
    ∃ before after, line = before ++ Text.trim line ++ after ∧
      (∀ c ∈ before, Text.isBlank c = true) ∧ (∀ c ∈ after, Text.isBlank c = true) ∧
      (∀ first ∈ (Text.trim line).head?, Text.isBlank first = false) ∧
      ∀ last ∈ (Text.trim line).getLast?, Text.isBlank last = false := by
  let body := line.dropWhile Text.isBlank
  let after := (body.reverse.takeWhile Text.isBlank).reverse
  have front : line.takeWhile Text.isBlank ++ body = line := List.takeWhile_append_dropWhile
  have back : Text.trim line ++ after = body := by
    rw [Text.trim, ← List.reverse_append, List.takeWhile_append_dropWhile, List.reverse_reverse]
  have stops (text : List Char) : ∀ c ∈ (text.dropWhile Text.isBlank).head?,
      Text.isBlank c = false := by
    intro c first
    have stop := List.head?_dropWhile_not Text.isBlank text
    rwa [Option.mem_def.mp first] at stop
  refine ⟨line.takeWhile Text.isBlank, after, ?_, fun c => List.mem_takeWhile_imp, ?_, ?_, ?_⟩
  · rw [List.append_assoc, back, front]
  · intro c mem
    exact List.mem_takeWhile_imp (List.mem_reverse.mp mem)
  · intro first held
    refine stops line first ?_
    change first ∈ body.head?
    rw [← back, List.head?_append, Option.mem_def.mp held]
    rfl
  · intro last held
    rw [Text.trim, List.getLast?_reverse] at held
    exact stops body.reverse last held

theorem means_emailOf (default? : Option String) (line : List Char) :
    Means default? line (emailOf default? line) := by
  obtain ⟨before, after, cut, leading, trailing, starts, ends⟩ := trim_cut line
  rw [emailOf]
  cases typed : Text.trim line with
  | nil =>
      refine .blank ?_
      rw [cut, typed, List.append_nil]
      intro c mem
      exact (List.mem_append.mp mem).elim (leading c) (trailing c)
  | cons first rest =>
      rw [typed] at cut starts ends
      have last := List.getLast?_eq_some_getLast (List.cons_ne_nil first rest)
      conv => arg 2; rw [cut]
      exact .typed leading trailing ⟨rfl, starts first rfl⟩ ⟨last, ends _ last⟩

end Whoami

/-- What reaches the backend of a call: its request, if that can be sent and there is a
connection, and else nothing. -/
inductive Client.Transmits [Url.Domains] (client : Client) (call : Call) :
    Delivery → List Request → Prop
  | request {delivery : Delivery} {url : Url} {request : Request}
      (connected : delivery ≠ .unreachable)
      (address : Url.read? (client.address call).toList = some url) (header : call.FitsHeader)
      (target : request.url = url.render) (carries : request.Carries client call) :
    Transmits client call delivery [request]
  | nothing {delivery : Delivery}
      (kept : delivery = .unreachable ∨ Url.read? (client.address call).toList = none ∨
        ¬ call.FitsHeader) :
    Transmits client call delivery []

/-- A login succeeds and hands out a token that is not empty. -/
def Client.LogsIn [Url.Domains] (client : Client) (email password : String) (delivery : Delivery)
    (token : String) : Prop :=
  token ≠ "" ∧ ∃ json, client.Brings (.login email password) delivery json ∧ json.HandsOut token

namespace Client
variable [Url.Domains]

theorem transmits (client : Client) (call : Call) (delivery : Delivery) :
    client.Transmits call delivery (delivery.arrived? (client.request? call)).toList := by
  by_cases reach : delivery = .unreachable
  · subst reach
    exact .nothing (.inl rfl)
  have arrived : delivery.arrived? (client.request? call) = client.request? call := by
    cases delivery with
    | unreachable => exact absurd rfl reach
    | dropped | answered _ => rfl
  rw [arrived]
  cases sent : client.request? call with
  | none =>
      refine .nothing (.inr ?_)
      have unsent : ¬ (client.request? call).isSome = true := by simp [sent]
      rw [isSome_request?_iff] at unsent
      cases read : Url.read? (client.address call).toList with
      | none => exact .inl rfl
      | some url => exact .inr fun header => unsent ⟨⟨url, read⟩, header⟩
  | some request =>
      obtain ⟨url, address, target⟩ := request?_target sent
      obtain ⟨-, header⟩ := isSome_request?_iff.mp (Option.isSome_of_mem sent)
      exact .request reach address header target (request?_carries sent)

theorem Brings.unique {client : Client} {call : Call} {delivery : Delivery} {json other : Json}
    (brought : client.Brings call delivery json) (brought' : client.Brings call delivery other) :
    json = other := by
  cases (result_eq_ok_iff.mpr brought).symm.trans (result_eq_ok_iff.mpr brought')
  rfl

theorem logsIn_iff {client : Client} {email password token : String} {delivery : Delivery}
    {json : Json} (brought : client.Brings (.login email password) delivery json) :
    client.LogsIn email password delivery token ↔ token ≠ "" ∧ json.HandsOut token := by
  constructor
  · rintro ⟨full, other, brought', handed⟩
    cases brought.unique brought'
    exact ⟨full, handed⟩
  · rintro ⟨full, handed⟩
    exact ⟨full, json, brought, handed⟩

theorem LogsIn.unique {client : Client} {email password token other : String}
    {delivery : Delivery} (loggedIn : client.LogsIn email password delivery token)
    (loggedIn' : client.LogsIn email password delivery other) : token = other := by
  obtain ⟨-, json, brought, handed⟩ := loggedIn
  obtain ⟨-, handed'⟩ := (logsIn_iff brought).mp loggedIn'
  rw [(Json.handsOut_iff brought.orderly).mp handed, (Json.handsOut_iff brought.orderly).mp handed']

end Client

namespace Whoami
variable [Url.Domains] (client : Client) (email password : String) (first second : Delivery)

/-- How the two calls can end, with what they sent. -/
inductive Outcome : Report → Prop
  | fetched {token : String} {profile : Json} {login fetch : List Request}
      (loggedIn : client.LogsIn email password first token)
      (brought : client.Brings (.profile token) second profile)
      (sent : client.Transmits (.login email password) first login ∧
        client.Transmits (.profile token) second fetch) :
    Outcome ⟨.ok profile.pretty, login ++ fetch⟩
  | unfetched {token : String} {login fetch : List Request}
      (loggedIn : client.LogsIn email password first token)
      (lacking : ∀ profile, ¬ client.Brings (.profile token) second profile)
      (sent : client.Transmits (.login email password) first login ∧
        client.Transmits (.profile token) second fetch) :
    Outcome ⟨.error (.session (.call .fetchFailed)), login ++ fetch⟩
  | refused {error : SessionError} {login : List Request}
      (stays : ∀ token, ¬ client.LogsIn email password first token)
      (sent : client.Transmits (.login email password) first login) :
    Outcome ⟨.error (.session error), login⟩

theorem fetchProfile_outcome :
    Outcome client email password first second
      (fetchProfile client email password first second) := by
  have login := (Session.new email password).login_settles client first
  have arrived := ((Session.new email password).login_makes client first).arrived_eq
  have sent := client.transmits (.login email password) first
  rw [fetchProfile, arrived]
  by_cases brought : ∃ json, client.Brings (.login email password) first json
  · have succeeded := login.ok_iff.mpr brought
    obtain ⟨json, brought⟩ := brought
    obtain ⟨-, handed⟩ := login.succeeded json brought
    simp only [succeeded]
    generalize ((Session.new email password).login client first).session = session at handed
    by_cases empty : session.token = ""
    · rw [session.fetchProfile_of_empty client second empty]
      simp only [Option.toList_none, List.append_nil]
      refine .refused ?_ sent
      intro token loggedIn
      obtain ⟨full, handed'⟩ := (Client.logsIn_iff brought).mp loggedIn
      exact full (((handed token).mp handed').trans empty)
    · have loggedIn : client.LogsIn email password first session.token :=
        (Client.logsIn_iff brought).mpr ⟨empty, (handed session.token).mpr rfl⟩
      have held := (Session.canFetch_iff session).mpr empty
      have fetch := session.fetchProfile_settles client second empty
      have both := And.intro sent (client.transmits (.profile session.token) second)
      rw [(session.fetchProfile_makes client second held).arrived_eq]
      by_cases brought' : ∃ profile, client.Brings (.profile session.token) second profile
      · have succeeded := fetch.ok_iff.mpr brought'
        obtain ⟨profile, brought'⟩ := brought'
        simp only [succeeded, fetch.succeeded profile brought']
        exact .fetched loggedIn brought' both
      · have lacking := not_exists.mp brought'
        simp only [(fetch.failed lacking).1]
        exact .unfetched loggedIn lacking both
  · have lacking := not_exists.mp brought
    simp only [(login.failed lacking).1]
    refine .refused ?_ sent
    rintro token ⟨-, json, brought', -⟩
    exact lacking json brought'

theorem run_outcome {settings : Settings} {line : List Char} {input : List UInt8}
    (typed : Types line input) (held : settings.password = some password) :
    Outcome (.at settings.baseUrl settings.clientOptions) (emailOf settings.email line) password
      first second (run settings input first second) := by
  simp only [run, typed.decode, held]
  exact fetchProfile_outcome _ _ _ _ _

end Whoami

namespace Program

/-- What the ending of the whoami command says of its two calls, given its prompt. -/
structure Ending.Settles [Url.Domains] (ending : Ending) (prompt : String) (client : Client)
    (email password : String) (first second : Delivery) : Prop where
  fetching : ∀ token, client.LogsIn email password first token →
    ∃ login fetch, ending.arrived = login ++ fetch ∧
      client.Transmits (.login email password) first login ∧
      client.Transmits (.profile token) second fetch
  staying : (∀ token, ¬ client.LogsIn email password first token) →
    client.Transmits (.login email password) first ending.arrived
  success_iff : ending.failed = false ↔ ∃ token profile,
    client.LogsIn email password first token ∧ client.Brings (.profile token) second profile
  shown : ∀ token profile, client.LogsIn email password first token →
    client.Brings (.profile token) second profile →
    ending.output = s!"{prompt}{profile.pretty}\n"
  failed : ending.failed = true →
    ending.output = prompt ∧ ∃ error : SessionError, ending.report = s!"Error: {error.message}\n"

theorem settles_of_outcome [Url.Domains] {client : Client} {email password : String}
    {first second : Delivery} {report : Whoami.Report} (prompt : String)
    (outcome : Whoami.Outcome client email password first second report) :
    ((whoamiEnding report).after prompt).Settles prompt client email password first second := by
  cases outcome with
  | @fetched token profile login fetch loggedIn brought sent =>
      refine ⟨?_, fun none => absurd loggedIn (none token), ?_, ?_, nofun⟩
      · intro other loggedIn'
        cases loggedIn.unique loggedIn'
        exact ⟨login, fetch, rfl, sent⟩
      · exact ⟨fun _ => ⟨token, profile, loggedIn, brought⟩, fun _ => rfl⟩
      · intro other profile' loggedIn' brought'
        cases loggedIn.unique loggedIn'
        cases brought.unique brought'
        exact (String.append_assoc ..).symm
  | @unfetched token login fetch loggedIn lacking sent =>
      have unfetched : ∀ other profile, client.LogsIn email password first other →
          ¬ client.Brings (.profile other) second profile := by
        intro other profile loggedIn'
        cases loggedIn.unique loggedIn'
        exact lacking profile
      refine ⟨?_, fun none => absurd loggedIn (none token), ?_, ?_, ?_⟩
      · intro other loggedIn'
        cases loggedIn.unique loggedIn'
        exact ⟨login, fetch, rfl, sent⟩
      · refine ⟨nofun, ?_⟩
        rintro ⟨other, profile, loggedIn', brought⟩
        exact absurd brought (unfetched other profile loggedIn')
      · intro other profile loggedIn' brought
        exact absurd brought (unfetched other profile loggedIn')
      · intro _
        exact ⟨String.append_empty, .call .fetchFailed, rfl⟩
  | @refused error login stays sent =>
      refine ⟨fun token loggedIn => absurd loggedIn (stays token), fun _ => sent, ?_, ?_, ?_⟩
      · refine ⟨nofun, ?_⟩
        rintro ⟨token, profile, loggedIn, -⟩
        exact absurd loggedIn (stays token)
      · intro token profile loggedIn
        exact absurd loggedIn (stays token)
      · intro _
        exact ⟨String.append_empty, error, rfl⟩

/-- The whoami command under settings with a password. It logs in with the email that the line
stands for, and fetches the profile just if that handed out a token, with this one; of either call
the request reaches the backend unless it cannot be sent. The command succeeds just if the login
handed out a token and the fetch brought a profile. It then puts out the prompt and the profile,
and else the prompt alone, and what it reports is the message of an error. -/
theorem whoami_ending [Url.Domains] (settings : Settings) {password : String} {line : List Char}
    {input : List UInt8} (held : settings.password = some password)
    (typed : Whoami.Types line input) (first second : Delivery) :
    ∃ email, Whoami.Means settings.email line email ∧
      ((whoamiEnding (Whoami.run settings input first second)).after
        (Whoami.prompt settings)).Settles (Whoami.prompt settings)
        (.at settings.baseUrl settings.clientOptions) email password first second := by
  refine ⟨Whoami.emailOf settings.email line, Whoami.means_emailOf settings.email line, ?_⟩
  exact settles_of_outcome _ (Whoami.run_outcome password first second typed held)

attribute [local instance] Url.Domains.ascii

/-- A blank line without a feed, where the settings hold an email. -/
theorem whoami_ending_blank :
    let settings : Settings := ⟨"http://h", some "ada@example.org", none, none, some "pw"⟩
    let sent (body : String) : Delivery := .answered ⟨200, body.toUTF8.toList, false⟩
    let first := sent "\x7b\"access_token\": \"A\"\x7d"
    let second := sent "\x7b\"id\": 1\x7d"
    let client := Client.at settings.baseUrl settings.clientOptions
    let ending := (whoamiEnding (Whoami.run settings [0x20] first second)).after
      (Whoami.prompt settings)
    ending.output = "Email [ada@example.org]: \x7b\n  \"id\": 1\n\x7d\n" ∧
      ∃ email, Whoami.Means (some "ada@example.org") [' '] email ∧
        ∃ token profile, client.LogsIn email "pw" first token ∧
          client.Brings (.profile token) second profile := by
  intro settings sent first second client ending
  have typed : Whoami.Types [' '] [0x20] := .last (by decide)
  obtain ⟨email, means, settles⟩ := whoami_ending settings rfl typed first second
  have succeeded : ending.failed = false := by decide +kernel
  exact ⟨by decide +kernel, email, means, settles.success_iff.mp succeeded⟩

/-- Not every call comes to a request. With a base URL that names no scheme no login is sent, and a
login that hands out a control character as its token is followed by no fetch. -/
theorem whoami_unsent :
    let sent (body : String) : Delivery := .answered ⟨200, body.toUTF8.toList, false⟩
    let input := "ada@example.org\n".toUTF8.toList
    let login := sent "\x7b\"access_token\": \"t\"\x7d"
    let control := sent "\x7b\"access_token\": \"\x7f\"\x7d"
    let profile := sent "\x7b\"id\": 1\x7d"
    let settings (baseUrl : String) : Settings := ⟨baseUrl, none, none, none, some "pw"⟩
    (Whoami.run (settings "localhost:8000") input login profile).arrived = [] ∧
      ((Client.at "http://h" ⟨none, none⟩).result (.login "ada@example.org" "pw")
        control).toOption.bind accessToken? = some "\x7f" ∧
      (Whoami.run (settings "http://h") input control profile).arrived.map (·.method) =
        [.post] := by
  decide +kernel

end Program
end ProfileClient
