import ProfileClient.Client
/-!
What the requests of calls say, when a call succeeds, and which token the logins of a backend leave.
-/
namespace ProfileClient

section Requests
variable [Url.Domains]

theorem Client.request?_login {client : Client} {email password : String} {request : Request}
    (sent : client.request? (.login email password) = some request) :
    request.method = .post ∧ request.authorization = none ∧
      request.contentType = some "application/json" ∧
      request.body = (client.loginBody email password).compact := by
  unfold request? at sent
  split at sent
  · cases sent
  · cases sent
    exact ⟨rfl, rfl, rfl, rfl⟩

theorem Client.request?_profile {client : Client} {token : String} {request : Request}
    (sent : client.request? (.profile token) = some request) :
    request.method = .get ∧ request.authorization = some ("Bearer " ++ token) ∧
      request.contentType = none ∧ request.body = "" := by
  unfold request? at sent
  split at sent
  · cases sent
  · simp only [Option.ite_none_right_eq_some] at sent
    obtain ⟨-, sent⟩ := sent
    cases sent
    exact ⟨rfl, rfl, rfl, rfl⟩

/-- A request goes to the URL that its address names. -/
theorem Client.request?_target {client : Client} {call : Call} {request : Request}
    (sent : client.request? call = some request) :
    ∃ url, Url.read? (client.address call).toList = some url ∧ request.url = url.render := by
  unfold request? at sent
  split at sent
  · cases sent
  · next url read =>
      cases call with
      | login email password =>
          cases sent
          exact ⟨url, read, rfl⟩
      | profile token =>
          simp only [Option.ite_none_right_eq_some] at sent
          obtain ⟨-, sent⟩ := sent
          cases sent
          exact ⟨url, read, rfl⟩

end Requests

structure Exchange where
  request : Request
  response : Response
deriving DecidableEq, Repr

/-- The value that an answer of success brings. -/
def Response.content? (response : Response) : Option Json :=
  if response.isSuccess then response.json? else none

namespace Exchange

def login? (exchange : Exchange) : Option Json :=
  if exchange.request.method = .post then exchange.response.content? else none

def fetch? (exchange : Exchange) : Option Json :=
  if exchange.request.method = .get then exchange.response.content? else none

end Exchange

section Exchanges
variable [Url.Domains]

def Client.exchange? (client : Client) (call : Call) : Delivery → Option Exchange
  | .answered response => (client.request? call).map fun request => ⟨request, response⟩
  | _ => none

/-- A call brings what the answer to its request brings. -/
theorem Client.toOption_result (client : Client) (call : Call) (delivery : Delivery) :
    (client.result call delivery).toOption =
      (client.exchange? call delivery).bind (·.response.content?) := by
  unfold result exchange?
  cases delivery with
  | answered response =>
      cases client.request? call with
      | none => rfl
      | some request =>
          simp only [Option.map_some, Option.bind_some, Response.content?]
          cases response.isSuccess with
          | false => rfl
          | true => cases response.json? <;> rfl
  | _ => cases client.request? call <;> rfl

theorem Client.login?_of_exchange? {client : Client} {delivery : Delivery}
    {email password : String} {exchange : Exchange}
    (made : client.exchange? (.login email password) delivery = some exchange) :
    exchange.login? = exchange.response.content? ∧ exchange.fetch? = none := by
  cases delivery with
  | answered response =>
      obtain ⟨request, sent, rfl⟩ := Option.map_eq_some_iff.mp made
      have method := (request?_login sent).1
      simp [Exchange.login?, Exchange.fetch?, method]
  | _ => cases made

theorem Client.fetch?_of_exchange? {client : Client} {delivery : Delivery} {token : String}
    {exchange : Exchange} (made : client.exchange? (.profile token) delivery = some exchange) :
    exchange.login? = none ∧ exchange.fetch? = exchange.response.content? ∧
      exchange.request.authorization = some ("Bearer " ++ token) := by
  cases delivery with
  | answered response =>
      obtain ⟨request, sent, rfl⟩ := Option.map_eq_some_iff.mp made
      obtain ⟨method, authorization, -⟩ := request?_profile sent
      simp [Exchange.login?, Exchange.fetch?, method, authorization]
  | _ => cases made

end Exchanges

namespace Client

/-- What a call shows: its request as it is made and as it arrives, its result, and the events. -/
structure Record where
  made : Option Request
  arrived : Option Request
  result : Except Failure Json
  events : List Event

def record [Url.Domains] (client : Client) (call : Call) (delivery : Delivery) : Record where
  made := client.request? call
  arrived := delivery.arrived? (client.request? call)
  result := client.result call delivery
  events := [client.opening call, closing call (client.result call delivery)]

end Client

/-- The last item that has a value stands before none that has one. -/
theorem getLast?_filterMap_eq_some_iff {α β : Type} {f : α → Option β} {items : List α} {v : β} :
    (items.filterMap f).getLast? = some v ↔
      ∃ before item after, items = before ++ item :: after ∧ f item = some v ∧
        ∀ later ∈ after, f later = none := by
  constructor
  · intro last
    obtain ⟨earlier, split⟩ := List.getLast?_eq_some_iff.mp last
    obtain ⟨first, second, rfl, -, tail⟩ := List.filterMap_eq_append_iff.mp split
    obtain ⟨between, item, after, rfl, -, found, none⟩ := List.filterMap_eq_cons_iff.mp tail
    refine ⟨first ++ between, item, after, by simp, found, ?_⟩
    exact List.filterMap_eq_nil_iff.mp none
  · rintro ⟨before, item, after, rfl, found, none⟩
    have empty : after.filterMap f = [] := List.filterMap_eq_nil_iff.mpr none
    simp [found, empty]

/-- The token that the last of several logins left, if there was one. -/
def lastToken (logins : List Json) : String := (logins.getLast?.bind accessToken?).getD ""

@[simp]
theorem lastToken_concat (logins : List Json) (response : Json) :
    lastToken (logins ++ [response]) = (accessToken? response).getD "" := by
  simp [lastToken]

end ProfileClient
