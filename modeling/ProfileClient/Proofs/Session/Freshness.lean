import ProfileClient.Proofs.Session.Effects
/-!
Which token the profile of a session was fetched with. A login replaces the token and leaves the
profile as it is, so that the profile can outlast the token it was fetched with.
-/
namespace ProfileClient

/-- A fetch with a token that brought a profile. -/
def Exchange.Fetched (exchange : Exchange) (token : String) (profile : Json) : Prop :=
  exchange.fetch? = some profile ∧ exchange.request.authorization = some ("Bearer " ++ token)

theorem Exchange.Fetched.token_unique {exchange : Exchange} {token other : String}
    {profile body : Json} (fetched : exchange.Fetched token profile)
    (otherFetched : exchange.Fetched other body) : token = other := by
  have same := fetched.2.symm.trans otherFetched.2
  exact (String.append_right_inj _).mp (Option.some.inj same)

def logins (exchanges : List Exchange) : List Json := exchanges.filterMap Exchange.login?

def fetches (exchanges : List Exchange) : List Json := exchanges.filterMap Exchange.fetch?

/-- Each fetch that succeeded carried the token that the logins before it left. -/
def Carried (exchanges : List Exchange) : Prop :=
  ∀ before exchange after profile, exchanges = before ++ exchange :: after →
    exchange.fetch? = some profile → exchange.Fetched (lastToken (logins before)) profile

theorem Carried.concat {exchanges : List Exchange} (h : Carried exchanges) {exchange : Exchange}
    (new : ∀ profile, exchange.fetch? = some profile →
      exchange.Fetched (lastToken (logins exchanges)) profile) :
    Carried (exchanges ++ [exchange]) := by
  intro before other after profile split fetched
  rcases List.eq_nil_or_concat after with rfl | ⟨after, last, rfl⟩
  · obtain ⟨rfl, same⟩ := List.append_inj' split rfl
    cases same
    exact new profile fetched
  · rw [List.concat_eq_append, ← List.cons_append, ← List.append_assoc] at split
    obtain ⟨rfl, -⟩ := List.append_inj' split rfl
    exact h before other after profile rfl fetched

namespace Session

inductive Action where
  | fill (email password : String)
  | login (delivery : Delivery)
  | fetch (delivery : Delivery)
deriving Repr

/-- A session with the exchanges of its calls, the oldest first. -/
structure Trail where
  session : Session
  exchanges : List Exchange
deriving Repr

namespace Trail

def start (email password : String) : Trail := ⟨.new email password, []⟩

def extend (delivery : Delivery) (step : Step) (trail : Trail) : Trail where
  session := step.session
  exchanges := trail.exchanges ++ (step.exchange? delivery).toList

def act [Url.Domains] (client : Client) (action : Action) (trail : Trail) : Trail :=
  match action with
  | .fill email password => { trail with session := { trail.session with email, password } }
  | .login delivery => trail.extend delivery (trail.session.login client delivery)
  | .fetch delivery => trail.extend delivery (trail.session.fetchProfile client delivery)

def replay [Url.Domains] (client : Client) (actions : List Action) (trail : Trail) : Trail :=
  actions.foldl (fun trail action => trail.act client action) trail

/-- The token is that of the last login, the profile that of the last fetch, and each fetch carried
the token of its time. -/
structure Sourced (trail : Trail) : Prop where
  token_eq : trail.session.token = lastToken (logins trail.exchanges)
  profile_eq : trail.session.profile = (fetches trail.exchanges).getLast?
  carried : Carried trail.exchanges

theorem start_sourced (email password : String) : (start email password).Sourced := by
  refine ⟨rfl, rfl, ?_⟩
  intro before exchange after profile split
  simp [start] at split

theorem Sourced.profile_eq_some_iff {trail : Trail} (h : trail.Sourced) (profile : Json) :
    trail.session.profile = some profile ↔
      ∃ before exchange after, trail.exchanges = before ++ exchange :: after ∧
        exchange.Fetched (lastToken (logins before)) profile ∧
        ∀ later ∈ after, later.fetch? = none := by
  rw [h.profile_eq, fetches, getLast?_filterMap_eq_some_iff]
  constructor
  · rintro ⟨before, exchange, after, split, fetched, last⟩
    exact ⟨before, exchange, after, split, h.carried _ _ _ _ split fetched, last⟩
  · rintro ⟨before, exchange, after, split, fetched, last⟩
    exact ⟨before, exchange, after, split, fetched.1, last⟩

section Actions
variable [Url.Domains] (client : Client) (delivery : Delivery) {trail : Trail}

theorem Sourced.login (h : trail.Sourced) :
    (trail.extend delivery (trail.session.login client delivery)).Sourced := by
  unfold extend
  rw [login_exchange?, login_session, Client.toOption_result]
  cases made : client.exchange? (.login trail.session.email trail.session.password) delivery with
  | none => exact ⟨by simpa using h.token_eq, by simpa using h.profile_eq, by simpa using h.carried⟩
  | some exchange =>
      obtain ⟨login, noFetch⟩ := Client.login?_of_exchange? made
      refine ⟨?_, ?_, h.carried.concat (by simp [noFetch])⟩
      · cases content : exchange.response.content? with
        | none => simpa [logins, login, content] using h.token_eq
        | some response => simp [logins, login, content]
      · cases content : exchange.response.content? with
        | none => simpa [fetches, noFetch, content] using h.profile_eq
        | some response => simpa [fetches, noFetch, content] using h.profile_eq

theorem Sourced.fetch (h : trail.Sourced) :
    (trail.extend delivery (trail.session.fetchProfile client delivery)).Sourced := by
  unfold extend
  rw [fetchProfile_exchange?, fetchProfile_session, Client.toOption_result]
  cases held : trail.session.canFetch with
  | false =>
      exact ⟨by simpa using h.token_eq, by simpa using h.profile_eq, by simpa using h.carried⟩
  | true =>
      simp only [if_true]
      cases made : client.exchange? (.profile trail.session.token) delivery with
      | none =>
          exact ⟨by simpa using h.token_eq, by simpa using h.profile_eq, by simpa using h.carried⟩
      | some exchange =>
          obtain ⟨noLogin, fetch, authorization⟩ := Client.fetch?_of_exchange? made
          rw [h.token_eq] at authorization
          refine ⟨?_, ?_, h.carried.concat fun profile fetched => ⟨fetched, authorization⟩⟩
          · cases content : exchange.response.content? with
            | none => simpa [logins, noLogin, content] using h.token_eq
            | some profile => simpa [logins, noLogin, content] using h.token_eq
          · cases content : exchange.response.content? with
            | none => simpa [fetches, fetch, content] using h.profile_eq
            | some profile => simp [fetches, fetch, content]

theorem Sourced.act (h : trail.Sourced) (action : Action) : (trail.act client action).Sourced := by
  cases action with
  | fill email password => exact ⟨h.token_eq, h.profile_eq, h.carried⟩
  | login delivery => exact h.login client delivery
  | fetch delivery => exact h.fetch client delivery

theorem Sourced.replay (h : trail.Sourced) (actions : List Action) :
    (trail.replay client actions).Sourced := by
  induction actions generalizing trail with
  | nil => exact h
  | cons action actions ih => exact ih (h.act client action)

end Actions

/-- The profile held, if any, was brought by a fetch that carried the token held. -/
def Fresh (trail : Trail) : Prop :=
  ∀ profile, trail.session.profile = some profile →
    ∃ exchange ∈ trail.exchanges, exchange.Fetched trail.session.token profile

/-- A session holds the token of its last login, and as its profile what the last fetch that
succeeded brought, which carried the token held at that time. This profile is one fetched with the
token held now just if that token is the same one, or a fetch before carried the token held now and
brought the same profile. -/
theorem replay_fresh_iff [Url.Domains] (client : Client) (email password : String)
    (actions : List Action) :
    let trail := (start email password).replay client actions
    trail.session.token = lastToken (logins trail.exchanges) ∧
      (∀ profile, trail.session.profile = some profile ↔
        ∃ before exchange after, trail.exchanges = before ++ exchange :: after ∧
          exchange.Fetched (lastToken (logins before)) profile ∧
          ∀ later ∈ after, later.fetch? = none) ∧
      (trail.Fresh ↔ ∀ before exchange after profile,
        trail.exchanges = before ++ exchange :: after →
        exchange.Fetched (lastToken (logins before)) profile →
        (∀ later ∈ after, later.fetch? = none) →
        lastToken (logins before) = trail.session.token ∨
          ∃ earlier ∈ before, earlier.Fetched trail.session.token profile) := by
  intro trail
  have sourced : trail.Sourced := (start_sourced email password).replay client actions
  refine ⟨sourced.token_eq, sourced.profile_eq_some_iff, ?_, ?_⟩
  · intro fresh before exchange after profile split fetched last
    have held : trail.session.profile = some profile :=
      (sourced.profile_eq_some_iff profile).mpr ⟨before, exchange, after, split, fetched, last⟩
    obtain ⟨other, made, otherFetched⟩ := fresh profile held
    rw [split, List.mem_append, List.mem_cons] at made
    rcases made with earlier | rfl | later
    · exact .inr ⟨other, earlier, otherFetched⟩
    · exact .inl (fetched.token_unique otherFetched)
    · have none := last other later
      rw [otherFetched.1] at none
      cases none
  · intro condition profile held
    obtain ⟨before, exchange, after, split, fetched, last⟩ :=
      (sourced.profile_eq_some_iff profile).mp held
    rcases condition before exchange after profile split fetched last with
      same | ⟨earlier, made, earlierFetched⟩
    · exact ⟨exchange, by simp [split], same ▸ fetched⟩
    · exact ⟨earlier, by simp [split, made], earlierFetched⟩

theorem not_fresh_of_token {trail : Trail} (held : trail.session.profile.isSome)
    (other : ∀ exchange ∈ trail.exchanges,
      exchange.request.authorization ≠ some ("Bearer " ++ trail.session.token)) :
    ¬ trail.Fresh := by
  intro fresh
  obtain ⟨profile, held⟩ := Option.isSome_iff_exists.mp held
  obtain ⟨exchange, made, fetched⟩ := fresh profile held
  exact other exchange made fetched.2

attribute [local instance] Url.Domains.ascii

/-- A second login leaves the profile of the first one in place. -/
theorem not_fresh_of_second_login :
    ¬ ((start "ada@example.org" "secret").replay (.at "http://localhost:8000" ⟨none, none⟩)
      [.login (.answered ⟨200, "\x7b\"access_token\":\"A\"\x7d".toUTF8.data.toList, false⟩),
        .fetch (.answered ⟨200, "\x7b\"id\":1\x7d".toUTF8.data.toList, false⟩),
        .fill "bob@example.org" "hidden",
        .login (.answered ⟨200, "\x7b\"access_token\":\"B\"\x7d".toUTF8.data.toList, false⟩)
      ]).Fresh :=
  not_fresh_of_token (by decide +kernel) (by decide +kernel)

end Trail

end Session
end ProfileClient
