import Mathlib.Data.List.DropRight
import ProfileClient.Proofs.Client
import ProfileClient.Proofs.Url.Authority
/-!
What the base URL of a client decides: where its requests go. Slashes at its end make no difference,
and the host is the one it names, but for one kind of base URL. A scheme with nothing but slashes
after it names no host, and then the first segment of the path of the call is taken for one.
-/
namespace ProfileClient

section Slashes
variable {url url' : String}

theorem toList_withoutSlashes (url : String) :
    (withoutSlashes url).toList = url.toList.rdropWhile (· == '/') := String.toList_ofList

theorem rdropWhile_append_slashes (text : List Char) (n : Nat) :
    (text ++ List.replicate n '/').rdropWhile (· == '/') = text.rdropWhile (· == '/') := by
  have slashes : ∀ c ∈ List.replicate n '/', (c == '/') = true := by
    intro c mem
    rw [(List.mem_replicate.mp mem).2]
    rfl
  rw [List.rdropWhile, List.reverse_append, List.reverse_replicate,
    List.dropWhile_append_of_pos slashes, ← List.rdropWhile]

theorem exists_slashes (url : String) :
    ∃ n, url.toList = (withoutSlashes url).toList ++ List.replicate n '/' := by
  have slashes : url.toList.rtakeWhile (· == '/') =
      List.replicate (url.toList.rtakeWhile (· == '/')).length '/' :=
    List.eq_replicate_of_mem fun c mem => by simpa using List.mem_rtakeWhile_imp mem
  refine ⟨(url.toList.rtakeWhile (· == '/')).length, ?_⟩
  rw [toList_withoutSlashes, ← slashes, List.rdropWhile_append_rtakeWhile]

/-- Base URLs count as the same just if they differ in slashes at their ends alone. -/
theorem withoutSlashes_eq_iff : withoutSlashes url = withoutSlashes url' ↔
    ∃ text m n, url.toList = text ++ List.replicate m '/' ∧
      url'.toList = text ++ List.replicate n '/' := by
  constructor
  · intro same
    obtain ⟨m, split⟩ := exists_slashes url
    obtain ⟨n, split'⟩ := exists_slashes url'
    exact ⟨(withoutSlashes url).toList, m, n, split, by rw [same]; exact split'⟩
  · rintro ⟨text, m, n, split, split'⟩
    rw [← String.toList_inj, toList_withoutSlashes, toList_withoutSlashes, split, split',
      rdropWhile_append_slashes, rdropWhile_append_slashes]

theorem withoutSlashes_isPrefix (url : String) : (withoutSlashes url).toList <+: url.toList := by
  obtain ⟨n, split⟩ := exists_slashes url
  exact ⟨_, split.symm⟩

theorem getLast?_withoutSlashes (url : String) :
    (withoutSlashes url).toList.getLast? ≠ some '/' := by
  intro last
  rw [toList_withoutSlashes] at last
  obtain ⟨nonempty, slash⟩ := List.mem_getLast?_eq_getLast last
  exact List.rdropWhile_last_not (· == '/') url.toList nonempty (by rw [← slash]; rfl)

theorem withoutSlashes_idem (url : String) :
    withoutSlashes (withoutSlashes url) = withoutSlashes url := by
  rw [← String.toList_inj, toList_withoutSlashes, toList_withoutSlashes, List.rdropWhile_idempotent]

end Slashes

namespace Client

/-- What calls show, one after the other. -/
def transcript [Url.Domains] (client : Client) (calls : List (Call × Delivery)) : List Record :=
  calls.map fun (call, delivery) => client.record call delivery

/-- Clients whose base URLs differ in slashes at their ends alone are the same. -/
theorem at_append_slashes (url : String) (n : Nat) (options : Options) :
    Client.at (url ++ String.ofList (List.replicate n '/')) options = Client.at url options := by
  have same : withoutSlashes (url ++ String.ofList (List.replicate n '/')) =
      withoutSlashes url := by
    refine withoutSlashes_eq_iff.mpr ⟨url.toList, n, 0, ?_, (List.append_nil _).symm⟩
    rw [String.toList_append, String.toList_ofList]
  rw [Client.at, same, Client.at]

/-- The path of a call starts with one slash. -/
theorem exists_path (call : Call) : ∃ c rest, call.path.toList = '/' :: c :: rest ∧ c ≠ '/' := by
  cases call with
  | login =>
      have split : "/api/v1/login".toList = '/' :: 'a' :: "pi/v1/login".toList := by decide
      exact ⟨_, _, split, by decide⟩
  | profile =>
      have split : "/api/v1/me".toList = '/' :: 'a' :: "pi/v1/me".toList := by decide
      exact ⟨_, _, split, by decide⟩

theorem toList_address (client : Client) (call : Call) :
    (client.address call).toList = client.baseUrl.toList ++ call.path.toList :=
  String.toList_append

/-- Slashes at the end of a base URL change neither the base URL of the client nor what any calls
show, and one slash stands between the base URL and the path. -/
theorem slashes_ignored [Url.Domains] (url : String) (n : Nat) (options : Options) :
    let client := Client.at url options
    let slashed := Client.at (url ++ String.ofList (List.replicate n '/')) options
    slashed.baseUrl = client.baseUrl ∧ client.baseUrl.toList <+: url.toList ∧
      client.baseUrl.toList.getLast? ≠ some '/' ∧
      (∀ calls, slashed.transcript calls = client.transcript calls) ∧
      (∀ options', (Client.at client.baseUrl options').baseUrl = client.baseUrl) ∧
      ∀ call, client.address call = client.baseUrl ++ call.path ∧
        ∃ c rest, c ≠ '/' ∧
          (client.address call).toList = client.baseUrl.toList ++ '/' :: c :: rest := by
  intro client slashed
  have same : slashed = client := at_append_slashes url n options
  refine ⟨by rw [same], withoutSlashes_isPrefix url, getLast?_withoutSlashes url, ?_, ?_, ?_⟩
  · intro calls
    rw [same]
  · exact fun _ => withoutSlashes_idem url
  · intro call
    obtain ⟨c, rest, path, other⟩ := exists_path call
    refine ⟨rfl, c, rest, other, ?_⟩
    rw [toList_address, path]

theorem solid_path (call : Call) : Url.Solid call.path.toList := by
  apply Url.solid_of_all
  cases call with
  | login =>
      change "/api/v1/login".toList.all _ = true
      decide
  | profile =>
      change "/api/v1/me".toList.all _ = true
      decide

/-- On its own the path of a call would name a host. -/
theorem site?_path [Url.Domains] (call : Call) (scheme : Url.Scheme) :
    Url.site? scheme (Url.authority call.path.toList) = some ⟨scheme, .name "api", none⟩ := by
  have segment : Url.authority call.path.toList = "api".toList := by
    cases call with
    | login =>
        change Url.authority "/api/v1/login".toList = _
        decide
    | profile =>
        change Url.authority "/api/v1/me".toList = _
        decide
  have plain : Url.IsPlain "api".toList := Url.isPlain_of_all (by decide) (by decide +kernel)
  have unescaped : Text.Utf8.decodeLossy (Url.decode "api".toList) = "api".toList := by
    decide +kernel
  have named : Url.Domains.toAscii? (Text.Utf8.decodeLossy (Url.decode "api".toList)) =
      some "api".toList := by
    rw [unescaped]
    exact Url.Domains.toAscii?_of_isPlain _ plain
  have host := Url.Host.read?_of_toAscii? (by decide) named (by decide) (by decide +kernel)
  have parts : Url.splitPort false (Url.withoutAccount "api".toList) = ("api".toList, []) := by
    decide +kernel
  rw [segment, Url.site?, parts]
  dsimp only
  rw [host]
  rfl

/-- A request goes to the scheme, host and port of the base URL, and the base URL has them, unless
it is a scheme with nothing but slashes after it. Then it is no URL, and the request goes to the
host `api`. -/
theorem request_site_iff [Url.Domains] {baseUrl : String} {options : Options} {call : Call}
    {request : Request}
    (sent : (Client.at baseUrl options).request? call = some request) :
    ∃ url, Url.read? ((Client.at baseUrl options).address call).toList = some url ∧
      request.url = url.render ∧
      ((∃ base, Url.read? baseUrl.toList = some base ∧ base.scheme = url.scheme ∧
          base.host = url.host ∧ base.port = url.port) ↔ ¬ Url.Bare baseUrl.toList) ∧
      (Url.Bare baseUrl.toList →
        Url.read? baseUrl.toList = none ∧ url.host = .name "api" ∧ url.port = none) := by
  obtain ⟨url, read, rendered⟩ := request?_target sent
  refine ⟨url, read, rendered, ?_⟩
  obtain ⟨n, split⟩ := exists_slashes baseUrl
  obtain ⟨c, rest, path, -⟩ := exists_path call
  have slash : call.path.toList.head? = some '/' := by rw [path]; rfl
  have found : (Url.read? ((withoutSlashes baseUrl).toList ++ call.path.toList)).map Url.site =
      some url.site := by
    have whole : ((Client.at baseUrl options).address call).toList =
        (withoutSlashes baseUrl).toList ++ call.path.toList := toList_address _ call
    rw [← whole, read]
    rfl
  obtain ⟨same, bare⟩ := Url.site_append n slash (solid_path call) found
  rw [← split] at same bare
  refine ⟨⟨?_, ?_⟩, ?_⟩
  · rintro ⟨base, readBase, -⟩ isBare
    cases (bare isBare).1.symm.trans readBase
  · intro whole
    obtain ⟨base, readBase, site⟩ := Option.map_eq_some_iff.mp (same whole)
    simp only [Url.site, Url.Site.mk.injEq] at site
    exact ⟨base, readBase, site⟩
  · intro isBare
    obtain ⟨none, scheme, first⟩ := bare isBare
    rw [site?_path] at first
    simp only [Url.site, Option.some.injEq, Url.Site.mk.injEq] at first
    exact ⟨none, first.2.1.symm, first.2.2.symm⟩

attribute [local instance] Url.Domains.ascii

/-- An account, a port and blanks leave the host of the base URL the one that is sent to. -/
theorem request_site_iff_of_port :
    let baseUrl := " http://user@h:8000// "
    ∃ (request : Request) (url base : Url),
      (Client.at baseUrl ⟨none, none⟩).request? (.profile "t") = some request ∧
        request.url = url.render ∧ Url.read? baseUrl.toList = some base ∧
        base.host = url.host ∧ base.port = url.port := by
  intro baseUrl
  obtain ⟨request, sent⟩ : ∃ request,
      (Client.at baseUrl ⟨none, none⟩).request? (.profile "t") = some request :=
    Option.isSome_iff_exists.mp (by decide +kernel)
  obtain ⟨url, -, rendered, named, bare⟩ := request_site_iff sent
  have read : Url.read? baseUrl.toList ≠ none := by decide +kernel
  obtain ⟨base, readBase, -, host, port⟩ := named.mpr fun isBare => read (bare isBare).1
  exact ⟨request, url, base, sent, rendered, readBase, host, port⟩

/-- The credentials of a login go to a host that the base URL does not name. -/
theorem login_sent_elsewhere :
    let client := Client.at "http://" ⟨none, none⟩
    Url.read? "http://".toList = none ∧
      ∃ request, client.request? (.login "ada@example.org" "secret") = some request ∧
        request.url = "http://api/v1/login" ∧
        request.body = "\x7b\"email\":\"ada@example.org\",\"password\":\"secret\"\x7d" := by
  refine ⟨by decide +kernel, ⟨.post, "http://api/v1/login", none, none, some "application/json",
    "\x7b\"email\":\"ada@example.org\",\"password\":\"secret\"\x7d"⟩, ?_, rfl, rfl⟩
  decide +kernel

end Client
end ProfileClient
