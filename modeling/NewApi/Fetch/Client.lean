import NewApi.Fetch.Protection
import NewApi.Library.Transition

/-!
# The protected client

`service/protected_fetch_client.go` and `checkProtectedFetchRedirect`: a URL is validated when a
request is sent and at each redirect, and the address is checked again when it is dialed.
-/

namespace NewApi.Fetch

open Net (IP splitHostPort joinHostPort)
open Settings (atoi)

/-! ## Dialing -/

def networkAllowsIP (network : String) (ip : IP) : Bool :=
  if network = "tcp4" then ip.to4.isSome
  else if network = "tcp6" then ip.to4.isNone
  else true

/-- What the underlying dialer is called with, what it was asked for, and the answers of the
resolver that were looked at. -/
structure Dialed where
  requested : String
  answers : List (Option IP)
  address : String
deriving DecidableEq

/-- The dialed addresses of the candidates, up to the first connection. -/
def dialCandidates : List String → List Bool → List String
  | [], _ => []
  | address :: rest, outcomes =>
    if outcomes.head? = some true then [address]
    else address :: dialCandidates rest outcomes.tail

namespace Library

variable (lib : Library)

def candidateIPs (guard : SSRFProtection) (network host : String) :
    List (Option IP) → Except TargetError (List IP)
  | [] => .ok []
  | none :: rest => candidateIPs guard network host rest
  | some ip :: rest =>
    if networkAllowsIP network ip = false then candidateIPs guard network host rest
    else
      match lib.validateResolvedIP guard host ip with
      | .error err => .error err
      | .ok _ =>
        match candidateIPs guard network host rest with
        | .error err => .error err
        | .ok others => .ok (ip :: others)

/-- `protectedFetchDialer.DialContext`: what it dials, and the error unless it has a connection.
`resolved` is what the resolver answers, and `outcomes` tell whether a dial connects. -/
def dialContext (setting : FetchSetting) (network address : String)
    (resolved : Option (List (Option IP))) (outcomes : List Bool) :
    List Dialed × Option FetchError :=
  match newSSRFProtectionFromFetchSetting setting with
  | .error err => ([], some (.settings err))
  | .ok guard =>
    match splitHostPort address with
    | none => ([], some (.invalidAddress address))
    | some (host, portText) =>
      let port := atoi portText
      if port.2 = false then ([], some (.invalidPortText portText))
      else
        match lib.validateNetworkTarget guard host port.1 with
        | .error err => ([], some (.target err))
        | .ok _ =>
          let direct (goal : String) : List Dialed × Option FetchError :=
            ([⟨address, [], goal⟩],
              if outcomes.head? = some true then none else some .dialFailed)
          match lib.parseIP host with
          | some ip => direct (joinHostPort (lib.ipString ip) portText)
          | none =>
            if !guard.applyIPFilterForDomain then direct address
            else
              match resolved with
              | none => ([], some (.dnsFailed host))
              | some gives =>
                match lib.candidateIPs guard network host gives with
                | .error err => ([], some (.target err))
                | .ok cands =>
                  let addresses := cands.map fun ip =>
                    joinHostPort (lib.ipString ip) portText
                  let dialed := dialCandidates addresses outcomes
                  (dialed.map fun goal => ⟨address, gives, goal⟩,
                    if cands = [] then some (.noUsableAddresses host)
                    else if true ∈ outcomes.take cands.length then none
                    else some .dialFailed)

/-! ## Requests -/

def validateSSRFProtectedFetchURL (setting : FetchSetting) (url : String)
    (resolved : Option (List IP)) : Except FetchError Unit :=
  match newSSRFProtectionFromFetchSetting setting with
  | .error err => .error (.settings err)
  | .ok guard => lib.validateURL guard url resolved

def checkProtectedFetchRedirect (setting : FetchSetting) (url : URL) (via : ℕ)
    (resolved : Option (List IP)) : Except FetchError Unit :=
  match lib.validateSSRFProtectedFetchURL setting (lib.urlString url) resolved with
  | .error err => .error err
  | .ok _ => if 10 ≤ via then .error .tooManyRedirects else .ok ()

def roundTrip (setting : FetchSetting) (url : URL) (resolved : Option (List IP)) :
    Except FetchError Unit :=
  lib.validateSSRFProtectedFetchURL setting (lib.urlString url) resolved

end Library

/-! ## Runs -/

/-- A client: the request in hand, its redirects, and what was dialed. -/
structure Client where
  request : Option URL
  via : ℕ
  dialed : List Dialed

/-- Each action comes with the answers that the resolver gives to it. -/
inductive Action where
  | send (url : URL) (resolved : Option (List IP))
  | dial (resolved : Option (List (Option IP))) (outcomes : List Bool)
  | redirect (url : URL) (checked resolved : Option (List IP))

def Library.next (lib : Library) (setting : FetchSetting) (client : Client) :
    Action → Client
  | .send url resolved =>
    match lib.roundTrip setting url resolved with
    | .error _ => { client with request := none }
    | .ok _ => { client with request := some url, via := 1 }
  | .dial resolved outcomes =>
    match client.request with
    | none => client
    | some url =>
      let dials := lib.dialContext setting "tcp" (lib.canonicalAddr url) resolved outcomes
      { client with dialed := client.dialed ++ dials.1 }
  | .redirect url checked resolved =>
    match client.request with
    | none => client
    | some _ =>
      match lib.checkProtectedFetchRedirect setting url client.via checked with
      | .error _ => { client with request := none }
      | .ok _ =>
        match lib.roundTrip setting url resolved with
        | .error _ => { client with request := none }
        | .ok _ => { client with request := some url, via := client.via + 1 }

def idleClient : Client :=
  { request := none, via := 0, dialed := [] }

end NewApi.Fetch
