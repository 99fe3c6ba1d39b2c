import NewApi.Library.Address
import NewApi.Settings.Loaders

/-!
# Fetch protection

`common/ssrf_protection.go`: the policy against server-side request forgery, read from
`fetch_setting`, and the checks of a target and of a URL.
-/

namespace NewApi.Fetch

open Net (IP IPNet splitHostPort)
open Settings (atoi)

/-- A parsed URL, as far as the checks read it. -/
structure URL where
  (scheme host : String)
deriving DecidableEq

/-- The parsers of `net` and `net/url`, what `http.Transport` dials for a URL, and
`unicode.ToLower`. -/
structure Library where
  parseIP : String → Option IP
  ipString : IP → String
  parseCIDR : String → Option IPNet
  parseURL : String → Option URL
  urlString : URL → String
  canonicalAddr : URL → String
  toLowerRune : Char → Char

/-- The settings of fetches. -/
structure FetchSetting where
  (allowPrivateIp domainFilterMode ipFilterMode : Bool)
  (domainList ipList allowedPorts : List String)
  applyIPFilterForDomain : Bool

/-- `SSRFProtection`: what a fetch may reach. -/
structure SSRFProtection where
  allowPrivateIp : Bool
  /-- `true` for a white list. -/
  domainFilterMode : Bool
  domainList : List String
  /-- `true` for a white list. -/
  ipFilterMode : Bool
  ipList : List String
  allowedPorts : List ℤ
  applyIPFilterForDomain : Bool
deriving DecidableEq

/-! ## Ports -/

/-- The errors of a list of ports. -/
inductive PortError where
  | invalidRangeFormat (config : String)
  | invalidStartPort (config : String)
  | invalidEndPort (config : String)
  | invalidRange (config : String)
  | invalidRangePorts (config : String)
  | invalidPortNumber (config : String)
  | portOutOfRange (port : ℤ)
deriving DecidableEq

def parsePortRange (config : String) : Except PortError (List ℤ) :=
  if Text.contains config "-" then
    match Text.split config "-" with
    | [one, two] =>
      let startPort := atoi (Text.trimSpace one)
      let endPort := atoi (Text.trimSpace two)
      if startPort.2 = false then .error (.invalidStartPort config)
      else if endPort.2 = false then .error (.invalidEndPort config)
      else if endPort.1 < startPort.1 then .error (.invalidRange config)
      else if startPort.1 < 1 ∨ 65535 < startPort.1 ∨ endPort.1 < 1 ∨ 65535 < endPort.1 then
        .error (.invalidRangePorts config)
      else
        .ok ((List.range (endPort.1 - startPort.1 + 1).toNat).map (startPort.1 + ·))
    | _ => .error (.invalidRangeFormat config)
  else
    let port := atoi config
    if port.2 = false then .error (.invalidPortNumber config)
    else if port.1 < 1 ∨ 65535 < port.1 then .error (.portOutOfRange port.1)
    else .ok [port.1]

def parsePortRanges : List String → Except PortError (List ℤ)
  | [] => .ok []
  | config :: rest =>
    if Text.trimSpace config = "" then parsePortRanges rest
    else
      match parsePortRange (Text.trimSpace config), parsePortRanges rest with
      | .error err, _ => .error err
      | .ok _, .error err => .error err
      | .ok ports, .ok others => .ok (ports ++ others)

def newSSRFProtectionFromFetchSetting (setting : FetchSetting) :
    Except PortError SSRFProtection :=
  match parsePortRanges setting.allowedPorts with
  | .error err => .error err
  | .ok allowedPorts => .ok {
      allowPrivateIp := setting.allowPrivateIp
      domainFilterMode := setting.domainFilterMode
      domainList := setting.domainList
      ipFilterMode := setting.ipFilterMode
      ipList := setting.ipList
      allowedPorts := allowedPorts
      applyIPFilterForDomain := setting.applyIPFilterForDomain }

/-! ## Addresses -/

def privateIPv4Nets : List IPNet :=
  [⟨.ofBytes 0 0 0 0, 8⟩, ⟨.ofBytes 10 0 0 0, 8⟩, ⟨.ofBytes 100 64 0 0, 10⟩,
   ⟨.ofBytes 127 0 0 0, 8⟩, ⟨.ofBytes 169 254 0 0, 16⟩, ⟨.ofBytes 172 16 0 0, 12⟩,
   ⟨.ofBytes 192 0 0 0, 24⟩, ⟨.ofBytes 192 0 2 0, 24⟩, ⟨.ofBytes 192 168 0 0, 16⟩,
   ⟨.ofBytes 198 18 0 0, 15⟩, ⟨.ofBytes 198 51 100 0, 24⟩, ⟨.ofBytes 203 0 113 0, 24⟩,
   ⟨.ofBytes 224 0 0 0, 4⟩, ⟨.ofBytes 240 0 0 0, 4⟩, ⟨.ofBytes 255 255 255 255, 32⟩]

def privateIPv6Nets : List IPNet :=
  [⟨.v6 0x00000000000000000000000000000000, 128⟩, ⟨.v6 0x00000000000000000000000000000001, 128⟩,
   ⟨.v6 0x00000000000000000000FFFF00000000, 96⟩, ⟨.v6 0x0064FF9B000000000000000000000000, 96⟩,
   ⟨.v6 0x01000000000000000000000000000000, 64⟩, ⟨.v6 0x20010000000000000000000000000000, 23⟩,
   ⟨.v6 0x20010DB8000000000000000000000000, 32⟩, ⟨.v6 0xFC000000000000000000000000000000, 7⟩,
   ⟨.v6 0xFE800000000000000000000000000000, 10⟩, ⟨.v6 0xFF000000000000000000000000000000, 8⟩]

def isPrivateIP (ip : IP) : Bool :=
  if ip.isUnspecified then true
  else if ip.isLoopback || ip.isLinkLocalUnicast || ip.isLinkLocalMulticast then true
  else if ip.isInterfaceLocalMulticast then true
  else
    match ip.to4 with
    | some address => privateIPv4Nets.any fun network => network.contains (.v4 address)
    | none => privateIPv6Nets.any (fun network => network.contains ip) || ip.isPrivate

namespace Library

variable (lib : Library)

def isIpInCIDRList (ip : IP) (cidrList : List String) : Bool :=
  cidrList.any fun cidr =>
    match lib.parseCIDR cidr with
    | none => (lib.parseIP cidr).any fun whitelistIP => ip.equal whitelistIP
    | some network => network.contains ip

def isIPListed (ip : IP) (list : List String) : Bool :=
  if list = [] then false else lib.isIpInCIDRList ip list

def isIPAccessAllowed (guard : SSRFProtection) (ip : IP) : Bool :=
  if isPrivateIP ip && !guard.allowPrivateIp then false
  else
    let listed := lib.isIPListed ip guard.ipList
    if guard.ipFilterMode then listed else !listed

/-! ## Domains -/

def toLower (text : String) : List Char :=
  text.toList.map lib.toLowerRune

/-- Whether an entry, in lower case, matches a domain, in lower case. -/
def matchesEntry (domain item : List Char) : Bool :=
  if item = [] then false
  else if domain = item then true
  else if ['*', '.'].isPrefixOf item then
    let suffix := item.drop 2
    ('.' :: suffix).isSuffixOf domain || domain = suffix
  else false

def isDomainListed (domain : String) (list : List String) : Bool :=
  list.any fun item => matchesEntry (lib.toLower domain) (lib.toLower (Text.trimSpace item))

def isDomainAllowed (guard : SSRFProtection) (domain : String) : Bool :=
  let listed := lib.isDomainListed domain guard.domainList
  if guard.domainFilterMode then listed else !listed

end Library

/-! ## Targets -/

/-- Why a target is refused. -/
inductive TargetError where
  | invalidHost
  | invalidPort (port : ℤ)
  | portNotAllowed (port : ℤ)
  | privateIPNotAllowed (host : String) (ip : IP)
  | ipNotInWhitelist (host : String) (ip : IP)
  | ipInBlacklist (host : String) (ip : IP)
  | domainNotInWhitelist (host : String)
  | domainInBlacklist (host : String)
deriving DecidableEq

def isAllowedPort (guard : SSRFProtection) (port : ℤ) : Bool :=
  guard.allowedPorts = [] || port ∈ guard.allowedPorts

def ipAccessError (guard : SSRFProtection) (host : String) (ip : IP) : TargetError :=
  if isPrivateIP ip && !guard.allowPrivateIp then .privateIPNotAllowed host ip
  else if guard.ipFilterMode then .ipNotInWhitelist host ip
  else .ipInBlacklist host ip

/-- The errors of a fetch. -/
inductive FetchError where
  | settings (err : PortError)
  | invalidURL
  | unsupportedProtocol (scheme : String)
  | invalidAddress (address : String)
  | invalidPortText (port : String)
  | target (err : TargetError)
  | dnsFailed (host : String)
  | noUsableAddresses (host : String)
  | dialFailed
  | tooManyRedirects

def hostname (host : String) : String :=
  let characters := match Net.cutLastColon host.toList with
    | some (past, port) => if port.all Char.isDigit then past else host.toList
    | none => host.toList
  if characters.head? = some '[' ∧ characters.getLast? = some ']' then
    String.ofList characters.tail.dropLast
  else String.ofList characters

namespace Library

variable (lib : Library) (guard : SSRFProtection)

def validateNetworkTarget (host : String) (port : ℤ) : Except TargetError Unit :=
  let host := Text.trimSpace host
  if host = "" then .error .invalidHost
  else if port < 1 ∨ 65535 < port then .error (.invalidPort port)
  else if isAllowedPort guard port = false then .error (.portNotAllowed port)
  else
    match lib.parseIP host with
    | some ip =>
      if lib.isIPAccessAllowed guard ip then .ok ()
      else .error (ipAccessError guard "" ip)
    | none =>
      if lib.isDomainAllowed guard host then .ok ()
      else if guard.domainFilterMode then .error (.domainNotInWhitelist host)
      else .error (.domainInBlacklist host)

def validateResolvedIP (host : String) (ip : IP) : Except TargetError Unit :=
  if lib.isIPAccessAllowed guard ip then .ok ()
  else .error (ipAccessError guard host ip)

def firstRefused (host : String) (gives : List IP) : Option TargetError :=
  gives.findSome? fun ip =>
    match lib.validateResolvedIP guard host ip with
    | .ok _ => none
    | .error err => some err

/-- `ValidateURL`, with what the resolver answers it; `none` is a failed resolution. -/
def validateURL (url : String) (resolved : Option (List IP)) : Except FetchError Unit :=
  match lib.parseURL url with
  | none => .error .invalidURL
  | some parsed =>
    if parsed.scheme ≠ "http" ∧ parsed.scheme ≠ "https" then
      .error (.unsupportedProtocol parsed.scheme)
    else
      let target := (splitHostPort parsed.host).getD
        (hostname parsed.host, if parsed.scheme = "https" then "443" else "80")
      let port := atoi target.2
      if port.2 = false then .error (.invalidPortText target.2)
      else
        match lib.validateNetworkTarget guard target.1 port.1 with
        | .error err => .error (.target err)
        | .ok _ =>
          if (lib.parseIP target.1).isSome || !guard.applyIPFilterForDomain then
            .ok ()
          else
            match resolved with
            | none => .error (.dnsFailed target.1)
            | some gives =>
              match lib.firstRefused guard target.1 gives with
              | some err => .error (.target err)
              | none => .ok ()

end Library

end NewApi.Fetch
