import Mathlib.Data.Nat.Digits.Lemmas
import NewApi.Fetch.Client

/-!
# What the protected client dials

The host of a target is classified by `ParseIP`, which refuses an IPv6 literal with a zone, while
the dialer accepts it. A domain is compared with the entries of the list as it is spelled.
-/

namespace NewApi.Fetch

open Net (IP IsBracket splitHostPort joinHostPort)
open Settings (atoi)
open Transition

/-! ## Specification -/

def IsAddressChar (char : Char) : Prop :=
  char.isDigit ∨ ('a' ≤ char ∧ char ≤ 'f') ∨ ('A' ≤ char ∧ char ≤ 'F') ∨
    char = '.' ∨ char = ':'
deriving Decidable

namespace Library

variable (lib : Library)

/-- What the documentation of `net` and `unicode` says of the functions. -/
structure Documented : Prop where
  /-- `ParseIP` accepts dotted decimals and hexadecimal groups. -/
  parsed : ∀ {text ip}, lib.parseIP text = some ip →
    ∀ char ∈ text.toList, IsAddressChar char
  /-- `String` writes an address that `ParseIP` reads. -/
  shown : ∀ ip, lib.parseIP (lib.ipString ip) = some (.v6 ip.to16)
  lowered : ∀ char, lib.toLowerRune char.toLower = lib.toLowerRune char
  dot : ∀ char, lib.toLowerRune char = '.' ↔ char = '.'

/-- The address that the dialer takes a host for: what `ParseIP` accepts, or an IPv6 literal with
a zone. -/
def literal (host : String) : Option IP :=
  match lib.parseIP host with
  | some ip => some ip
  | none =>
    let address := host.toList.takeWhile (· ≠ '%')
    let zone := (host.toList.dropWhile (· ≠ '%')).tail
    if zone ≠ [] ∧ ':' ∈ address then lib.parseIP (String.ofList address) else none

/-- The target is allowed: its port, and its address if it is an IP literal. -/
def PermittedTarget (guard : SSRFProtection) (host portText : String) : Prop :=
  (atoi portText).2 = true ∧ 1 ≤ (atoi portText).1 ∧ (atoi portText).1 ≤ 65535 ∧
    isAllowedPort guard (atoi portText).1 = true ∧
    ∀ ip, lib.literal host = some ip → lib.isIPAccessAllowed guard ip = true

/-- The setting allows the address that was dialed, and the host that was requested. -/
structure Permitted (setting : FetchSetting) (dialed : Dialed) : Prop where
  target : ∃ guard host portText, newSSRFProtectionFromFetchSetting setting = .ok guard ∧
    splitHostPort dialed.address = some (host, portText) ∧
    lib.PermittedTarget guard host portText ∧
    -- With the filter for domains only addresses are dialed.
    (guard.applyIPFilterForDomain = true → (lib.literal host).isSome)
  requested : ∃ guard host portText, newSSRFProtectionFromFetchSetting setting = .ok guard ∧
    splitHostPort dialed.requested = some (host, portText) ∧
    (lib.literal host = none → lib.isDomainAllowed guard host = true) ∧
    (guard.applyIPFilterForDomain = true → lib.parseIP host = none →
      ∀ ip, some ip ∈ dialed.answers → lib.isIPAccessAllowed guard ip = true)

/-! ## Conditions -/

/-- The port is allowed, and so is the host without the white space around it. -/
def Passes (guard : SSRFProtection) (host : String) (port : ℤ) : Prop :=
  Text.trimSpace host ≠ "" ∧ 1 ≤ port ∧ port ≤ 65535 ∧ isAllowedPort guard port = true ∧
    match lib.parseIP (Text.trimSpace host) with
    | some ip => lib.isIPAccessAllowed guard ip = true
    | none => lib.isDomainAllowed guard (Text.trimSpace host) = true

/-- The name was resolved, and the address filter allows all of its addresses. -/
def Answered (guard : SSRFProtection) (resolved : Option (List (Option IP))) : Prop :=
  ∃ gives, resolved = some gives ∧ (∃ ip, some ip ∈ gives) ∧
    ∀ ip, some ip ∈ gives → lib.isIPAccessAllowed guard ip = true

/-- The host that `ParseIP` refuses is no IP literal of an address that is not allowed, unless
the filter for domains looks at it, and is allowed with the white space around it. -/
def HarmlessHost (guard : SSRFProtection) (host : String)
    (resolved : Option (List (Option IP))) : Prop :=
  match lib.literal host with
  | some ip => guard.applyIPFilterForDomain = true ∨
      lib.isIPAccessAllowed guard ip = true
  | none => (guard.applyIPFilterForDomain = true → lib.Answered guard resolved) →
      lib.isDomainAllowed guard host = true

def HarmlessDial (setting : FetchSetting) (address : String)
    (resolved : Option (List (Option IP))) : Prop :=
  ∀ guard host portText, newSSRFProtectionFromFetchSetting setting = .ok guard →
    splitHostPort address = some (host, portText) → (atoi portText).2 = true →
    lib.Passes guard host (atoi portText).1 → lib.parseIP host = none →
    lib.HarmlessHost guard host resolved

/-- A dial does no harm. -/
def Harmless (setting : FetchSetting) (client : Client) : Action → Prop
  | .dial resolved _ => ∀ url, client.request = some url →
      lib.HarmlessDial setting (lib.canonicalAddr url) resolved
  | _ => True

/-! ## Names -/

/-- A host that is a name and no address. -/
def IsName (name : String) : Prop :=
  name ≠ "" ∧ Text.trimSpace name = name ∧ lib.parseIP name = none

/-- The name ends in a dot. -/
def Dotted (name : String) : Prop :=
  name.toList.getLast? = some '.'
deriving Decidable

/-- The name in lower case, without a dot at its end. -/
def spelled (name : String) : List Char :=
  let lower := name.toList.map Char.toLower
  if Dotted name then lower.dropLast else lower

/-- An item of the list that does not end in a dot matches the name. -/
def CoversPlain (list : List String) (name : List Char) : Prop :=
  ∃ item ∈ list, (lib.toLower (Text.trimSpace item)).getLast? ≠ some '.' ∧
    matchesEntry name (lib.toLower (Text.trimSpace item)) = true

/-- An entry with a dot at the end matches the name when it is read without the dot. The entry
`*.` matches every name. -/
def CoversDotted (list : List String) (name : List Char) : Prop :=
  ∃ item ∈ list, lib.toLower (Text.trimSpace item) = ['*', '.'] ∨
    ∃ plain, lib.toLower (Text.trimSpace item) = plain ++ ['.'] ∧
      matchesEntry name plain = true

/-! ## Addresses -/

variable {lib}

theorem isPrivateIP_v6_to16 (ip : IP) : isPrivateIP (.v6 ip.to16) = isPrivateIP ip := by
  simp only [isPrivateIP, IP.isUnspecified, IP.isLoopback, IP.isLinkLocalUnicast,
    IP.isLinkLocalMulticast, IP.isPrivate, IP.equal, IP.to4_v6_to16, Net.IPNet.contains_v6_to16,
    IP.isInterfaceLocalMulticast_v6_to16]
  rfl

theorem isIPAccessAllowed_v6_to16 (guard : SSRFProtection) (ip : IP) :
    lib.isIPAccessAllowed guard (.v6 ip.to16) = lib.isIPAccessAllowed guard ip := by
  simp only [isIPAccessAllowed, isIPListed, isIpInCIDRList, isPrivateIP_v6_to16,
    Net.IPNet.contains_v6_to16]
  rfl

theorem literal_of_parseIP {host : String} {ip : IP} (isIP : lib.parseIP host = some ip) :
    lib.literal host = some ip := by
  rw [literal, isIP]

theorem literal_ipString (laws : lib.Documented) (ip : IP) :
    lib.literal (lib.ipString ip) = some (.v6 ip.to16) :=
  literal_of_parseIP (laws.shown ip)

theorem not_isBracket_of_isAddressChar {char : Char} (isAddress : IsAddressChar char) :
    ¬IsBracket char := by
  rintro (rfl | rfl)
  · revert isAddress
    decide
  · revert isAddress
    decide

theorem not_isSpace_of_isAddressChar {char : Char} (isAddress : IsAddressChar char) :
    Text.isSpace char = false := by
  have between : 0x2E ≤ char.toNat ∧ char.toNat ≤ 0x66 := by
    rcases isAddress with isDigit | ⟨low, high⟩ | ⟨low, high⟩ | rfl | rfl
    · have digit := Char.isDigit_iff_toNat.mp isDigit
      exact ⟨le_trans (by decide) digit.1, le_trans digit.2 (by decide)⟩
    · exact ⟨le_trans (by decide) (UInt32.le_iff_toNat_le.mp low),
        le_trans (UInt32.le_iff_toNat_le.mp high) (by decide)⟩
    · exact ⟨le_trans (by decide) (UInt32.le_iff_toNat_le.mp low),
        le_trans (UInt32.le_iff_toNat_le.mp high) (by decide)⟩
    · decide
    · decide
  exact Text.not_isSpace (by omega) (by omega)

theorem trimSpace_of_parseIP (laws : lib.Documented) {host : String} {ip : IP}
    (isIP : lib.parseIP host = some ip) : Text.trimSpace host = host :=
  Text.trimSpace_of_plain fun char member =>
    not_isSpace_of_isAddressChar (laws.parsed isIP char member)

theorem atoi_number {text : String} (isNumber : (atoi text).2 = true) :
    ∃ sign digits, text.toList = sign ++ digits ∧
      (∀ char ∈ sign, char = '-' ∨ char = '+') ∧ digits.all Char.isDigit = true := by
  unfold atoi at isNumber
  split at isNumber
  next digits isParts =>
    have allDigits : digits.all Char.isDigit = true := by
      by_contra notDigits
      rw [if_pos (.inr notDigits)] at isNumber
      cases isNumber
    split at isParts
    next isList =>
      cases isParts
      exact ⟨['-'], digits, isList, by simp, allDigits⟩
    next isList =>
      cases isParts
      exact ⟨['+'], digits, isList, by simp, allDigits⟩
    next rest _ _ =>
      cases isParts
      exact ⟨[], _, rfl, by simp, allDigits⟩

theorem plain_of_atoi {text : String} (isNumber : (atoi text).2 = true) :
    ∀ char ∈ text.toList, ¬IsBracket char ∧ char ≠ ':' := by
  intro char member
  rcases atoi_number isNumber with ⟨_, _, isText, isSign, isDigits⟩
  rw [isText, List.mem_append] at member
  rcases member with inSign | inDigits
  · rcases isSign char inSign with rfl | rfl <;> decide
  · have isDigit := List.all_eq_true.mp isDigits char inDigits
    refine ⟨?_, ?_⟩
    · rintro (rfl | rfl)
      · cases isDigit
      · cases isDigit
    · rintro rfl
      cases isDigit

theorem splitHostPort_ipString (laws : lib.Documented) (ip : IP) {portText : String}
    (isNumber : (atoi portText).2 = true) :
    splitHostPort (joinHostPort (lib.ipString ip) portText) = some (lib.ipString ip, portText) := by
  refine Net.splitHostPort_joinHostPort ?_ ?_ ?_
  · intro char member
    exact not_isBracket_of_isAddressChar (laws.parsed (laws.shown ip) char member)
  · exact fun char member => (plain_of_atoi isNumber char member).1
  · exact fun member => (plain_of_atoi isNumber _ member).2 rfl

/-! ## Dials -/

section Dials

variable {guard : SSRFProtection} {setting : FetchSetting} {host portText address : String}
  {port : ℤ} {resolved : Option (List (Option IP))} {outcomes : List Bool} {dialed : Dialed}

theorem validateNetworkTarget_iff :
    lib.validateNetworkTarget guard host port = .ok () ↔
      lib.Passes guard host port := by
  simp only [validateNetworkTarget, Passes]
  split
  next isEmpty => simp [isEmpty]
  next filled =>
    split
    next =>
      refine ⟨by rintro ⟨⟩, ?_⟩
      rintro ⟨_, _, _, _⟩
      omega
    next inRange =>
      push Not at inRange
      split
      next notAllowed => simp [notAllowed]
      next allowed =>
        have isAllowed : isAllowedPort guard port = true := by
          simpa using allowed
        simp only [ne_eq, filled, not_false_eq_true, inRange, isAllowed, true_and]
        cases lib.parseIP (Text.trimSpace host) with
        | some _ =>
          simp only
          split
          next accessAllowed => simp [accessAllowed]
          next refused => simp [refused]
        | none =>
          simp only
          split
          next domainAllowed => simp [domainAllowed]
          next refused =>
            split <;> simp [refused]

/-- The candidates of a name are all of its answers, or none. -/
theorem candidateIPs_tcp {gives : List (Option IP)} {cands : List IP} :
    lib.candidateIPs guard "tcp" host gives = .ok cands ↔
      cands = gives.filterMap id ∧
        ∀ ip, some ip ∈ gives → lib.isIPAccessAllowed guard ip = true := by
  have everywhere : ∀ ip, networkAllowsIP "tcp" ip = true := fun _ => rfl
  induction gives generalizing cands with
  | nil =>
    simp only [candidateIPs, Except.ok.injEq, List.filterMap_nil, List.not_mem_nil,
      false_implies, implies_true, and_true]
    exact eq_comm
  | cons reply rest ih =>
    cases reply with
    | none =>
      simp only [candidateIPs, ih]
      simp
    | some ip =>
      rw [candidateIPs]
      simp only [everywhere, Bool.true_eq_false, if_false, validateResolvedIP]
      by_cases allowed : lib.isIPAccessAllowed guard ip = true
      · simp only [if_pos allowed]
        cases others : lib.candidateIPs guard "tcp" host rest with
        | error _ =>
          refine ⟨by rintro ⟨⟩, ?_⟩
          rintro ⟨_, allAllowed⟩
          have isOk : lib.candidateIPs guard "tcp" host rest = .ok (rest.filterMap id) :=
            ih.mpr ⟨rfl, fun other member =>
              allAllowed other (List.mem_cons_of_mem _ member)⟩
          rw [others] at isOk
          cases isOk
        | ok candidatesRest =>
          rcases ih.mp others with ⟨isRest, restAllowed⟩
          have isCons : (some ip :: rest).filterMap id = ip :: candidatesRest := by
            rw [isRest]
            rfl
          simp only [Except.ok.injEq, isCons]
          refine ⟨?_, fun isCandidates => isCandidates.1.symm⟩
          rintro rfl
          refine ⟨rfl, ?_⟩
          intro other member
          rcases List.mem_cons.mp member with same | isIn
          · cases same
            exact allowed
          · exact restAllowed other isIn
      · simp only [if_neg allowed]
        refine ⟨by rintro ⟨⟩, ?_⟩
        rintro ⟨_, allAllowed⟩
        exact absurd (allAllowed ip List.mem_cons_self) allowed

theorem dialCandidates_subset {addresses : List String} {address : String}
    (isDialed : address ∈ dialCandidates addresses outcomes) : address ∈ addresses := by
  induction addresses generalizing outcomes with
  | nil => cases isDialed
  | cons _ _ ih =>
    rw [dialCandidates] at isDialed
    split at isDialed
    · exact List.mem_cons.mpr (.inl (List.mem_singleton.mp isDialed))
    · rcases List.mem_cons.mp isDialed with isFirst | isIn
      · exact List.mem_cons.mpr (.inl isFirst)
      · exact List.mem_cons_of_mem _ (ih isIn)

theorem dialCandidates_head (first : String) (rest : List String) (outcomes : List Bool) :
    first ∈ dialCandidates (first :: rest) outcomes := by
  rw [dialCandidates]
  split <;> exact List.mem_cons_self

/-- What a dial reaches: the address itself, or the answers of a name that passes. -/
theorem mem_dialContext :
    dialed ∈ (lib.dialContext setting "tcp" address resolved outcomes).1 ↔
      ∃ guard host portText, newSSRFProtectionFromFetchSetting setting = .ok guard ∧
        splitHostPort address = some (host, portText) ∧ (atoi portText).2 = true ∧
        lib.Passes guard host (atoi portText).1 ∧ ((∃ ip, lib.parseIP host = some ip ∧
            dialed = ⟨address, [], joinHostPort (lib.ipString ip) portText⟩) ∨
          (lib.parseIP host = none ∧ guard.applyIPFilterForDomain = false ∧
            dialed = ⟨address, [], address⟩) ∨
          (lib.parseIP host = none ∧ guard.applyIPFilterForDomain = true ∧
            ∃ gives, resolved = some gives ∧
              (∀ ip, some ip ∈ gives → lib.isIPAccessAllowed guard ip = true) ∧
              ∃ goal ∈ dialCandidates ((gives.filterMap id).map fun ip =>
                joinHostPort (lib.ipString ip) portText) outcomes,
                dialed = ⟨address, gives, goal⟩)) := by
  cases isProt : newSSRFProtectionFromFetchSetting setting with
  | error _ => simp [dialContext, isProt]
  | ok guard =>
    cases target : splitHostPort address with
    | none => simp [dialContext, isProt, target]
    | some goal =>
      obtain ⟨host, portText⟩ := goal
      simp only [dialContext, isProt, target, Except.ok.injEq, Option.some.injEq,
        Prod.mk.injEq, and_assoc, exists_and_left, exists_eq_left']
      by_cases isNumber : (atoi portText).2 = true
      · simp only [isNumber, Bool.true_eq_false, if_false, true_and]
        cases validated : lib.validateNetworkTarget guard host (atoi portText).1 with
        | error _ =>
          have notPasses : ¬lib.Passes guard host (atoi portText).1 := by
            rw [← validateNetworkTarget_iff, validated]
            rintro ⟨⟩
          simp [notPasses]
        | ok _ =>
          have passes := validateNetworkTarget_iff.mp validated
          simp only [passes, true_and]
          cases isIP : lib.parseIP host with
          | some _ => simp
          | none =>
            by_cases filters : guard.applyIPFilterForDomain = true
            · simp only [filters, Bool.not_true, Bool.false_eq_true, if_false,
                Bool.true_eq_false, false_and, and_false, exists_false, false_or, true_and,
                reduceCtorEq]
              cases resolved with
              | none => simp
              | some gives =>
                simp only [Option.some.injEq, exists_eq_left']
                cases cands : lib.candidateIPs guard "tcp" host gives with
                | error _ =>
                  have refused : ¬∀ ip, some ip ∈ gives →
                      lib.isIPAccessAllowed guard ip = true := by
                    intro allAllowed
                    have isOk : lib.candidateIPs guard "tcp" host gives =
                        .ok (gives.filterMap id) :=
                      candidateIPs_tcp.mpr ⟨rfl, allAllowed⟩
                    rw [cands] at isOk
                    cases isOk
                  simp only [List.not_mem_nil, refused, false_and]
                | ok _ =>
                  rcases candidateIPs_tcp.mp cands with ⟨rfl, allAllowed⟩
                  simp only [List.mem_map]
                  constructor
                  · rintro ⟨goal, member, rfl⟩
                    exact ⟨allAllowed, goal, member, rfl⟩
                  · rintro ⟨_, goal, member, rfl⟩
                    exact ⟨goal, member, rfl⟩
            · simp [filters]
      · simp [isNumber]

/-- What a dial reaches is permitted exactly if the dial is harmless. -/
theorem permitted_iff_harmlessDial (laws : lib.Documented) :
    (∀ dialed ∈ (lib.dialContext setting "tcp" address resolved outcomes).1,
        lib.Permitted setting dialed) ↔ lib.HarmlessDial setting address resolved := by
  constructor
  · intro permitted guard host portText isProt isTarget isNumber passes notIP
    simp only [HarmlessHost]
    -- What a dialed target says about this one.
    have requestedHere : ∀ dialed ∈ (lib.dialContext setting "tcp" address resolved outcomes).1,
        dialed.requested = address → lib.literal host = none →
          lib.isDomainAllowed guard host = true := by
      intro dialed isDialed isRequested notLiteral
      rcases (permitted dialed isDialed).requested with
        ⟨_, _, _, isOther, isOtherTarget, allowed, _⟩
      rw [isRequested, isTarget] at isOtherTarget
      rw [isProt] at isOther
      cases isOther
      cases isOtherTarget
      exact allowed notLiteral
    have direct : guard.applyIPFilterForDomain = false →
        ⟨address, [], address⟩ ∈ (lib.dialContext setting "tcp" address resolved outcomes).1 := by
      intro noFilter
      exact mem_dialContext.mpr ⟨guard, host, portText, isProt, isTarget, isNumber,
        passes, .inr (.inl ⟨notIP, noFilter, rfl⟩)⟩
    by_cases filters : guard.applyIPFilterForDomain = true
    · cases isLiteral : lib.literal host with
      | some _ => exact .inl filters
      | none =>
        intro answered
        rcases answered filters with ⟨gives, isResolved, ⟨ip, answer⟩, allAllowed⟩
        cases addresses : (gives.filterMap id).map fun ip =>
            joinHostPort (lib.ipString ip) portText with
        | nil =>
          have noAnswers := List.map_eq_nil_iff.mp addresses
          have member : ip ∈ gives.filterMap id :=
            List.mem_filterMap.mpr ⟨some ip, answer, rfl⟩
          rw [noAnswers] at member
          cases member
        | cons first rest =>
          refine requestedHere ⟨address, gives, first⟩ (mem_dialContext.mpr ?_) rfl isLiteral
          refine ⟨guard, host, portText, isProt, isTarget, isNumber, passes,
            .inr (.inr ⟨notIP, filters, gives, isResolved, allAllowed, first, ?_, rfl⟩)⟩
          rw [addresses]
          exact dialCandidates_head first rest outcomes
    · have noFilter : guard.applyIPFilterForDomain = false := by
        simpa using filters
      cases isLiteral : lib.literal host with
      | none => exact fun _ => requestedHere _ (direct noFilter) rfl isLiteral
      | some ip =>
        refine .inr ?_
        rcases (permitted _ (direct noFilter)).target with
          ⟨_, _, _, isOther, isOtherTarget, allowed, _⟩
        rw [isTarget] at isOtherTarget
        rw [isProt] at isOther
        cases isOther
        cases isOtherTarget
        exact allowed.2.2.2.2 ip isLiteral
  · intro harmless _ isDialed
    rcases mem_dialContext.mp isDialed with
      ⟨guard, host, portText, isProt, isTarget, isNumber, passes, dials⟩
    rcases passes with ⟨filled, low, high, allowedPort, allowedHost⟩
    have harmlessHost := harmless guard host portText isProt isTarget isNumber
      ⟨filled, low, high, allowedPort, allowedHost⟩
    -- The text of an allowed address is a permitted target.
    have shown : ∀ ip, lib.isIPAccessAllowed guard ip = true →
        ∃ others otherHost otherPort, newSSRFProtectionFromFetchSetting setting = .ok others ∧
          splitHostPort (joinHostPort (lib.ipString ip) portText) = some (otherHost, otherPort) ∧
          lib.PermittedTarget others otherHost otherPort ∧
          (others.applyIPFilterForDomain = true →
            (lib.literal otherHost).isSome) := by
      intro ip allowed
      refine ⟨guard, lib.ipString ip, portText, isProt, splitHostPort_ipString laws ip
        isNumber, ⟨isNumber, low, high, allowedPort, ?_⟩, fun _ => ?_⟩
      · intro _ isLiteral
        rw [literal_ipString laws] at isLiteral
        cases isLiteral
        rw [isIPAccessAllowed_v6_to16]
        exact allowed
      · rw [literal_ipString laws]
        rfl
    rcases dials with ⟨ip, isIP, rfl⟩ | ⟨notIP, noFilter, rfl⟩ |
      ⟨notIP, filters, gives, isResolved, allAllowed, goal, isTargetDialed, rfl⟩
    · rw [trimSpace_of_parseIP laws isIP, isIP] at allowedHost
      refine ⟨shown ip allowedHost, guard, host, portText, isProt, isTarget, ?_, ?_⟩
      · rw [literal_of_parseIP isIP]
        rintro ⟨⟩
      · rw [isIP]
        rintro _ ⟨⟩
    · have harmlessHere := harmlessHost notIP
      simp only [HarmlessHost, noFilter, Bool.false_eq_true, false_or, false_implies,
        true_implies] at harmlessHere
      refine ⟨⟨guard, host, portText, isProt, isTarget, ⟨isNumber, low, high, allowedPort,
        ?_⟩, ?_⟩, guard, host, portText, isProt, isTarget, ?_, ?_⟩
      · intro _ isLiteral
        rw [isLiteral] at harmlessHere
        exact harmlessHere
      · rw [noFilter]
        rintro ⟨⟩
      · intro notLiteral
        rw [notLiteral] at harmlessHere
        exact harmlessHere
      · rw [noFilter]
        rintro ⟨⟩
    · rcases List.mem_map.mp (dialCandidates_subset isTargetDialed) with ⟨ip, able, rfl⟩
      rcases List.mem_filterMap.mp able with ⟨reply, answer, isSome⟩
      cases reply with
      | none => cases isSome
      | some _ =>
        cases isSome
        refine ⟨shown ip (allAllowed ip answer), guard, host, portText, isProt,
          isTarget, ?_, fun _ _ => allAllowed⟩
        intro notLiteral
        have harmlessHere := harmlessHost notIP
        simp only [HarmlessHost, notLiteral] at harmlessHere
        exact harmlessHere fun _ => ⟨gives, isResolved, ⟨ip, answer⟩, allAllowed⟩

end Dials

/-! ## Runs -/

theorem next_dialed (laws : lib.Documented) (setting : FetchSetting) (client : Client)
    (action : Action) :
    (∀ dialed ∈ (lib.next setting client action).dialed, lib.Permitted setting dialed) ↔
      (∀ dialed ∈ client.dialed, lib.Permitted setting dialed) ∧
        lib.Harmless setting client action := by
  cases action with
  | send url resolved =>
    simp only [next, Harmless, and_true]
    cases lib.roundTrip setting url resolved <;> rfl
  | redirect url checked resolved =>
    simp only [next, Harmless, and_true]
    cases client.request with
    | none => rfl
    | some _ =>
      cases lib.checkProtectedFetchRedirect setting url client.via checked with
      | error _ => rfl
      | ok _ => cases lib.roundTrip setting url resolved <;> rfl
  | dial _ _ =>
    simp only [next, Harmless]
    cases client.request with
    | none => simp
    | some _ =>
      simp only [List.forall_mem_append, permitted_iff_harmlessDial laws,
        Option.some.injEq, forall_eq']

theorem run_dialed (laws : lib.Documented) (setting : FetchSetting) (client : Client)
    (actions : List Action) :
    (∀ dialed ∈ (actions.foldl (lib.next setting) client).dialed, lib.Permitted setting dialed) ↔
      (∀ dialed ∈ client.dialed, lib.Permitted setting dialed) ∧
        RunAllowed (lib.next setting) (lib.Harmless setting) client actions := by
  induction actions generalizing client with
  | nil => simp [RunAllowed]
  | cons _ _ ih =>
    rw [List.foldl_cons, ih, next_dialed laws, RunAllowed, and_assoc]

/-! ## Spellings -/

section Spellings

variable {guard : SSRFProtection} {domain item : List Char} {name : String} {port : ℤ}

theorem matchesEntry_iff : matchesEntry domain item = true ↔
    item ≠ [] ∧ (domain = item ∨ ∃ suffix, item = '*' :: '.' :: suffix ∧
      ('.' :: suffix <:+ domain ∨ domain = suffix)) := by
  have isPrefix : ∀ item : List Char, ['*', '.'].isPrefixOf item = true ↔
      ∃ suffix, item = '*' :: '.' :: suffix := by
    intro _
    rw [List.isPrefixOf_iff_prefix]
    exact ⟨fun ⟨suffix, isItem⟩ => ⟨suffix, isItem.symm⟩,
      fun ⟨suffix, isItem⟩ => ⟨suffix, isItem.symm⟩⟩
  simp only [matchesEntry]
  split
  next isEmpty => simp [isEmpty]
  next filled =>
    split
    next same => simp [same, filled]
    next diff =>
      simp only [filled, diff, ne_eq, not_false_eq_true, true_and, false_or]
      split
      next starts =>
        rcases (isPrefix item).mp starts with ⟨suffix, rfl⟩
        simp [List.isSuffixOf_iff_suffix]
      next startsOtherwise =>
        simp only [Bool.false_eq_true, false_iff]
        rintro ⟨suffix, isItem, _⟩
        exact startsOtherwise ((isPrefix item).mpr ⟨suffix, isItem⟩)

theorem getLast?_of_suffix {ending whole : List Char} (isSuffix : ending <:+ whole)
    (filled : ending ≠ []) : whole.getLast? = ending.getLast? := by
  rcases isSuffix with ⟨_, rfl⟩
  rw [List.getLast?_append_of_ne_nil _ filled]

theorem plain_of_matchesEntry (plain : domain.getLast? ≠ some '.') (filled : domain ≠ [])
    (isMatch : matchesEntry domain item = true) : item.getLast? ≠ some '.' := by
  rcases (matchesEntry_iff.mp isMatch).2 with rfl | ⟨suffix, rfl, matchesSuffix⟩
  · exact plain
  · intro isDotted
    cases suffix with
    | nil =>
      rcases matchesSuffix with isSuffix | isEmpty
      · exact plain (getLast?_of_suffix isSuffix (by simp))
      · exact filled isEmpty
    | cons first rest =>
      have lastSuffix : (first :: rest).getLast? = some '.' := by
        rw [← isDotted]
        exact (getLast?_of_suffix ⟨['*', '.'], rfl⟩ (by simp)).symm
      rcases matchesSuffix with isSuffix | rfl
      · refine plain ?_
        rw [getLast?_of_suffix isSuffix (by simp), ← lastSuffix]
        exact getLast?_of_suffix ⟨['.'], rfl⟩ (by simp)
      · exact plain lastSuffix

theorem matchesEntry_dotted (filled : domain ≠ []) :
    matchesEntry (domain ++ ['.']) item = true ↔
      item = ['*', '.'] ∨ ∃ plain, item = plain ++ ['.'] ∧ matchesEntry domain plain = true := by
  constructor
  · intro isMatch
    rcases (matchesEntry_iff.mp isMatch).2 with rfl | ⟨suffix, rfl, matchesSuffix⟩
    · exact .inr ⟨domain, rfl, matchesEntry_iff.mpr ⟨filled, .inl rfl⟩⟩
    · rcases List.eq_nil_or_concat' suffix with rfl | ⟨shorter, last, rfl⟩
      · exact .inl rfl
      · have isLast : last = '.' := by
          rcases matchesSuffix with isSuffix | same
          · have lasts := getLast?_of_suffix isSuffix (by simp)
            rw [← List.cons_append, List.getLast?_concat, List.getLast?_concat] at lasts
            exact (Option.some.inj lasts).symm
          · exact (List.head_eq_of_cons_eq (List.append_inj' same rfl).2).symm
        subst isLast
        refine .inr ⟨'*' :: '.' :: shorter, rfl, ?_⟩
        refine matchesEntry_iff.mpr ⟨by simp, .inr ⟨shorter, rfl, ?_⟩⟩
        rcases matchesSuffix with isSuffix | same
        · rw [← List.cons_append] at isSuffix
          exact .inl (List.suffix_append_self_iff.mp isSuffix)
        · exact .inr (List.append_inj' same rfl).1
  · rintro (rfl | ⟨_, rfl, isMatch⟩)
    · exact matchesEntry_iff.mpr ⟨by simp, .inr ⟨[], rfl, .inl (List.suffix_append _ _)⟩⟩
    · refine matchesEntry_iff.mpr ⟨by simp, ?_⟩
      rcases (matchesEntry_iff.mp isMatch).2 with rfl | ⟨suffix, rfl, matchesSuffix⟩
      · exact .inl rfl
      · refine .inr ⟨suffix ++ ['.'], rfl, ?_⟩
        rcases matchesSuffix with isSuffix | rfl
        · exact .inl (List.suffix_append_self_iff.mpr isSuffix)
        · exact .inr rfl

variable (laws : lib.Documented)

include laws

theorem toLower_eq (name : String) :
    lib.toLower name = (name.toList.map Char.toLower).map lib.toLowerRune := by
  rw [toLower, List.map_map]
  exact List.map_congr_left fun char _ => (laws.lowered char).symm

theorem toLower_spelled (name : String) :
    lib.toLower name = (spelled name).map lib.toLowerRune ++
      if Dotted name then ['.'] else [] := by
  rw [toLower_eq laws]
  by_cases isDotted : Dotted name
  · rcases List.getLast?_eq_some_iff.mp isDotted with ⟨_, isName⟩
    have lowerDot : Char.toLower '.' = '.' := by
      decide
    simp only [spelled, if_pos isDotted, isName, List.map_append, List.map_cons, List.map_nil,
      lowerDot, List.dropLast_concat, (laws.dot '.').mpr rfl]
  · simp only [spelled, if_neg isDotted, List.append_nil]

theorem getLast?_toLower (plain : ¬Dotted name) : (lib.toLower name).getLast? ≠ some '.' := by
  intro lasts
  rw [toLower, List.getLast?_map] at lasts
  rcases Option.map_eq_some_iff.mp lasts with ⟨last, isLast, isDot⟩
  rw [(laws.dot last).mp isDot] at isLast
  exact plain isLast

theorem isDomainListed_plain (isName : name ≠ "") (plain : ¬Dotted name) (list : List String) :
    lib.isDomainListed name list = true ↔
      lib.CoversPlain list ((spelled name).map lib.toLowerRune) := by
  have isSpelled := toLower_spelled laws name
  rw [if_neg plain, List.append_nil] at isSpelled
  have filled : lib.toLower name ≠ [] := by
    simpa [toLower] using isName
  rw [isDomainListed, List.any_eq_true, CoversPlain, ← isSpelled]
  refine exists_congr fun item => and_congr_right fun _ => ?_
  constructor
  · intro isMatch
    exact ⟨plain_of_matchesEntry (getLast?_toLower laws plain) filled isMatch, isMatch⟩
  · exact fun plainMatch => plainMatch.2

theorem isDomainListed_dotted (isDotted : Dotted name)
    (filled : spelled name ≠ []) (list : List String) :
    lib.isDomainListed name list = true ↔
      lib.CoversDotted list ((spelled name).map lib.toLowerRune) := by
  have isSpelled := toLower_spelled laws name
  rw [if_pos isDotted] at isSpelled
  have mapped : (spelled name).map lib.toLowerRune ≠ [] := by
    simpa using filled
  rw [isDomainListed, List.any_eq_true, CoversDotted, isSpelled]
  exact exists_congr fun _ => and_congr_right fun _ => matchesEntry_dotted mapped

omit laws

theorem isOk_validateNetworkTarget (isName : lib.IsName name) :
    (lib.validateNetworkTarget guard name port).isOk = true ↔
      (1 ≤ port ∧ port ≤ 65535 ∧ isAllowedPort guard port = true) ∧
        lib.isDomainAllowed guard name = true := by
  have isOk : (lib.validateNetworkTarget guard name port).isOk = true ↔
      lib.validateNetworkTarget guard name port = .ok () := by
    cases lib.validateNetworkTarget guard name port with
    | error _ => exact ⟨by rintro ⟨⟩, by rintro ⟨⟩⟩
    | ok _ => exact ⟨fun _ => rfl, fun _ => rfl⟩
  rcases isName with ⟨filled, trimmed, notIP⟩
  rw [isOk, validateNetworkTarget_iff, Passes, trimmed, notIP]
  simp only [ne_eq, filled, not_false_eq_true, true_and, and_assoc]

theorem verdicts_iff {port mode one two : Prop} :
    ((port ∧ (mode ↔ one)) ↔ (port ∧ (mode ↔ two))) ↔ ¬port ∨ (one ↔ two) := by
  by_cases isPort : port
  · by_cases isMode : mode
    · simp [isPort, isMode]
    · simp [isPort, isMode, not_iff_not]
  · simp [isPort]

theorem verdict_iff (laws : lib.Documented) {one two : String} (isOne : lib.IsName one)
    (isTwo : lib.IsName two) (same : spelled one = spelled two) (filled : spelled one ≠ []) :
    (lib.validateNetworkTarget guard one port).isOk =
        (lib.validateNetworkTarget guard two port).isOk ↔
      (Dotted one ↔ Dotted two) ∨ ¬(1 ≤ port ∧ port ≤ 65535 ∧
          isAllowedPort guard port = true) ∨
        (lib.CoversPlain guard.domainList ((spelled one).map lib.toLowerRune) ↔
          lib.CoversDotted guard.domainList ((spelled one).map lib.toLowerRune)) := by
  rw [Bool.eq_iff_iff, isOk_validateNetworkTarget isOne, isOk_validateNetworkTarget isTwo]
  have allowed : ∀ name, lib.isDomainAllowed guard name = true ↔
      (guard.domainFilterMode = true ↔
        lib.isDomainListed name guard.domainList = true) := by
    intro name
    simp only [isDomainAllowed]
    cases guard.domainFilterMode <;>
      cases lib.isDomainListed name guard.domainList <;> decide
  simp only [allowed]
  by_cases dots : Dotted one ↔ Dotted two
  · have sameLower : lib.toLower one = lib.toLower two := by
      rw [toLower_spelled laws, toLower_spelled laws, same]
      simp only [dots]
    have sameListed : lib.isDomainListed one guard.domainList =
        lib.isDomainListed two guard.domainList := by
      rw [isDomainListed, isDomainListed, sameLower]
    simp only [sameListed, dots, true_or]
  · by_cases isDotted : Dotted one
    · have plain : ¬Dotted two := fun isOther => dots ⟨fun _ => isOther, fun _ => isDotted⟩
      have listedOne := isDomainListed_dotted laws isDotted filled guard.domainList
      have listedTwo :=
        isDomainListed_plain laws isTwo.1 plain guard.domainList
      rw [← same] at listedTwo
      rw [listedOne, listedTwo, verdicts_iff, or_iff_right dots]
      exact or_congr_right iff_comm
    · have otherDotted : Dotted two := by
        by_contra isOther
        exact dots ⟨fun isFirst => absurd isFirst isDotted, fun isLast => absurd isLast isOther⟩
      have listedOne := isDomainListed_plain laws isOne.1 isDotted guard.domainList
      have listedTwo := isDomainListed_dotted laws otherDotted (same ▸ filled) guard.domainList
      rw [← same] at listedTwo
      rw [listedOne, listedTwo, verdicts_iff, or_iff_right dots]

end Spellings

/-- All that a run of the client dials is permitted exactly if its dials are harmless, and two
spellings of a name get the same verdict exactly if the list matches both or neither. -/
theorem dialed_permitted_iff (laws : lib.Documented) :
    (∀ setting actions, (∀ dialed ∈ (actions.foldl (lib.next setting) idleClient).dialed,
          lib.Permitted setting dialed) ↔
        RunAllowed (lib.next setting) (lib.Harmless setting) idleClient actions) ∧
    ∀ guard one two port, lib.IsName one → lib.IsName two →
      spelled one = spelled two → spelled one ≠ [] →
      ((lib.validateNetworkTarget guard one port).isOk =
          (lib.validateNetworkTarget guard two port).isOk ↔
        (Dotted one ↔ Dotted two) ∨ ¬(1 ≤ port ∧ port ≤ 65535 ∧
            isAllowedPort guard port = true) ∨
          (lib.CoversPlain guard.domainList ((spelled one).map lib.toLowerRune) ↔
            lib.CoversDotted guard.domainList ((spelled one).map lib.toLowerRune))) := by
  refine ⟨?_, ?_⟩
  · intro _ _
    rw [run_dialed laws]
    exact and_iff_right (by rintro _ ⟨⟩)
  · intro _ _ _ _ isOne isTwo same nonempty
    exact verdict_iff laws isOne isTwo same nonempty

end Library

/-! ### A literal with a zone -/

def plainURL : URL :=
  ⟨"http", "8.8.8.8"⟩

def zonedURL : URL :=
  ⟨"http", "[fe80::1%eth0]"⟩

def sampleLibrary : Library where
  parseIP text :=
    if text = "8.8.8.8" then some (.v6 0xFFFF08080808)
    else if text = "fe80::1" then some (.v6 0xFE800000000000000000000000000001)
    else
      match text.toList with
      | ':' :: digits =>
        if digits.all fun digit => digit ∈ "0123456789abcdef".toList then
          some (.v6 (BitVec.ofNat 128 (Nat.ofDigits 16
            (digits.map fun digit => "0123456789abcdef".toList.idxOf digit))))
        else none
      | _ => none
  ipString ip :=
    if ip.to16 = 0xFFFF08080808 then "8.8.8.8"
    else if ip.to16 = 0xFE800000000000000000000000000001 then "fe80::1"
    else
      String.ofList (':' :: (Nat.digits 16 ip.to16.toNat).map fun digit =>
        "0123456789abcdef".toList.getD digit '0')
  parseCIDR _ := none
  parseURL text :=
    if text = "http://8.8.8.8/" then some plainURL
    else if text = "http://[fe80::1%25eth0]/" then some zonedURL
    else none
  urlString url := if url = zonedURL then "http://[fe80::1%25eth0]/" else "http://8.8.8.8/"
  canonicalAddr url := if url = zonedURL then "[fe80::1%eth0]:80" else "8.8.8.8:80"
  toLowerRune := Char.toLower

theorem sampleLibrary_ipString (ip : IP) :
    sampleLibrary.parseIP (sampleLibrary.ipString ip) = some (.v6 ip.to16) := by
  have digit : ∀ digit < 16, "0123456789abcdef".toList.getD digit '0' ∈
      "0123456789abcdef".toList ∧ "0123456789abcdef".toList.idxOf
        ("0123456789abcdef".toList.getD digit '0') = digit := by
    decide
  have digits : ∀ digit ∈ Nat.digits 16 ip.to16.toNat, digit < 16 :=
    fun _ isDigit => Nat.digits_lt_base (by decide) isDigit
  simp only [sampleLibrary]
  by_cases isPlain : ip.to16 = 0xFFFF08080808
  · rw [if_pos isPlain, if_pos rfl, isPlain]
  by_cases isZoned : ip.to16 = 0xFE800000000000000000000000000001
  · rw [if_neg isPlain, if_pos isZoned, if_neg (by decide), if_pos rfl, isZoned]
  have colon : ∀ (first : Char) (rest digits : List Char), first ≠ ':' →
      String.ofList (':' :: digits) ≠ String.ofList (first :: rest) := by
    intro _ _ _ diff same
    rw [String.ofList_inj] at same
    exact diff (List.head_eq_of_cons_eq same).symm
  rw [if_neg isPlain, if_neg isZoned, if_neg (colon '8' _ _ (by decide)),
    if_neg (colon 'f' _ _ (by decide)), String.toList_ofList]
  simp only [List.map_map]
  rw [if_pos]
  · have same : (Nat.digits 16 ip.to16.toNat).map
        ((fun digit => "0123456789abcdef".toList.idxOf digit) ∘ fun digit =>
          "0123456789abcdef".toList.getD digit '0') = Nat.digits 16 ip.to16.toNat := by
      refine (List.map_congr_left ?_).trans (List.map_id _)
      exact fun place isDigit => (digit place (digits place isDigit)).2
    rw [same, Nat.ofDigits_digits, BitVec.ofNat_toNat, BitVec.setWidth_eq]
  · rw [List.all_eq_true]
    intro _ member
    rcases List.mem_map.mp member with ⟨place, isDigit, rfl⟩
    exact decide_eq_true (digit place (digits place isDigit)).1

theorem toLower_of_not_upper {char : Char} (notUpper : char.isUpper = false) :
    char.toLower = char := by
  delta Char.isUpper at notUpper
  delta Char.toLower
  exact dif_neg (of_decide_eq_false notUpper)

theorem isUpper_toLower (char : Char) : char.toLower.isUpper = false := by
  delta Char.isUpper Char.toLower
  split <;> grind [UInt32.toNat_add, Char.toNat_val]

theorem plain_of_all {chars : List Char}
    (plain : chars.all fun char => decide (IsAddressChar char)) :
    ∀ char ∈ chars, IsAddressChar char :=
  fun char member => of_decide_eq_true (List.all_eq_true.mp plain char member)

theorem sampleLibrary_documented : sampleLibrary.Documented where
  parsed := by
    intro _ _ isIP
    simp only [sampleLibrary] at isIP
    split at isIP
    next isPlain =>
      rw [isPlain]
      exact plain_of_all (by decide)
    · split at isIP
      next isZoned =>
        rw [isZoned]
        exact plain_of_all (by decide)
      · split at isIP
        next isText =>
          split at isIP
          next isDigits =>
            have plain : ∀ digit ∈ "0123456789abcdef".toList, IsAddressChar digit :=
              plain_of_all (by decide)
            rw [isText]
            intro char member
            rcases List.mem_cons.mp member with rfl | inDigits
            · decide
            · exact plain char (of_decide_eq_true (List.all_eq_true.mp isDigits char inDigits))
          · cases isIP
        · cases isIP
  shown := sampleLibrary_ipString
  lowered char := toLower_of_not_upper (isUpper_toLower char)
  dot := by
    intro char
    refine ⟨?_, ?_⟩
    · intro isDot
      by_cases isUpper : char.isUpper = true
      · have low : 65 ≤ char.toLower.toNat := by
          have bounds : 'A'.val ≤ char.val ∧ char.val ≤ 'Z'.val :=
            of_decide_eq_true isUpper
          delta Char.toLower
          rw [dif_pos bounds]
          have atLeast : 65 ≤ char.val.toNat := UInt32.le_iff_toNat_le.mp bounds.1
          have atMost : char.val.toNat ≤ 90 := UInt32.le_iff_toNat_le.mp bounds.2
          change 65 ≤ (char.val + 32).toNat
          rw [UInt32.toNat_add]
          change 65 ≤ (char.val.toNat + 32) % 4294967296
          omega
        rw [show char.toLower = '.' from isDot] at low
        exact absurd low (by decide)
      · rw [← isDot]
        exact (toLower_of_not_upper (by simpa using isUpper)).symm
    · rintro rfl
      decide

def sampleFetchSetting : FetchSetting where
  allowPrivateIp := false
  domainFilterMode := false
  ipFilterMode := false
  domainList := ["blocked.example"]
  ipList := []
  allowedPorts := []
  applyIPFilterForDomain := false

def sampleProtection : SSRFProtection where
  allowPrivateIp := false
  domainFilterMode := false
  domainList := ["blocked.example"]
  ipFilterMode := false
  ipList := []
  allowedPorts := []
  applyIPFilterForDomain := false

def fetching (url : URL) : List Action :=
  [.send url none, .dial none [true]]

theorem dialed_permitted_sample :
    (∀ dialed ∈ ((fetching plainURL).foldl (sampleLibrary.next sampleFetchSetting)
        idleClient).dialed, sampleLibrary.Permitted sampleFetchSetting dialed) ∧
    (sampleLibrary.validateNetworkTarget sampleProtection "Blocked.Example" 80).isOk =
      (sampleLibrary.validateNetworkTarget sampleProtection "blocked.eXample" 80).isOk := by
  have permitted := Library.dialed_permitted_iff sampleLibrary_documented
  refine ⟨(permitted.1 _ _).mpr ⟨trivial, ?_, trivial⟩, (permitted.2 _ _ _ _ ?_ ?_ ?_ ?_).mpr ?_⟩
  · intro url isRequest guard host portText _ isTarget _ _ notIP
    have isURL : (sampleLibrary.next sampleFetchSetting idleClient
        (.send plainURL none)).request = some plainURL := by
      decide
    rw [isURL] at isRequest
    cases isRequest
    have isHost : splitHostPort (sampleLibrary.canonicalAddr plainURL) =
        some ("8.8.8.8", "80") := by
      decide
    rw [isHost] at isTarget
    cases isTarget
    cases notIP
  · exact ⟨by decide, by decide, by decide⟩
  · exact ⟨by decide, by decide, by decide⟩
  · decide
  · decide
  · exact .inl (by decide)

/-- An address with a zone is dialed as a name, and a dot at its end lets a blocked name pass. -/
theorem zoned_not_permitted :
    (∃ dialed ∈ ((fetching zonedURL).foldl (sampleLibrary.next sampleFetchSetting)
        idleClient).dialed, dialed.address = "[fe80::1%eth0]:80" ∧
          ¬sampleLibrary.Permitted sampleFetchSetting dialed) ∧
    (sampleLibrary.validateNetworkTarget sampleProtection "blocked.example" 80).isOk = false ∧
    (sampleLibrary.validateNetworkTarget sampleProtection "blocked.example." 80).isOk = true := by
  refine ⟨⟨⟨"[fe80::1%eth0]:80", [], "[fe80::1%eth0]:80"⟩, by decide, rfl, ?_⟩,
    by decide, by decide⟩
  intro permitted
  rcases permitted.target with ⟨_, _, _, isProtection, isTarget, goal, _⟩
  have isHost : splitHostPort "[fe80::1%eth0]:80" = some ("fe80::1%eth0", "80") := by
    decide
  rw [isHost] at isTarget
  cases isTarget
  have isSample : newSSRFProtectionFromFetchSetting sampleFetchSetting = .ok sampleProtection := by
    decide
  rw [isSample] at isProtection
  cases isProtection
  have refused : sampleLibrary.isIPAccessAllowed sampleProtection
      (.v6 0xFE800000000000000000000000000001) = false := by
    decide
  have isLiteral : sampleLibrary.literal "fe80::1%eth0" =
      some (.v6 0xFE800000000000000000000000000001) := by
    decide
  have allowed := goal.2.2.2.2 _ isLiteral
  rw [refused] at allowed
  cases allowed

end NewApi.Fetch
