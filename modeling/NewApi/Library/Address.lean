import Mathlib.Data.List.Basic

/-!
# Network addresses

What Go's `net` package makes of IP addresses, networks and texts of the form `host:port`. An IP
address has 4 bytes or 16, and the 16 bytes may stand for an address with 4.
-/

namespace Net

/-! ## IP addresses -/

/-- An address of either family. -/
inductive IP where
  | v4 (address : BitVec 32)
  | v6 (address : BitVec 128)
deriving DecidableEq

namespace IP

def to4 : IP → Option (BitVec 32)
  | v4 address => some address
  | v6 address =>
    if address.extractLsb' 32 96 = 0xFFFF#96 then some (address.extractLsb' 0 32) else none

def to16 : IP → BitVec 128
  | v4 address => 0xFFFF#96 ++ address
  | v6 address => address

theorem to4_v6_to16 (ip : IP) : (v6 ip.to16).to4 = ip.to4 := by
  cases ip with
  | v4 address =>
    have upper : (0xFFFF#96 ++ address).extractLsb' 32 96 = 0xFFFF#96 :=
      BitVec.extractLsb'_append_eq_left
    have lower : (0xFFFF#96 ++ address).extractLsb' 0 32 = address :=
      BitVec.extractLsb'_append_eq_right
    simp only [to4, to16, upper, lower, if_true]
  | v6 _ => rfl

/-- `net.IPv4`. -/
def ofBytes (first second third fourth : BitVec 8) : IP :=
  v4 (first ++ second ++ third ++ fourth)

def equal (one two : IP) : Bool :=
  one.to16 = two.to16

def isUnspecified (ip : IP) : Bool :=
  ip.equal (v4 0) || ip.equal (v6 0)

def isLoopback (ip : IP) : Bool :=
  match ip.to4 with
  | some address => address.extractLsb' 24 8 = 127#8
  | none => ip.equal (v6 1)

def isLinkLocalUnicast (ip : IP) : Bool :=
  match ip.to4 with
  | some address => address.extractLsb' 16 16 = 0xA9FE#16
  | none => ip.to16.extractLsb' 118 10 = 0x3FA#10

def isLinkLocalMulticast (ip : IP) : Bool :=
  match ip.to4 with
  | some address => address.extractLsb' 8 24 = 0xE00000#24
  | none => ip.to16.extractLsb' 120 8 = 0xFF#8 ∧ ip.to16.extractLsb' 112 4 = 2#4

def isInterfaceLocalMulticast : IP → Bool
  | v4 _ => false
  | v6 address => address.extractLsb' 120 8 = 0xFF#8 ∧ address.extractLsb' 112 4 = 1#4

def isPrivate (ip : IP) : Bool :=
  match ip.to4 with
  | some address => address.extractLsb' 24 8 = 10#8 ∨ address.extractLsb' 20 12 = 0xAC1#12 ∨
      address.extractLsb' 16 16 = 0xC0A8#16
  | none => ip.to16.extractLsb' 121 7 = 0x7E#7

theorem isInterfaceLocalMulticast_v6_to16 (ip : IP) :
    (v6 ip.to16).isInterfaceLocalMulticast = ip.isInterfaceLocalMulticast := by
  cases ip with
  | v4 address =>
    have first : (0xFFFF#96 ++ address).extractLsb' 120 8 = (0xFFFF#96).extractLsb' 88 8 :=
      BitVec.extractLsb'_append_eq_of_le (by omega)
    have notMulticast : (0xFFFF#96).extractLsb' 88 8 ≠ 0xFF#8 := by
      decide
    simp only [isInterfaceLocalMulticast, to16, first, notMulticast, false_and, decide_false]
  | v6 _ => rfl

end IP

/-- An address and a mask. -/
structure IPNet where
  base : IP
  ones : ℕ

/-- `Contains`. The mask of a network whose base stands for 4 bytes is cut to its last 32 bits. -/
def IPNet.contains (network : IPNet) (ip : IP) : Bool :=
  match network.base.to4, ip.to4 with
  | some base, some address =>
    let ones := match network.base with
      | .v4 _ => network.ones
      | .v6 _ => network.ones - 96
    base >>> (32 - ones) = address >>> (32 - ones)
  | none, none =>
    network.base.to16 >>> (128 - network.ones) = ip.to16 >>> (128 - network.ones)
  | _, _ => false

theorem IPNet.contains_v6_to16 (network : IPNet) (ip : IP) :
    network.contains (.v6 ip.to16) = network.contains ip := by
  unfold IPNet.contains
  rw [IP.to4_v6_to16]
  rfl

/-! ## Hosts and ports -/

def joinHostPort (host port : String) : String :=
  if ':' ∈ host.toList then "[" ++ host ++ "]:" ++ port else host ++ ":" ++ port

def cutLastColon : List Char → Option (List Char × List Char)
  | [] => none
  | char :: rest =>
    match cutLastColon rest with
    | some (past, after) => some (char :: past, after)
    | none => if char = ':' then some ([], rest) else none

def IsBracket (char : Char) : Prop :=
  char = '[' ∨ char = ']'
deriving Decidable

def WithoutBrackets (characters : List Char) : Prop :=
  ∀ char ∈ characters, ¬IsBracket char

instance (characters : List Char) : Decidable (WithoutBrackets characters) :=
  List.decidableBAll _ characters

def splitHostPort (address : String) : Option (String × String) :=
  match cutLastColon address.toList with
  | none => none
  | some (past, port) =>
    if past.head? = some '[' then
      let host := past.tail.dropLast
      if past.tail.getLast? = some ']' ∧ WithoutBrackets (host ++ port) then
        some (String.ofList host, String.ofList port)
      else none
    else if ':' ∉ past ∧ WithoutBrackets (past ++ port) then
      some (String.ofList past, String.ofList port)
    else none

theorem cutLastColon_none {chars : List Char} (noColon : ':' ∉ chars) :
    cutLastColon chars = none := by
  induction chars with
  | nil => rfl
  | cons _ _ ih =>
    simp only [List.mem_cons, not_or] at noColon
    rw [cutLastColon, ih noColon.2, if_neg (Ne.symm noColon.1)]

theorem cutLastColon_append (past : List Char) {after : List Char} (noColon : ':' ∉ after) :
    cutLastColon (past ++ ':' :: after) = some (past, after) := by
  induction past with
  | nil => simp [cutLastColon, cutLastColon_none noColon]
  | cons _ _ ih =>
    rw [List.cons_append, cutLastColon, ih]

theorem splitHostPort_joinHostPort {host port : String}
    (plainHost : ∀ char ∈ host.toList, ¬IsBracket char)
    (plainPort : ∀ char ∈ port.toList, ¬IsBracket char)
    (noColon : ':' ∉ port.toList) : splitHostPort (joinHostPort host port) = some (host, port) := by
  have plain : WithoutBrackets (host.toList ++ port.toList) := by
    intro char member
    rcases List.mem_append.mp member with inHost | inPort
    · exact plainHost char inHost
    · exact plainPort char inPort
  by_cases hasColon : ':' ∈ host.toList
  · have chars : (joinHostPort host port).toList =
        ('[' :: (host.toList ++ [']'])) ++ ':' :: port.toList := by
      rw [joinHostPort, if_pos hasColon]
      simp
    rw [splitHostPort, chars, cutLastColon_append _ noColon]
    simp only [List.head?_cons, List.tail_cons, List.getLast?_concat, if_true,
      List.dropLast_concat, true_and, if_pos plain, String.ofList_toList]
  · have chars : (joinHostPort host port).toList = host.toList ++ ':' :: port.toList := by
      rw [joinHostPort, if_neg hasColon]
      simp
    rw [splitHostPort, chars, cutLastColon_append _ noColon]
    have notBracketed : host.toList.head? ≠ some '[' := by
      intro isBracketed
      exact plainHost '[' (List.mem_of_head? isBracketed) (.inl rfl)
    simp only [if_neg notBracketed, if_pos (And.intro hasColon plain), String.ofList_toList]

end Net
