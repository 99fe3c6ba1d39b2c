import Mathlib.Tactic.NormNum.Pow

/-!
# The boxes of a HEIF image

The walk over the top-level boxes looks for the box `meta`, the recursive search inside it for the
box `ispe` with the dimensions. Sizes and offsets are 64-bit integers.
-/

namespace NewApi.Service

/-! ## The walks -/

/-- A byte slice; an allocation is shorter than 2^48 bytes. -/
structure ByteSlice where
  bytes : List UInt8
  fits : bytes.length < 2 ^ 48

/-- The ways in which a parse does not return. -/
inductive Fault where
  | sliceBounds
  | outOfFuel
deriving DecidableEq

/-- Arithmetic of Go's `int`. -/
def int (value : ℤ) : ℤ :=
  value.bmod (2 ^ 64)

def bigEndian (bytes : List UInt8) : ℕ :=
  bytes.foldl (fun value byte => value * 256 + byte.toNat) 0

def part (data : List UInt8) (low high : ℕ) : List UInt8 :=
  (data.drop low).take (high - low)

/-- `data[low:high]`. -/
def slice (data : List UInt8) (low high : ℤ) : Except Fault (List UInt8) :=
  if 0 ≤ low ∧ low ≤ high ∧ high ≤ data.length then .ok (part data low.toNat high.toNat)
  else .error .sliceBounds

/-- What an iteration does: it ends the walk, or goes on at an offset, for `descend` when the walk
over the content has found nothing. -/
inductive BoxStep where
  | stop (dimensions : Option (ℕ × ℕ))
  | advance (off : ℤ)
  | descend (content : List UInt8) (off : ℤ)

def boxName (name : String) : List UInt8 :=
  name.toUTF8.toList

def ispeStep (data : List UInt8) (off : ℤ) : Except Fault BoxStep := do
  if data.length < int (off + 8) then return .stop none
  let boxSize := bigEndian (← slice data off (int (off + 4)))
  let boxType ← slice data (int (off + 4)) (int (off + 8))
  if boxSize < 8 ∨ data.length < int (off + boxSize) then return .stop none
  let content ← slice data (int (off + 8)) (int (off + boxSize))
  if boxType = boxName "iprp" ∨ boxType = boxName "ipco" then
    return .descend content (int (off + boxSize))
  if boxType = boxName "ispe" ∧ 12 ≤ content.length then
    let w := bigEndian (← slice content 4 8)
    let h := bigEndian (← slice content 8 12)
    if 0 < w ∧ 0 < h then return .stop (some (w, h))
  return .advance (int (off + boxSize))

def findISPEFrom : ℕ → List UInt8 → ℤ → Except Fault (Option (ℕ × ℕ))
  | 0, _, _ => .error .outOfFuel
  | fuel + 1, data, off =>
    match ispeStep data off with
    | .error fault => .error fault
    | .ok (.stop dimensions) => .ok dimensions
    | .ok (.advance next) => findISPEFrom fuel data next
    | .ok (.descend content next) =>
      match findISPEFrom fuel content 0 with
      | .ok none => findISPEFrom fuel data next
      | result => result

def findISPE (data : List UInt8) : Except Fault (Option (ℕ × ℕ)) :=
  findISPEFrom (data.length + 1) data 0

/-- The size of a box and the length of its header; `none` breaks the loop. -/
def boxSizeAt (data : List UInt8) (off : ℤ) : Except Fault (Option (ℤ × ℤ)) := do
  let boxSize := bigEndian (← slice data off (int (off + 4)))
  if boxSize = 1 then
    if data.length < int (off + 16) then return none
    let extended ← slice data (int (off + 8)) (int (off + 16))
    return some (int (bigEndian extended), 16)
  if boxSize = 0 then return some (int (data.length - off), 8)
  return some (boxSize, 8)

def topLevelStep (data : List UInt8) (off : ℤ) : Except Fault BoxStep := do
  if data.length < int (off + 8) then return .stop none
  let some (boxSize, headerLen) ← boxSizeAt data off | return .stop none
  let boxType ← slice data (int (off + 4)) (int (off + 8))
  if boxSize < headerLen ∨ data.length < int (off + boxSize) then return .stop none
  if boxType = boxName "meta" then
    let metaData ← slice data (int (off + headerLen)) (int (off + boxSize))
    if metaData.length < 4 then return .stop none
    return .descend (metaData.drop 4) (int (off + boxSize))
  return .advance (int (off + boxSize))

def walkTopLevel : ℕ → List UInt8 → ℤ → Except Fault (Option (ℕ × ℕ))
  | 0, _, _ => .error .outOfFuel
  | fuel + 1, data, off =>
    match topLevelStep data off with
    | .error fault => .error fault
    | .ok (.stop dimensions) => .ok dimensions
    | .ok (.advance next) => walkTopLevel fuel data next
    | .ok (.descend content _) => findISPE content

def parseHEIFDimensions (data : List UInt8) : Except Fault (Option (ℕ × ℕ)) :=
  if data.length < 12 then .ok none else walkTopLevel (data.length + 1) data 0

/-! ## Boxes -/

/-- The data starts with a complete box. -/
structure Box (data name : List UInt8) (size : ℕ) : Prop where
  isName : part data 4 8 = name
  isSize : bigEndian (part data 0 4) = size
  header : 8 ≤ size
  complete : size ≤ data.length

/-- The content of an `ispe` box with a width and a height. -/
structure Dimensions (content : List UInt8) (w h : ℕ) : Prop where
  complete : 12 ≤ content.length
  isWidth : bigEndian (part content 4 8) = w
  isHeight : bigEndian (part content 8 12) = h
  width : 0 < w
  height : 0 < h

/-- A box `ispe` is reached through complete boxes and the containers among them. -/
inductive Ispe (w h : ℕ) : List UInt8 → Prop where
  | here {data size} (box : Box data (boxName "ispe") size)
      (dimensions : Dimensions (part data 8 size) w h) : Ispe w h data
  | inside {data name size} (box : Box data name size)
      (container : name = boxName "iprp" ∨ name = boxName "ipco")
      (ispe : Ispe w h (part data 8 size)) : Ispe w h data
  | later {data name size} (box : Box data name size) (ispe : Ispe w h (data.drop size)) :
      Ispe w h data

/-- The size that a top-level header states and its length: a size may be extended, or reach to
the end of the data. -/
def declared (data : List UInt8) : Option (ℕ × ℕ) :=
  let size := bigEndian (part data 0 4)
  if size = 1 then
    if data.length < 16 then none else some (bigEndian (part data 8 16), 16)
  else if size = 0 then some (data.length, 8)
  else some (size, 8)

/-- The data starts with a complete top-level box. -/
structure TopBox (data name : List UInt8) (header size : ℕ) : Prop where
  isName : part data 4 8 = name
  isSize : declared data = some (size, header)
  header : header ≤ size
  complete : size ≤ data.length

/-- The content of the first top-level box `meta`, after its version and flags. -/
inductive FirstMeta (content : List UInt8) : List UInt8 → Prop where
  | here {data header size} (box : TopBox data (boxName "meta") header size)
      (flags : 4 ≤ size - header)
      (isContent : content = (part data header size).drop 4) :
      FirstMeta content data
  | later {data name header size} (box : TopBox data name header size)
      (other : name ≠ boxName "meta") (first : FirstMeta content (data.drop size)) :
      FirstMeta content data

/-- The walk comes to a size that fits the integers, but not after its offset. -/
inductive Overruns (data : List UInt8) : ℕ → Prop where
  | here {off header size} (within : off + 8 ≤ data.length)
      (isSize : declared (data.drop off) = some (size, header)) (signed : size < 2 ^ 63)
      (exceeds : 2 ^ 63 ≤ off + size) : Overruns data off
  | later {off name header size} (box : TopBox (data.drop off) name header size)
      (other : name ≠ boxName "meta") (overruns : Overruns data (off + size)) :
      Overruns data off

/-- The offset of the next iteration of the search. -/
def ispeNext (data : List UInt8) (off : ℤ) : Option ℤ :=
  match ispeStep data off with
  | .ok (.advance next) | .ok (.descend _ next) => some next
  | _ => none

def topLevelNext (data : List UInt8) (off : ℤ) : Option ℤ :=
  match topLevelStep data off with
  | .ok (.advance next) => some next
  | _ => none

/-- The offsets of the iterations. -/
inductive Reaches (next : ℤ → Option ℤ) : ℤ → Prop where
  | start : Reaches next 0
  | step {off later} (reaches : Reaches next off) (isNext : next off = some later) :
      Reaches next later

def Rises (next : ℤ → Option ℤ) : Prop :=
  ∀ off later, Reaches next off → next off = some later → off < later

/-- Both walks end without a slice out of range, and what they report is in the boxes. -/
structure Walked (data : List UInt8) : Prop where
  returns : ∃ dimensions, parseHEIFDimensions data = .ok dimensions
  rises : Rises (topLevelNext data)
  found : ∀ w h, parseHEIFDimensions data = .ok (some (w, h)) →
    ∃ content, FirstMeta content data ∧ Ispe w h content
  nestedReturns : ∃ dimensions, findISPE data = .ok dimensions
  nestedRises : Rises (ispeNext data)
  nestedFound : ∀ w h, findISPE data = .ok (some (w, h)) → Ispe w h data

/-! ## Slices -/

theorem ok_bind {Value Result : Type} (value : Value) (next : Value → Except Fault Result) :
    (Except.ok value >>= next) = next value := rfl

theorem int_eq {value : ℤ} (number : ℕ) (same : value = number) (small : number < 2 ^ 63) :
    int value = number := by
  rw [int, same, Int.bmod_eq_of_le]
  · omega
  · omega

theorem int_wraps {value : ℤ} (number : ℕ) (same : value = number) (large : 2 ^ 63 ≤ number)
    (small : number < 2 ^ 64) : int value = number - 2 ^ 64 := by
  have modulus : ((2 ^ 64 : ℕ) : ℤ) = 18446744073709551616 := by norm_num
  rw [int, same, Int.bmod_def, modulus]
  omega

theorem slice_eq {data : List UInt8} {low high : ℕ} (order : low ≤ high)
    (within : high ≤ data.length) : slice data low high = .ok (part data low high) := by
  rw [slice, if_pos (by omega), Int.toNat_natCast, Int.toNat_natCast]

theorem slice_negative {data : List UInt8} {low high : ℤ} (negative : low < 0 ∨ high < low) :
    slice data low high = .error .sliceBounds := by
  rw [slice, if_neg (by omega)]

theorem slice_at {data : List UInt8} {off low high : ℕ} (order : low ≤ high)
    (within : off + high ≤ data.length) :
    slice data (off + low : ℕ) (off + high : ℕ) = .ok (part (data.drop off) low high) := by
  rw [slice_eq (by omega) within, part, part, List.drop_drop, Nat.add_sub_add_left]

theorem length_part {data : List UInt8} {low high : ℕ} (within : high ≤ data.length) :
    (part data low high).length = high - low := by
  rw [part, List.length_take, List.length_drop]
  omega

theorem foldl_bigEndian_lt (bytes : List UInt8) (value : ℕ) :
    bytes.foldl (fun value byte => value * 256 + byte.toNat) value <
      (value + 1) * 256 ^ bytes.length := by
  induction bytes generalizing value with
  | nil => simp
  | cons byte rest ih =>
    have small : value * 256 + byte.toNat + 1 ≤ (value + 1) * 256 := by
      have := byte.toNat_lt
      omega
    calc rest.foldl _ (value * 256 + byte.toNat)
      _ < (value * 256 + byte.toNat + 1) * 256 ^ rest.length := ih _
      _ ≤ (value + 1) * 256 * 256 ^ rest.length := Nat.mul_le_mul_right _ small
      _ = (value + 1) * 256 ^ (byte :: rest).length := by
        rw [List.length_cons, Nat.pow_succ, Nat.mul_assoc, Nat.mul_comm 256]

theorem bigEndian_part_lt (data : List UInt8) (low high : ℕ) :
    bigEndian (part data low high) < 256 ^ (high - low) := by
  have bound := foldl_bigEndian_lt (part data low high) 0
  rw [Nat.zero_add, Nat.one_mul] at bound
  exact Nat.lt_of_lt_of_le bound (Nat.pow_le_pow_right (by decide) (List.length_take_le _ _))

/-! ## Iterations -/

/-- What an iteration of the search can do. -/
inductive Searched (data : List UInt8) (off : ℕ) : Except Fault BoxStep → Prop where
  | ended : Searched data off (.ok (.stop none))
  | passed {name size} (box : Box (data.drop off) name size) :
      Searched data off (.ok (.advance (off + size : ℕ)))
  | container {name size} (box : Box (data.drop off) name size)
      (container : name = boxName "iprp" ∨ name = boxName "ipco") :
      Searched data off (.ok (.descend (part (data.drop off) 8 size) (off + size : ℕ)))
  | found {size w h} (box : Box (data.drop off) (boxName "ispe") size)
      (dimensions : Dimensions (part (data.drop off) 8 size) w h) :
      Searched data off (.ok (.stop (some (w, h))))

/-- What an iteration of the walk can do before an overrun. -/
inductive Moved (data : List UInt8) (off : ℕ) : Except Fault BoxStep → Prop where
  | ended : Moved data off (.ok (.stop none))
  | passed {name header size} (box : TopBox (data.drop off) name header size)
      (other : name ≠ boxName "meta") : Moved data off (.ok (.advance (off + size : ℕ)))
  | entered {header size} (box : TopBox (data.drop off) (boxName "meta") header size)
      (flags : 4 ≤ size - header) : Moved data off
        (.ok (.descend ((part (data.drop off) header size).drop 4) (off + size : ℕ)))

section Steps

variable {data name : List UInt8} {off header size : ℕ}

theorem Box.next (box : Box (data.drop off) name size) :
    8 ≤ size ∧ off + size ≤ data.length := by
  have complete := box.complete
  have header := box.header
  rw [List.length_drop] at complete
  omega

variable (fits : data.length < 2 ^ 48)

include fits

theorem declared_bounds (isDeclared : declared (data.drop off) = some (size, header)) :
    size < 2 ^ 64 ∧ 8 ≤ header ∧ header ≤ 16 ∧
      (2 ^ 48 ≤ size → off + 16 ≤ data.length) := by
  have small := bigEndian_part_lt (data.drop off) 0 4
  have extended := bigEndian_part_lt (data.drop off) 8 16
  simp only [declared, List.length_drop] at isDeclared
  split at isDeclared
  · split at isDeclared
    · cases isDeclared
    · cases isDeclared
      exact ⟨Nat.lt_of_lt_of_le extended (by decide), by decide, by decide, fun _ => by omega⟩
  split at isDeclared
  · cases isDeclared
    omega
  · cases isDeclared
    omega

theorem TopBox.next (box : TopBox (data.drop off) name header size) :
    8 ≤ size ∧ off + size ≤ data.length := by
  have bounded := declared_bounds fits box.isSize
  have complete := box.complete
  have starts := box.header
  rw [List.length_drop] at complete
  omega

theorem searched (within : off ≤ data.length) :
    Searched data off (ispeStep data off) := by
  have at4 : int (off + 4) = (off + 4 : ℕ) := int_eq _ (by omega) (by omega)
  have at8 : int (off + 8) = (off + 8 : ℕ) := int_eq _ (by omega) (by omega)
  rw [ispeStep, at4, at8]
  split
  · exact .ended
  next long =>
  have complete : off + 8 ≤ data.length := by omega
  have first := slice_at (Nat.zero_le 4) (by omega : off + 4 ≤ data.length)
  have small := bigEndian_part_lt (data.drop off) 0 4
  rw [Nat.add_zero] at first
  rw [first, slice_at (by decide : 4 ≤ 8) complete]
  simp only [ok_bind]
  generalize isSize : bigEndian (part (data.drop off) 0 4) = size at small ⊢
  rw [int_eq (off + size) (by omega) (by omega)]
  split
  · exact .ended
  next sized =>
  have box : Box (data.drop off) (part (data.drop off) 4 8) size := by
    refine ⟨rfl, isSize, by omega, ?_⟩
    rw [List.length_drop]
    omega
  rw [slice_at (by omega) (by omega), ok_bind]
  split
  next container => exact .container box container
  split
  next isIspe =>
    rcases isIspe with ⟨isIspe, long⟩
    generalize isContent : part (data.drop off) 8 size = content at long
    have width : slice content 4 8 = .ok (part content 4 8) :=
      slice_eq (by decide) (Nat.le_trans (by decide) long)
    have height : slice content 8 12 = .ok (part content 8 12) := slice_eq (by decide) long
    rw [width, height, ok_bind, ok_bind]
    split
    next positive =>
      refine .found (isIspe ▸ box) ?_
      rw [isContent]
      exact ⟨long, rfl, rfl, positive.1, positive.2⟩
    · exact .passed box
  · exact .passed box

/-- What an iteration of the walk does. -/
theorem topLevelStep_eq (complete : off + 8 ≤ data.length) :
    topLevelStep data off =
      match declared (data.drop off) with
      | none => .ok (.stop none)
      | some (size, header) =>
        if 2 ^ 63 ≤ size ∨ size < header ∨ off + size < 2 ^ 63 ∧ data.length < off + size then
          .ok (.stop none)
        else if part (data.drop off) 4 8 = boxName "meta" then
          if 2 ^ 63 ≤ off + size then .error .sliceBounds
          else if size - header < 4 then .ok (.stop none)
          else .ok (.descend ((part (data.drop off) header size).drop 4) (off + size : ℕ))
        else if 2 ^ 63 ≤ off + size then .ok (.advance (off + size - 2 ^ 64))
        else .ok (.advance (off + size : ℕ)) := by
  have at4 : int (off + 4) = (off + 4 : ℕ) := int_eq _ (by omega) (by omega)
  have at8 : int (off + 8) = (off + 8 : ℕ) := int_eq _ (by omega) (by omega)
  have first := slice_at (Nat.zero_le 4) (by omega : off + 4 ≤ data.length)
  rw [Nat.add_zero] at first
  have isSize : boxSizeAt data off =
      .ok ((declared (data.drop off)).map fun (size, header) => (int size, (header : ℤ))) := by
    have small := bigEndian_part_lt (data.drop off) 0 4
    rw [boxSizeAt, at4, first, ok_bind, declared]
    dsimp only
    split
    · have at16 : int (off + 16) = (off + 16 : ℕ) := int_eq _ (by omega) (by omega)
      rw [at16, at8, List.length_drop]
      split
      · rw [if_pos (by omega)]
        rfl
      · rw [if_neg (by omega), slice_at (by decide) (by omega), ok_bind]
        rfl
    split
    · rw [List.length_drop, Option.map_some, Nat.cast_sub (by omega)]
      rfl
    · rw [Option.map_some, int_eq _ rfl (Nat.lt_trans small (by decide))]
      rfl
  rw [topLevelStep, at4, at8, if_neg (by omega), isSize, ok_bind]
  cases isDeclared : declared (data.drop off) with
  | none =>
    rw [Option.map_none]
    rfl
  | some declared =>
    rcases declared with ⟨size, header⟩
    have bounded := declared_bounds fits isDeclared
    have short := bounded.2.2.1
    rw [Option.map_some]
    dsimp only
    rw [slice_at (by decide : 4 ≤ 8) complete, ok_bind]
    by_cases unsigned : 2 ^ 63 ≤ size
    · rw [int_wraps size rfl unsigned bounded.1, if_pos (by omega), if_pos (by omega)]
      rfl
    have atContent : int (off + header) = (off + header : ℕ) :=
      int_eq _ (by omega) (by omega)
    rw [int_eq size rfl (by omega), atContent]
    by_cases exceeds : 2 ^ 63 ≤ off + size
    · have inSize : ¬((size : ℤ) < header ∨ (data.length : ℤ) < (off + size : ℕ) - 2 ^ 64) := by
        omega
      have declares : ¬(2 ^ 63 ≤ size ∨ size < header ∨
          off + size < 2 ^ 63 ∧ data.length < off + size) := by omega
      rw [int_wraps (off + size) (by omega) exceeds (by omega), if_neg inSize,
        if_neg declares, if_pos exceeds, if_pos exceeds, slice_negative (by omega), Nat.cast_add]
      rfl
    · rw [int_eq (off + size) (by omega) (by omega), if_neg exceeds, if_neg exceeds]
      by_cases ends : size < header ∨ data.length < off + size
      · have inSize : (size : ℤ) < header ∨ (data.length : ℤ) < (off + size : ℕ) := by omega
        rw [if_pos inSize, if_pos (by omega)]
        rfl
      have inSize : ¬((size : ℤ) < header ∨ (data.length : ℤ) < (off + size : ℕ)) := by omega
      have declares : ¬(2 ^ 63 ≤ size ∨ size < header ∨
          off + size < 2 ^ 63 ∧ data.length < off + size) := by omega
      rw [if_neg inSize, if_neg declares]
      split
      · rw [slice_at (by omega) (by omega), ok_bind, length_part (by rw [List.length_drop]; omega)]
        split <;> rfl
      · rfl

omit fits in
theorem topLevelStep_negative (off : ℤ) (low : -2 ^ 63 ≤ off) (negative : off < -8) :
    topLevelStep data off = .error .sliceBounds := by
  have at8 : int (off + 8) = off + 8 := by
    rw [int, Int.bmod_eq_of_le]
    · omega
    · omega
  rw [topLevelStep, at8, if_neg (by omega), boxSizeAt, slice_negative (.inl (by omega))]
  rfl

theorem moved (within : off ≤ data.length) (sound : ¬Overruns data off) :
    Moved data off (topLevelStep data off) := by
  by_cases ends : data.length < off + 8
  · rw [topLevelStep, int_eq (off + 8) (by omega) (by omega), if_pos (by omega)]
    exact .ended
  rw [topLevelStep_eq fits (by omega)]
  split
  · exact .ended
  next size header isSize =>
  split
  · exact .ended
  next complete =>
  have fitting : ¬2 ^ 63 ≤ off + size :=
    fun exceeds => sound (.here (by omega) isSize (by omega) exceeds)
  have box : TopBox (data.drop off) (part (data.drop off) 4 8) header size := by
    refine ⟨rfl, isSize, by omega, ?_⟩
    rw [List.length_drop]
    omega
  rw [if_neg fitting, if_neg fitting]
  split
  next isMeta =>
    split
    · exact .ended
    · exact .entered (isMeta ▸ box) (by omega)
  next other => exact .passed box other

theorem topLevelStep_box (box : TopBox (data.drop off) name header size)
    (other : name ≠ boxName "meta") :
    topLevelStep data off = .ok (.advance (off + size : ℕ)) := by
  have next := box.next fits
  have starts := box.header
  rw [topLevelStep_eq fits (by omega), box.isSize]
  dsimp only
  rw [box.isName, if_neg (by omega), if_neg other, if_neg (by omega)]

end Steps

/-! ## Whole walks -/

theorem findISPEFrom_returns (fuel : ℕ) (data : List UInt8) (off : ℕ) (fits : data.length < 2 ^ 48)
    (within : off ≤ data.length) (enough : data.length - off < fuel) :
    ∃ dims, findISPEFrom fuel data off = .ok dims ∧
      ∀ w h, dims = some (w, h) → Ispe w h (data.drop off) := by
  induction fuel generalizing data off with
  | zero => omega
  | succ fuel ih =>
    have goesOn : ∀ {name size}, Box (data.drop off) name size →
        ∃ dims, findISPEFrom fuel data (off + size : ℕ) = .ok dims ∧
          ∀ w h, dims = some (w, h) → Ispe w h (data.drop off) := by
      intro name size box
      have next := box.next
      rcases ih data (off + size) fits (by omega) (by omega) with
        ⟨dims, isResult, found⟩
      refine ⟨dims, isResult, fun w h isFound => .later box ?_⟩
      rw [List.drop_drop]
      exact found w h isFound
    have step := searched fits within
    rw [findISPEFrom]
    generalize ispeStep data off = result at step ⊢
    cases step with
    | ended => exact ⟨none, rfl, by simp⟩
    | passed box => exact goesOn box
    | @container _ size box container =>
      have next := box.next
      have length : (part (data.drop off) 8 size).length = size - 8 :=
        length_part box.complete
      rcases ih (part (data.drop off) 8 size) 0 (by omega) (Nat.zero_le _) (by omega) with
        ⟨dims, isResult, found⟩
      rw [Nat.cast_zero] at isResult
      dsimp only
      rw [isResult]
      cases dims with
      | none => exact goesOn box
      | some dims =>
        exact ⟨_, rfl, fun w h isFound => .inside box container (found w h isFound)⟩
    | found box dims =>
      refine ⟨_, rfl, ?_⟩
      rintro w h ⟨⟩
      exact .here box dims

section Walks

variable {data : List UInt8} {off : ℕ} (fits : data.length < 2 ^ 48)

include fits

theorem findISPE_returns :
    ∃ dims, findISPE data = .ok dims ∧
      ∀ w h, dims = some (w, h) → Ispe w h data :=
  findISPEFrom_returns (data.length + 1) data 0 fits (Nat.zero_le _) (by omega)

theorem walkTopLevel_returns (fuel : ℕ) (within : off ≤ data.length)
    (enough : data.length - off < fuel) (sound : ¬Overruns data off) :
    ∃ dims, walkTopLevel fuel data off = .ok dims ∧
      ∀ w h, dims = some (w, h) →
        ∃ content, FirstMeta content (data.drop off) ∧ Ispe w h content := by
  induction fuel generalizing off with
  | zero => omega
  | succ fuel ih =>
    have step := moved fits within sound
    rw [walkTopLevel]
    generalize topLevelStep data off = result at step ⊢
    cases step with
    | ended => exact ⟨none, rfl, by simp⟩
    | passed box other =>
      have next := box.next fits
      rcases ih next.2 (by omega) (fun overruns => sound (.later box other overruns)) with
        ⟨dims, isResult, found⟩
      refine ⟨dims, isResult, fun w h isFound => ?_⟩
      rcases found w h isFound with ⟨content, first, ispe⟩
      rw [← List.drop_drop] at first
      exact ⟨content, .later box other first, ispe⟩
    | @entered header size box flags =>
      have shorter : ((part (data.drop off) header size).drop 4).length < 2 ^ 48 := by
        have next := box.next fits
        rw [List.length_drop, length_part box.complete]
        omega
      rcases findISPE_returns shorter with ⟨dims, isResult, found⟩
      exact ⟨dims, isResult, fun w h isFound => ⟨_, .here box flags rfl, found w h isFound⟩⟩

theorem Overruns.length (overruns : Overruns data off) : off + 16 ≤ data.length := by
  induction overruns with
  | here within isSize _ exceeds => exact (declared_bounds fits isSize).2.2.2 (by omega)
  | later _ _ _ ih => omega

theorem Overruns.faults (overruns : Overruns data off) (fuel : ℕ)
    (dims : Option (ℕ × ℕ)) : walkTopLevel fuel data off ≠ .ok dims := by
  induction overruns generalizing fuel with
  | @here off header size within isSize signed exceeds =>
    have bounded := declared_bounds fits isSize
    have out : ∀ fuel, walkTopLevel fuel data (off + size - 2 ^ 64) ≠ .ok dims := by
      intro fuel
      cases fuel with
      | zero => simp [walkTopLevel]
      | succ fuel =>
        rw [walkTopLevel, topLevelStep_negative _ (by omega) (by omega)]
        simp
    cases fuel with
    | zero => simp [walkTopLevel]
    | succ fuel =>
      rw [walkTopLevel, topLevelStep_eq fits within, isSize]
      dsimp only
      rw [if_neg (by omega), if_pos exceeds, if_pos exceeds]
      by_cases isMeta : part (data.drop off) 4 8 = boxName "meta"
      · rw [if_pos isMeta]
        simp
      · rw [if_neg isMeta]
        exact out fuel
  | later box other _ ih =>
    cases fuel with
    | zero => simp [walkTopLevel]
    | succ fuel =>
      rw [walkTopLevel, topLevelStep_box fits box other]
      exact ih fuel

end Walks

theorem rises_of_sound {next : ℤ → Option ℤ} (Sound : ℕ → Prop) (start : Sound 0)
    (advances : ∀ off : ℕ, Sound off → ∀ later, next off = some later →
      ∃ size : ℕ, later = (off + size : ℕ) ∧ 0 < size ∧ Sound (off + size)) :
    Rises next := by
  have sound : ∀ off, Reaches next off → ∃ number : ℕ, off = number ∧ Sound number := by
    intro off reaches
    induction reaches with
    | start => exact ⟨0, rfl, start⟩
    | step _ isNext ih =>
      rcases ih with ⟨number, rfl, isSound⟩
      rcases advances number isSound _ isNext with ⟨size, rfl, _, goesOn⟩
      exact ⟨_, rfl, goesOn⟩
  intro off later reaches isNext
  rcases sound off reaches with ⟨number, rfl, isSound⟩
  rcases advances number isSound _ isNext with ⟨size, rfl, positive, _⟩
  omega

theorem ispeNext_rises {data : List UInt8} (fits : data.length < 2 ^ 48) :
    Rises (ispeNext data) := by
  refine rises_of_sound (· ≤ data.length) (Nat.zero_le _) ?_
  intro off within later isNext
  have step := searched fits within
  rw [ispeNext] at isNext
  generalize ispeStep data off = result at step isNext
  cases step with
  | ended => cases isNext
  | found _ _ => cases isNext
  | passed box =>
    cases isNext
    exact ⟨_, rfl, Nat.lt_of_lt_of_le (by decide) box.next.1, box.next.2⟩
  | container box _ =>
    cases isNext
    exact ⟨_, rfl, Nat.lt_of_lt_of_le (by decide) box.next.1, box.next.2⟩

theorem topLevelNext_rises {data : List UInt8} (fits : data.length < 2 ^ 48)
    (sound : ¬Overruns data 0) : Rises (topLevelNext data) := by
  refine rises_of_sound (fun off => off ≤ data.length ∧ ¬Overruns data off)
    ⟨Nat.zero_le _, sound⟩ ?_
  rintro off ⟨within, sound⟩ later isNext
  have step := moved fits within sound
  rw [topLevelNext] at isNext
  generalize topLevelStep data off = result at step isNext
  cases step with
  | ended => cases isNext
  | entered _ _ => cases isNext
  | passed box other =>
    have next := box.next fits
    cases isNext
    exact ⟨_, rfl, by omega, next.2, fun overruns => sound (.later box other overruns)⟩

/-! ## When a walk ends well -/

/-- A file is walked without a fault exactly if none of its boxes overruns it. -/
theorem walked_iff (data : ByteSlice) : Walked data.bytes ↔ ¬Overruns data.bytes 0 := by
  have fits := data.fits
  constructor
  · rintro ⟨⟨dimensions, returns⟩, _⟩ overruns
    have length := overruns.length fits
    rw [parseHEIFDimensions, if_neg (by omega)] at returns
    exact overruns.faults fits _ dimensions returns
  · intro sound
    rcases findISPE_returns fits with ⟨nested, nestedReturns, nestedFound⟩
    have returns : ∃ dimensions, parseHEIFDimensions data.bytes = .ok dimensions ∧
        ∀ w h, dimensions = some (w, h) →
          ∃ content, FirstMeta content data.bytes ∧ Ispe w h content := by
      rw [parseHEIFDimensions]
      split
      · exact ⟨none, rfl, by simp⟩
      · exact walkTopLevel_returns fits (data.bytes.length + 1) (Nat.zero_le _) (by omega) sound
    rcases returns with ⟨dimensions, isResult, found⟩
    refine ⟨⟨dimensions, isResult⟩, topLevelNext_rises fits sound, ?_, ⟨nested, nestedReturns⟩,
      ispeNext_rises fits, ?_⟩
    · intro w h isFound
      rw [isResult] at isFound
      exact found w h (Except.ok.inj isFound)
    · intro w h isFound
      rw [nestedReturns] at isFound
      exact nestedFound w h (Except.ok.inj isFound)

/-- A box `ftyp`, and a box `meta` that states the largest signed size. -/
def oversizedMeta : List UInt8 :=
  [0, 0, 0, 16] ++ boxName "ftypheic" ++ [0, 0, 0, 0] ++
    [0, 0, 0, 1] ++ boxName "meta" ++ [127, 255, 255, 255, 255, 255, 255, 255]

/-- A box that is larger than the file is a fault. -/
theorem oversizedMeta_faults : ¬∀ data : ByteSlice, Walked data.bytes := by
  intro always
  rcases (always ⟨oversizedMeta, by decide +kernel⟩).returns with ⟨dimensions, returns⟩
  have faults : parseHEIFDimensions oversizedMeta = .error .sliceBounds := by decide +kernel
  rw [faults] at returns
  cases returns

end NewApi.Service
