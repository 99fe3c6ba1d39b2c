import Mathlib.Data.List.Infix

/-!
# Files of a request

A file source remembers what it has loaded, and the context of the request keeps it under a key
for other sources. Texts are byte strings.
-/

namespace NewApi.Service

abbrev GoString :=
  List UInt8

def goString (text : String) : GoString :=
  text.toUTF8.toList

/-! ## Base64 -/

def sextet (byte : UInt8) : Option ℕ :=
  if 65 ≤ byte ∧ byte ≤ 90 then some (byte.toNat - 65)
  else if 97 ≤ byte ∧ byte ≤ 122 then some (byte.toNat - 71)
  else if 48 ≤ byte ∧ byte ≤ 57 then some (byte.toNat + 4)
  else if byte = 43 then some 62
  else if byte = 47 then some 63
  else none

/-- Four characters give three bytes, fewer before padding. -/
def decodeQuanta : GoString → Option (List UInt8)
  | [] => some []
  | [one, two, 61, 61] => do
    let value := (← sextet one) * 64 + (← sextet two)
    return [.ofNat (value / 16)]
  | [one, two, three, 61] => do
    let value := ((← sextet one) * 64 + (← sextet two)) * 64 + (← sextet three)
    return [.ofNat (value / 1024), .ofNat (value / 4)]
  | one :: two :: three :: four :: rest => do
    let value := (((← sextet one) * 64 + (← sextet two)) * 64 + (← sextet three)) * 64 +
      (← sextet four)
    return .ofNat (value / 65536) :: .ofNat (value / 256) :: .ofNat value :: (← decodeQuanta rest)
  | _ => none

/-- `base64.StdEncoding.DecodeString`, which skips line breaks. -/
def decodeString (text : GoString) : Option (List UInt8) :=
  decodeQuanta (text.filter fun byte => byte ≠ 10 ∧ byte ≠ 13)

/-! ## Sources -/

/-- The digest of cache keys, and the format that an image decodes as. -/
structure FileHost where
  generateHMAC : GoString → GoString
  decodeImageConfig : List UInt8 → Option GoString

/-- The cached content of a file. -/
structure CachedFileData where
  base64Data : GoString
  mimeType : GoString
  isDisk : Bool

/-- Where a file comes from. -/
inductive FileSource where
  | url (address : GoString)
  | base64 (base64Data mimeType : GoString)
deriving DecidableEq

section Host

variable (host : FileHost)

def getContextCacheKey (url : GoString) : GoString :=
  goString "file_cache_" ++ host.generateHMAC url

def getBase64ContextCacheKey (data mimeType : GoString) : GoString :=
  goString "b64_cache_" ++ host.generateHMAC
    (goString (toString data.length) ++ goString ":" ++ mimeType ++ goString ":" ++ data.take 128)

/-- The MIME type in the header of a data URI. -/
def headerMimeType (header : GoString) : GoString :=
  match header.findIdx? (· = 58), header.findIdx? (· = 59) with
  | some colon, some semicolon =>
    if colon + 1 < semicolon then (header.take semicolon).drop (colon + 1) else []
  | _, _ => []

def loadFromBase64 (onDisk : Bool) (base64String providedMimeType : GoString) :
    Option CachedFileData :=
  let comma :=
    if goString "data:" <+: base64String then base64String.findIdx? (· = 44) else none
  let (headerMime, cleanBase64) := match comma with
    | some index => (headerMimeType (base64String.take index), base64String.drop (index + 1))
    | none => ([], base64String)
  let mimeType := if providedMimeType ≠ [] then providedMimeType else headerMime
  (decodeString cleanBase64).map fun decodedData =>
    let format :=
      if mimeType = [] ∨ goString "image/" <+: mimeType then host.decodeImageConfig decodedData
      else none
    match format with
    | some format =>
      ⟨cleanBase64, if mimeType = [] then goString "image/" ++ format else mimeType, onDisk⟩
    | none => ⟨cleanBase64, mimeType, onDisk⟩

def FileSource.contextKey : FileSource → GoString
  | .url address => getContextCacheKey host address
  | .base64 base64Data mimeType => getBase64ContextCacheKey host base64Data mimeType

/-! ## A request -/

/-- Whether the disk cache takes the data, and what a download brings. -/
structure LoadChoice where
  onDisk : Bool
  download : Option CachedFileData

/-- What the sources and the context keep, and what was downloaded, newest first. -/
structure FileRequest where
  cached : ℕ → Option CachedFileData
  context : GoString → Option CachedFileData
  downloads : List (GoString × CachedFileData)

def FileSource.load (pick : LoadChoice) : FileSource → Option CachedFileData
  | .url _ => pick.download
  | .base64 base64Data mimeType => loadFromBase64 host pick.onDisk base64Data mimeType

def FileSource.downloaded (data : CachedFileData) : FileSource → List (GoString × CachedFileData)
  | .url address => [(address, data)]
  | .base64 _ _ => []

variable (src : ℕ → FileSource)

namespace FileRequest

def loadFileSource (s : FileRequest) (id : ℕ) (pick : LoadChoice) :
    Option CachedFileData × FileRequest :=
  match s.cached id with
  | some data => (some data, s)
  | none =>
    let contextKey := (src id).contextKey host
    match s.context contextKey with
    | some data => (some data, { s with cached := Function.update s.cached id (some data) })
    | none =>
      match (src id).load host pick with
      | none => (none, s)
      | some data => (some data,
          { cached := Function.update s.cached id (some data)
            context := Function.update s.context contextKey (some data)
            downloads := (src id).downloaded data ++ s.downloads })

end FileRequest

/-- `GetBase64Data` also reads the data, which fails when the disk file is unreadable. -/
inductive FileCall where
  | loadFileSource (id : ℕ) (pick : LoadChoice)
  | getBase64Data (id : ℕ) (pick : LoadChoice) (readable : Bool)

namespace FileCall

def id : FileCall → ℕ
  | loadFileSource id _ | getBase64Data id _ _ => id

/-- The data and the MIME type that a call returns. -/
def perform (call : FileCall) (s : FileRequest) : Option (GoString × GoString) × FileRequest :=
  match call with
  | loadFileSource id pick =>
    let (loaded, after) := s.loadFileSource host src id pick
    (loaded.map fun data => (data.base64Data, data.mimeType), after)
  | getBase64Data id pick readable =>
    let (loaded, after) := s.loadFileSource host src id pick
    (loaded.bind fun data =>
      if data.isDisk && !readable then none else some (data.base64Data, data.mimeType), after)

end FileCall

/-- The request after its calls, newest first. -/
def requestAfter : List FileCall → FileRequest
  | [] => ⟨fun _ => none, fun _ => none, []⟩
  | call :: past => (call.perform host src (requestAfter past)).2

/-! ## Loading a file as itself -/

/-- The data is what the source itself loads, or was downloaded for its URL. -/
def FileRequest.Own (s : FileRequest) (data : CachedFileData) : FileSource → Prop
  | .url address => (address, data) ∈ s.downloads
  | .base64 base64Data mimeType =>
    ∃ onDisk, loadFromBase64 host onDisk base64Data mimeType = some data

/-- What a call loads for a source is the content of that source. -/
def LoadsItself (calls : List FileCall) : Prop :=
  ∀ later call past, calls = later ++ call :: past →
    ∀ content mimeType, (call.perform host src (requestAfter host src past)).1 =
        some (content, mimeType) →
      ∃ data : CachedFileData, data.base64Data = content ∧ data.mimeType = mimeType ∧
        (requestAfter host src (call :: past)).Own host data (src call.id)

/-- The calls of a request whose sources have different keys unless they are the same. -/
structure FileRun where
  calls : List FileCall
  separate : ∀ one ∈ calls, ∀ two ∈ calls,
    (src one.id).contextKey host = (src two.id).contextKey host →
      src one.id = src two.id

end Host

section Runs

variable {host : FileHost} {src : ℕ → FileSource} {s : FileRequest}

/-- What is kept was loaded for the source, or for one of the used sources with the key. -/
structure FileRequest.Faithful (host : FileHost) (src : ℕ → FileSource)
    (Used : FileSource → Prop) (s : FileRequest) : Prop where
  cached : ∀ id data, s.cached id = some data → s.Own host data (src id)
  context : ∀ key data, s.context key = some data →
    ∃ owner, Used owner ∧ owner.contextKey host = key ∧ s.Own host data owner

theorem FileRequest.Own.later {later : FileRequest} {data : CachedFileData} {owner : FileSource}
    (own : s.Own host data owner) (downloads : s.downloads ⊆ later.downloads) :
    later.Own host data owner := by
  cases owner with
  | url _ => exact downloads own
  | base64 _ _ => exact own

theorem FileSource.own_load {owner : FileSource} {pick : LoadChoice} {data : CachedFileData}
    {past : List (GoString × CachedFileData)} (loaded : owner.load host pick = some data)
    (downloads : s.downloads = owner.downloaded data ++ past) : s.Own host data owner := by
  cases owner with
  | url address =>
    change (address, data) ∈ s.downloads
    rw [downloads]
    exact List.mem_cons_self
  | base64 _ _ => exact ⟨pick.onDisk, loaded⟩

/-- A load keeps the cache faithful and gives the content of its source. -/
theorem loadFileSource_faithful {Used : FileSource → Prop} (id : ℕ) (pick : LoadChoice)
    (faithful : s.Faithful host src Used) (used : Used (src id))
    (separate : ∀ owner, Used owner → owner.contextKey host = (src id).contextKey host →
      owner = src id) :
    (s.loadFileSource host src id pick).2.Faithful host src Used ∧
      ∀ data, (s.loadFileSource host src id pick).1 = some data →
        (s.loadFileSource host src id pick).2.Own host data (src id) := by
  have store : ∀ (later : FileRequest) data, s.downloads ⊆ later.downloads →
      later.Own host data (src id) →
      (later.cached = Function.update s.cached id (some data)) →
      ∀ other kept, later.cached other = some kept → later.Own host kept (src other) := by
    intro later data downloads own isCached other kept isKept
    rw [isCached] at isKept
    by_cases same : other = id
    · subst same
      rw [Function.update_self] at isKept
      exact Option.some.inj isKept ▸ own
    · rw [Function.update_of_ne same] at isKept
      exact (faithful.cached other kept isKept).later downloads
  rw [FileRequest.loadFileSource]
  split
  next data isCached =>
    refine ⟨faithful, ?_⟩
    rintro _ ⟨⟩
    exact faithful.cached id data isCached
  dsimp only
  split
  next data isContext =>
    rcases faithful.context _ data isContext with ⟨owner, isUsed, sameKey, own⟩
    rw [separate owner isUsed sameKey] at own
    refine ⟨⟨store _ data (List.Subset.refl _) own rfl, faithful.context⟩, ?_⟩
    rintro _ ⟨⟩
    exact own
  split
  · exact ⟨faithful, by simp⟩
  next data loaded =>
    refine ⟨⟨store _ data (List.subset_append_right _ _) (FileSource.own_load loaded rfl) rfl, ?_⟩,
      ?_⟩
    · intro key kept isKept
      dsimp only at isKept
      by_cases same : key = (src id).contextKey host
      · subst same
        rw [Function.update_self] at isKept
        exact ⟨src id, used, rfl, Option.some.inj isKept ▸ FileSource.own_load loaded rfl⟩
      · rw [Function.update_of_ne same] at isKept
        rcases faithful.context key kept isKept with ⟨owner, isUsed, isKey, isOwn⟩
        exact ⟨owner, isUsed, isKey, isOwn.later (List.subset_append_right _ _)⟩
    · rintro _ ⟨⟩
      exact FileSource.own_load loaded rfl

theorem FileCall.perform_faithful {Used : FileSource → Prop} (call : FileCall)
    (faithful : s.Faithful host src Used) (used : Used (src call.id))
    (separate : ∀ owner, Used owner → owner.contextKey host =
      (src call.id).contextKey host → owner = src call.id) :
    (call.perform host src s).2.Faithful host src Used ∧
      ∀ content mimeType, (call.perform host src s).1 = some (content, mimeType) →
        ∃ data : CachedFileData, data.base64Data = content ∧ data.mimeType = mimeType ∧
          (call.perform host src s).2.Own host data (src call.id) := by
  cases call with
  | loadFileSource id pick =>
    rcases loadFileSource_faithful id pick faithful used separate with ⟨after, own⟩
    refine ⟨after, ?_⟩
    intro content mimeType isResult
    rcases Option.map_eq_some_iff.mp isResult with ⟨data, loaded, ⟨⟩⟩
    exact ⟨data, rfl, rfl, own data loaded⟩
  | getBase64Data id pick readable =>
    rcases loadFileSource_faithful id pick faithful used separate with ⟨after, own⟩
    refine ⟨after, ?_⟩
    intro content mimeType isResult
    rcases Option.bind_eq_some_iff.mp isResult with ⟨data, loaded, isRead⟩
    rw [Option.ite_none_left_eq_some] at isRead
    cases isRead.2
    exact ⟨data, rfl, rfl, own data loaded⟩

theorem faithful_requestAfter {Used : FileSource → Prop}
    (separate : ∀ one two, Used one → Used two → one.contextKey host = two.contextKey host →
      one = two) (calls : List FileCall) (used : ∀ call ∈ calls, Used (src call.id)) :
    (requestAfter host src calls).Faithful host src Used := by
  induction calls with
  | nil => exact ⟨by simp [requestAfter], by simp [requestAfter]⟩
  | cons call past ih =>
    have isUsed := used call List.mem_cons_self
    exact (call.perform_faithful (ih fun other before => used other (.tail _ before)) isUsed
      fun owner ownerUsed => separate owner _ ownerUsed isUsed).1

/-- Every file is loaded as itself in a request whose sources have keys of their own. -/
theorem loads_itself (run : FileRun host src) : LoadsItself host src run.calls := by
  let Used := fun owner => ∃ call ∈ run.calls, src call.id = owner
  have separate : ∀ one two, Used one → Used two → one.contextKey host = two.contextKey host →
      one = two := by
    rintro _ _ ⟨one, isOne, rfl⟩ ⟨two, isTwo, rfl⟩ sameKey
    exact run.separate one isOne two isTwo sameKey
  intro later call past isCalls
  have isCall : ∀ other ∈ call :: past, Used (src other.id) :=
    fun other isOther => ⟨other, isCalls ▸ List.mem_append_right _ isOther, rfl⟩
  have faithful := faithful_requestAfter separate past
    fun other isBefore => isCall other (.tail _ isBefore)
  exact (call.perform_faithful faithful (isCall call List.mem_cons_self) fun owner isUsed =>
    separate owner _ isUsed (isCall call List.mem_cons_self)).2

end Runs

def sampleHost : FileHost :=
  ⟨fun material => material, fun _ => none⟩

/-- A URL and two payloads, one of which stands in the request twice. -/
def sampleSources : ℕ → FileSource
  | 0 => .url (goString "https://files.example/a.pdf")
  | 1 => .base64 (goString "QUFB") (goString "application/pdf")
  | 2 => .base64 (goString "QkJC") (goString "application/pdf")
  | _ => .base64 (goString "QUFB") (goString "application/pdf")

def sampleFiles : FileRun sampleHost sampleSources where
  calls :=
    [.getBase64Data 0 ⟨false, none⟩ true, .getBase64Data 3 ⟨false, none⟩ true,
      .loadFileSource 2 ⟨true, none⟩, .getBase64Data 1 ⟨false, none⟩ true,
      .loadFileSource 0 ⟨false, some ⟨goString "Q0ND", goString "text/plain", false⟩⟩]
  separate := by decide +kernel

theorem loads_itself_sample :
    ((FileCall.getBase64Data 3 ⟨false, none⟩ true).perform sampleHost sampleSources
        (requestAfter sampleHost sampleSources (sampleFiles.calls.drop 2))).1 =
        some (goString "QUFB", goString "application/pdf") ∧
      LoadsItself sampleHost sampleSources sampleFiles.calls :=
  ⟨by decide +kernel, loads_itself sampleFiles⟩

/-- Two payloads that differ after their first 128 characters. -/
def longPayload (byte : UInt8) : FileSource :=
  .base64 (List.replicate 128 65 ++ List.replicate 4 byte) (goString "application/pdf")

/-- Two contents of one length and prefix are taken for each other. -/
theorem samePrefix_not_itself :
    ¬∀ (host : FileHost) (src : ℕ → FileSource) (calls : List FileCall),
      LoadsItself host src calls := by
  intro always
  have itself := always ⟨fun material => material, fun _ => none⟩
    (fun id => longPayload (if id = 0 then 65 else 66))
    [.getBase64Data 1 ⟨false, none⟩ true, .getBase64Data 0 ⟨false, none⟩ true] [] _ _ rfl
    (List.replicate 132 65) (goString "application/pdf") (by decide +kernel)
  rcases itself with ⟨data, isContent, _, onDisk, loaded⟩
  have content : ∀ onDisk, (loadFromBase64 ⟨fun material => material, fun _ => none⟩ onDisk
      (List.replicate 128 65 ++ List.replicate 4 66) (goString "application/pdf")).map
        CachedFileData.base64Data ≠ some (List.replicate 132 65) := by decide +kernel
  refine content onDisk ?_
  exact (congrArg (Option.map CachedFileData.base64Data) loaded).trans (congrArg some isContent)

end NewApi.Service
