import Startrail.Library.Hex
import Startrail.Library.Registers
import Startrail.Subgraph.Sources

/-!
The history of a record's owners in the subgraph: `handleSRRProvenanceInternal` of
`subgraph/src/lib/srr-handlers.ts` with the entity that it creates, and the handlers that call it.
The id of the entity is made of the record and the time of the block, and whichever event comes
first to an id makes the entity.
-/

namespace Startrail.Subgraph

structure SRRProvenance where
  srr : Bytes32
  from_ : Address
  to_ : Address
  sender : Option Address
  metadataDigest : Bytes
  metadataURI : Bytes
  customHistory : Option Uint256
  isIntermediary : Bool
  timestamp : Nat
  createdAt : Nat

structure Archive where
  store : Store
  srrProvenance : Bytes32 → Option SRRProvenance

namespace Archive

def blank (licensedUserWallet : Address → Bool) : Archive :=
  ⟨.blank licensedUserWallet, fun _ => none⟩

variable (archive : Archive) (id : Bytes32)

def saveSRR (srr : SRR) : Archive := { archive with store := archive.store.saveSRR id srr }

def saveSRRProvenance (provenance : SRRProvenance) : Archive :=
  { archive with
    srrProvenance := Function.update archive.srrProvenance id (some provenance) }

end Archive

section Utils

def fromUTF8 (text : Text) : Bytes := text.flatMap String.utf8EncodeChar

-- `BigInt.toString` of a time.
def decimalText (value : Nat) : Text := Nat.toDigits 10 value

-- `srrEntityId + eventTimestampMillis.toString()`, where the id of a record is a hash in hex.
def provenanceInput (srrId : Bytes32) (timestampMillis : Nat) : Bytes :=
  fromUTF8 (hexlify (packWord srrId) ++ decimalText timestampMillis)

def provenanceId (evm : Evm) (srrId : Bytes32) (timestampMillis : Nat) : Bytes32 :=
  evm.keccak256 (provenanceInput srrId timestampMillis)

/-- The length of a text in UTF-16, by the bytes of its characters in UTF-8. -/
def textLength (text : Bytes) : Nat :=
  (text.map fun byte =>
    if byte < 0x80 then 1 else if byte < 0xc0 then 0 else if byte < 0xf0 then 1 else 2).sum

/-- The bytes that a text spells in hex, with `0x` or without. -/
def spelled (text : Bytes) : Option Bytes :=
  let digits := text.map fun byte => Char.ofNat byte.toNat
  arrayify digits <|> bytesOf digits

-- `hexForm` stands for `Bytes.fromHexString(text).toHex()`.
def metadataDigestOf (hexForm : Bytes → Bytes) : Option Bytes → Bytes
  | some historyMetadataHash =>
      if textLength historyMetadataHash = 64 then hexForm historyMetadataHash
      else historyMetadataHash
  | none => []

end Utils

namespace Archive

variable (evm : Evm) (hexForm : Bytes → Bytes) (archive : Archive) (timestampMillis : Nat)
  (srrId : Bytes32)

def handleSRRProvenanceInternal (from_ to_ : Address) (customHistoryId : Option Uint256)
    (historyMetadataHash historyMetadataURI : Option Bytes) (isIntermediary : Bool)
    (sender : Option Address) : Archive :=
  match archive.store.srr srrId with
  | none => archive
  | some srr =>
      let archive := archive.saveSRR srrId { srr with
        ownerAddress := some to_
        updatedAt := some timestampMillis }
      match archive.srrProvenance (provenanceId evm srrId timestampMillis) with
      | some _ => archive
      | none => archive.saveSRRProvenance (provenanceId evm srrId timestampMillis)
          { srr := srrId
            from_ := from_
            to_ := to_
            sender := sender
            metadataDigest := metadataDigestOf hexForm historyMetadataHash
            metadataURI := historyMetadataURI.getD []
            customHistory := customHistoryId
            isIntermediary := isIntermediary
            timestamp := timestampMillis
            createdAt := timestampMillis }

def handleTransfer (from_ to_ : Address) (tokenId : Uint256) : Archive :=
  let isMint := from_ == 0
  let srr := { loadOrCreate archive.store timestampMillis srrId tokenId isMint with
    ownerAddress := some to_
    updatedAt := some timestampMillis }
  let archive := archive.saveSRR srrId srr
  if isMint = true then archive
  else
    let archive := handleSRRProvenanceInternal evm hexForm archive timestampMillis srrId from_ to_
      none none none false none
    let (store, srr) := checkAndClearCommitOnTransfer archive.store timestampMillis srrId srr
    { archive with store := store.saveSRR srrId srr }

variable (address : Address)

def handleRegistryEvent (emitted : Emitted Registry.Event) (archive : Archive) : Option Archive :=
  let time := emitted.eventUTCMillis
  let srrId := srrEntityId evm address
  match emitted.event with
  | .Transfer from_ to_ tokenId =>
      some (handleTransfer evm hexForm archive time (srrId tokenId) from_ to_ tokenId)
  | .Provenance tokenId from_ to_ customHistoryId historyMetadataHash historyMetadataURI
      isIntermediary =>
      some (handleSRRProvenanceInternal evm hexForm archive time (srrId tokenId) from_ to_
        customHistoryId (some historyMetadataHash) (some historyMetadataURI) isIntermediary none)
  | _ => (Subgraph.handleRegistryEvent evm address emitted archive.store).map fun store =>
      { archive with store := store }

def handleCollectionEvent (emitted : Emitted Collection.Event) (archive : Archive) :
    Option Archive :=
  let time := emitted.eventUTCMillis
  let srrId := srrEntityId evm address
  match emitted.event with
  | .Transfer from_ to_ tokenId =>
      some (handleTransfer evm hexForm archive time (srrId tokenId) from_ to_ tokenId)
  | .Provenance tokenId from_ to_ customHistoryId historyMetadataHash historyMetadataURI
      isIntermediary sender =>
      some (handleSRRProvenanceInternal evm hexForm archive time (srrId tokenId) from_ to_
        customHistoryId (some historyMetadataHash) (some historyMetadataURI) isIntermediary sender)
  | _ => (Subgraph.handleCollectionEvent evm address emitted archive.store).map fun store =>
      { archive with store := store }

/-- The archive after a log with times, whose latest event comes first. -/
def index {E : Type} (handle : Emitted E → Archive → Option Archive) (archive : Archive) :
    List (Nat × E) → Option Archive
  | [] => some archive
  | (timestamp, event) :: earlier =>
      (index handle archive earlier).bind (handle ⟨timestamp, event⟩)

end Archive

section Inputs

theorem fromUTF8_inj {left right : Text} (same : fromUTF8 left = fromUTF8 right) :
    left = right := by
  have bytes : left.utf8Encode = right.utf8Encode := congrArg List.toByteArray same
  have texts : String.ofList left = String.ofList right := by
    rw [← String.toByteArray_inj, String.toByteArray_ofList, String.toByteArray_ofList, bytes]
  exact String.ofList_injective texts

theorem decimalText_inj {left right : Nat} (same : decimalText left = decimalText right) :
    left = right := by
  have read := congrArg (Nat.ofDigitChars 10 · 0) same
  simp only [decimalText] at read
  rwa [Nat.ofDigitChars_toDigits (by decide) (by decide),
    Nat.ofDigitChars_toDigits (by decide) (by decide)] at read

theorem length_hexlify (bytes : Bytes) : (hexlify bytes).length = 2 + 2 * bytes.length := by
  have digits : (hexText bytes).length = 2 * bytes.length := by
    induction bytes with
    | nil => rfl
    | cons byte bytes ih =>
        change (hexText bytes).length + 1 + 1 = 2 * (bytes.length + 1)
        rw [ih]
        omega
  rw [hexlify, List.length_cons, List.length_cons, digits]
  omega

theorem provenanceInput_inj {srrId srrId' : Bytes32} {time time' : Nat}
    (same : provenanceInput srrId time = provenanceInput srrId' time') :
    srrId = srrId' ∧ time = time' := by
  have texts := fromUTF8_inj same
  have sizes : (hexlify (packWord srrId)).length = (hexlify (packWord srrId')).length := by
    rw [length_hexlify, length_hexlify, length_packWord, length_packWord]
  obtain ⟨ids, times⟩ := List.append_inj texts sizes
  have words := congrArg arrayify ids
  rw [arrayify_hexlify, arrayify_hexlify] at words
  exact ⟨(packWord_inj (by decide)).mp (Option.some.inj words), decimalText_inj times⟩

end Inputs

section Digests

/-- What is known of `Bytes.fromHexString(text).toHex()`: it writes bytes with `0x` and small
letters, and these are the bytes that the text spells if it is in hex. -/
def HexForm (hexForm : Bytes → Bytes) : Prop :=
  ∀ text, textLength text = 64 → ∃ bytes, hexForm text = fromUTF8 (hexlify bytes) ∧
    ∀ read, spelled text = some read → bytes = read

/-- A digest is this hash: the same text, or another spelling of the same bytes. -/
def SameHash (digest hash : Bytes) : Prop :=
  digest = hash ∨ ∃ bytes, spelled digest = some bytes ∧ spelled hash = some bytes

-- A hash that the subgraph takes for hex is in hex.
def Legible (hash : Bytes) : Prop := textLength hash = 64 → (spelled hash).isSome = true

instance (hash : Bytes) : Decidable (Legible hash) := inferInstanceAs (Decidable (_ → _))

variable {hexForm : Bytes → Bytes} {hash : Bytes}

theorem hexDigit_ascii : ∀ value : Fin 16,
    (fromUTF8 [hexDigit value]).map (fun byte => Char.ofNat byte.toNat) = [hexDigit value] := by
  decide

theorem spelled_hexlify (bytes : Bytes) : spelled (fromUTF8 (hexlify bytes)) = some bytes := by
  have digits : (fromUTF8 (hexText bytes)).map (fun byte => Char.ofNat byte.toNat) =
      hexText bytes := by
    induction bytes with
    | nil => rfl
    | cons byte bytes ih =>
        obtain ⟨highBound, lowBound, _⟩ := byte_halves byte
        have high := hexDigit_ascii ⟨_, highBound⟩
        have low := hexDigit_ascii ⟨_, lowBound⟩
        have split : fromUTF8 (hexText (byte :: bytes)) = fromUTF8 [hexDigit (byte.toNat / 16)] ++
            (fromUTF8 [hexDigit (byte.toNat % 16)] ++ fromUTF8 (hexText bytes)) := by
          simp [fromUTF8, hexText, hexByte]
        rw [split, List.map_append, List.map_append, ih, high, low]
        rfl
  have whole : (fromUTF8 (hexlify bytes)).map (fun byte => Char.ofNat byte.toNat) =
      hexlify bytes := congrArg (fun rest => '0' :: 'x' :: rest) digits
  simp only [spelled, whole, arrayify_hexlify]
  rfl

theorem metadataDigest_sameHash (forms : HexForm hexForm) (legible : Legible hash) :
    SameHash (metadataDigestOf hexForm (some hash)) hash := by
  by_cases long : textLength hash = 64
  · obtain ⟨read, known⟩ := Option.isSome_iff_exists.mp (legible long)
    obtain ⟨bytes, formed, same⟩ := forms hash long
    simp only [metadataDigestOf, if_pos long, formed, same read known]
    exact Or.inr ⟨read, spelled_hexlify read, known⟩
  · simp only [metadataDigestOf, if_neg long]
    exact Or.inl rfl

/-- Nothing that the subgraph writes is a hash that is taken for hex and is not. -/
theorem legible_of_sameHash (forms : HexForm hexForm) {told : Option Bytes}
    (same : SameHash (metadataDigestOf hexForm told) hash) : Legible hash := by
  intro long
  rcases same with rfl | ⟨bytes, _, known⟩
  · cases told with
    | none => cases long
    | some text =>
        unfold metadataDigestOf at long ⊢
        by_cases hex : textLength text = 64
        · obtain ⟨bytes, formed, _⟩ := forms text hex
          simp only [if_pos hex, formed, spelled_hexlify, Option.isSome_some]
        · simp only [if_neg hex] at long
          exact absurd long hex
  · rw [known]
    rfl

end Digests

end Startrail.Subgraph
