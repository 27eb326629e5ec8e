import EngineCall.Payload.Withdrawal

/-!
# Payload attributes

What a payload under construction is to contain, in the shape of each wire version.
-/

namespace EngineCall

open Json (Record Value)

/-- The Bellatrix attributes, whose fields all later ones have. -/
structure AttributesV1 where
  timestamp : UInt64
  prevRandao : Hash
  suggestedFeeRecipient : Address
  deriving DecidableEq, Repr

/-- The Capella attributes. -/
structure AttributesV2 extends AttributesV1 where
  withdrawals : List Withdrawal
  deriving DecidableEq, Repr

/-- The Deneb attributes. -/
structure AttributesV3 extends AttributesV2 where
  parentBeaconBlockRoot : Hash
  deriving DecidableEq, Repr

/-- Attributes of any version. -/
inductive PayloadAttributes where
  | v1 (a : AttributesV1)
  | v2 (a : AttributesV2)
  | v3 (a : AttributesV3)
  deriving DecidableEq, Repr

namespace AttributesV1

def record : Record AttributesV1 :=
  AttributesV1.mk
    <$> Record.required "timestamp" Quantity.codec.decoder
    <*> Record.required "prevRandao" Hash.codec.decoder
    <*> Record.required "suggestedFeeRecipient" Address.codec.decoder

/-- The members of Bellatrix attributes. -/
def members (a : AttributesV1) : List (String × Value) := [
  ("timestamp", Quantity.codec.encode a.timestamp),
  ("prevRandao", Hash.codec.encode a.prevRandao),
  ("suggestedFeeRecipient", Address.codec.encode a.suggestedFeeRecipient)]

def codec : Json.Codec AttributesV1 where
  decoder := record.closedDecoder "PayloadAttributesV1"
  encode a := .ofMembers a.members

end AttributesV1

namespace AttributesV2

def record : Record AttributesV2 :=
  AttributesV2.mk
    <$> AttributesV1.record
    <*> Record.required "withdrawals" (Json.Decoder.list Withdrawal.codec.decoder)

/-- The members of Capella attributes. -/
def members (a : AttributesV2) : List (String × Value) :=
  a.toAttributesV1.members ++
    [("withdrawals", (Json.Codec.list Withdrawal.codec).encode a.withdrawals)]

def codec : Json.Codec AttributesV2 where
  decoder := record.closedDecoder "PayloadAttributesV2"
  encode a := .ofMembers a.members

end AttributesV2

namespace AttributesV3

def record : Record AttributesV3 :=
  AttributesV3.mk
    <$> AttributesV2.record
    <*> Record.required "parentBeaconBlockRoot" Hash.codec.decoder

/-- The members of Deneb attributes. -/
def members (a : AttributesV3) : List (String × Value) :=
  a.toAttributesV2.members ++
    [("parentBeaconBlockRoot", Hash.codec.encode a.parentBeaconBlockRoot)]

def codec : Json.Codec AttributesV3 where
  decoder := record.closedDecoder "PayloadAttributesV3"
  encode a := .ofMembers a.members

end AttributesV3

namespace PayloadAttributes

/-- The fields that every version has. -/
def common : PayloadAttributes → AttributesV1
  | .v1 a => a
  | .v2 a => a.toAttributesV1
  | .v3 a => a.toAttributesV1

/-- The attributes as Bellatrix ones, if they are. -/
def asV1? : PayloadAttributes → Option AttributesV1
  | .v1 a => some a
  | _ => none

/-- The attributes as Capella ones, if they are. -/
def asV2? : PayloadAttributes → Option AttributesV2
  | .v2 a => some a
  | _ => none

/-- The attributes as Deneb ones, if they are. -/
def asV3? : PayloadAttributes → Option AttributesV3
  | .v3 a => some a
  | _ => none

/-- The withdrawals, which attributes have from Capella on. -/
def withdrawals? : PayloadAttributes → Option (List Withdrawal)
  | .v1 _ => none
  | .v2 a => some a.withdrawals
  | .v3 a => some a.withdrawals

/-- The parent beacon block root, which attributes have from Deneb on. -/
def parentBeaconBlockRoot? (a : PayloadAttributes) : Option Hash :=
  a.asV3?.map (·.parentBeaconBlockRoot)

def codec : Json.Codec PayloadAttributes where
  decoder := Json.Decoder.firstOf "PayloadAttributes" [
    fun o n => (AttributesV1.codec.decoder o n).map .v1,
    fun o n => (AttributesV2.codec.decoder o n).map .v2,
    fun o n => (AttributesV3.codec.decoder o n).map .v3]
  encode
    | .v1 a => AttributesV1.codec.encode a
    | .v2 a => AttributesV2.codec.encode a
    | .v3 a => AttributesV3.codec.encode a

end PayloadAttributes

end EngineCall
