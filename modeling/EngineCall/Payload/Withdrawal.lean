import EngineCall.Bytes.Fixed
import EngineCall.Bytes.Quantity

/-!
# Withdrawals
-/

namespace EngineCall

open Json (Record)

/-- A withdrawal of a validator's balance to an account. -/
structure Withdrawal where
  index : UInt64
  validatorIndex : UInt64
  address : Address
  amount : UInt64
  deriving DecidableEq, Repr

namespace Withdrawal

def record : Record Withdrawal :=
  Withdrawal.mk
    <$> Record.required "index" Quantity.codec.decoder
    <*> Record.required "validatorIndex" Quantity.codec.decoder
    <*> Record.required "address" Address.codec.decoder
    <*> Record.required "amount" Quantity.codec.decoder

def codec : Json.Codec Withdrawal where
  decoder := record.openDecoder "Withdrawal"
  encode w := .ofMembers [
    ("index", Quantity.codec.encode w.index),
    ("validatorIndex", Quantity.codec.encode w.validatorIndex),
    ("address", Address.codec.encode w.address),
    ("amount", Quantity.codec.encode w.amount)]

end Withdrawal

end EngineCall
