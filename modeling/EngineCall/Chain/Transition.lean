import EngineCall.Bytes.Fixed
import EngineCall.Bytes.Quantity

/-!
# The transition configuration

The block at which a network changed its consensus, on which both clients have to agree.
-/

namespace EngineCall

open Json (Record Value)

/-- The terminal block of the old consensus. -/
structure TransitionConfiguration where
  terminalTotalDifficulty : Uint256
  terminalBlockHash : Hash
  terminalBlockNumber : UInt64
  deriving DecidableEq, Repr

namespace TransitionConfiguration

def record : Record TransitionConfiguration :=
  TransitionConfiguration.mk
    <$> Record.required "terminalTotalDifficulty" Uint256.codec.decoder
    <*> Record.required "terminalBlockHash" Hash.codec.decoder
    <*> Record.required "terminalBlockNumber" Quantity.codec.decoder

def codec : Json.Codec TransitionConfiguration where
  decoder := record.openDecoder "TransitionConfigurationV1"
  encode c := .ofMembers [
    ("terminalTotalDifficulty", Uint256.codec.encode c.terminalTotalDifficulty),
    ("terminalBlockHash", Hash.codec.encode c.terminalBlockHash),
    ("terminalBlockNumber", Quantity.codec.encode c.terminalBlockNumber)]

end TransitionConfiguration

end EngineCall
