import Polyperps.Execution.Types

/-!
# Market data

The records of `exchange/types.py` that the bars, the stores and the live
history read. Every instant is aware and UTC, which is all the constructors
check.
-/

namespace Polyperps

structure Tick where
  instrumentId : InstrumentId
  markPrice : Decimal
  indexPrice : Decimal
  lastPrice : Decimal
  fundingRate : Decimal
  nextFunding : DateTime
  exchangeTs : DateTime
  receivedTs : DateTime
  sourceType : SourceType
  sequence : Option ℤ
deriving DecidableEq

structure BookLevel where
  price : Decimal
  quantity : Decimal
deriving DecidableEq

structure BookSnapshot where
  instrumentId : InstrumentId
  bids : List BookLevel
  asks : List BookLevel
  exchangeTs : DateTime
  receivedTs : DateTime
  sourceType : SourceType
  sequence : Option ℤ
deriving DecidableEq

structure Candle where
  instrumentId : InstrumentId
  interval : String
  openTs : DateTime
  openPrice : Decimal
  high : Decimal
  low : Decimal
  close : Decimal
  volume : Decimal
  trades : ℤ
  receivedTs : DateTime
  sourceType : SourceType
deriving DecidableEq

end Polyperps
