/-
# BreezLiquid.Persist.Payments — the query of the payments, and what its rows are read as.

`select_payment_query` joins the wallet's transactions and their balances with the swaps, the details and the assets.
A swap without a wallet transaction has a row of its own, in which the columns of the transaction are NULL. The filters
of a request are conditions on the columns; `sql_row_to_payment` computes the payment.
-/
import BreezLiquid.Lib.Query
import BreezLiquid.Persist.Db

namespace BreezLiquid.Payments

open Tables Query

/-! ## Tables -/

/-- `PaymentType`. -/
inductive PaymentType where
  | receive
  | send
  deriving DecidableEq, Repr, Inhabited

/-- A chain swap to Bitcoin is a payment sent. -/
def PaymentType.ofDirection : Direction → PaymentType
  | .incoming => .receive
  | .outgoing => .send

/-- `PaymentTxBalance`, what a transaction brings or takes of one asset. -/
structure PaymentTxBalance where
  assetId : AssetId
  /-- In satoshis. -/
  amount : Nat
  paymentType : PaymentType
  deriving DecidableEq, Repr, Inhabited

/-- A row of `payment_balance`. -/
structure PaymentBalance extends PaymentTxBalance where
  txId : TxId
  deriving DecidableEq, Repr, Inhabited

/-- `AssetMetadata`. -/
structure AssetMetadata where
  assetId : AssetId
  name : String
  ticker : String
  precision : Nat := 8
  fiatId : Option String := none
  deriving DecidableEq, Repr, Inhabited

/-- `AssetMetadata::amount_from_sat`. -/
def AssetMetadata.amountFromSat (m : AssetMetadata) (amountSat : Nat) : ℚ := amountSat / 10 ^ m.precision

/-- The database with the two tables that only the listing of payments reads. -/
structure PaymentDb extends Db where
  paymentBalance : Table (fun b : PaymentBalance => (b.txId, b.assetId)) := ∅
  assetMetadata : Table AssetMetadata.assetId := ∅

/-! ## Payments -/

/-- `PaymentSwapType`. -/
inductive PaymentSwapType where
  | receive
  | send
  | chain
  deriving DecidableEq, Repr, Inhabited

/-- `PaymentSwapData`, what a payment tells of its swap. -/
structure PaymentSwapData where
  swapId : SwapId
  swapType : PaymentSwapType
  createdAt : Nat
  /-- For chain swaps, the timeout on the origin chain. -/
  expirationBlockheight : Nat
  /-- For chain swaps, the timeout on the destination chain. -/
  claimExpirationBlockheight : Option Nat := none
  preimage : Option String
  invoice : Option String := none
  bolt12Offer : Option String := none
  paymentHash : Option String := none
  destinationPubkey : Option String := none
  description : String
  payerNote : Option String := none
  payerAmountSat : Nat
  receiverAmountSat : Nat
  swapperFeesSat : Nat
  refundTxId : Option TxId := none
  refundTxAmountSat : Option Nat := none
  bitcoinAddress : Option Address := none
  status : PaymentState
  deriving DecidableEq, Repr, Inhabited

/-- `AssetInfo`: amounts in the unit of the asset. -/
structure AssetInfo where
  name : String
  ticker : String
  amount : ℚ
  fees : Option ℚ
  deriving DecidableEq, Repr, Inhabited

/-- `PaymentDetails::Lightning`. -/
structure LightningDetails where
  swapId : SwapId
  description : String
  liquidExpirationBlockheight : Nat
  preimage : Option String
  invoice : Option String
  bolt12Offer : Option String
  paymentHash : Option String
  destinationPubkey : Option String
  lnurlInfo : Option String
  bip353Address : Option String
  payerNote : Option String
  claimTxId : Option TxId
  refundTxId : Option TxId
  refundTxAmountSat : Option Nat
  deriving DecidableEq, Repr, Inhabited

/-- `PaymentDetails::Liquid`. -/
structure LiquidDetails where
  destination : String
  description : String
  assetId : AssetId
  assetInfo : Option AssetInfo
  lnurlInfo : Option String
  bip353Address : Option String
  payerNote : Option String
  deriving DecidableEq, Repr, Inhabited

/-- `PaymentDetails::Bitcoin`. -/
structure BitcoinDetails where
  swapId : SwapId
  bitcoinAddress : Address
  description : String
  autoAcceptedFees : Bool
  liquidExpirationBlockheight : Nat
  bitcoinExpirationBlockheight : Nat
  lockupTxId : Option TxId
  claimTxId : Option TxId
  refundTxId : Option TxId
  refundTxAmountSat : Option Nat
  deriving DecidableEq, Repr, Inhabited

/-- `PaymentDetails`, with all fields. -/
inductive PaymentDetails where
  | lightning (details : LightningDetails)
  | liquid (details : LiquidDetails)
  | bitcoin (details : BitcoinDetails)
  deriving DecidableEq, Repr, Inhabited

/-- `Payment`, with all fields. -/
structure Payment where
  destination : Option String
  txId : Option TxId
  unblindingData : Option String
  timestamp : Nat
  amountSat : Nat
  feesSat : Nat
  swapperFeesSat : Option Nat
  paymentType : PaymentType
  status : PaymentState
  details : PaymentDetails
  deriving DecidableEq, Repr, Inhabited

namespace Payment

/-- `Payment::from_pending_swap`: there is no transaction yet. -/
def fromPendingSwap (swap : PaymentSwapData) (paymentType : PaymentType) (details : PaymentDetails) : Payment where
  destination := swap.invoice
  txId := none
  unblindingData := none
  timestamp := swap.createdAt
  amountSat := match paymentType with
    | .receive => swap.receiverAmountSat
    | .send => swap.payerAmountSat
  feesSat := swap.payerAmountSat - swap.receiverAmountSat
  swapperFeesSat := some swap.swapperFeesSat
  paymentType
  status := swap.status
  details

/-- The amount and the fees of a payment with a transaction. -/
def txAmounts (tx : PaymentTxData) (balance : PaymentTxBalance) (swap : Option PaymentSwapData)
    (details : PaymentDetails) : Nat × Nat :=
  match swap with
  | some s =>
      match balance.paymentType with
      | .receive => (balance.amount, s.payerAmountSat - balance.amount)
      | .send => (s.receiverAmountSat, s.payerAmountSat - s.receiverAmountSat)
  | none =>
      let (amountSat, feesSat) := match balance.paymentType with
        | .receive => (balance.amount, 0)
        | .send => (balance.amount, tx.feesSat)
      match details with
      | .liquid { assetInfo := some assetInfo, .. } =>
          if assetInfo.ticker ≠ "BTC" then (0, assetInfo.fees.elim feesSat fun _ => 0) else (amountSat, feesSat)
      | _ => (amountSat, feesSat)

/-- The destination of a payment with a transaction. -/
def txDestination (swap : Option PaymentSwapData) (details : PaymentDetails) : Option String :=
  match swap with
  | some s =>
      match s.swapType with
      | .receive => s.invoice
      | .send => s.bolt12Offer.or s.invoice
      | .chain => s.bitcoinAddress
  | none =>
      match details with
      | .liquid d => some d.destination
      | _ => none

/-- `from_tx_data`, at the time `now`. -/
def fromTxData (now : Nat) (tx : PaymentTxData) (balance : PaymentTxBalance) (swap : Option PaymentSwapData)
    (details : PaymentDetails) : Payment where
  txId := some tx.txId
  unblindingData := tx.unblindingData
  destination := txDestination swap details
  timestamp := (tx.timestamp.or (swap.map PaymentSwapData.createdAt)).getD now
  amountSat := (txAmounts tx balance swap details).1
  feesSat := (txAmounts tx balance swap details).2
  swapperFeesSat := swap.map PaymentSwapData.swapperFeesSat
  paymentType := balance.paymentType
  status := match swap with
    | some swap => swap.status
    | none => if tx.isConfirmed then .complete else .pending
  details

end Payment

/-! ## Rows -/

/-- A row of the query: the columns of each of its tables, or NULL. -/
structure JoinedRow where
  ptx : Option PaymentTxData := none
  pb : Option PaymentBalance := none
  rs : Option ReceiveSwap := none
  cs : Option ChainSwap := none
  ss : Option SendSwap := none
  rb : Option PaymentBalance := none
  pd : Option PaymentTxDetails := none
  am : Option AssetMetadata := none
  deriving DecidableEq, Repr, Inhabited

namespace JoinedRow

variable (row : JoinedRow)

/-- The columns of a joined row that the clauses read. -/
def txId : Option TxId := row.ptx.map PaymentTxData.txId

def timestamp : Option Nat := row.ptx.bind PaymentTxData.timestamp

/-- `COALESCE(rs.id, ss.id, cs.id)`. -/
def swapId : Option SwapId :=
  (row.rs.map ReceiveSwap.id).or ((row.ss.map SendSwap.id).or (row.cs.map ChainSwap.id))

/-- `COALESCE(rs.state, ss.state, cs.state)`. -/
def swapState : Option PaymentState :=
  (row.rs.map ReceiveSwap.state).or ((row.ss.map SendSwap.state).or (row.cs.map ChainSwap.state))

/-- `COALESCE(rs.created_at, ss.created_at, cs.created_at)`. -/
def swapCreatedAt : Option Nat :=
  (row.rs.map ReceiveSwap.createdAt).or ((row.ss.map SendSwap.createdAt).or (row.cs.map ChainSwap.createdAt))

/-- The column that rows are ordered by; NULL comes before every time. -/
def orderKey : WithBot Nat := row.swapCreatedAt.or row.timestamp

/-- The column that is compared with a range of times. -/
def filterTime : Option Nat := row.timestamp.or (row.rs.map ReceiveSwap.createdAt)

end JoinedRow

/-! ## Requests -/

/-- `ListPaymentDetails`, the last of the filters. -/
inductive ListPaymentDetails where
  | liquid (assetId : Option AssetId) (destination : Option String)
  | bitcoin (address : Option Address)
  deriving DecidableEq, Repr, Inhabited

/-- `ListPaymentsRequest`, with all its filters. -/
structure ListPaymentsRequest where
  filters : Option (List PaymentType) := none
  states : Option (List PaymentState) := none
  /-- Epoch time, in seconds. -/
  fromTimestamp : Option Int := none
  toTimestamp : Option Int := none
  offset : Option Nat := none
  limit : Option Nat := none
  details : Option ListPaymentDetails := none
  sortAscending : Option Bool := none
  deriving DecidableEq, Repr, Inhabited

/-! ## The query -/

/-- A condition on a row. -/
abbrev Clause := JoinedRow → Truth

/-- The clauses of the two timestamps ... -/
def timestampClauses (req : ListPaymentsRequest) : List Clause :=
  (match req.fromTimestamp with
    | some t => [fun row => compare (fun (time : Nat) (t : Int) => t ≤ time) row.filterTime (some t)]
    | none => []) ++
  (match req.toTimestamp with
    | some t => [fun row => compare (fun (time : Nat) (t : Int) => time ≤ t) row.filterTime (some t)]
    | none => [])

/-- ... of the payment types ... -/
def typeClauses (req : ListPaymentsRequest) : List Clause :=
  match req.filters with
  | none | some [] => []
  | some filters => [fun row => isIn (row.pb.map (·.paymentType)) (filters.map some)]

/-- Whether a transaction without a swap is confirmed, for the states that a payment by it can have. -/
def txConfirmedParam (states : List PaymentState) : List Bool :=
  states.filterMap fun
    | .pending => some false
    | .complete => some true
    | _ => none

/-- ... of the states ... -/
def stateClauses (req : ListPaymentsRequest) : List Clause :=
  match req.states with
  | none | some [] => []
  | some states =>
      if (txConfirmedParam states).isEmpty then [fun row => isIn row.swapState (states.map some)]
      else
        [fun row => ((isNull row.swapId).and
          (isIn (row.ptx.map PaymentTxData.isConfirmed) ((txConfirmedParam states).map some))).or
          (isIn row.swapState (states.map some))]

/-- ... and of the details. -/
def detailsClauses (req : ListPaymentsRequest) : List Clause :=
  match req.details with
  | none => []
  | some (.bitcoin address) =>
      (fun row => isNotNull row.cs) ::
        (match address with
          | some address =>
              [fun row =>
                ((equals (row.cs.map ChainSwap.direction) (some .incoming)).and
                  (equals (row.cs.map ChainSwap.lockupAddress) (some address))).or
                ((equals (row.cs.map ChainSwap.direction) (some .outgoing)).and
                  (equals (row.cs.bind ChainSwap.claimAddress) (some address)))]
          | none => [])
  | some (.liquid assetId destination) =>
      (fun row => isNull row.swapId) ::
        ((match assetId with
          | some assetId => [fun row => equals (row.pb.map (·.assetId)) (some assetId)]
          | none => []) ++
        (match destination with
          | some destination => [fun row => equals (row.pd.map PaymentTxDetails.destination) (some destination)]
          | none => []))

/-- `filter_to_where_clause`: a row is listed if it meets all clauses. -/
def filterToWhereClause (req : ListPaymentsRequest) : List Clause :=
  timestampClauses req ++ typeClauses req ++ stateClauses req ++ detailsClauses req

/-- The conditions, joined by `and`; without any, `true`. -/
def joinClauses (clauses : List Clause) : Clause := fun row =>
  clauses.foldr (fun clause t => (clause row).and t) (some true)

/-- `receive_swaps WHERE …`: with a transaction id, and neither created, failed nor timed out. -/
def receiveSwapRows (db : PaymentDb) (includeAllStates : Bool) : List ReceiveSwap :=
  db.receiveSwaps.rows.filter fun rs =>
    Truth.holds (if includeAllStates then some true
      else (isNotNull (rs.claimTxId.or (rs.lockupTxId.or rs.mrhTxId))).and
        (isIn (some rs.state) [some .created, some .failed, some .timedOut]).not)

/-- `chain_swaps WHERE …`: with a transaction id, and neither created nor timed out. -/
def chainSwapRows (db : PaymentDb) (includeAllStates : Bool) : List ChainSwap :=
  db.chainSwaps.rows.filter fun cs =>
    Truth.holds (if includeAllStates then some true
      else (isNotNull (cs.userLockupTxId.or cs.claimTxId)).and
        (isIn (some cs.state) [some .created, some .timedOut]).not)

/-- `FROM`, with its joins. -/
def joinedRows (db : PaymentDb) (includeAllStates : Bool) : List JoinedRow :=
  let rows := db.paymentTxData.rows.map fun ptx => { ptx := some ptx }
  let rows := leftJoin (fun row (pb : PaymentBalance) => equals (some pb.txId) row.txId)
    (fun row pb => { row with pb := some pb }) db.paymentBalance.rows rows
  let rows := fullJoin (fun row (rs : ReceiveSwap) => isIn row.txId [rs.claimTxId, rs.mrhTxId])
    (fun row rs => { row with rs := some rs }) {} (receiveSwapRows db includeAllStates) rows
  let rows := fullJoin (fun row (cs : ChainSwap) => isIn row.txId [cs.userLockupTxId, cs.claimTxId])
    (fun row cs => { row with cs := some cs }) {} (chainSwapRows db includeAllStates) rows
  let rows := leftJoin (fun row (ss : SendSwap) => equals row.txId ss.lockupTxId)
    (fun row ss => { row with ss := some ss }) db.sendSwaps.rows rows
  let rows := leftJoin
    (fun row (rb : PaymentBalance) =>
      isIn (some rb.txId) [row.ss.bind SendSwap.refundTxId, row.cs.bind ChainSwap.refundTxId])
    (fun row rb => { row with rb := some rb }) db.paymentBalance.rows rows
  let rows := leftJoin (fun row (pd : PaymentTxDetails) => equals (some pd.txId) row.txId)
    (fun row pd => { row with pd := some pd }) db.paymentDetails.rows rows
  leftJoin (fun row (am : AssetMetadata) => equals (some am.assetId) (row.pb.map (·.assetId)))
    (fun row am => { row with am := some am }) db.assetMetadata.rows rows

/-- Refund transactions of send and chain swaps are filtered out. -/
def notRefund (db : PaymentDb) : Clause := fun row =>
  (isNull row.txId).or
    ((isIn row.txId ((db.sendSwaps.rows.filterMap SendSwap.refundTxId).map some)).not.and
      (isIn row.txId ((db.chainSwaps.rows.filterMap ChainSwap.refundTxId).map some)).not)

/-- The default `LIMIT`, `u32::MAX`. -/
def u32Max : Nat := 2 ^ 32 - 1

/-- `select_payment_query`; the rows that are left are the answer. -/
def SelectPaymentQuery (db : PaymentDb) (whereClause : Clause) (offset limit : Option Nat)
    (sortAscending includeAllStates : Option Bool) (answer : List JoinedRow) : Prop :=
  Answers (joinedRows db (includeAllStates.getD false))
    (fun row => ((notRefund db row).and (whereClause row)).holds) (sortAscending.getD false) JoinedRow.orderKey
    (offset.getD 0) (limit.getD u32Max) answer

/-- The rows that a request lists, when its window leaves none of them out. -/
def listedRows (db : PaymentDb) (req : ListPaymentsRequest) : List JoinedRow :=
  (joinedRows db false).filter fun row =>
    ((notRefund db row).and (joinClauses (filterToWhereClause req) row)).holds

/-- They are an answer if they are in order. -/
theorem selectPaymentQuery_listedRows {db : PaymentDb} {req : ListPaymentsRequest}
    (hsorted : (listedRows db req).Pairwise (Before false JoinedRow.orderKey))
    (hall : (listedRows db req).length ≤ u32Max) :
    SelectPaymentQuery db (joinClauses (filterToWhereClause req)) none none none none (listedRows db req) :=
  ⟨listedRows db req, ⟨.refl _, hsorted⟩, (window_all hall).symm⟩

/-! ## Reading a row -/

/-- Third-party functions: the asset id of L-BTC, the pairs of the swapper in JSON, and the description and the
destination of an invoice, if it has one. A pair is its service fee. -/
structure PaymentReader where
  lbtcAssetId : AssetId := "lbtc"
  reversePairFees : String → Option (Nat → Nat) := fun _ => none
  submarinePairFees : String → Option (Nat → Nat) := fun _ => none
  chainPairFees : String → Option (Nat → Nat) := fun _ => none
  getInvoiceDescription : String → Option String := fun _ => none
  getInvoiceDestinationPubkey : String → Bool → Option String := fun _ _ => none

/-- The service fee of the swapper, if its pair is known. -/
def boltzFees (fees : Option (Nat → Nat)) (amountSat : Nat) : Nat := fees.elim 0 fun fees => fees amountSat

section Read

variable (reader : PaymentReader)

/-- The swap data of a receive swap ... -/
def receiveSwapData (rs : ReceiveSwap) : PaymentSwapData where
  swapId := rs.id
  swapType := .receive
  createdAt := rs.createdAt
  expirationBlockheight := rs.timeoutBlockHeight
  preimage := some rs.preimage
  invoice := some rs.invoice
  bolt12Offer := rs.bolt12Offer
  paymentHash := rs.paymentHash
  destinationPubkey := rs.destinationPubkey
  description := rs.description.getD ((reader.getInvoiceDescription rs.invoice).getD "Lightning payment")
  payerNote := rs.payerNote
  payerAmountSat := rs.payerAmountSat
  receiverAmountSat := rs.receiverAmountSat
  swapperFeesSat := boltzFees (reader.reversePairFees rs.pairFeesJson) rs.payerAmountSat
  status := rs.state

/-- ... of a send swap ... -/
def sendSwapData (ss : SendSwap) (refundTxAmountSat : Option Nat) : PaymentSwapData where
  swapId := ss.id
  swapType := .send
  createdAt := ss.createdAt
  expirationBlockheight := ss.timeoutBlockHeight
  preimage := ss.preimage
  invoice := some ss.invoice
  bolt12Offer := ss.bolt12Offer
  paymentHash := ss.paymentHash
  destinationPubkey := ss.destinationPubkey
  description := ss.description.getD "Lightning payment"
  payerAmountSat := ss.payerAmountSat
  receiverAmountSat := ss.receiverAmountSat
  swapperFeesSat := boltzFees (reader.submarinePairFees ss.pairFeesJson) ss.receiverAmountSat
  refundTxId := ss.refundTxId
  refundTxAmountSat
  status := ss.state

/-- The amounts of the payer and the receiver; an amountless swap has the actual payer amount for both. -/
def chainSwapAmounts (cs : ChainSwap) : Nat × Nat :=
  let (payerAmountSat, receiverAmountSat) := match cs.actualPayerAmountSat, cs.payerAmountSat with
    | some actualPayerAmountSat, 0 => (actualPayerAmountSat, actualPayerAmountSat)
    | _, _ => (cs.payerAmountSat, cs.receiverAmountSat)
  (payerAmountSat, cs.acceptedReceiverAmountSat.getD receiverAmountSat)

/-- The Bitcoin side of a chain swap. -/
def chainBitcoinAddress (cs : ChainSwap) : Option Address :=
  match cs.direction with
  | .incoming => some cs.lockupAddress
  | .outgoing => cs.claimAddress

/-- ... and of a chain swap. -/
def chainSwapData (cs : ChainSwap) (refundTxAmountSat : Option Nat) : PaymentSwapData where
  swapId := cs.id
  swapType := .chain
  createdAt := cs.createdAt
  expirationBlockheight := cs.timeoutBlockHeight
  claimExpirationBlockheight := some cs.claimTimeoutBlockHeight
  preimage := some cs.preimage
  description := cs.description.getD "Bitcoin transfer"
  payerAmountSat := (chainSwapAmounts cs).1
  receiverAmountSat := (chainSwapAmounts cs).2
  swapperFeesSat := boltzFees (reader.chainPairFees cs.pairFeesJson) (chainSwapAmounts cs).1
  refundTxId := cs.refundTxId
  refundTxAmountSat
  bitcoinAddress := chainBitcoinAddress cs
  status := cs.state

/-- The swap of a row and the type of a payment by it: a receive swap, else a send swap, else a chain swap. -/
def swapAndType (row : JoinedRow) : Option PaymentSwapData × PaymentType :=
  match row.rs, row.ss, row.cs with
  | some rs, _, _ => (some (receiveSwapData reader rs), .receive)
  | none, some ss, _ => (some (sendSwapData reader ss (row.rb.map (·.amount))), .send)
  | none, none, some cs =>
      (some (chainSwapData reader cs (row.rb.map (·.amount))), .ofDirection cs.direction)
  | none, none, none => (none, .send)

/-- The claim of the row's swap. A send swap has none, the swapper claims it. -/
def claimTxId (row : JoinedRow) : Option TxId :=
  (row.rs.bind ReceiveSwap.claimTxId).or (row.cs.bind ChainSwap.claimTxId)

/-- The details of a payment over Lightning ... -/
def lightningDetails (row : JoinedRow) (swap : PaymentSwapData) : LightningDetails where
  swapId := swap.swapId
  preimage := swap.preimage
  invoice := swap.invoice
  bolt12Offer := swap.bolt12Offer
  paymentHash := swap.paymentHash
  destinationPubkey := swap.destinationPubkey.or
    (swap.invoice.bind fun invoice => reader.getInvoiceDestinationPubkey invoice swap.bolt12Offer.isSome)
  lnurlInfo := row.pd.bind PaymentTxDetails.lnurlInfo
  bip353Address := row.pd.bind PaymentTxDetails.bip353Address
  payerNote := swap.payerNote.or (row.pd.bind PaymentTxDetails.payerNote)
  claimTxId := claimTxId row
  refundTxId := swap.refundTxId
  refundTxAmountSat := swap.refundTxAmountSat
  description := (row.pd.bind PaymentTxDetails.description).getD swap.description
  liquidExpirationBlockheight := swap.expirationBlockheight

/-- ... to or from Bitcoin ... -/
def bitcoinDetails (row : JoinedRow) (swap : PaymentSwapData) : BitcoinDetails :=
  let claimExpirationBlockheight := swap.claimExpirationBlockheight.getD 0
  let (bitcoinExpirationBlockheight, liquidExpirationBlockheight) := match row.cs.map ChainSwap.direction with
    | some .incoming => (swap.expirationBlockheight, claimExpirationBlockheight)
    | some .outgoing | none => (claimExpirationBlockheight, swap.expirationBlockheight)
  { swapId := swap.swapId
    bitcoinAddress := (row.cs.bind chainBitcoinAddress).getD ""
    lockupTxId := row.cs.bind ChainSwap.userLockupTxId
    claimTxId := claimTxId row
    refundTxId := swap.refundTxId
    refundTxAmountSat := swap.refundTxAmountSat
    description := swap.description
    liquidExpirationBlockheight
    bitcoinExpirationBlockheight
    autoAcceptedFees := (row.cs.map ChainSwap.autoAcceptedFees).getD false }

/-- The asset of a direct payment, if it is a registered one. -/
def assetInfo (row : JoinedRow) (amount : Nat) : Option AssetInfo :=
  row.am.map fun m =>
    match row.pd.bind PaymentTxDetails.assetFees with
    | some fees =>
        { name := m.name, ticker := m.ticker, amount := m.amountFromSat (amount - fees),
          fees := some (m.amountFromSat fees) }
    | none => { name := m.name, ticker := m.ticker, amount := m.amountFromSat amount, fees := none }

/-- ... and on Liquid, which is what a row without a swap is. -/
def liquidDetails (row : JoinedRow) : LiquidDetails :=
  let amount := match row.ptx, row.pb with
    | some _, some pb => pb.amount
    | _, _ => 0
  let assetId := match row.ptx, row.pb with
    | some _, some pb => pb.assetId
    | _, _ => reader.lbtcAssetId
  { destination := (row.pd.map PaymentTxDetails.destination).getD "Destination unknown"
    description := (row.pd.bind PaymentTxDetails.description).getD "Liquid transfer"
    assetId
    assetInfo := assetInfo row amount
    lnurlInfo := row.pd.bind PaymentTxDetails.lnurlInfo
    bip353Address := row.pd.bind PaymentTxDetails.bip353Address
    payerNote := row.pd.bind PaymentTxDetails.payerNote }

/-- The details of a row, by the kind of its swap. -/
def paymentDetails (row : JoinedRow) : Option PaymentSwapData → PaymentDetails
  | some swap =>
      match swap.swapType with
      | .receive | .send => .lightning (lightningDetails reader row swap)
      | .chain => .bitcoin (bitcoinDetails row swap)
  | none => .liquid (liquidDetails reader row)

/-- `sql_row_to_payment`, at the time `now`: a transaction without a balance cannot be read. -/
def sqlRowToPayment (now : Nat) (row : JoinedRow) : Option Payment :=
  let (swap, paymentType) := swapAndType reader row
  let details := paymentDetails reader row swap
  match row.ptx, row.pb, swap with
  | some tx, some pb, swap => some (.fromTxData now tx pb.toPaymentTxBalance swap details)
  | some _, none, _ => none
  | none, _, some swap => some (.fromPendingSwap swap paymentType details)
  | none, _, none => none

/-- `get_payments` at the time `now`: an answer of the query, read; a row that cannot be read is a panic. -/
def GetPayments (now : Nat) (db : PaymentDb) (req : ListPaymentsRequest) (payments : Option (List Payment)) : Prop :=
  ∃ rows, SelectPaymentQuery db (joinClauses (filterToWhereClause req)) req.offset req.limit req.sortAscending none
    rows ∧ payments = rows.mapM (sqlRowToPayment reader now)

end Read

end BreezLiquid.Payments
