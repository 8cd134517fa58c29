import KaspaApp.Library.Memory

/-! The data types and constants of the application: `constants.h`, `types.h`,
`transaction/types.h`, `sw.h` and the per-target limits of the Makefile.
-/

namespace KaspaApp

/-- A C array of `count` bytes. -/
abbrev Bytes (count : Nat) := Vector UInt8 count

/-- The array after `memset(array, 0, sizeof(array))`. -/
abbrev Bytes.zero (count : Nat) : Bytes count := Vector.replicate count 0

-----------------------------------------------------------------------------------------
-- Build targets
-----------------------------------------------------------------------------------------

/-- The cases of `TARGET_NAME` that the Makefile tells apart. -/
inductive Target where
  | nanos
  | stax
  | other
deriving DecidableEq

/-- `MAX_INPUT_COUNT`. -/
def Target.maxInputCount : Target → Nat
  | .nanos => 15
  | .stax => 128
  | .other => 128

/-- `MAX_MESSAGE_LEN`. -/
def Target.maxMessageLen : Target → Nat
  | .nanos => 120
  | .stax => 200
  | .other => 200

/-- The UI library an application is built with (`HAVE_BAGL` or `HAVE_NBGL`). -/
inductive FrontEnd where
  | bagl
  | nbgl
deriving DecidableEq

theorem Target.maxInputCount_le (target : Target) : target.maxInputCount ≤ 128 := by
  cases target <;> decide

-----------------------------------------------------------------------------------------
-- Constants
-----------------------------------------------------------------------------------------

abbrev maxOutputCount : Nat := 2
abbrev scriptPublicKeyBufferLen : Nat := 40
abbrev kaspaMaxBip32PathLen : Nat := 5
abbrev maxDerSigLen : Nat := 64

theorem zero_lt_bufferLen : 0 < scriptPublicKeyBufferLen := by decide

theorem one_lt_bufferLen : 1 < scriptPublicKeyBufferLen := by decide

def exponentSmallestUnit : UInt8 := 8
abbrev schnorrAddressLen : Nat := 67
abbrev ecdsaAddressLen : Nat := 69

/-- `SIGNING_KEY`, without its terminating zero: `"TransactionSigningHash"`. -/
def signingKey : List UInt8 :=
  [0x54, 0x72, 0x61, 0x6e, 0x73, 0x61, 0x63, 0x74, 0x69, 0x6f, 0x6e,
    0x53, 0x69, 0x67, 0x6e, 0x69, 0x6e, 0x67, 0x48, 0x61, 0x73, 0x68]

/-- `MESSAGE_SIGNING_KEY`, without its terminating zero: `"PersonalMessageSigningHash"`. -/
def messageSigningKey : List UInt8 :=
  [0x50, 0x65, 0x72, 0x73, 0x6f, 0x6e, 0x61, 0x6c, 0x4d, 0x65, 0x73, 0x73, 0x61,
    0x67, 0x65, 0x53, 0x69, 0x67, 0x6e, 0x69, 0x6e, 0x67, 0x48, 0x61, 0x73, 0x68]

/-- `44'` and `111111'`, the fixed start of every signing path. -/
def purpose : UInt32 := 0x8000002C
def coinType : UInt32 := 0x8001b207

def swOk : UInt16 := 0x9000
def swDeny : UInt16 := 0x6985
def swWrongP1p2 : UInt16 := 0x6A86
def swWrongDataLength : UInt16 := 0x6A87
def swInsNotSupported : UInt16 := 0x6D00
def swClaNotSupported : UInt16 := 0x6E00
def swDisplayBip32PathFail : UInt16 := 0xB001
def swDisplayAddressFail : UInt16 := 0xB002
def swDisplayAmountFail : UInt16 := 0xB003
def swTxParsingFail : UInt16 := 0xB005
def swBadState : UInt16 := 0xB007
def swWrongBip32Purpose : UInt16 := 0xB009
def swWrongBip32CoinType : UInt16 := 0xB00A
def swWrongBip32PathLen : UInt16 := 0xB00B
def swMessageParsingFail : UInt16 := 0xB010
def swMessageTooLong : UInt16 := 0xB011
def swMessageTooShort : UInt16 := 0xB012
def swMessageAddressTypeFail : UInt16 := 0xB013
def swMessageLenParsingFail : UInt16 := 0xB015
def swMessageUnexpected : UInt16 := 0xB016

/-- `op_code_e`. -/
def opCheckSig : UInt8 := 0xac
def opCheckSigEcdsa : UInt8 := 0xab
def opBlake2b : UInt8 := 0xaa
def opEqual : UInt8 := 0x87

/-- `parser_status_e`. -/
inductive ParserStatus where
  | parsingOk
  | versionParsingError
  | outputsLengthParsingError
  | inputsLengthParsingError
  | headerParsingError
  | inputParsingError
  | inputValueParsingError
  | inputTxIdParsingError
  | inputAddressTypeParsingError
  | inputAddressIndexParsingError
  | inputIndexParsingError
  | outputParsingError
  | outputValueParsingError
  | outputScriptPubkeyParsingError
deriving DecidableEq

/-- The integer value that `types.h` gives each status. -/
def ParserStatus.toInt : ParserStatus → Int
  | .parsingOk => 1
  | .versionParsingError => -1
  | .outputsLengthParsingError => -2
  | .inputsLengthParsingError => -3
  | .headerParsingError => -4
  | .inputParsingError => -20
  | .inputValueParsingError => -21
  | .inputTxIdParsingError => -22
  | .inputAddressTypeParsingError => -23
  | .inputAddressIndexParsingError => -24
  | .inputIndexParsingError => -25
  | .outputParsingError => -30
  | .outputValueParsingError => -31
  | .outputScriptPubkeyParsingError => -32

/-- A status is negative exactly when it is not `PARSING_OK`. -/
theorem ParserStatus.toInt_neg_iff (status : ParserStatus)
    : status.toInt < 0 ↔ status ≠ .parsingOk := by
  cases status <;> decide

-----------------------------------------------------------------------------------------
-- Transactions
-----------------------------------------------------------------------------------------

/-- `transaction_input_t`. -/
structure TransactionInput where
  addressType : UInt8
  addressIndex : UInt32
  sequence : UInt64
  value : UInt64
  txId : Bytes 32
  index : UInt8
deriving DecidableEq

/-- `transaction_output_t`. -/
structure TransactionOutput where
  value : UInt64
  scriptPublicKey : Bytes scriptPublicKeyBufferLen
deriving DecidableEq

def TransactionInput.zero : TransactionInput :=
  {
    addressType := 0
    addressIndex := 0
    sequence := 0
    value := 0
    txId := Bytes.zero 32
    index := 0
  }

def TransactionOutput.zero : TransactionOutput :=
  { value := 0, scriptPublicKey := Bytes.zero scriptPublicKeyBufferLen }

/-- `transaction_t`; the arrays have their full length whatever the declared counts are. -/
structure Transaction (target : Target) where
  version : UInt16
  account : UInt32
  txInputLen : UInt32
  txOutputLen : UInt32
  txOutputs : Vector TransactionOutput maxOutputCount
  txInputs : Vector TransactionInput target.maxInputCount
deriving DecidableEq

def Transaction.zero (target : Target) : Transaction target :=
  {
    version := 0
    account := 0
    txInputLen := 0
    txOutputLen := 0
    txOutputs := Vector.replicate maxOutputCount .zero
    txInputs := Vector.replicate target.maxInputCount .zero
  }

/-- The memory that reads past the end of the two arrays or of a script slot return. -/
structure Stray where
  inputs : Nat → TransactionInput
  outputs : Nat → TransactionOutput
  script : Nat → UInt8

/-- `tx->tx_inputs[index]`. -/
def Transaction.input {target : Target} (tx : Transaction target) (stray : Stray)
    (index : Nat)
    : TransactionInput :=
  Memory.read tx.txInputs stray.inputs index

/-- `tx->tx_outputs[index]`. -/
def Transaction.output {target : Target} (tx : Transaction target) (stray : Stray)
    (index : Nat)
    : TransactionOutput :=
  Memory.read tx.txOutputs stray.outputs index

-----------------------------------------------------------------------------------------
-- The global context
-----------------------------------------------------------------------------------------

/-- `state_e`. -/
inductive State where
  | stateNone
  | stateParsed
  | stateApproved
deriving DecidableEq

/-- `request_type_e`; a cleared context has the first value. -/
inductive RequestType where
  | confirmAddress
  | confirmTransaction
  | confirmMessage
deriving DecidableEq

/-- `address_type_e`. -/
inductive AddressType where
  | schnorr
  | ecdsa
  | p2sh
deriving DecidableEq

/-- `pubkey_ctx_t`. -/
structure PubkeyCtx where
  rawPublicKey : Bytes 64
  chainCode : Bytes 32

/-- `transaction_ctx_t`. -/
structure TransactionCtx (target : Target) where
  transaction : Transaction target
  signature : Bytes maxDerSigLen
  signingInputIndex : UInt8
  sighash : Bytes 32
  parsingInputIndex : UInt8
  parsingOutputIndex : UInt8

/-- `message_sign_ctx_t`. -/
structure MessageSignCtx where
  messageLen : Nat
  message : Bytes 128
  messageHash : Bytes 32
  signature : Bytes maxDerSigLen
  account : UInt32
  addressType : UInt8
  addressIndex : UInt32

def PubkeyCtx.zero : PubkeyCtx :=
  { rawPublicKey := Bytes.zero 64, chainCode := Bytes.zero 32 }

def TransactionCtx.zero (target : Target) : TransactionCtx target :=
  {
    transaction := .zero target
    signature := Bytes.zero maxDerSigLen
    signingInputIndex := 0
    sighash := Bytes.zero 32
    parsingInputIndex := 0
    parsingOutputIndex := 0
  }

def MessageSignCtx.zero : MessageSignCtx :=
  {
    messageLen := 0
    message := Bytes.zero 128
    messageHash := Bytes.zero 32
    signature := Bytes.zero maxDerSigLen
    account := 0
    addressType := 0
    addressIndex := 0
  }

/-- `global_ctx_t`. The three members of its union are three fields: every command that
fills one of them clears the whole context first, so at most one differs from zero.
-/
structure GlobalCtx (target : Target) where
  state : State
  pkInfo : PubkeyCtx
  txInfo : TransactionCtx target
  msgInfo : MessageSignCtx
  reqType : RequestType
  bip32Path : Vector UInt32 kaspaMaxBip32PathLen
  bip32PathLen : UInt8

/-- `explicit_bzero(&G_context, sizeof(G_context))`. -/
def GlobalCtx.zero (target : Target) : GlobalCtx target :=
  {
    state := .stateNone
    pkInfo := .zero
    txInfo := .zero target
    msgInfo := .zero
    reqType := .confirmAddress
    bip32Path := Vector.replicate kaspaMaxBip32PathLen 0
    bip32PathLen := 0
  }

/-- The context a handler starts a session with: cleared, with the request type set. -/
def GlobalCtx.cleared (target : Target) (request : RequestType) : GlobalCtx target :=
  { GlobalCtx.zero target with reqType := request, state := .stateNone }

def GlobalCtx.withPkInfo {target : Target} (ctx : GlobalCtx target) (info : PubkeyCtx)
    : GlobalCtx target :=
  { ctx with pkInfo := info }

def GlobalCtx.withMsgInfo {target : Target} (ctx : GlobalCtx target) (info : MessageSignCtx)
    : GlobalCtx target :=
  { ctx with msgInfo := info }

/-- The context with a full path of five elements. -/
def GlobalCtx.withPath {target : Target} (ctx : GlobalCtx target)
    (bip32Path : Vector UInt32 kaspaMaxBip32PathLen)
    : GlobalCtx target :=
  { ctx with bip32Path := bip32Path, bip32PathLen := 5 }

/-- `bip32_path[3]` and `bip32_path[4]`. -/
abbrev GlobalCtx.changeType {target : Target} (ctx : GlobalCtx target) : UInt32 := ctx.bip32Path[3]

abbrev GlobalCtx.changeIndex {target : Target} (ctx : GlobalCtx target) : UInt32 :=
  ctx.bip32Path[4]

/-- The elements of a path of the wallet, `m/44'/111111'/account/type/index`. -/
abbrev walletPath (account addressType index : UInt32) : Vector UInt32 kaspaMaxBip32PathLen :=
  #v[purpose, coinType, account, addressType, index]

/-- The path handed to the SDK: the first `bip32_path_len` elements of `bip32_path`. -/
def GlobalCtx.path {target : Target} (ctx : GlobalCtx target) : List UInt32 :=
  ctx.bip32Path.toList.take ctx.bip32PathLen.toNat

@[simp] theorem GlobalCtx.path_withPath {target : Target} (ctx : GlobalCtx target)
    (bip32Path : Vector UInt32 kaspaMaxBip32PathLen)
    : (ctx.withPath bip32Path).path = bip32Path.toList := by
  change bip32Path.toList.take 5 = bip32Path.toList
  exact List.take_of_length_le (by simp)

end KaspaApp
