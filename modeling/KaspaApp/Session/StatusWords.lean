import KaspaApp.Hashing.Preimages
import KaspaApp.Keys.PathBuffers
import KaspaApp.Session.SigningFailures
import KaspaApp.Wire.Outputs

/-! The status words that the commands are answered with. An output payload that its parser rejects
is answered with the parser's own status, where header and input payloads are answered with
`SW_TX_PARSING_FAIL`.
-/

namespace KaspaApp

open Histories

variable {target : Target} {frontEnd : FrontEnd} {env : Env} {cmd : Command}
  {ctx : GlobalCtx target}

/-- The status words that `COMMANDS.md` lists. -/
def documentedStatusWords : List UInt16 :=
  [0x6985, 0x6A86, 0x6A87, 0x6D00, 0x6E00, 0xB000, 0xB001, 0xB002, 0xB003, 0xB004, 0xB005, 0xB006,
    0xB007, 0xB008, 0xB009, 0xB00A, 0xB00B, 0xB010, 0xB011, 0xB012, 0xB013, 0xB014, 0xB015, 0xB016,
    0x9000]

/-- The status word of a response. The helpers send their data with `SW_OK`. -/
def Reply.statusWord : Reply → UInt16
  | .sw code => code
  | .version | .appName | .pubkey _ _ | .sig _ _ _ _ | .personalMessageSig _ _ => swOk

/-- Every response carries a documented status word. -/
def Documented (effects : List Effect) : Prop :=
  ∀ reply, Effect.reply reply ∈ effects → reply.statusWord ∈ documentedStatusWords

/-- The key derivation that a `GET_PUBLIC_KEY` command makes succeeds. -/
def PublicKeyCallSucceeds (target : Target) (env : Env) (cdata : Buffer) : Prop :=
  ReachesDerivation target env cdata
  → (env.bip32DeriveGetPubkey256 (pathContext target env cdata).path).1 = cxOk

/-- The calls of `crypto_sign_transaction` succeed. -/
structure SigningCallsSucceed (env : Env) (ctx : GlobalCtx target) : Prop where
  derived : (transactionKey env ctx).1 = cxOk
  paired : (transactionKeyPair env ctx).1 = cxOk
  signed : ∀ sighash ∈ transactionHash env ctx, (transactionSignature env ctx sighash).1 = cxOk

/-- No SDK crypto call that the command makes fails. -/
structure CryptoCallsSucceed (env : Env) (cmd : Command) (ctx : GlobalCtx target) : Prop where
  publicKey
    : ∀ display,
        cmd.request = .getPublicKey display
        → PublicKeyCallSucceeds target env (cmd.buffer env)
  signature : cmd.request = .nextSignature → SigningAdmitted ctx → SigningCallsSucceed env ctx

/-- The parser that the command's payload reaches rejects it. -/
inductive RejectsPayload (env : Env) (cmd : Command) (ctx : GlobalCtx target) : Prop
  | header (request : cmd.request = .header)
    (failed : (parsedHeader target (cmd.buffer env)).1 ≠ .parsingOk)
  | output (request : cmd.request = .output) (admitted : OutputAdmitted ctx)
    (failed : (parsedOutput env (cmd.buffer env) ctx).1 ≠ .parsingOk)
  | input {more : Bool} (request : cmd.request = .input more) (admitted : InputAdmitted ctx)
    (failed : (parsedInput env (cmd.buffer env) ctx).1 ≠ .parsingOk)

/-- The command is answered as documented: a rejected payload with `SW_TX_PARSING_FAIL`. -/
structure AnsweredAsDocumented (frontEnd : FrontEnd) (env : Env) (cmd : Command)
    (ctx : GlobalCtx target)
    : Prop where
  documented : Documented (apduDispatcher frontEnd env cmd ctx).2
  rejected
    : RejectsPayload env cmd ctx
      → (apduDispatcher frontEnd env cmd ctx).2 = ioSendSw swTxParsingFail

/-- An output command that its counters admit has a payload that is no value and script. -/
structure SendsMalformedOutput (cmd : Command) (ctx : GlobalCtx target) : Prop where
  request : cmd.request = .output
  admitted : OutputAdmitted ctx
  malformed : ¬ ∃ payload : OutputPayload, cmd.data = payload.serialize

theorem documented_sw {code : UInt16} (listed : code ∈ documentedStatusWords)
    : Documented (ioSendSw code) := by
  intro reply member
  obtain rfl : reply = .sw code := by simpa [ioSendSw] using member
  exact listed

theorem documented_reply {reply : Reply} (ok : reply.statusWord = swOk)
    : Documented [.reply reply] := by
  intro other member
  obtain rfl : other = reply := by simpa using member
  rw [ok]
  decide

theorem documented_review (review : Review) : Documented [.review review] := by
  intro reply member
  simp at member

/-- A check whose refusal is documented leaves the rest of the handler to look at. -/
theorem documented_check {check : Prop} [Decidable check] {code : UInt16}
    {refused : GlobalCtx target} {passed : GlobalCtx target × List Effect}
    (listed : code ∈ documentedStatusWords) (pass : ¬ check → Documented passed.2)
    : Documented (if check then (refused, ioSendSw code) else passed).2 := by
  by_cases checked : check
  · rw [if_pos checked]
    exact documented_sw listed
  · rw [if_neg checked]
    exact pass checked

/-- The dispatcher refuses with documented status words. -/
theorem Command.refused_documented {code : UInt16} (refused : cmd.request = .refused code)
    : code ∈ documentedStatusWords := by
  let Listed (request : Request) : Prop :=
    request = .refused code → code ∈ documentedStatusWords
  have refuses {other : UInt16} (known : other ∈ documentedStatusWords)
      : Listed (.refused other) :=
    fun same => Request.refused.inj same ▸ known
  have signTx : Listed cmd.signTxRequest := by
    unfold Command.signTxRequest
    refine iteInduction (fun _ => refuses (by decide)) fun _ => ?_
    refine iteInduction (fun _ => refuses (by decide)) fun _ => ?_
    refine iteInduction (fun _ => nofun) fun _ => ?_
    refine iteInduction (fun _ => nofun) fun _ => ?_
    exact iteInduction (fun _ => nofun) fun _ => nofun
  suffices listed : Listed cmd.request from listed refused
  unfold Command.request
  refine iteInduction (fun _ => refuses (by decide)) fun _ => ?_
  refine iteInduction (fun _ => ?version) fun _ => ?_
  case version => exact iteInduction (fun _ => refuses (by decide)) fun _ => nofun
  refine iteInduction (fun _ => ?name) fun _ => ?_
  case name => exact iteInduction (fun _ => refuses (by decide)) fun _ => nofun
  refine iteInduction (fun _ => ?publicKey) fun _ => ?_
  case publicKey =>
    refine iteInduction (fun _ => refuses (by decide)) fun _ => ?_
    exact iteInduction (fun _ => refuses (by decide)) fun _ => nofun
  refine iteInduction (fun _ => signTx) fun _ => ?_
  exact iteInduction (fun _ => nofun) fun _ => refuses (by decide)

theorem uiDisplayAddress_documented (frontEnd : FrontEnd) (env : Env) (ctx : GlobalCtx target)
    : Documented (uiDisplayAddress frontEnd env ctx).2 := by
  unfold uiDisplayAddress
  refine documented_check (by decide) fun _ => ?_
  cases env.bip32PathFormat ctx.path 60 with
  | none => exact documented_sw (by decide)
  | some bip32Path =>
      simp only
      split
      · exact documented_sw (by decide)
      · exact documented_review _

theorem uiDisplayMessage_documented (frontEnd : FrontEnd) (env : Env) (ctx : GlobalCtx target)
    : Documented (uiDisplayMessage frontEnd env ctx).2 := by
  unfold uiDisplayMessage
  refine documented_check (by decide) fun _ => ?_
  cases env.bip32PathFormat ctx.path 60 with
  | none => exact documented_sw (by decide)
  | some bip32Path => exact documented_review _

theorem uiDisplayTransaction_documented (env : Env) (ctx : GlobalCtx target)
    : Documented (uiDisplayTransaction env ctx).2 := by
  unfold uiDisplayTransaction
  refine documented_check (by decide) fun _ => ?_
  simp only
  split
  · exact documented_sw (by decide)
  split
  · exact documented_sw (by decide)
  · exact documented_review _

theorem handlerGetPublicKey_documented {cdata : Buffer} {display : Bool}
    (succeeds : PublicKeyCallSucceeds target env cdata)
    : Documented
        (handlerGetPublicKey frontEnd env cdata display : GlobalCtx target × List Effect).2 := by
  rw [handlerGetPublicKey_eq]
  refine documented_check (by decide) fun lengthRead => ?_
  refine documented_check (by decide) fun pathRead => ?_
  refine documented_check (by decide) fun length => ?_
  refine documented_check (by decide) fun first => ?_
  refine documented_check (by decide) fun second => ?_
  have ok : (env.bip32DeriveGetPubkey256 (pathContext target env cdata).path).1 = cxOk := by
    rw [not_or] at length
    refine succeeds ⟨by simpa using lengthRead, by simpa using pathRead, ?_, ?_,
      not_not.mp first, not_not.mp second⟩
    · exact UInt8.not_lt.mp length.1
    · exact UInt8.not_lt.mp length.2
  simp only [publicKeyDerived, ok, ne_eq, not_true_eq_false, if_false]
  cases display with
  | true =>
      rw [if_pos rfl]
      exact uiDisplayAddress_documented frontEnd env _
  | false => exact documented_reply rfl

theorem handlerSignMsg_documented (cdata : Buffer)
    : Documented (handlerSignMsg frontEnd env cdata : GlobalCtx target × List Effect).2 := by
  unfold handlerSignMsg
  simp only
  iterate 10 refine documented_check (by decide) fun _ => ?_
  exact uiDisplayMessage_documented frontEnd env _

/-- Signing whose calls succeed is answered with the signature. -/
theorem signInputAndSend_documented (succeed : SigningCallsSucceed env ctx)
    : Documented (signInputAndSend env ctx).2 := by
  have signed : TransactionSigned env ctx := by
    refine ⟨succeed.derived, succeed.paired, ?_⟩
    have hashed : (transactionHash env ctx).isSome = true := by
      simp only [transactionHash, calcSighash_eq _ _ _ _ _ _ (le_refl 32), Option.isSome_some]
    obtain ⟨sighash, found⟩ := Option.isSome_iff_exists.mp hashed
    exact ⟨sighash, found, succeed.signed sighash found⟩
  have ok := (cryptoSignTransaction_ok_iff env ctx).mpr signed
  rcases result : cryptoSignTransaction env ctx with ⟨error, left⟩
  rw [result] at ok
  obtain rfl : error = 0 := ok
  rw [signInputAndSend_signed result]
  exact documented_reply rfl

theorem handlerSignTxParsed_documented (env : Env) (ctx : GlobalCtx target) (more : Bool)
    : Documented (handlerSignTxParsed env ctx more).2 := by
  unfold handlerSignTxParsed
  cases more with
  | true => exact documented_sw (by decide)
  | false =>
      simp only [Bool.false_eq_true, if_false]
      refine documented_check (by decide) fun _ => ?_
      exact uiDisplayTransaction_documented env _

/-- An admitted output command is malformed exactly if its parser rejects the payload. -/
theorem parsedOutput_failed_iff
    : (parsedOutput env (cmd.buffer env) ctx).1 ≠ .parsingOk
      ↔ ¬ ∃ payload : OutputPayload, cmd.data = payload.serialize := by
  rw [ne_eq, not_iff_not]
  constructor
  · intro parsed
    obtain ⟨payload, bytes⟩ := output_of_parsed parsed
    rw [Command.rest_buffer] at bytes
    exact ⟨payload, bytes⟩
  · rintro ⟨payload, bytes⟩
    have read : (cmd.buffer env).rest = payload.serialize := by rw [Command.rest_buffer, bytes]
    rw [parsedOutput, transactionOutputDeserialize_serialize read]

/-- The status of a rejected output, cut to 16 bits, is no documented status word. -/
theorem outputStatus_undocumented {status : ParserStatus} (failed : status ≠ .parsingOk)
    : UInt16.ofInt status.toInt ∉ documentedStatusWords := by
  cases status with
  | parsingOk => exact absurd rfl failed
  | versionParsingError | outputsLengthParsingError | inputsLengthParsingError
  | headerParsingError | inputParsingError | inputValueParsingError | inputTxIdParsingError
  | inputAddressTypeParsingError | inputAddressIndexParsingError | inputIndexParsingError
  | outputParsingError | outputValueParsingError | outputScriptPubkeyParsingError => decide

/-- An admitted output command is answered with a documented status word unless it is malformed. -/
theorem handlerSignTxOutput_documented (admitted : OutputAdmitted ctx)
    (parsed : (parsedOutput env (cmd.buffer env) ctx).1 = .parsingOk)
    : Documented (handlerSignTxOutput env (cmd.buffer env) true ctx).2 := by
  rw [handlerSignTxOutput_of_admitted admitted, if_neg (not_not.mpr parsed)]
  exact handlerSignTxParsed_documented env _ true

theorem handlerSignTxInput_documented {more : Bool} (admitted : InputAdmitted ctx)
    : Documented (handlerSignTxInput env (cmd.buffer env) more ctx).2 := by
  rw [handlerSignTxInput_of_admitted admitted]
  refine documented_check (by decide) fun _ => ?_
  exact handlerSignTxParsed_documented env _ more

/-- The handler of a command that is no malformed output answers with a documented word. -/
theorem handleRequest_documented (succeed : CryptoCallsSucceed env cmd ctx)
    (wellFormed : ¬ SendsMalformedOutput cmd ctx)
    : Documented (handleRequest frontEnd env cmd.request (cmd.buffer env) ctx).2 := by
  cases request : cmd.request with
  | refused code => exact documented_sw (cmd.refused_documented request)
  | getVersion | getAppName => exact documented_reply rfl
  | getPublicKey display => exact handlerGetPublicKey_documented (succeed.publicKey _ request)
  | signMessage => exact handlerSignMsg_documented _
  | header =>
      exact documented_check (by decide) fun _ => documented_sw (by decide)
  | output =>
      refine documented_check (by decide) fun session => ?_
      by_cases admitted : OutputAdmitted ctx
      · by_cases failed : (parsedOutput env (cmd.buffer env) ctx).1 ≠ .parsingOk
        · exact absurd ⟨request, admitted, parsedOutput_failed_iff.mp failed⟩ wellFormed
        · exact handlerSignTxOutput_documented admitted (not_not.mp failed)
      · rw [handlerSignTxOutput_of_full (not_not.mp session) admitted]
        exact documented_sw (by decide)
  | input more =>
      refine documented_check (by decide) fun session => ?_
      by_cases admitted : InputAdmitted ctx
      · exact handlerSignTxInput_documented admitted
      · rw [handlerSignTxInput_of_full (not_not.mp session) admitted]
        exact documented_sw (by decide)
  | nextSignature =>
      refine documented_check (by decide) fun session => ?_
      rw [not_or, not_not, not_not] at session
      exact signInputAndSend_documented (succeed.signature request ⟨session.1, session.2⟩)

/-- A payload that is rejected is no malformed output only if it is answered with
`SW_TX_PARSING_FAIL`.
-/
theorem handleRequest_rejected (rejects : RejectsPayload env cmd ctx)
    (wellFormed : ¬ SendsMalformedOutput cmd ctx)
    : (handleRequest frontEnd env cmd.request (cmd.buffer env) ctx).2
      = ioSendSw swTxParsingFail := by
  cases rejects with
  | header request failed =>
      rw [request]
      exact congrArg Prod.snd (if_pos failed)
  | output request admitted failed =>
      exact absurd ⟨request, admitted, parsedOutput_failed_iff.mp failed⟩ wellFormed
  | input request admitted failed =>
      rw [request]
      simp only [handleRequest, admitted.reqType, ne_eq, not_true_eq_false, if_false]
      rw [handlerSignTxInput_of_admitted admitted, if_pos failed]

/-- A malformed output is answered with a status word that no document lists. -/
theorem undocumented_of_malformed (malformed : SendsMalformedOutput cmd ctx)
    : ¬ Documented (apduDispatcher frontEnd env cmd ctx).2 := by
  have failed := (@parsedOutput_failed_iff target env cmd ctx).mpr malformed.malformed
  intro documented
  rw [apduDispatcher_eq_handleRequest, malformed.request] at documented
  simp only [handleRequest, malformed.admitted.reqType, ne_eq, not_true_eq_false, if_false]
    at documented
  rw [handlerSignTxOutput_of_admitted malformed.admitted, if_pos failed] at documented
  exact outputStatus_undocumented failed (documented _ (List.mem_singleton.mpr rfl))

/-- A command whose crypto calls succeed is answered as documented unless it is an output command
that its counters admit with a payload that is no value and script.
-/
theorem answeredAsDocumented_iff (frontEnd : FrontEnd) {env : Env} {cmd : Command}
    {ctx : GlobalCtx target} (succeed : CryptoCallsSucceed env cmd ctx)
    : AnsweredAsDocumented frontEnd env cmd ctx ↔ ¬ SendsMalformedOutput cmd ctx := by
  constructor
  · exact fun answered malformed => undocumented_of_malformed malformed answered.documented
  · intro wellFormed
    constructor
    · rw [apduDispatcher_eq_handleRequest]
      exact handleRequest_documented succeed wellFormed
    · intro rejects
      rw [apduDispatcher_eq_handleRequest]
      exact handleRequest_rejected rejects wellFormed

/-- An output command makes no crypto call. -/
theorem cryptoCallsSucceed_of_output (request : cmd.request = .output)
    : CryptoCallsSucceed env cmd ctx := by
  constructor
  · intro display other
    rw [request] at other
    cases other
  · intro other
    rw [request] at other
    cases other

theorem answeredAsDocumented_iff_sample
    : AnsweredAsDocumented .bagl .succeeding (outputCommand (plainOutput 4))
        (headed .nanos ((headerCommand (plainHeader 1 1)).buffer .succeeding)) := by
  refine (answeredAsDocumented_iff .bagl (cryptoCallsSucceed_of_output rfl)).mpr ?_
  exact fun malformed => malformed.malformed ⟨plainOutput 4, rfl⟩

/-- After a header, an output payload of one byte is answered with 0xFFE1, the low 16 bits of
`OUTPUT_VALUE_PARSING_ERROR`.
-/
theorem output_status_undocumented
    : ¬ ∀ (history : List (Step .nanos)) (device : Device .nanos) (env : Env) (cmd : Command),
          (machine .nanos .bagl).Run history device
          → device.pending = none
          → CryptoCallsSucceed env cmd device.ctx
          → AnsweredAsDocumented .bagl env cmd device.ctx := by
  intro claim
  let cmd := signTxCommand p1Outputs p2More [0]
  obtain ⟨history, device, run, idle, answer⟩ :=
    (machine .nanos .bagl).exists_run
      [Action.mk .succeeding (.apdu (headerCommand (plainHeader 1 1)))]
      (fun _ device =>
        device.pending = none
        ∧ (apduDispatcher .bagl .succeeding cmd device.ctx).2 = ioSendSw 0xFFE1)
      (by decide +kernel)
  have answered :=
    claim history device .succeeding cmd run idle (cryptoCallsSucceed_of_output rfl)
  have listed : 0xFFE1 ∈ documentedStatusWords :=
    answered.documented (.sw 0xFFE1) (by rw [answer]; exact List.mem_singleton.mpr rfl)
  exact absurd listed (by decide)

end KaspaApp
