import KaspaApp.Messages.Payloads
import KaspaApp.Session.Approval
import KaspaApp.Session.ArrayBounds

/-! The paths that signatures are made at. The address type of an input is taken from its payload
unchecked, a refused header leaves its account, and the failure of a message's key derivation is
not seen, so a signature is made at a path of the wallet exactly where the inputs of the run avoid
these three.
-/

namespace KaspaApp

open Histories

variable {target : Target} {frontEnd : FrontEnd} {env : Env} {ctx : GlobalCtx target}
  {history : List (Step target)} {device : Device target} {step : Step target}

/-- The signature was made over the hash with the key derived at `path`. -/
def SignedAt (env : Env) (path : List UInt32) (hash : Bytes 32) (signature : Bytes maxDerSigLen)
    : Prop :=
  ∃ key,
    env.bip32DeriveInitPrivkey256 path = (cxOk, key)
    ∧ env.cxEcschnorrSignNoThrow key hash = (cxOk, signature)

/-- The signature is made at the path of the account of `header` and of the input that it is
sent for.
-/
structure SignsInput (step : Step target) (sent : SentSig) (header : Step target)
    (payload : HeaderPayload) (txin : TransactionInput)
    : Prop where
  accepted : header.output = ioSendSw swOk
  declared : ∃ cmd, header.action.input = .apdu cmd ∧ cmd.data = payload.serialize
  slot : step.before.ctx.txInfo.transaction.txInputs[sent.inputIndex.toNat]? = some txin
  hardened : 0x80000000 ≤ payload.account
  addressType : txin.addressType ≤ 1
  path
    : step.after.ctx.path
      = [purpose, coinType, payload.account, txin.addressType.toUInt32, txin.addressIndex]
  signed : SignedAt step.action.env step.after.ctx.path sent.sighash sent.signature

/-- Every signature of a step is made at a path of the wallet. -/
structure SignsWalletPath (earlier : List (Step target)) (step : Step target) : Prop where
  transactions
    : ∀ sent ∈ sentSigs step,
        ∃ header ∈ lastHeader earlier,
          ∃ payload txin, SignsInput step sent header payload txin
  messages
    : ∀ signature hash,
        Effect.reply (.personalMessageSig signature hash) ∈ step.output
        → ∃ account addressType index,
            0x80000000 ≤ account
            ∧ addressType ≤ 1
            ∧ step.after.ctx.path = [purpose, coinType, account, addressType, index]
            ∧ SignedAt step.action.env step.after.ctx.path hash signature

/-- The payload of a P1 = 2 command that reaches the input parser. -/
def parsedPayload (step : Step target) : Option (List UInt8) :=
  match step.action.input with
  | .apdu cmd =>
      if (cmd.request = .input true ∨ cmd.request = .input false)
          ∧ InputAdmitted step.before.ctx then
        some cmd.data
      else
        none
  | _ => none

/-- The address type that a step writes into an input slot. -/
def typeWritten (slot : Nat) (step : Step target) : Option UInt8 :=
  if step.before.ctx.txInfo.parsingInputIndex.toNat = slot then
    (parsedPayload step).bind storedType
  else
    none

/-- The address type last written into an input slot since the last header. -/
def writtenType (slot : Nat) : List (Step target) → UInt8
  | [] => 0
  | step :: earlier =>
      if IsHeader step then 0 else (typeWritten slot step).getD (writtenType slot earlier)

/-- What a step needs for its signatures to be made at paths of the wallet. A transaction that
the SDK calls sign follows an accepted header, has signatures left for its array, and its next
slot holds a known address type; a message that the signing call signs has a derived key.
-/
structure AsksForWalletPath (earlier : List (Step target)) (step : Step target) : Prop where
  transactions
    : RequestsSignature step
      → TransactionSigned step.action.env step.before.ctx
      → (∃ header ∈ lastHeader earlier, header.output = ioSendSw swOk)
        ∧ (sigsSinceHeader earlier).length < target.maxInputCount
        ∧ writtenType (sigsSinceHeader earlier).length earlier ≤ 1
  messages
    : Approves .confirmMessage step
      → ∀ hash ∈ messageHash step.action.env step.before.ctx,
          (messageSignature step.action.env step.before.ctx hash).1 = cxOk
          → (messageKey step.action.env step.before.ctx).1 = cxOk

theorem parsedPayload_of_input {cmd : Command} {more : Bool}
    (command : Commands step cmd (.input more)) (admitted : InputAdmitted step.before.ctx)
    : parsedPayload step = some cmd.data := by
  rw [parsedPayload, command.input]
  refine if_pos ⟨?_, admitted⟩
  cases more with
  | true => exact Or.inl command.request
  | false => exact Or.inr command.request

theorem parsedPayload_of_unwritten (unwritten : ¬ WritesSlot step) : parsedPayload step = none := by
  unfold parsedPayload
  unfold WritesSlot at unwritten
  split
  · next cmd input =>
      rw [input] at unwritten
      exact if_neg fun writes => unwritten (Or.inr writes)
  · rfl

theorem parsedPayload_of_other (other : ∀ more, step.action.input.request ≠ some (.input more))
    : parsedPayload step = none := by
  unfold parsedPayload
  split
  · next cmd input =>
      rw [input] at other
      exact if_neg fun parsed =>
        parsed.1.elim (fun more => other true (congrArg some more))
          (fun last => other false (congrArg some last))
  · rfl

/-- What a step of a session does to the input slots: nothing, or it parses a payload into the
slot behind the accepted ones.
-/
theorem inputs_of_transition
    (transition
      : Transition step.action.env step.before step.action.input step.output step.after)
    (session : step.after.ctx.reqType = .confirmTransaction) (other : ¬ IsHeader step)
    : (parsedPayload step = none
        ∧ step.after.ctx.txInfo.transaction.txInputs
          = step.before.ctx.txInfo.transaction.txInputs)
      ∨ ∃ cmd,
          parsedPayload step = some cmd.data
          ∧ InputAdmitted step.before.ctx
          ∧ step.after.ctx.txInfo.transaction.txInputs
            = step.before.ctx.txInfo.transaction.txInputs.setIfInBounds
                step.before.ctx.txInfo.parsingInputIndex.toNat (inputOf step cmd).2 := by
  obtain ⟨before, ⟨env, input⟩, output, after⟩ := step
  simp only at transition session
  cases transition with
  | ignored reply ignored unsigned =>
      exact Or.inl ⟨parsedPayload_of_unwritten ignored.not_writesSlot, rfl⟩
  | otherReplied reply request start unsigned =>
      exact absurd (start.reqType.symm.trans session) (Request.otherSession_ne request)
  | otherReviewed request start =>
      exact absurd (start.reqType.symm.trans session) (Request.otherSession_ne request)
  | headerRefused request | headerAccepted request =>
      exact absurd (congrArg some request) other
  | outputRefused request admitted | outputAccepted request admitted =>
      exact Or.inl ⟨parsedPayload_of_other (by simp [Input.request, request]), rfl⟩
  | inputRefused request admitted | inputAccepted request admitted =>
      exact Or.inr ⟨_, parsedPayload_of_input ⟨rfl, request⟩ admitted, admitted, rfl⟩
  | inputInvalid request admitted parsed stored invalid =>
      refine Or.inr ⟨_, parsedPayload_of_input ⟨rfl, request⟩ admitted, admitted, ?_⟩
      simp only [txValidate_txInfo, stored]
      rfl
  | inputUndisplayed request admitted parsed stored valid
  | inputReviewed request admitted parsed stored valid =>
      refine Or.inr ⟨_, parsedPayload_of_input ⟨rfl, request⟩ admitted, admitted, ?_⟩
      simp only [GlobalCtx.txInfo_withState, txValidate_txInfo, stored]
      rfl
  | nextRefused request refused => simp [GlobalCtx.zero] at session
  | signed request result =>
      refine Or.inl ⟨parsedPayload_of_other request.request_ne.2, ?_⟩
      simp only [GlobalCtx.transaction_nextInput, (request.signed_txInfo result).1]
  | signingFailed request result failed =>
      refine Or.inl ⟨parsedPayload_of_other request.request_ne.2, ?_⟩
      simp only [GlobalCtx.txInfo_withState, (request.signed_txInfo result).1]
  | addressDecided | transactionRejected | messageDecided =>
      exact Or.inl ⟨parsedPayload_of_other (by simp [Input.request]), rfl⟩

/-- The slots hold the address types that the payloads since the header have written. -/
theorem typed_next
    (transition
      : Transition step.action.env step.before step.action.input step.output step.after)
    (typed
      : step.before.ctx.reqType = .confirmTransaction
        → ∀ slot (inside : slot < target.maxInputCount),
            step.before.ctx.txInfo.transaction.txInputs[slot].addressType
            = writtenType slot history)
    (session : step.after.ctx.reqType = .confirmTransaction) (slot : Nat)
    (inside : slot < target.maxInputCount)
    : step.after.ctx.txInfo.transaction.txInputs[slot].addressType
      = writtenType slot (step :: history) := by
  rcases session_carried transition session with begins | ⟨carried, kept⟩
  · obtain ⟨cmd, heads⟩ := heads_of_isHeader transition begins
    obtain ⟨header, written⟩ :=
      transactionDeserialize_written target (cmd.buffer step.action.env)
        (Vector.replicate kaspaMaxBip32PathLen 0)
    have cleared : (headed target (cmd.buffer step.action.env)).txInfo.transaction.txInputs
        = Vector.replicate target.maxInputCount .zero :=
      congrArg Transaction.txInputs written
    simp only [heads.after, cleared, Vector.getElem_replicate, writtenType, if_pos begins]
    rfl
  · have other := not_isHeader_of_kept kept
    have before := typed carried slot inside
    rw [writtenType, if_neg other]
    rcases inputs_of_transition transition session other with
      ⟨unparsed, same⟩ | ⟨cmd, parsed, admitted, stored⟩
    · simp only [same, before, typeWritten, unparsed, Option.bind_none, ite_self, Option.getD_none]
    · simp only [stored, typeWritten, parsed, Option.bind_some]
      by_cases written : step.before.ctx.txInfo.parsingInputIndex.toNat = slot
      · subst written
        have old : (inputOf step cmd).2.addressType
            = (storedType cmd.data).getD
                (step.before.ctx.txInfo.transaction.input (step.action.env.stray .signTx)
                  step.before.ctx.txInfo.parsingInputIndex.toNat).addressType := by
          have parser := transactionInputDeserialize_addressType (cmd.buffer step.action.env)
            (step.before.ctx.txInfo.transaction.input (step.action.env.stray .signTx)
              step.before.ctx.txInfo.parsingInputIndex.toNat)
          rwa [Command.rest_buffer] at parser
        rw [if_pos rfl, Vector.getElem_setIfInBounds_self, old, Transaction.input,
          Memory.read_of_lt _ _ inside, before]
      · rw [if_neg written, Vector.getElem_setIfInBounds_ne _ written, before]
        rfl

/-- The path of a hardened account and a known address type. -/
def IsWalletPath (path : List UInt32) : Prop :=
  ∃ account addressType index,
    0x80000000 ≤ account
    ∧ addressType ≤ 1
    ∧ path = [purpose, coinType, account, addressType, index]

/-- The checks of `handler_sign_msg` let only paths of the wallet through. -/
theorem MessageReads.Admitted.isWalletPath {reads : MessageReads} (admitted : reads.Admitted target)
    : IsWalletPath (messageSession target reads.info reads.message).path := by
  refine ⟨reads.account.value, reads.addressType.value.toUInt32, reads.addressIndex.value,
    admitted.hardened, ?_, ?_⟩
  · rcases admitted.addressType with receive | change
    · rw [receive]
      decide
    · rw [change]
      decide
  · rw [messageSession, GlobalCtx.path_withPath]
    rfl

/-- A message review waits with a path of the wallet. -/
theorem isWalletPath_of_opened (taken : (machine target frontEnd).Takes step) {review : Review}
    (waits : step.after.pending = some review) (kind : review.session = .confirmMessage)
    : IsWalletPath step.after.ctx.path := by
  obtain ⟨-, -, opened⟩ := openedBy_of_pending (transition_of_takes taken) waits
  have request := opened.request
  rw [kind] at request
  cases input : step.action.input with
  | badLength | decision choice => simp [input, Input.request] at request
  | apdu cmd =>
      have sign : cmd.request = .signMessage := by
        cases found : cmd.request with
        | input more =>
            cases more <;> simp [input, Input.request, found, Request.reviewed] at request
        | _ => simp_all [Input.request, Request.reviewed]
      obtain ⟨-, handled, -⟩ := handles_of_takes taken input
      rw [sign, handleRequest] at handled
      have ctx := congrArg Prod.fst handled
      rw [← show _ = step.after.ctx from ctx]
      by_cases admitted : (messageReads (cmd.buffer step.action.env)).Admitted target
      · rw [handlerSignMsg_context admitted]
        exact admitted.isWalletPath
      · have refuses := @handlerSignMsg_refuses target frontEnd step.action.env _ admitted
        obtain ⟨code, -, word⟩ := refuses.replied
        rw [handled, opened.output] at word
        simp [ioSendSw] at word

/-- Between two steps: a signing session has the header fields of its header, counts its
signatures and holds the address types of its payloads, and a message waits with its path.
-/
structure PathsKept (history : List (Step target)) (device : Device target) : Prop where
  headed : Headed history device
  counted
    : device.ctx.reqType = .confirmTransaction
      → device.ctx.txInfo.signingInputIndex.toNat = (sigsSinceHeader history).length
  typed
    : device.ctx.reqType = .confirmTransaction
      → ∀ slot (inside : slot < target.maxInputCount),
          device.ctx.txInfo.transaction.txInputs[slot].addressType = writtenType slot history
  message
    : ∀ review ∈ device.pending,
        review.session = .confirmMessage → IsWalletPath device.ctx.path

/-- What a signing step sends, and the path it leaves. -/
theorem Signs.signedAt {start signed : GlobalCtx target} (signs : Signs step start signed)
    : ∃ hasMore signature sighash,
        sentSigs step
          = [⟨hasMore, step.before.ctx.txInfo.signingInputIndex, signature, sighash⟩]
        ∧ step.after.ctx.path = (signingPath step.action.env start).toList
        ∧ SignedAt step.action.env step.after.ctx.path sighash signature := by
  obtain ⟨complete, sighash, hashed, ok, left⟩ := cryptoSignTransaction_signed signs.result
  have path : step.after.ctx.path = (signingPath step.action.env start).toList := by
    rw [signs.after, left]
    exact GlobalCtx.path_withPath start _
  refine ⟨_, _, _, signs.sent, path, ?_⟩
  rw [path, left]
  exact ⟨(transactionKey step.action.env start).2, Prod.ext complete.derived rfl,
    Prod.ext ok rfl⟩

/-- A request that every SDK call serves is answered with a signature. -/
theorem signs_of_requests (taken : (machine target frontEnd).Takes step)
    (requests : RequestsSignature step)
    (complete : TransactionSigned step.action.env step.before.ctx)
    : ∃ start signed, Signs step start signed := by
  have served {start : GlobalCtx target}
      (request : SigningRequest step.before.pending step.action.input step.before.ctx start)
      (complete : TransactionSigned step.action.env start)
      (result : signInputAndSend step.action.env start = (step.after.ctx, step.output))
      (idle : openedReview step.output = none → step.after.pending = none)
      : ∃ start signed, Signs step start signed := by
    have ok := (cryptoSignTransaction_ok_iff step.action.env start).mpr complete
    rcases signs : cryptoSignTransaction step.action.env start with ⟨error, signed⟩
    obtain rfl : error = 0 := by rwa [signs] at ok
    have sent := signInputAndSend_signed signs
    rw [result] at sent
    obtain ⟨after, output⟩ := Prod.mk.inj sent
    refine ⟨start, signed, request, signs, output, ?_⟩
    rw [← after, ← idle (by rw [output]; rfl)]
  rcases requests with ⟨decides, kind⟩ | ⟨next, admitted⟩
  · obtain ⟨review, waits, session⟩ := Option.map_eq_some_iff.mp kind
    obtain ⟨decided, idle⟩ := decides_of_takes taken waits decides
    cases review with
    | address | message => simp [Review.session] at session
    | transaction amount fees address =>
        refine @served (step.before.ctx.withState .stateApproved) ?_
          ((transactionSigned_withState _).mpr complete) decided (fun _ => idle)
        rw [waits, decides]
        exact .approval _ _ _ _
  · cases input : step.action.input with
    | badLength | decision choice => simp [IsNextSignature, input, Input.request] at next
    | apdu cmd =>
        have request : cmd.request = .nextSignature := by
          simpa [IsNextSignature, input, Input.request] using next
        obtain ⟨waits, handled, idle⟩ := handles_of_takes taken input
        have open' : ¬ (step.before.ctx.reqType ≠ .confirmTransaction
            ∨ step.before.ctx.state ≠ .stateApproved) := by
          simp [admitted.reqType, admitted.state]
        rw [request, handleRequest, if_neg open'] at handled
        refine @served step.before.ctx ?_ complete handled idle.trans
        rw [waits, input]
        exact .next request admitted

/-- A signature is sent at the path of its input exactly if the header was accepted, the input
lies in the array and its address type is known.
-/
theorem signsInput_iff {start signed : GlobalCtx target} (signs : Signs step start signed)
    (kept : PathsKept history step.before)
    : (∀ sent ∈ sentSigs step,
        ∃ header ∈ lastHeader history,
          ∃ payload txin, SignsInput step sent header payload txin)
      ↔ (∃ header ∈ lastHeader history, header.output = ioSendSw swOk)
        ∧ (sigsSinceHeader history).length < target.maxInputCount
        ∧ writtenType (sigsSinceHeader history).length history ≤ 1 := by
  obtain ⟨hasMore, signature, sighash, sent, path, signedAt⟩ := signs.signedAt
  have session := signs.request.reqType.symm.trans (signs.admitted kept.headed.ordered).reqType
  have typed := kept.typed session
  rw [sent, List.forall_mem_singleton, ← kept.counted session]
  constructor
  · rintro ⟨header, last, payload, txin, signsInput⟩
    obtain ⟨inside, slot⟩ := Vector.getElem?_eq_some_iff.mp signsInput.slot
    refine ⟨⟨header, last, signsInput.accepted⟩, inside, ?_⟩
    rw [← typed _ inside, slot]
    exact signsInput.addressType
  · rintro ⟨⟨header, last, accepted⟩, inside, type⟩
    obtain ⟨found, last', cmd, heads, same⟩ := kept.headed.header session
    obtain rfl := Option.mem_unique last last'
    obtain ⟨payload, allowed, bytes, stored⟩ := heads.payload accepted
    have account : step.before.ctx.txInfo.transaction.account = payload.account := by
      rw [same.account, stored]
      rfl
    refine ⟨header, last, payload, _, accepted, ⟨cmd, heads.input, bytes⟩,
      Vector.getElem?_eq_getElem inside, UInt32.le_iff_toNat_le.mpr allowed.hardened, ?_, ?_,
      signedAt⟩
    · rwa [typed _ inside]
    · rw [path, signingPath, signs.request.txInfo, Transaction.input, Memory.read_of_lt _ _ inside,
        account]
      rfl

theorem messageHash_eq_some (env : Env) (ctx : GlobalCtx target)
    : ∃ hash, messageHash env ctx = some hash :=
  ⟨_, rfl⟩

/-- The signature of a message is made at a path of the wallet exactly if its key was derived. -/
theorem signsMessage_iff (taken : (machine target frontEnd).Takes step)
    (kept : PathsKept history step.before)
    : (∀ signature hash,
        Effect.reply (.personalMessageSig signature hash) ∈ step.output
        → ∃ account addressType index,
            0x80000000 ≤ account
            ∧ addressType ≤ 1
            ∧ step.after.ctx.path = [purpose, coinType, account, addressType, index]
            ∧ SignedAt step.action.env step.after.ctx.path hash signature)
      ↔ (Approves .confirmMessage step
        → ∀ hash ∈ messageHash step.action.env step.before.ctx,
            (messageSignature step.action.env step.before.ctx hash).1 = cxOk
            → (messageKey step.action.env step.before.ctx).1 = cxOk) := by
  constructor
  · intro signs approves hash hashed ok
    obtain ⟨review, waits, session⟩ := Option.map_eq_some_iff.mp approves.2
    obtain ⟨decided, -⟩ := decides_of_takes taken waits approves.1
    cases review with
    | address | transaction => simp [Review.session] at session
    | message path text =>
        obtain ⟨sent, same⟩ := validateMessage_signature hashed ok
        rw [show validateMessage _ _ true = _ from decided] at sent same
        have member : Effect.reply (.personalMessageSig _ hash) ∈ step.output :=
          sent ▸ List.mem_singleton.mpr rfl
        obtain ⟨account, addressType, index, -, -, -, key, derived, -⟩ := signs _ _ member
        rw [show step.after.ctx.path = step.before.ctx.path from same] at derived
        rw [messageKey, derived]
  · intro derives signature hash member
    have sends : sentMessageSigs step ≠ [] :=
      List.ne_nil_of_mem (List.mem_filter.mpr ⟨member, rfl⟩)
    obtain ⟨path, text, reply, waits, decides, -⟩ :=
      messageDecided_of_sent (transition_of_takes taken) sends
    obtain ⟨decided, -⟩ := decides_of_takes taken waits decides
    obtain ⟨found, hashed⟩ := messageHash_eq_some step.action.env step.before.ctx
    by_cases ok : (messageSignature step.action.env step.before.ctx found).1 = cxOk
    · obtain ⟨sent, same⟩ := validateMessage_signature hashed ok
      rw [show validateMessage _ _ true = _ from decided] at sent same
      rw [show step.output = _ from sent, List.mem_singleton, Effect.reply.injEq,
        Reply.personalMessageSig.injEq] at member
      obtain ⟨rfl, rfl⟩ := member
      obtain ⟨account, addressType, index, hardened, known, wallet⟩ :=
        kept.message _ waits rfl
      have derived := derives ⟨decides, by rw [waits]; rfl⟩ hash hashed ok
      rw [show step.after.ctx.path = step.before.ctx.path from same]
      exact ⟨account, addressType, index, hardened, known, wallet,
        (messageKey step.action.env step.before.ctx).2, Prod.ext derived rfl, Prod.ext ok rfl⟩
    · have word := validateMessage_word hashed ok
      rw [show validateMessage _ _ true = _ from decided] at word
      rw [show step.output = _ from word] at member
      simp [ioSendSw] at member

theorem SigningRequest.transactionSigned {pending : Option Review} {input : Input}
    {start : GlobalCtx target} (request : SigningRequest pending input ctx start)
    (signed : TransactionSigned env start)
    : TransactionSigned env ctx := by
  cases request with
  | approval => exact (transactionSigned_withState _).mp signed
  | next => exact signed

/-- Every signature of a step is made at a path of the wallet exactly if the step's inputs avoid
the three defects.
-/
theorem signsWalletPath_iff (taken : (machine target frontEnd).Takes step)
    (kept : PathsKept history step.before)
    : SignsWalletPath history step ↔ AsksForWalletPath history step := by
  have transition := transition_of_takes taken
  constructor
  · intro wallet
    refine ⟨fun requests complete => ?_, (signsMessage_iff taken kept).mp wallet.messages⟩
    obtain ⟨start, signed, signs⟩ := signs_of_requests taken requests complete
    exact (signsInput_iff signs kept).mp wallet.transactions
  · intro asks
    refine ⟨fun sent member => ?_, (signsMessage_iff taken kept).mpr asks.messages⟩
    obtain ⟨start, signed, signs⟩ := signs_of_sentSigs transition (List.ne_nil_of_mem member)
    have complete := signs.request.transactionSigned (cryptoSignTransaction_signed signs.result).1
    exact (signsInput_iff signs kept).mpr
      (asks.transactions (signs.request.requests step) complete) sent member

theorem pathsKept_next (taken : (machine target frontEnd).Takes step)
    (kept : PathsKept history step.before) (asks : AsksForWalletPath history step)
    : PathsKept (step :: history) step.after := by
  have transition := transition_of_takes taken
  refine ⟨headed_next transition kept.headed, ?_, typed_next transition kept.typed, ?_⟩
  · apply counted_next transition kept.headed.ordered kept.counted
    intro sends
    obtain ⟨start, signed, signs⟩ := signs_of_sentSigs transition sends
    have complete := signs.request.transactionSigned (cryptoSignTransaction_signed signs.result).1
    exact (asks.transactions (signs.request.requests step) complete).2.1
  · intro review waits kind
    exact isWalletPath_of_opened taken waits kind

theorem pathsKept_start (frontEnd : FrontEnd) : PathsKept [] (machine target frontEnd).initial := by
  refine ⟨headed_start frontEnd, fun session => ?_, fun session => ?_, fun review waits => ?_⟩
  · simp [machine, GlobalCtx.zero] at session
  · simp [machine, GlobalCtx.zero] at session
  · simp [machine] at waits

/-- All signatures of a run are made at paths of the wallet, a transaction's at the account of its
accepted header and at the type and index of its input, exactly if at every step a transaction
that gets signed follows an accepted header, has its next slot in the array with a known address
type, and a message that gets signed has a derived key.
-/
theorem onlyWalletPathsSign_iff (run : (machine target frontEnd).Run history device)
    : Throughout SignsWalletPath history ↔ Throughout AsksForWalletPath history := by
  refine run.throughout_iff PathsKept (pathsKept_start frontEnd) ?_
  intro earlier step _ kept taken
  exact ⟨signsWalletPath_iff taken kept, pathsKept_next taken kept⟩

theorem onlyWalletPathsSign_iff_sample
    : ∃ history device,
        (machine .nanos .bagl).Run history device
        ∧ history.map (fun step => (sentSigs step).length) = [1, 0, 0, 0]
        ∧ Throughout SignsWalletPath history := by
  obtain ⟨history, device, run, asks, sent⟩ :=
    (machine .nanos .bagl).exists_run (signedOnce.map (Action.mk .succeeding))
      (fun history _ =>
        Throughout
          (fun earlier step =>
            (RequestsSignature step
              → ((lastHeader earlier).any fun header => header.output = ioSendSw swOk) = true
                ∧ (sigsSinceHeader earlier).length < Target.nanos.maxInputCount
                ∧ writtenType (sigsSinceHeader earlier).length earlier ≤ 1)
            ∧ ¬ Approves .confirmMessage step)
          history
        ∧ history.map (fun step => (sentSigs step).length) = [1, 0, 0, 0])
      (by decide +kernel)
  refine ⟨history, device, run, sent, (onlyWalletPathsSign_iff run).mpr (asks.mono ?_)⟩
  rintro earlier step ⟨transactions, unapproved⟩
  refine ⟨fun requests _ => ?_, fun approves => absurd approves unapproved⟩
  obtain ⟨accepted, room, known⟩ := transactions requests
  obtain ⟨header, last, answer⟩ := (Option.any_eq_true _ _).mp accepted
  exact ⟨⟨header, last, of_decide_eq_true answer⟩, room, known⟩

/-- An input with an address type that no wallet derives. -/
def unknownTypeInput : InputPayload := { plainInput 5 with addressType := 5 }

/-- The address type of an input is signed for as the payload gives it. -/
theorem signs_at_unknown_type
    : ¬ ∀ (history : List (Step .nanos)) (device : Device .nanos),
          (machine .nanos .bagl).Run history device → Throughout SignsWalletPath history := by
  intro claim
  obtain ⟨history, device, run, unknown⟩ :=
    (machine .nanos .bagl).exists_run
      ((decidedSession true (plainHeader 1 1) [plainOutput 4] [] unknownTypeInput).map
        (Action.mk .succeeding))
      (fun history _ =>
        ¬ Throughout (fun _ step => ∀ sent ∈ sentSigs step,
            ((step.before.ctx.txInfo.transaction.txInputs[sent.inputIndex.toNat]?).any
              fun txin => txin.addressType ≤ 1) = true) history)
      (by decide +kernel)
  refine unknown ((claim history device run).mono ?_)
  intro earlier step wallet sent member
  obtain ⟨header, -, payload, txin, signsInput⟩ := wallet.transactions sent member
  rw [signsInput.slot]
  exact decide_eq_true signsInput.addressType

end KaspaApp
