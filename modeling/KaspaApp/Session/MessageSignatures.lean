import KaspaApp.Hashing.Preimages
import KaspaApp.Messages.TrailingBytes
import KaspaApp.Session.AnsweredCommands
import KaspaApp.Session.Approval
import KaspaApp.Session.SigningFailures

/-! Which message a signature signs. The review that is approved was opened by the payload of the
last command, and the approval hashes and signs the message of this payload under the key of its
path.
-/

namespace KaspaApp

open Histories

variable {target : Target} {frontEnd : FrontEnd} {env : Env} {cdata : Buffer}
  {ctx : GlobalCtx target} {history : List (Step target)} {device : Device target}
  {step : Step target} {review : Review} {payload : MessagePayload}

/-- The hash of a payload's message. -/
def MessagePayload.hash (env : Env) (payload : MessagePayload) : Bytes 32 :=
  env.blake2b messageSigningKey payload.message

/-- The call that signs this hash with the key of the path. -/
def MessagePayload.sign (env : Env) (payload : MessagePayload)
    : UInt32 × Bytes maxDerSigLen :=
  env.cxEcschnorrSignNoThrow (env.bip32DeriveInitPrivkey256 payload.path).2 (payload.hash env)

/-- `sign_message` of the client. -/
def messageCommand (payload : MessagePayload) : Command :=
  { cla := kaspaCla, ins := insSignMessage, p1 := 1, p2 := p2Last, data := payload.serialize }

-----------------------------------------------------------------------------------------
-- The review of a payload
-----------------------------------------------------------------------------------------

/-- What the review of a payload shows, and the context that waits for its decision. -/
structure ReviewsPayload (frontEnd : FrontEnd) (env : Env) (payload : MessagePayload)
    (review : Review) (ctx : GlobalCtx target)
    : Prop where
  allowed : payload.Allowed target
  shown
    : ∃ bip32Path,
        env.bip32PathFormat payload.path 60 = some bip32Path
        ∧ review
          = .message bip32Path (messageText (messageDestLen target frontEnd) payload.message)
  path : ctx.path = payload.path
  message : ctx.signedMessage = payload.message

/-- A review shows the path of its context. -/
theorem uiDisplayMessage_path (opened : (uiDisplayMessage frontEnd env ctx).2 = [.review review])
    : ∃ bip32Path text,
        env.bip32PathFormat ctx.path 60 = some bip32Path ∧ review = .message bip32Path text := by
  unfold uiDisplayMessage at opened
  split at opened
  · simp [ioSendSw] at opened
  split at opened
  · simp [ioSendSw] at opened
  next bip32Path formatted =>
    obtain rfl := Effect.review.inj (List.singleton_inj.mp opened)
    exact ⟨bip32Path, _, formatted, rfl⟩

/-- A command that opens the review of a message carries an admitted payload. -/
theorem admitted_of_review
    (handled : handlerSignMsg frontEnd env cdata = (ctx, [.review review]))
    : (messageReads cdata).Admitted target := by
  by_contra refused
  have refuses := @handlerSignMsg_refuses target frontEnd env cdata refused
  rw [handled] at refuses
  obtain ⟨code, -, replied⟩ := refuses.replied
  simp [ioSendSw] at replied

/-- The review that `handler_sign_msg` opens is the one of the payload that it has read. -/
theorem reviewsPayload_of_handled
    (handled : handlerSignMsg frontEnd env cdata = (ctx, [.review review]))
    : ReviewsPayload frontEnd env (messageReads cdata).payload review ctx := by
  have admitted := admitted_of_review handled
  obtain ⟨allowed, after, bytes⟩ := admitted.payload
  have message := @signedMessage_handlerSignMsg target frontEnd env cdata _ after allowed bytes
  have context := @handlerSignMsg_context target frontEnd env cdata admitted
  have display := @handlerSignMsg_of_admitted target frontEnd env cdata admitted
  rw [handled] at message context display
  simp only at message context
  rw [← context] at display
  have opened : (uiDisplayMessage frontEnd env ctx).2 = [.review review] :=
    (congrArg Prod.snd display).symm
  have path : ctx.path = (messageReads cdata).payload.path := by
    rw [context]
    exact GlobalCtx.path_withPath _ _
  obtain ⟨bip32Path, text, formatted, rfl⟩ := uiDisplayMessage_path opened
  have shown := uiDisplayMessage_text opened
  rw [path] at formatted
  rw [message] at shown
  exact ⟨allowed, ⟨bip32Path, formatted, by rw [shown]⟩, path, message⟩

-----------------------------------------------------------------------------------------
-- The signature of a payload
-----------------------------------------------------------------------------------------

/-- The step approves the review of a payload that the command of the opening step carried, and
signs the hash of its message with the key of its path.
-/
structure SignsPayload (frontEnd : FrontEnd) (opening step : Step target)
    (payload : MessagePayload) (signature : Bytes maxDerSigLen) (messageHash : Bytes 32)
    : Prop where
  asked
    : ∃ cmd,
        opening.action.input = .apdu cmd
        ∧ cmd.request = .signMessage
        ∧ payload.serialize <+: cmd.data
  allowed : payload.Allowed target
  shown
    : ∃ bip32Path,
        opening.action.env.bip32PathFormat payload.path 60 = some bip32Path
        ∧ opening.output
          = [.review (.message bip32Path
              (messageText (messageDestLen target frontEnd) payload.message))]
  approved : step.action.input = .decision true
  hashed : messageHash = payload.hash step.action.env
  signed : payload.sign step.action.env = (cxOk, signature)

theorem Request.eq_signMessage_of_reviewed {request : Request}
    (reviewed : request.reviewed = some .confirmMessage)
    : request = .signMessage :=
  Option.some.inj (@Request.eq_signMessage (some request) reviewed)

/-- The review that a decision finds is the one of the only payload that its command carried. -/
theorem Decides.carries {opening : Step target} {cmd : Command} {choice : Bool}
    (decides : Decides opening step frontEnd cmd review choice)
    (request : cmd.request = .signMessage)
    : ∃ payload : MessagePayload,
        payload.serialize <+: cmd.data
        ∧ ReviewsPayload frontEnd opening.action.env payload review step.before.ctx
        ∧ ∀ other : MessagePayload,
            other.Allowed target → other.serialize <+: cmd.data → other = payload := by
  have handled := decides.handled
  rw [request] at handled
  obtain ⟨-, after, bytes⟩ := (admitted_of_review handled).payload
  refine ⟨_, ⟨after, ?_⟩, reviewsPayload_of_handled handled, ?_⟩
  · rw [← bytes, Command.rest_buffer]
  · rintro other allowed ⟨behind, carried⟩
    rw [← Command.rest_buffer opening.action.env cmd] at carried
    exact (admitted_of_serialize allowed carried.symm).2.symm

/-- The approval of a payload's review makes the call that signs the payload, and sends its
signature or its error.
-/
theorem validateMessage_output (reviews : ReviewsPayload frontEnd env payload review ctx)
    (deciding : Env)
    : (validateMessage deciding ctx true).2
      = if (payload.sign deciding).1 = cxOk then
          [.reply (.personalMessageSig (payload.sign deciding).2 (payload.hash deciding))]
        else
          ioSendSw (payload.sign deciding).1.toUInt16 := by
  have hashed : messageHash deciding ctx = some (payload.hash deciding) := by
    rw [messageHash, reviews.message]
    exact hashPersonalMessage_eq _ _ _ (Nat.le_refl 32)
  have call : messageSignature deciding ctx (payload.hash deciding) = payload.sign deciding := by
    rw [messageSignature, messageKey, reviews.path, MessagePayload.sign]
  rw [← call]
  by_cases ok : (messageSignature deciding ctx (payload.hash deciding)).1 = cxOk
  · rw [if_pos ok]
    exact (validateMessage_signature hashed ok).1
  · rw [if_neg ok]
    exact validateMessage_word hashed ok

/-- The only signature that the approval can send is the one of the payload. -/
theorem validateMessage_sends_iff (reviews : ReviewsPayload frontEnd env payload review ctx)
    (deciding : Env) (signature : Bytes maxDerSigLen) (messageHash : Bytes 32)
    : Effect.reply (.personalMessageSig signature messageHash)
          ∈ (validateMessage deciding ctx true).2
        ↔ messageHash = payload.hash deciding ∧ payload.sign deciding = (cxOk, signature) := by
  rw [validateMessage_output reviews]
  rcases payload.sign deciding with ⟨error, sent⟩
  by_cases ok : error = cxOk
  · simp [ok, and_comm, eq_comm]
  · simp [ok, ioSendSw]

/-- A step that sends the signature of a message approves the review that the last command has
opened.
-/
theorem approves_of_messageSignature (run : (machine target frontEnd).Run history step.before)
    (taken : (machine target frontEnd).Takes step) {signature : Bytes maxDerSigLen}
    {messageHash : Bytes 32}
    (sent : Effect.reply (.personalMessageSig signature messageHash) ∈ step.output)
    : step.action.input = .decision true
      ∧ ∃ opening before cmd review,
          history = opening :: before
          ∧ Decides opening step frontEnd cmd review true
          ∧ cmd.request = .signMessage := by
  have sends : sentMessageSigs step ≠ [] :=
    List.ne_nil_of_mem (List.mem_filter.mpr ⟨sent, rfl⟩)
  obtain ⟨path, text, -, waits, approved, -, -⟩ :=
    messageDecided_of_sent (transition_of_takes taken) sends
  obtain ⟨opening, before, cmd, review, rfl, decides⟩ := decides_of_run run taken approved
  obtain rfl := Option.some.inj (decides.pending.symm.trans waits)
  exact ⟨approved, opening, before, cmd, _, rfl, decides,
    Request.eq_signMessage_of_reviewed decides.reviewed⟩

/-- The step sends the signature of a message exactly if it signs a payload of the step before.
-/
def MessageSignatureExplained (frontEnd : FrontEnd) (earlier : List (Step target))
    (step : Step target)
    : Prop :=
  ∀ signature messageHash,
    Effect.reply (.personalMessageSig signature messageHash) ∈ step.output
    ↔ ∃ opening before payload,
        earlier = opening :: before
        ∧ SignsPayload frontEnd opening step payload signature messageHash

theorem messageSignatureExplained_of_run
    (run : (machine target frontEnd).Run history step.before)
    (taken : (machine target frontEnd).Takes step)
    : MessageSignatureExplained frontEnd history step := by
  intro signature messageHash
  constructor
  · intro sent
    obtain ⟨approved, opening, before, cmd, review, rfl, decides, request⟩ :=
      approves_of_messageSignature run taken sent
    obtain ⟨payload, carried, reviews, -⟩ := decides.carries request
    obtain ⟨bip32Path, formatted, rfl⟩ := reviews.shown
    have callback : (validateMessage step.action.env step.before.ctx true).2 = step.output :=
      congrArg Prod.snd decides.decided
    rw [← callback, validateMessage_sends_iff reviews] at sent
    refine ⟨opening, before, payload, rfl, ?_⟩
    exact ⟨⟨cmd, decides.asked, request, carried⟩, reviews.allowed,
      ⟨bip32Path, formatted, decides.opened⟩, approved, sent.1, sent.2⟩
  · rintro ⟨opening, before, payload, rfl, signs⟩
    obtain ⟨_, _, cmd, review, same, decides⟩ := decides_of_run run taken signs.approved
    obtain ⟨rfl, rfl⟩ := List.cons.inj same
    obtain ⟨other, asked, request, carried⟩ := signs.asked
    obtain rfl : other = cmd := Input.apdu.inj (asked.symm.trans decides.asked)
    obtain ⟨found, -, reviews, unique⟩ := decides.carries request
    obtain rfl := unique payload signs.allowed carried
    obtain ⟨bip32Path, -, rfl⟩ := reviews.shown
    have callback : (validateMessage step.action.env step.before.ctx true).2 = step.output :=
      congrArg Prod.snd decides.decided
    rw [← callback, validateMessage_sends_iff reviews]
    exact ⟨signs.hashed, signs.signed⟩

/-- In every run, a step sends the signature of a message exactly if it approves the review of a
payload that the command of the step before it carried, and the signing call succeeds with the hash
of the payload's message and the key of its path.
-/
theorem messageSignatures_explained (run : (machine target frontEnd).Run history device)
    : Throughout (MessageSignatureExplained frontEnd) history :=
  run.throughout (fun _ _ => True) trivial fun run _ taken =>
    ⟨trivial, messageSignatureExplained_of_run run taken⟩

/-- The greeting is signed and explained. -/
theorem messageSignatures_explained_sample
    : ∃ (history : List (Step .nanos)) (device : Device .nanos),
        (machine .nanos .bagl).Run history device
        ∧ (history.flatMap sentMessageSigs).length = 1
        ∧ Throughout (MessageSignatureExplained .bagl) history := by
  obtain ⟨history, device, run, signed⟩ :=
    (machine .nanos .bagl).exists_run
      [⟨.succeeding, .apdu (messageCommand greeting)⟩, ⟨.succeeding, .decision true⟩]
      (fun history _ => (history.flatMap sentMessageSigs).length = 1) (by decide +kernel)
  exact ⟨history, device, run, signed, messageSignatures_explained run⟩

-----------------------------------------------------------------------------------------
-- The exchange of a payload
-----------------------------------------------------------------------------------------

/-- An allowed payload opens its review where its path can be formatted. -/
theorem handlerSignMsg_reviews {after bip32Path : List UInt8} (allowed : payload.Allowed target)
    (bytes : cdata.rest = payload.serialize ++ after)
    (formatted : env.bip32PathFormat payload.path 60 = some bip32Path)
    : ∃ ctx : GlobalCtx target,
        handlerSignMsg frontEnd env cdata
        = (ctx,
            [.review (.message bip32Path
              (messageText (messageDestLen target frontEnd) payload.message))]) := by
  have message := @signedMessage_handlerSignMsg target frontEnd env cdata _ after allowed bytes
  obtain ⟨admitted, rfl⟩ := admitted_of_serialize allowed bytes
  rw [handlerSignMsg_context admitted] at message
  have path
      : (messageSession target (messageReads cdata).info (messageReads cdata).message).path
        = (messageReads cdata).payload.path :=
    GlobalCtx.path_withPath _ _
  rw [← path] at formatted
  have display := @uiDisplayMessage_opens target frontEnd env _ bip32Path rfl rfl formatted
  rw [← handlerSignMsg_of_admitted admitted, message] at display
  exact ⟨_, display⟩

/-- Whatever the device did before, an allowed payload is reviewed, and the approval of the review
is answered with bytes in which the client finds the hash of the message and the signature of this
hash by the key of the payload's path.
-/
theorem messageExchanged (history : List (Step target)) {device : Device target}
    (idle : device.pending = none) {payload : MessagePayload} (allowed : payload.Allowed target)
    {ask approval : Action} (asks : ask.input = .apdu (messageCommand payload))
    {bip32Path : List UInt8}
    (formatted : ask.env.bip32PathFormat payload.path 60 = some bip32Path)
    (approves : approval.input = .decision true) {signature : Bytes maxDerSigLen}
    (signed : payload.sign approval.env = (cxOk, signature))
    : ∃ (opening deciding : Step target) (final : Device target) (reply : Reply),
        (machine target frontEnd).play history device [ask, approval]
          = some (deciding :: opening :: history, final)
        ∧ final.pending = none
        ∧ opening.output
          = [.review (.message bip32Path
              (messageText (messageDestLen target frontEnd) payload.message))]
        ∧ deciding.output = [.reply reply]
        ∧ reply.rapdu.status = swOk
        ∧ unpackSignMessageResponse reply.rapdu.data
          = some {
              derSigLen := 64
              derSig := signature.toList
              mhashLen := 32
              mhash := (payload.hash approval.env).toList } := by
  obtain ⟨before, pending⟩ := device
  simp only at idle
  subst idle
  have bytes : ((messageCommand payload).buffer ask.env).rest = payload.serialize ++ [] := by
    rw [Command.rest_buffer, List.append_nil]
    rfl
  obtain ⟨ctx, handled⟩ :=
    @handlerSignMsg_reviews target frontEnd ask.env _ payload [] bip32Path allowed bytes formatted
  have reviews := reviewsPayload_of_handled handled
  rw [(admitted_of_serialize allowed bytes).2] at reviews
  have opened := @step_of_handled target frontEnd before _ ask ctx _ asks handled
  have sent := validateMessage_output reviews approval.env
  rw [signed, if_pos rfl] at sent
  have callback
      : decisionCallback approval.env
            (.message bip32Path (messageText (messageDestLen target frontEnd) payload.message)) true
            ctx
          = ((validateMessage approval.env ctx true).1,
              [.reply (.personalMessageSig signature (payload.hash approval.env))]) := by
    rw [← sent]
    rfl
  have decided := @step_of_decided target frontEnd _ _ _ approval true _ approves callback
  exact ⟨_, _, _, _, Machine.play_pair opened decided, rfl, rfl, rfl, rfl,
    unpack_personalMessageSig _ _⟩

theorem messageExchanged_sample
    : ∃ (opening deciding : Step .stax) (final : Device .stax) (reply : Reply),
        (machine .stax .nbgl).play [] (machine .stax .nbgl).initial
            [⟨.succeeding, .apdu (messageCommand greeting)⟩, ⟨.succeeding, .decision true⟩]
          = some ([deciding, opening], final)
        ∧ deciding.output = [.reply reply]
        ∧ (unpackSignMessageResponse reply.rapdu.data).isSome = true := by
  obtain ⟨opening, deciding, final, reply, played, -, -, output, -, unpacked⟩ :=
    @messageExchanged .stax .nbgl [] (machine .stax .nbgl).initial rfl greeting
      (allowed_greeting .stax) ⟨.succeeding, .apdu (messageCommand greeting)⟩
      ⟨.succeeding, .decision true⟩ rfl [0x6d] rfl rfl _ rfl
  exact ⟨opening, deciding, final, reply, played, output, by rw [unpacked]; rfl⟩

end KaspaApp
