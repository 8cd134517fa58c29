import KaspaApp.Session.Events
import KaspaApp.Wire.Payloads
import KaspaApp.Wire.Responses

/-! The command that a reply answers is the last one that the device has taken. A client that
chooses the unpacker by the command it has sent last gets back the fields of the reply.
-/

namespace KaspaApp

open Histories

variable {target : Target} {frontEnd : FrontEnd} {env : Env} {history : List (Step target)}
  {device : Device target} {step : Step target}

def Input.command : Input → Option Command
  | .apdu cmd => some cmd
  | .badLength | .decision _ => none

/-- The last command that was handed to the dispatcher. -/
def lastCommand (history : List (Step target)) : Option Command :=
  history.findSome? fun step => step.action.input.command

-----------------------------------------------------------------------------------------
-- Decisions
-----------------------------------------------------------------------------------------

/-- The step decides the review that the command of the step before it has opened. -/
structure Decides (opening step : Step target) (frontEnd : FrontEnd) (cmd : Command)
    (review : Review) (choice : Bool)
    : Prop where
  asked : opening.action.input = .apdu cmd
  idle : opening.before.pending = none
  handled
    : handleRequest frontEnd opening.action.env cmd.request (cmd.buffer opening.action.env)
        opening.before.ctx
      = (step.before.ctx, [.review review])
  opened : opening.output = [.review review]
  reviewed : cmd.request.reviewed = some review.session
  input : step.action.input = .decision choice
  pending : step.before.pending = some review
  decided
    : decisionCallback step.action.env review choice step.before.ctx
      = (step.after.ctx, step.output)

/-- A decision comes right behind the command that opened its review. -/
theorem decides_of_run (run : (machine target frontEnd).Run history step.before)
    (taken : (machine target frontEnd).Takes step) {choice : Bool}
    (input : step.action.input = .decision choice)
    : ∃ opening before cmd review,
        history = opening :: before ∧ Decides opening step frontEnd cmd review choice := by
  obtain ⟨review, waits⟩ : ∃ review, step.before.pending = some review := by
    cases pending : step.before.pending with
    | some review => exact ⟨review, rfl⟩
    | none =>
        have refused : (machine target frontEnd).step step.before step.action = none := by
          obtain ⟨⟨ctx, waiting⟩, ⟨env, action⟩, effects, after⟩ := step
          simp only at pending input
          subst pending input
          rfl
        exact absurd (refused.symm.trans taken) (Option.some_ne_none _).symm
  obtain ⟨opening, before, rfl, opened⟩ := (ordered_of_run run).opened review waits
  have openingTaken : (machine target frontEnd).Takes opening := by
    generalize step.before = device at run
    cases run with
    | next _ _ openingTaken => exact openingTaken
  obtain ⟨request, asked, reviewed⟩ := Option.bind_eq_some_iff.mp opened.request
  cases sent : opening.action.input with
  | badLength | decision => simp [Input.request, sent] at asked
  | apdu cmd =>
      obtain rfl : cmd.request = request := by simpa [Input.request, sent] using asked
      obtain ⟨idle, handled, -⟩ := handles_of_takes openingTaken sent
      rw [opened.output, opened.after] at handled
      exact ⟨opening, before, cmd, review, rfl, sent, idle, handled, opened.output, reviewed, input,
        waits, (decides_of_takes taken waits input).1⟩

/-- What the callback of the waiting review does is a step of the device. -/
theorem step_of_decided {ctx after : GlobalCtx target} {review : Review} {action : Action}
    {choice : Bool} {effects : List Effect} (input : action.input = .decision choice)
    (decided : decisionCallback action.env review choice ctx = (after, effects))
    : (machine target frontEnd).step ⟨ctx, some review⟩ action
      = some (⟨after, none⟩, effects) := by
  obtain ⟨env, _⟩ := action
  subst input
  simp only [machine, Device.step, decided]

/-- What is no APDU is refused. -/
theorem output_of_badLength (taken : (machine target frontEnd).Takes step)
    (input : step.action.input = .badLength)
    : step.output = ioSendSw swWrongDataLength := by
  obtain ⟨⟨ctx, pending⟩, ⟨env, action⟩, effects, after⟩ := step
  simp only at input
  subst input
  cases pending with
  | some review => simp [Machine.Takes, machine, Device.step] at taken
  | none =>
      simp only [Machine.Takes, machine, Device.step, Option.some.injEq, Prod.mk.injEq] at taken
      exact taken.2.symm

/-- A step answers the last command. -/
theorem Decides.lastCommand {opening : Step target} {cmd : Command} {review : Review}
    {choice : Bool} {before : List (Step target)}
    (decides : Decides opening step frontEnd cmd review choice)
    : lastCommand (step :: opening :: before) = some cmd := by
  simp [KaspaApp.lastCommand, decides.input, decides.asked, Input.command]

-----------------------------------------------------------------------------------------
-- Unpacking by the last command
-----------------------------------------------------------------------------------------

/-- What a client makes of the data that a command was answered with. -/
inductive ClientAnswer where
  | version (major minor patch : Nat)
  | appName (text : List UInt8)
  | publicKey (unpacked : UnpackedPublicKey)
  | sig (unpacked : UnpackedSig)
  | messageSig (unpacked : UnpackedMessageSig)
deriving DecidableEq

/-- The unpacker of each request. The other ones are answered with a status word. -/
def Request.unpack (request : Request) (data : List UInt8) : Option ClientAnswer :=
  match request with
  | .getVersion =>
      (unpackGetVersionResponse data).map fun (major, minor, patch) => .version major minor patch
  | .getAppName => (unpackGetAppNameResponse data).map .appName
  | .getPublicKey _ => (unpackGetPublicKeyResponse data).map .publicKey
  | .input false | .nextSignature => (unpackSignTxResponse data).map .sig
  | .signMessage => (unpackSignMessageResponse data).map .messageSig
  | .refused _ | .header | .output | .input true => none

/-- The fields of a reply that carries data. -/
def Reply.contents : Reply → Option ClientAnswer
  | .sw _ => none
  | .version => some (.version 1 0 3)
  | .appName => some (.appName appNameText)
  | .pubkey rawPublicKey chainCode =>
      some (.publicKey {
        pubKeyLen := 65
        pubKey := 0x04 :: rawPublicKey.toList
        chainCodeLen := 32
        chainCode := chainCode.toList })
  | .sig hasMore inputIndex signature sighash =>
      some (.sig {
        hasMore := hasMore.toNat
        inputIndex := inputIndex.toNat
        derSigLen := 64
        derSig := signature.toList
        sighashLen := 32
        sighash := sighash.toList })
  | .personalMessageSig signature messageHash =>
      some (.messageSig {
        derSigLen := 64
        derSig := signature.toList
        mhashLen := 32
        mhash := messageHash.toList })

/-- The unpacker of the request finds the fields of each reply that carries any. -/
def Request.Understands (request : Request) (effects : List Effect) : Prop :=
  ∀ reply answer,
    Effect.reply reply ∈ effects
    → reply.contents = some answer
    → request.unpack reply.rapdu.data = some answer

theorem understands_sw (request : Request) (code : UInt16)
    : request.Understands (ioSendSw code) := by
  intro reply answer member contents
  obtain rfl : reply = .sw code := by simpa [ioSendSw] using member
  exact absurd contents.symm (Option.some_ne_none answer)

theorem understands_review (request : Request) (review : Review)
    : request.Understands [.review review] := by
  intro reply answer member
  simp at member

theorem understands_check {request : Request} {check : Prop} [Decidable check]
    {refused passed : GlobalCtx target × List Effect} (refuse : request.Understands refused.2)
    (pass : request.Understands passed.2)
    : request.Understands (if check then refused else passed).2 := by
  by_cases checked : check
  · rwa [if_pos checked]
  · rwa [if_neg checked]

theorem understands_reply {request : Request} {reply : Reply}
    (unpacked
      : ∀ answer, reply.contents = some answer → request.unpack reply.rapdu.data = some answer)
    : request.Understands [.reply reply] := by
  intro other answer member contents
  obtain rfl : other = reply := by simpa using member
  exact unpacked answer contents

theorem understands_pubkey (display : Bool) (ctx : GlobalCtx target)
    : (Request.getPublicKey display).Understands (helperSendResponsePubkey ctx) := by
  refine understands_reply fun answer contents => ?_
  rw [Request.unpack, unpack_pubkey, ← contents]
  rfl

theorem understands_sig {request : Request}
    (signing : request = .input false ∨ request = .nextSignature) (ctx : GlobalCtx target)
    : request.Understands (helperSendResponseSig ctx) := by
  refine understands_reply fun answer contents => ?_
  have unpacked := unpack_sig
    (ctx.txInfo.transaction.txInputLen - ctx.txInfo.signingInputIndex.toUInt32 - 1).toUInt8
    ctx.txInfo.signingInputIndex ctx.txInfo.signature ctx.txInfo.sighash
  rcases signing with rfl | rfl
  · rw [Request.unpack, unpacked, ← contents]
    rfl
  · rw [Request.unpack, unpacked, ← contents]
    rfl

theorem understands_messageSig (ctx : GlobalCtx target)
    : Request.signMessage.Understands (helperSendResponsePersonalMessageSig ctx) := by
  refine understands_reply fun answer contents => ?_
  rw [Request.unpack, unpack_personalMessageSig, ← contents]
  rfl

theorem understands_signInputAndSend {request : Request}
    (signing : request = .input false ∨ request = .nextSignature) (env : Env)
    (ctx : GlobalCtx target)
    : request.Understands (signInputAndSend env ctx).2 := by
  rw [signInputAndSend]
  exact understands_check (understands_sw _ _) (understands_sig signing _)

theorem understands_uiDisplayTransaction (request : Request) (env : Env) (ctx : GlobalCtx target)
    : request.Understands (uiDisplayTransaction env ctx).2 := by
  unfold uiDisplayTransaction
  refine understands_check (understands_sw _ _) ?_
  simp only
  split
  · exact understands_sw _ _
  split
  · exact understands_sw _ _
  · exact understands_review _ _

theorem understands_handlerSignTxParsed (request : Request) (env : Env) (ctx : GlobalCtx target)
    (more : Bool)
    : request.Understands (handlerSignTxParsed env ctx more).2 := by
  unfold handlerSignTxParsed
  refine understands_check (understands_sw _ _) ?_
  simp only
  exact understands_check (understands_sw _ _) (understands_uiDisplayTransaction _ _ _)

theorem understands_uiDisplayAddress (request : Request) (env : Env) (ctx : GlobalCtx target)
    : request.Understands (uiDisplayAddress frontEnd env ctx).2 := by
  unfold uiDisplayAddress
  refine understands_check (understands_sw _ _) ?_
  split
  · exact understands_sw _ _
  simp only
  split
  · exact understands_sw _ _
  · exact understands_review _ _

theorem understands_uiDisplayMessage (request : Request) (env : Env) (ctx : GlobalCtx target)
    : request.Understands (uiDisplayMessage frontEnd env ctx).2 := by
  unfold uiDisplayMessage
  refine understands_check (understands_sw _ _) ?_
  split
  · exact understands_sw _ _
  · exact understands_review _ _

/-- Each handler answers for its own request. -/
theorem understands_handleRequest (env : Env) (request : Request) (cdata : Buffer)
    (ctx : GlobalCtx target)
    : request.Understands (handleRequest frontEnd env request cdata ctx).2 := by
  cases request with
  | refused code => exact understands_sw _ _
  | getVersion =>
      refine understands_reply fun answer contents => ?_
      rw [Request.unpack, unpack_version, ← contents, Reply.contents, Option.map_some]
  | getAppName =>
      refine understands_reply fun answer contents => ?_
      rw [Request.unpack, unpack_appName, ← contents, Reply.contents, Option.map_some]
  | getPublicKey display =>
      simp only [handleRequest, handlerGetPublicKey]
      iterate 6 refine understands_check (understands_sw _ _) ?_
      exact understands_check (understands_uiDisplayAddress _ _ _) (understands_pubkey _ _)
  | header => exact understands_check (understands_sw _ _) (understands_sw _ _)
  | output =>
      refine understands_check (understands_sw _ _) ?_
      simp only [handlerSignTxOutput]
      iterate 2 refine understands_check (understands_sw _ _) ?_
      exact understands_handlerSignTxParsed _ _ _ _
  | input more =>
      refine understands_check (understands_sw _ _) ?_
      simp only [handlerSignTxInput]
      iterate 2 refine understands_check (understands_sw _ _) ?_
      exact understands_handlerSignTxParsed _ _ _ _
  | nextSignature =>
      exact understands_check (understands_sw _ _)
        (understands_signInputAndSend (Or.inr rfl) _ _)
  | signMessage =>
      simp only [handleRequest, handlerSignMsg]
      iterate 10 refine understands_check (understands_sw _ _) ?_
      exact understands_uiDisplayMessage _ _ _

/-- A decision answers for the request that opened the review. -/
theorem understands_decisionCallback {request : Request} {review : Review}
    (reviewed : request.reviewed = some review.session) (env : Env) (choice : Bool)
    (ctx : GlobalCtx target)
    : request.Understands (decisionCallback env review choice ctx).2 := by
  cases request with
  | refused | getVersion | getAppName | header | output | nextSignature => cases reviewed
  | getPublicKey display =>
      cases review with
      | transaction | message => cases reviewed
      | address path address =>
          exact understands_check (understands_pubkey _ _) (understands_sw _ _)
  | input more =>
      cases more with
      | true => cases reviewed
      | false =>
          cases review with
          | address | message => cases reviewed
          | transaction amount fees address =>
              exact understands_check (understands_signInputAndSend (Or.inl rfl) _ _)
                (understands_sw _ _)
  | signMessage =>
      cases review with
      | address | transaction => cases reviewed
      | message path text =>
          refine understands_check ?_ (understands_sw _ _)
          exact understands_check (understands_sw _ _) (understands_messageSig _)

/-- Where the step carries data, its unpacker as the answer to the last command finds the fields.
-/
def RepliesUnderstood (earlier : List (Step target)) (step : Step target) : Prop :=
  ∀ reply answer,
    Effect.reply reply ∈ step.output
    → reply.contents = some answer
    → ∃ cmd,
        lastCommand (step :: earlier) = some cmd
        ∧ cmd.request.unpack reply.rapdu.data = some answer

/-- In every run, a client that unpacks the data of a reply as the answer to the last command gets
the fields of the reply, byte for byte.
-/
theorem replies_understood (run : (machine target frontEnd).Run history device)
    : Throughout RepliesUnderstood history := by
  refine run.throughout (fun _ _ => True) trivial fun {earlier step} run _ taken => ⟨trivial, ?_⟩
  intro reply answer member contents
  cases input : step.action.input with
  | badLength =>
      rw [output_of_badLength taken input] at member
      exact absurd (understands_sw .header swWrongDataLength reply answer member contents) nofun
  | apdu cmd =>
      obtain ⟨-, handled, -⟩ := handles_of_takes taken input
      have understands := @understands_handleRequest target frontEnd step.action.env cmd.request
        (cmd.buffer step.action.env) step.before.ctx
      rw [handled] at understands
      refine ⟨cmd, ?_, understands reply answer member contents⟩
      simp [lastCommand, input, Input.command]
  | decision choice =>
      obtain ⟨opening, before, cmd, review, rfl, decides⟩ := decides_of_run run taken input
      have understands := @understands_decisionCallback target cmd.request review decides.reviewed
        step.action.env choice step.before.ctx
      rw [decides.decided] at understands
      exact ⟨cmd, decides.lastCommand, understands reply answer member contents⟩

/-- A session whose first signature answers the last input. -/
theorem replies_understood_sample
    : ∃ (history : List (Step .nanos)) (device : Device .nanos),
        (machine .nanos .bagl).Run history device
        ∧ (history.flatMap sentSigs).length = 1
        ∧ Throughout RepliesUnderstood history := by
  obtain ⟨history, device, run, signed⟩ :=
    (machine .nanos .bagl).exists_run
      ((decidedSession true (plainHeader 1 1) [plainOutput 4] [] (plainInput 5)).map
        fun input => Action.mk .succeeding input)
      (fun history _ => (history.flatMap sentSigs).length = 1) (by decide +kernel)
  exact ⟨history, device, run, signed, replies_understood run⟩

end KaspaApp
