import KaspaApp.Hashing.Preimages
import KaspaApp.Session.SigningFailures
import KaspaApp.Session.SigningSession

/-! The indices that a step uses on `tx_inputs` and `tx_outputs`, function by function. They are
all the step depends on: its result is the same for any memory behind the arrays that agrees on
the indices it uses.
-/

namespace KaspaApp

variable {target : Target} {frontEnd : FrontEnd} {env : Env} {ctx : GlobalCtx target}
  {other : AccessSite → Stray}

/-- A use of an index on one of the two arrays of a transaction. -/
inductive Access where
  | input (index : Nat)
  | output (index : Nat)
deriving DecidableEq

/-- The index lies inside its array. -/
def Access.Inside (target : Target) : Access → Prop
  | .input index => index < target.maxInputCount
  | .output index => index < maxOutputCount

instance (target : Target) (access : Access) : Decidable (access.Inside target) := by
  cases access <;> unfold Access.Inside <;> infer_instance

/-- The loops over `tx_input_len` and `tx_output_len`: the totals of the validation, `calc_fees`
and the nested hashes.
-/
def Transaction.declaredAccesses (tx : Transaction target) : List Access :=
  (List.range tx.txInputLen.toNat).map .input ++ (List.range tx.txOutputLen.toNat).map .output

/-- The checks of `tx_validate_parsed_transaction` in front of the totals. -/
structure ReachesTotals (env : Env) (ctx : GlobalCtx target) : Prop where
  outputsLe : ctx.txInfo.transaction.txOutputLen ≤ 2
  outputsPos : 1 ≤ ctx.txInfo.transaction.txOutputLen
  inputsPos : 1 ≤ ctx.txInfo.transaction.txInputLen
  change : ChangeChecked env ctx

instance (env : Env) (ctx : GlobalCtx target) : Decidable (ReachesTotals env ctx) :=
  decidable_of_iff
    (ctx.txInfo.transaction.txOutputLen ≤ 2
      ∧ 1 ≤ ctx.txInfo.transaction.txOutputLen
      ∧ 1 ≤ ctx.txInfo.transaction.txInputLen
      ∧ ChangeChecked env ctx)
    ⟨fun ⟨outputsLe, outputsPos, inputsPos, change⟩ => ⟨outputsLe, outputsPos, inputsPos, change⟩,
      fun reaches =>
        ⟨reaches.outputsLe, reaches.outputsPos, reaches.inputsPos, reaches.change⟩⟩

/-- The accesses of `tx_validate_parsed_transaction`: the change output and the totals. -/
def txValidateAccesses (env : Env) (ctx : GlobalCtx target) : List Access :=
  let tx := ctx.txInfo.transaction
  (if tx.txOutputLen = 2 ∧ 1 ≤ tx.txInputLen then [.output 1] else [])
  ++ (if ReachesTotals env ctx then tx.declaredAccesses else [])

/-- The accesses of `ui_display_transaction`: the first output and, in `calc_fees`, all. -/
def uiDisplayAccesses (env : Env) (ctx : GlobalCtx target) : List Access :=
  let tx := ctx.txInfo.transaction
  let amount := (tx.output (env.stray .uiDisplay) 0).value
  if ctx.reqType ≠ .confirmTransaction ∨ ctx.state ≠ .stateParsed then []
  else
    [.output 0]
    ++ (if (env.formatFpu64Trimmed 30 amount exponentSmallestUnit).isSome then tx.declaredAccesses
      else [])

/-- The accesses of `crypto_sign_transaction`: the input that is signed and, in `calc_sighash`,
all inputs and outputs.
-/
def cryptoSignAccesses (env : Env) (ctx : GlobalCtx target) : List Access :=
  [.input ctx.txInfo.signingInputIndex.toNat]
  ++ (if (transactionKey env ctx).1 = cxOk ∧ (transactionKeyPair env ctx).1 = cxOk then
      ctx.txInfo.transaction.declaredAccesses
    else
      [])

/-- The accesses of `handler_sign_tx` after an input was parsed. -/
def parsedAccesses (env : Env) (ctx : GlobalCtx target) (more : Bool) : List Access :=
  if more then []
  else
    let (ok, checked) := txValidateParsedTransaction env ctx
    txValidateAccesses env ctx
    ++ (if ok then uiDisplayAccesses env (checked.withState .stateParsed) else [])

/-- The accesses of the handler of a request. -/
def requestAccesses (env : Env) (request : Request) (cdata : Buffer) (ctx : GlobalCtx target)
    : List Access :=
  match request with
  | .output =>
      if OutputAdmitted ctx then [.output ctx.txInfo.parsingOutputIndex.toNat] else []
  | .input more =>
      if InputAdmitted ctx then
        let (err, txin) := parsedInput env cdata ctx
        [.input ctx.txInfo.parsingInputIndex.toNat]
        ++ (if err = .parsingOk then parsedAccesses env (ctx.acceptInput txin) more else [])
      else
        []
  | .nextSignature => if SigningAdmitted ctx then cryptoSignAccesses env ctx else []
  | _ => []

/-- The accesses of a step of the device. -/
def Device.accesses (device : Device target) (action : Action) : List Access :=
  match device.pending, action.input with
  | none, .apdu cmd =>
      requestAccesses action.env cmd.request (cmd.buffer action.env) device.ctx
  | some (.transaction _ _ _), .decision true =>
      cryptoSignAccesses action.env (device.ctx.withState .stateApproved)
  | _, _ => []

/-- The environment with other memory behind the arrays. -/
def Env.withStray (env : Env) (stray : AccessSite → Stray) : Env := { env with stray := stray }

section

variable (env : Env) (stray : AccessSite → Stray)

@[simp] theorem Env.stray_withStray : (env.withStray stray).stray = stray := rfl

@[simp] theorem Env.blake2b_withStray : (env.withStray stray).blake2b = env.blake2b := rfl

@[simp] theorem Env.formatFpu64Trimmed_withStray
    : (env.withStray stray).formatFpu64Trimmed = env.formatFpu64Trimmed :=
  rfl

@[simp] theorem Env.bip32DeriveInitPrivkey256_withStray
    : (env.withStray stray).bip32DeriveInitPrivkey256 = env.bip32DeriveInitPrivkey256 :=
  rfl

@[simp] theorem Env.cxEcfpGeneratePairNoThrow_withStray
    : (env.withStray stray).cxEcfpGeneratePairNoThrow = env.cxEcfpGeneratePairNoThrow :=
  rfl

@[simp] theorem Env.cxEcschnorrSignNoThrow_withStray
    : (env.withStray stray).cxEcschnorrSignNoThrow = env.cxEcschnorrSignNoThrow :=
  rfl

@[simp] theorem cryptoValidatePublicKey_withStray
    : cryptoValidatePublicKey (env.withStray stray) = cryptoValidatePublicKey env :=
  rfl

end

/-- Two memories hold the same behind the array at an index past its end. -/
def Access.Agrees (target : Target) (left right : Stray) : Access → Prop
  | .input index => target.maxInputCount ≤ index → left.inputs index = right.inputs index
  | .output index => maxOutputCount ≤ index → left.outputs index = right.outputs index

/-- At every site, the memories agree on the given accesses and behind the scripts. -/
structure AgreesOn (target : Target) (accesses : List Access) (left right : AccessSite → Stray)
    : Prop where
  agrees : ∀ site, ∀ access ∈ accesses, access.Agrees target (left site) (right site)
  script : ∀ site, (left site).script = (right site).script

section

variable {accesses more : List Access} {first second : AccessSite → Stray}

theorem AgreesOn.mono (agreesOn : AgreesOn target accesses first second)
    (fewer : ∀ access ∈ more, access ∈ accesses)
    : AgreesOn target more first second :=
  ⟨fun site access member => agreesOn.agrees site access (fewer access member), agreesOn.script⟩

theorem AgreesOn.left (agreesOn : AgreesOn target (accesses ++ more) first second)
    : AgreesOn target accesses first second :=
  agreesOn.mono fun _ => List.mem_append_left _

theorem AgreesOn.right (agreesOn : AgreesOn target (accesses ++ more) first second)
    : AgreesOn target more first second :=
  agreesOn.mono fun _ => List.mem_append_right _

/-- Accesses inside the arrays do not depend on the memory behind them. -/
theorem agreesOn_of_inside (inside : ∀ access ∈ accesses, access.Inside target)
    (script : ∀ site, (first site).script = (second site).script)
    : AgreesOn target accesses first second := by
  refine ⟨fun site access member => ?_, script⟩
  have bound := inside access member
  cases access with
  | input index => exact fun past => absurd bound (Nat.not_lt.mpr past)
  | output index => exact fun past => absurd bound (Nat.not_lt.mpr past)

end

section

variable {left right : Stray} (tx : Transaction target)

theorem Transaction.input_congr {index : Nat}
    (agrees : Access.Agrees target left right (.input index))
    : tx.input left index = tx.input right index :=
  Memory.read_congr tx.txInputs agrees

theorem Transaction.output_congr {index : Nat}
    (agrees : Access.Agrees target left right (.output index))
    : tx.output left index = tx.output right index :=
  Memory.read_congr tx.txOutputs agrees

/-- The loops visit the same inputs and outputs. -/
theorem Transaction.visited_congr
    (agrees : ∀ access ∈ tx.declaredAccesses, access.Agrees target left right)
    : tx.visitedInputs left = tx.visitedInputs right
      ∧ tx.visitedOutputs left = tx.visitedOutputs right := by
  constructor
  · apply List.map_congr_left
    intro index member
    apply tx.input_congr
    exact agrees _ (List.mem_append_left _ (List.mem_map_of_mem member))
  · apply List.map_congr_left
    intro index member
    apply tx.output_congr
    exact agrees _ (List.mem_append_right _ (List.mem_map_of_mem member))

end

/-- The totals are sums over the visited inputs and outputs. -/
theorem Transaction.totals_eq (tx : Transaction target) (stray : Stray)
    : tx.wrappedInputs stray
        = (tx.visitedInputs stray).foldl (fun total txin => total + txin.value) 0
      ∧ tx.wrappedOutputs stray
        = (tx.visitedOutputs stray).foldl (fun total txout => total + txout.value) 0 := by
  constructor
  · rw [visitedInputs, List.foldl_map]
    rfl
  · rw [visitedOutputs, List.foldl_map]
    rfl

theorem calcFees_eq (tx : Transaction target) (stray : Stray)
    : calcFees stray tx
      = (tx.visitedOutputs stray).foldl (fun fees txout => fees - txout.value)
          ((tx.visitedInputs stray).foldl (fun fees txin => fees + txin.value) 0) := by
  rw [Transaction.visitedInputs, Transaction.visitedOutputs, List.foldl_map, List.foldl_map]
  rfl

theorem Transaction.totals_congr (tx : Transaction target) {left right : Stray}
    (agrees : ∀ access ∈ tx.declaredAccesses, access.Agrees target left right)
    : tx.wrappedInputs left = tx.wrappedInputs right
      ∧ tx.wrappedOutputs left = tx.wrappedOutputs right
      ∧ calcFees left tx = calcFees right tx := by
  obtain ⟨inputs, outputs⟩ := tx.visited_congr agrees
  obtain ⟨leftInputs, leftOutputs⟩ := tx.totals_eq left
  obtain ⟨rightInputs, rightOutputs⟩ := tx.totals_eq right
  refine ⟨?_, ?_, ?_⟩
  · rw [leftInputs, rightInputs, inputs]
  · rw [leftOutputs, rightOutputs, outputs]
  · rw [calcFees_eq, calcFees_eq, inputs, outputs]

theorem txValidate_congr
    (agreesOn : AgreesOn target (txValidateAccesses env ctx) env.stray other)
    : txValidateParsedTransaction (env.withStray other) ctx
      = txValidateParsedTransaction env ctx := by
  unfold txValidateParsedTransaction
  simp only [Env.stray_withStray, cryptoValidatePublicKey_withStray]
  by_cases counts
      : ctx.txInfo.transaction.txOutputLen > 2 ∨ ctx.txInfo.transaction.txOutputLen < 1
  · simp only [if_pos counts]
  by_cases inputs : ctx.txInfo.transaction.txInputLen < 1
  · simp only [if_neg counts, if_pos inputs]
  simp only [if_neg counts, if_neg inputs]
  rw [not_or, gt_iff_lt, UInt32.not_lt, UInt32.not_lt] at counts
  rw [UInt32.not_lt] at inputs
  have totals (change : ChangeChecked env ctx)
      : ctx.txInfo.transaction.wrappedInputs (other .txValidate)
          = ctx.txInfo.transaction.wrappedInputs (env.stray .txValidate)
        ∧ ctx.txInfo.transaction.wrappedOutputs (other .txValidate)
          = ctx.txInfo.transaction.wrappedOutputs (env.stray .txValidate) := by
    have reached := agreesOn.right
    rw [if_pos ⟨counts.1, counts.2, inputs, change⟩] at reached
    obtain ⟨sameInputs, sameOutputs, -⟩ :=
      ctx.txInfo.transaction.totals_congr (reached.agrees .txValidate)
    exact ⟨sameInputs.symm, sameOutputs.symm⟩
  by_cases two : ctx.txInfo.transaction.txOutputLen = 2
  · have output
        : ctx.txInfo.transaction.output (other .txValidate) 1
          = ctx.txInfo.transaction.output (env.stray .txValidate) 1 := by
      have read := agreesOn.left
      rw [if_pos ⟨two, inputs⟩] at read
      exact (ctx.txInfo.transaction.output_congr
        (read.agrees .txValidate _ (List.mem_singleton.mpr rfl))).symm
    simp only [if_pos two, output]
    by_cases schnorr
        : getElem (ctx.txInfo.transaction.output (env.stray .txValidate) 1).scriptPublicKey 0
            zero_lt_bufferLen
          ≠ 0x20
    · simp only [if_pos schnorr, Bool.not_false, if_true]
    simp only [if_neg schnorr, GlobalCtx.path_withPath]
    cases key : cryptoValidatePublicKey env (changePath ctx).toList
        (changeKey (ctx.txInfo.transaction.output (env.stray .txValidate) 1)) with
    | false =>
        simp only [changePath, changeKey] at key
        simp only [key, Bool.not_false, if_true]
    | true =>
        obtain ⟨sameInputs, sameOutputs⟩ := totals fun _ => ⟨Decidable.not_not.mp schnorr, key⟩
        simp only [Transaction.wrappedInputs, Transaction.wrappedOutputs] at sameInputs sameOutputs
        simp only [sameInputs, sameOutputs]
  · obtain ⟨sameInputs, sameOutputs⟩ := totals fun declared => absurd declared two
    simp only [Transaction.wrappedInputs, Transaction.wrappedOutputs] at sameInputs sameOutputs
    simp only [if_neg two, sameInputs, sameOutputs]

theorem uiDisplayTransaction_congr
    (agreesOn : AgreesOn target (uiDisplayAccesses env ctx) env.stray other)
    : uiDisplayTransaction (env.withStray other) ctx = uiDisplayTransaction env ctx := by
  unfold uiDisplayTransaction
  by_cases closed : ctx.reqType ≠ .confirmTransaction ∨ ctx.state ≠ .stateParsed
  · rw [if_pos closed, if_pos closed]
  rw [uiDisplayAccesses, if_neg closed] at agreesOn
  have output
      : ctx.txInfo.transaction.output (other .uiDisplay) 0
        = ctx.txInfo.transaction.output (env.stray .uiDisplay) 0 :=
    (ctx.txInfo.transaction.output_congr
      (agreesOn.left.agrees .uiDisplay _ (List.mem_singleton.mpr rfl))).symm
  rw [if_neg closed, if_neg closed]
  simp only [Env.stray_withStray, Env.formatFpu64Trimmed_withStray, output]
  cases amount : env.formatFpu64Trimmed 30
      (ctx.txInfo.transaction.output (env.stray .uiDisplay) 0).value exponentSmallestUnit with
  | none => rfl
  | some text =>
      have loops := agreesOn.right
      simp only [amount, Option.isSome_some, if_true] at loops
      obtain ⟨-, -, fees⟩ := ctx.txInfo.transaction.totals_congr (loops.agrees .uiDisplay)
      rw [fees]

/-- `crypto_sign_transaction` derives its keys from the input it signs, and hashes the visited
inputs and outputs.
-/
theorem cryptoSignTransaction_congr
    (agreesOn : AgreesOn target (cryptoSignAccesses env ctx) env.stray other)
    : cryptoSignTransaction (env.withStray other) ctx = cryptoSignTransaction env ctx := by
  have signed (site : AccessSite)
      : ctx.txInfo.transaction.input (other site) ctx.txInfo.signingInputIndex.toNat
        = ctx.txInfo.transaction.input (env.stray site) ctx.txInfo.signingInputIndex.toNat :=
    (ctx.txInfo.transaction.input_congr
      (agreesOn.left.agrees site _ (List.mem_singleton.mpr rfl))).symm
  have path : signingPath (env.withStray other) ctx = signingPath env ctx := by
    simp only [signingPath, Env.stray_withStray, signed]
  have key : transactionKey (env.withStray other) ctx = transactionKey env ctx := by
    simp only [transactionKey, Env.bip32DeriveInitPrivkey256_withStray, path]
  have keyPair : transactionKeyPair (env.withStray other) ctx = transactionKeyPair env ctx := by
    simp only [transactionKeyPair, Env.cxEcfpGeneratePairNoThrow_withStray, key]
  have signature
      : transactionSignature (env.withStray other) ctx = transactionSignature env ctx := by
    funext sighash
    simp only [transactionSignature, Env.cxEcschnorrSignNoThrow_withStray, key]
  have hash (keys : (transactionKey env ctx).1 = cxOk ∧ (transactionKeyPair env ctx).1 = cxOk)
      : transactionHash (env.withStray other) ctx = transactionHash env ctx := by
    have loops := agreesOn.right
    rw [if_pos keys] at loops
    obtain ⟨inputs, outputs⟩ :=
      ctx.txInfo.transaction.visited_congr (loops.agrees .calcSighash)
    have committed
        : ctx.txInfo.transaction.committedOutputs (other .calcSighash)
          = ctx.txInfo.transaction.committedOutputs (env.stray .calcSighash) := by
      simp only [Transaction.committedOutputs, committedScript, outputs,
        agreesOn.script .calcSighash]
    simp only [transactionHash, Env.stray_withStray, Env.blake2b_withStray, keyPair, signed,
      calcSighash_eq _ _ _ _ _ _ (le_refl 32), inputs, committed]
  rw [cryptoSignTransaction_eq, cryptoSignTransaction_eq]
  rw [path, key, keyPair, signature]
  by_cases keys : (transactionKey env ctx).1 = cxOk ∧ (transactionKeyPair env ctx).1 = cxOk
  · rw [hash keys]
  · rw [not_and_or] at keys
    rcases keys with failed | failed
    · rw [if_pos failed, if_pos failed]
    · rw [if_pos failed, if_pos failed]

theorem signInputAndSend_congr
    (agreesOn : AgreesOn target (cryptoSignAccesses env ctx) env.stray other)
    : signInputAndSend (env.withStray other) ctx = signInputAndSend env ctx := by
  rw [signInputAndSend, signInputAndSend, cryptoSignTransaction_congr agreesOn]

theorem handlerSignTxParsed_congr {more : Bool}
    (agreesOn : AgreesOn target (parsedAccesses env ctx more) env.stray other)
    : handlerSignTxParsed (env.withStray other) ctx more = handlerSignTxParsed env ctx more := by
  cases more with
  | true => rfl
  | false =>
      simp only [parsedAccesses, Bool.false_eq_true, if_false] at agreesOn
      have checked := txValidate_congr agreesOn.left
      have shown := agreesOn.right
      rw [handlerSignTxParsed, handlerSignTxParsed, checked]
      rcases result : txValidateParsedTransaction env ctx with ⟨ok, left⟩
      rw [result] at shown
      cases ok with
      | false => rfl
      | true => exact uiDisplayTransaction_congr shown

theorem parsedOutput_congr {cdata : Buffer}
    (agreesOn
      : AgreesOn target [.output ctx.txInfo.parsingOutputIndex.toNat] env.stray other)
    : parsedOutput (env.withStray other) cdata ctx = parsedOutput env cdata ctx := by
  have slot := ctx.txInfo.transaction.output_congr
    (agreesOn.agrees .signTx _ (List.mem_singleton.mpr rfl))
  rw [parsedOutput, parsedOutput, slot]
  rfl

theorem parsedInput_congr {cdata : Buffer}
    (agreesOn : AgreesOn target [.input ctx.txInfo.parsingInputIndex.toNat] env.stray other)
    : parsedInput (env.withStray other) cdata ctx = parsedInput env cdata ctx := by
  have slot := ctx.txInfo.transaction.input_congr
    (agreesOn.agrees .signTx _ (List.mem_singleton.mpr rfl))
  rw [parsedInput, parsedInput, slot]
  rfl

/-- The handler of a request depends on its accesses only. -/
theorem handleRequest_congr {request : Request} {cdata : Buffer}
    (agreesOn : AgreesOn target (requestAccesses env request cdata ctx) env.stray other)
    : handleRequest frontEnd (env.withStray other) request cdata ctx
      = handleRequest frontEnd env request cdata ctx := by
  cases request with
  | refused | getVersion | getAppName | getPublicKey | header | signMessage => rfl
  | nextSignature =>
      by_cases closed : ctx.reqType ≠ .confirmTransaction ∨ ctx.state ≠ .stateApproved
      · simp only [handleRequest, if_pos closed]
      · have admitted : SigningAdmitted ctx := by
          rw [not_or, not_not, not_not] at closed
          exact ⟨closed.1, closed.2⟩
        rw [requestAccesses, if_pos admitted] at agreesOn
        simp only [handleRequest, if_neg closed]
        exact signInputAndSend_congr agreesOn
  | output =>
      by_cases session : ctx.reqType = .confirmTransaction
      · simp only [handleRequest, session, ne_eq, not_true_eq_false, if_false]
        by_cases admitted : OutputAdmitted ctx
        · rw [requestAccesses, if_pos admitted] at agreesOn
          rw [handlerSignTxOutput_of_admitted admitted, handlerSignTxOutput_of_admitted admitted,
            parsedOutput_congr agreesOn]
          rfl
        · rw [handlerSignTxOutput_of_full session admitted,
            handlerSignTxOutput_of_full session admitted]
      · simp only [handleRequest, if_pos session]
  | input more =>
      by_cases session : ctx.reqType = .confirmTransaction
      · simp only [handleRequest, session, ne_eq, not_true_eq_false, if_false]
        by_cases admitted : InputAdmitted ctx
        · rw [requestAccesses, if_pos admitted] at agreesOn
          simp only at agreesOn
          rw [handlerSignTxInput_of_admitted admitted, handlerSignTxInput_of_admitted admitted,
            parsedInput_congr agreesOn.left]
          by_cases parsed : (parsedInput env cdata ctx).1 = .parsingOk
          · have rest := agreesOn.right
            rw [if_pos parsed] at rest
            rw [if_neg (not_not.mpr parsed), if_neg (not_not.mpr parsed)]
            exact handlerSignTxParsed_congr rest
          · rw [if_pos parsed, if_pos parsed]
        · rw [handlerSignTxInput_of_full session admitted,
            handlerSignTxInput_of_full session admitted]
      · simp only [handleRequest, if_pos session]

/-- A step of the device depends on no memory behind the arrays but what its accesses reach. -/
theorem step_congr {device : Device target} {input : Input}
    (agreesOn : AgreesOn target (device.accesses ⟨env, input⟩) env.stray other)
    : device.step frontEnd ⟨env.withStray other, input⟩ = device.step frontEnd ⟨env, input⟩ := by
  obtain ⟨ctx, pending⟩ := device
  cases pending with
  | none =>
      cases input with
      | badLength | decision choice => rfl
      | apdu cmd =>
          have same
              : handleRequest frontEnd (env.withStray other) cmd.request (cmd.buffer env) ctx
                = handleRequest frontEnd env cmd.request (cmd.buffer env) ctx :=
            handleRequest_congr agreesOn
          exact step_eq_of_handled_eq same
  | some review =>
      cases input with
      | badLength | apdu cmd => rfl
      | decision choice =>
          cases review with
          | address | message => rfl
          | transaction amount fees address =>
              cases choice with
              | false => rfl
              | true =>
                  have signs
                      : validateTransaction (env.withStray other) ctx true
                        = validateTransaction env ctx true :=
                    signInputAndSend_congr agreesOn
                  simp only [Device.step, decisionCallback, signs]

/-- Where all accesses are inside the arrays, the memory behind them has no influence. -/
theorem step_of_inside {device : Device target} {input : Input}
    (inside : ∀ access ∈ device.accesses ⟨env, input⟩, access.Inside target)
    (script : ∀ site, (env.stray site).script = (other site).script)
    : device.step frontEnd ⟨env.withStray other, input⟩ = device.step frontEnd ⟨env, input⟩ :=
  step_congr (agreesOn_of_inside inside script)

end KaspaApp
