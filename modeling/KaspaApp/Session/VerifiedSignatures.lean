import KaspaApp.Session.MessageSignatures
import KaspaApp.Session.PublicKeys

/-! A client checks the signatures of the device with the keys that it has reported. The check
passes whichever of the two came first, and whatever happened between them.
-/

namespace KaspaApp

open Histories

variable {target : Target} {frontEnd : FrontEnd} {history : List (Step target)}
  {device : Device target} {step : Step target}

-----------------------------------------------------------------------------------------
-- The keys of a seed
-----------------------------------------------------------------------------------------

/-- The private key at a path, the public key of a private key, and the check of a signature of a
hash under the coordinates of a public key.
-/
structure SignatureScheme where
  privateKey : List UInt32 → Bytes 32
  publicKey : Bytes 32 → Bytes 65
  Verifies : Bytes 64 → Bytes 32 → Bytes maxDerSigLen → Prop

/-- The calls of a step that succeed return keys of the seed, and signatures that pass the check
under the key that has made them.
-/
structure SignatureScheme.Serves (scheme : SignatureScheme) (env : Env) : Prop where
  privateKey
    : ∀ path key,
        env.bip32DeriveInitPrivkey256 path = (cxOk, key) → key = scheme.privateKey path
  publicKey
    : ∀ path rawPubkey chainCode,
        env.bip32DeriveGetPubkey256 path = (cxOk, rawPubkey, chainCode)
        → rawPubkey = scheme.publicKey (scheme.privateKey path)
  pair
    : ∀ key rawPubkey,
        env.cxEcfpGeneratePairNoThrow key = (cxOk, rawPubkey) → rawPubkey = scheme.publicKey key
  sign
    : ∀ key hash signature,
        env.cxEcschnorrSignNoThrow key hash = (cxOk, signature)
        → scheme.Verifies (rawKey (scheme.publicKey key)) hash signature

-----------------------------------------------------------------------------------------
-- What a client has asked for
-----------------------------------------------------------------------------------------

/-- Packed paths that begin alike are the same. -/
theorem packDerivationPath_injective {path entries : List UInt32} (nonempty : path ≠ [])
    (short : path.length ≤ maxBip32Path) (entriesNonempty : entries ≠ [])
    (entriesShort : entries.length ≤ maxBip32Path)
    (begins : packDerivationPath entries <+: packDerivationPath path)
    : entries = path := by
  obtain ⟨after, same⟩ := begins
  let cdata : Buffer := ⟨packDerivationPath path, fun _ => 0, 0⟩
  have whole : cdata.rest = packDerivationPath path ++ [] := (List.append_nil _).symm
  have front : cdata.rest = packDerivationPath entries ++ after := same.symm
  have read := (@pathRead_pack .succeeding cdata path [] nonempty short whole).2.2
  have again := (@pathRead_pack .succeeding cdata entries after entriesNonempty entriesShort
    front).2.2
  exact (congrArg Prod.snd again).symm.trans (congrArg Prod.snd read)

/-- The command that a key reply answers packs the elements that it was derived from. -/
theorem ReportsKey.command {earlier : List (Step target)} {step : Step target}
    {entries : List UInt32} {rawPubkey : Bytes 65} {chainCode : Bytes 32}
    (reports : ReportsKey frontEnd earlier step entries rawPubkey chainCode)
    : (∃ cmd, lastCommand (step :: earlier) = some cmd ∧ packDerivationPath entries <+: cmd.data)
      ∧ ∃ asking ∈ step :: earlier, ∃ display, AsksKey asking display entries rawPubkey chainCode
      := by
  cases reports with
  | asked asks =>
      obtain ⟨cmd, input, -, packs⟩ := asks.asked
      refine ⟨⟨cmd, ?_, packs⟩, step, List.mem_cons_self, false, asks⟩
      simp [lastCommand, input, Input.command]
  | @approved opening _ before _ _ _ approves =>
      obtain ⟨cmd, input, -, packs⟩ := approves.asks.asked
      refine ⟨⟨cmd, ?_, packs⟩, opening, List.mem_cons_of_mem _ List.mem_cons_self, true,
        approves.asks⟩
      simp [lastCommand, approves.approves, input, Input.command]

/-- A client that has packed a path, and was answered with a key, has the key of this path. -/
theorem rawKey_of_reported {scheme : SignatureScheme}
    (run : (machine target frontEnd).Run history device)
    (serves : ∀ step ∈ history, scheme.Serves step.action.env) {display : Bool}
    {path : List UInt32} (nonempty : path ≠ []) (fits : path.length ≤ 5)
    {reporting : Step target} {earlier : List (Step target)}
    (reported : reporting :: earlier <:+ history)
    (asked : lastCommand (reporting :: earlier) = some (publicKeyCommand display path))
    {rawPublicKey : Bytes 64} {chainCode : Bytes 32}
    (key : Effect.reply (.pubkey rawPublicKey chainCode) ∈ reporting.output)
    : rawPublicKey = rawKey (scheme.publicKey (scheme.privateKey path)) := by
  have explained : Throughout (PublicKeyExplained frontEnd) history :=
    run.throughout (fun _ _ => True) trivial fun run _ taken =>
      ⟨trivial, publicKeyExplained_of_run run taken⟩
  obtain ⟨entries, rawPubkey, reports, rfl⟩ :=
    (explained.of_suffix reported rawPublicKey chainCode).mp key
  obtain ⟨⟨cmd, last, packs⟩, asking, member, other, asks⟩ := reports.command
  obtain rfl := Option.some.inj (last.symm.trans asked)
  obtain rfl : entries = path :=
    packDerivationPath_injective nonempty (fits.trans (by decide)) asks.nonempty asks.short packs
  have derived := asks.derived
  rw [storedPath_of_le fits] at derived
  rw [(serves asking (reported.subset member)).publicKey _ _ _ derived]

/-- A client that has sent an allowed payload, and was answered with a signature, has the
signature of this payload.
-/
theorem sign_of_sent (run : (machine target frontEnd).Run history device)
    {payload : MessagePayload} (allowed : payload.Allowed target) {signing : Step target}
    {before : List (Step target)} (signed : signing :: before <:+ history)
    (requested : lastCommand (signing :: before) = some (messageCommand payload))
    {signature : Bytes maxDerSigLen} {messageHash : Bytes 32}
    (sent : Effect.reply (.personalMessageSig signature messageHash) ∈ signing.output)
    : messageHash = payload.hash signing.action.env
      ∧ payload.sign signing.action.env = (cxOk, signature) := by
  have explained : Throughout (MessageSignatureExplained frontEnd) history :=
    run.throughout (fun _ _ => True) trivial fun run _ taken =>
      ⟨trivial, messageSignatureExplained_of_run run taken⟩
  obtain ⟨opening, earlier, other, rfl, signs⟩ :=
    (explained.of_suffix signed signature messageHash).mp sent
  obtain ⟨cmd, input, -, after, carried⟩ := signs.asked
  have last : lastCommand (signing :: opening :: earlier) = some cmd := by
    simp [lastCommand, signs.approved, input, Input.command]
  obtain rfl := Option.some.inj (last.symm.trans requested)
  let cdata : Buffer := ⟨payload.serialize, fun _ => 0, 0⟩
  have whole : cdata.rest = payload.serialize ++ [] := (List.append_nil _).symm
  have front : cdata.rest = other.serialize ++ after := carried.symm
  obtain rfl : other = payload :=
    (admitted_of_serialize signs.allowed front).2.symm.trans (admitted_of_serialize allowed whole).2
  exact ⟨signs.hashed, signs.signed⟩

/-- In every run whose calls serve one seed, the signature of a message passes the check under the
key that was reported for the path of the message, unless the derivation of the signing key has
failed.
-/
theorem messageSignature_verifies {scheme : SignatureScheme}
    (run : (machine target frontEnd).Run history device)
    (serves : ∀ step ∈ history, scheme.Serves step.action.env) {payload : MessagePayload}
    (allowed : payload.Allowed target) {display : Bool} {reporting signing : Step target}
    {earlier before : List (Step target)} (reported : reporting :: earlier <:+ history)
    (asked : lastCommand (reporting :: earlier) = some (publicKeyCommand display payload.path))
    {rawPublicKey : Bytes 64} {chainCode : Bytes 32}
    (key : Effect.reply (.pubkey rawPublicKey chainCode) ∈ reporting.output)
    (signed : signing :: before <:+ history)
    (requested : lastCommand (signing :: before) = some (messageCommand payload))
    {signature : Bytes maxDerSigLen} {messageHash : Bytes 32}
    (sent : Effect.reply (.personalMessageSig signature messageHash) ∈ signing.output)
    (derived : (signing.action.env.bip32DeriveInitPrivkey256 payload.path).1 = cxOk)
    : messageHash = payload.hash signing.action.env
      ∧ scheme.Verifies rawPublicKey messageHash signature := by
  have five : payload.path.length = 5 := by simp [MessagePayload.path]
  have nonempty : payload.path ≠ [] := List.ne_nil_of_length_pos (by omega)
  obtain ⟨hashed, ok⟩ := sign_of_sent run allowed signed requested sent
  have served := serves signing (signed.subset List.mem_cons_self)
  refine ⟨hashed, ?_⟩
  rw [rawKey_of_reported run serves nonempty five.le reported asked key,
    ← served.privateKey _ _ (Prod.ext derived rfl)]
  rw [MessagePayload.sign, ← hashed] at ok
  exact served.sign _ _ _ ok

/-- A signing request finds the transaction that is stored. -/
theorem SigningRequest.txInfo_eq {pending : Option Review} {input : Input}
    {ctx start : GlobalCtx target} (request : SigningRequest pending input ctx start)
    : start.txInfo = ctx.txInfo := by
  rcases request.origin with ⟨-, -, rfl⟩ | ⟨-, -, -, -, -, rfl⟩
  · rfl
  · rfl

/-- The signature of a transaction is made by calls that have all succeeded. -/
theorem signed_of_sig (taken : (machine target frontEnd).Takes step) {hasMore inputIndex : UInt8}
    {signature : Bytes maxDerSigLen} {sighash : Bytes 32}
    (sent : Effect.reply (.sig hasMore inputIndex signature sighash) ∈ step.output)
    : ∃ start : GlobalCtx target,
        start.txInfo = step.before.ctx.txInfo
        ∧ inputIndex = start.txInfo.signingInputIndex
        ∧ TransactionSigned step.action.env start
        ∧ transactionHash step.action.env start = some sighash
        ∧ transactionSignature step.action.env start sighash = (cxOk, signature) := by
  have sends : sentSigs step ≠ [] :=
    List.ne_nil_of_mem (List.mem_filterMap.mpr ⟨_, sent, rfl⟩)
  obtain ⟨start, signed, signs⟩ := signs_of_sentSigs (transition_of_takes taken) sends
  obtain ⟨succeeded, hash, hashed, ok, rfl⟩ := cryptoSignTransaction_signed signs.result
  rw [signs.output, helperSendResponseSig, List.mem_singleton, Effect.reply.injEq,
    Reply.sig.injEq] at sent
  obtain ⟨-, rfl, rfl, rfl⟩ := sent
  exact ⟨start, signs.request.txInfo_eq, rfl, succeeded, hashed, Prod.ext ok rfl⟩

/-- In every run whose calls serve one seed, the signature of a transaction passes the check under
the key that was reported for the path of the input it was made for, and its hash is the one of the
stored transaction with this key.
-/
theorem transactionSignature_verifies {scheme : SignatureScheme}
    (run : (machine target frontEnd).Run history device)
    (serves : ∀ step ∈ history, scheme.Serves step.action.env) {signing : Step target}
    {before : List (Step target)} (signed : signing :: before <:+ history)
    {hasMore inputIndex : UInt8} {signature : Bytes maxDerSigLen} {sighash : Bytes 32}
    (sent : Effect.reply (.sig hasMore inputIndex signature sighash) ∈ signing.output)
    {display : Bool} {reporting : Step target} {earlier : List (Step target)}
    (reported : reporting :: earlier <:+ history)
    (asked
      : lastCommand (reporting :: earlier)
        = some
            (publicKeyCommand display
              (signingPath signing.action.env signing.before.ctx).toList))
    {rawPublicKey : Bytes 64} {chainCode : Bytes 32}
    (key : Effect.reply (.pubkey rawPublicKey chainCode) ∈ reporting.output)
    : calcSighash signing.action.env.blake2b (signing.action.env.stray .calcSighash)
            signing.before.ctx.txInfo.transaction
            (signing.before.ctx.txInfo.transaction.input (signing.action.env.stray .calcSighash)
              inputIndex.toNat)
            (Memory.copy (Bytes.zero 32) (rawPublicKey.toList.take 32)) (Bytes.zero 32) 32
          = some sighash
      ∧ scheme.Verifies rawPublicKey sighash signature := by
  have takes : Throughout (fun _ step => (machine target frontEnd).Takes step) history :=
    run.throughout (fun _ _ => True) trivial fun _ _ taken => ⟨trivial, taken⟩
  obtain ⟨start, info, rfl, succeeded, hashed, ok⟩ := signed_of_sig (takes.of_suffix signed) sent
  have served := serves signing (signed.subset List.mem_cons_self)
  have path
      : signingPath signing.action.env signing.before.ctx = signingPath signing.action.env start := by
    rw [signingPath, signingPath, info]
  have five : (signingPath signing.action.env start).toList.length = 5 := Vector.length_toList
  have nonempty : (signingPath signing.action.env start).toList ≠ [] :=
    List.ne_nil_of_length_pos (by omega)
  rw [path] at asked
  rw [rawKey_of_reported run serves nonempty five.le reported asked key]
  -- the private key and the public key that the signing function has worked with
  have privateKey
      : (transactionKey signing.action.env start).2
        = scheme.privateKey (signingPath signing.action.env start).toList :=
    served.privateKey _ _ (Prod.ext succeeded.derived rfl)
  have publicKey
      : (transactionKeyPair signing.action.env start).2
        = scheme.publicKey (transactionKey signing.action.env start).2 :=
    served.pair _ _ (Prod.ext succeeded.paired rfl)
  rw [← privateKey, ← publicKey]
  constructor
  · rw [toList_rawKey, ← info]
    exact hashed
  · rw [publicKey]
    exact served.sign _ _ _ ok

/-- Keys that are made of the elements of their paths, and signatures that are a key and a hash. -/
def echoScheme : SignatureScheme :=
  {
    privateKey := fun path => Memory.copy (Bytes.zero 32) (path.map UInt32.toUInt8)
    publicKey := fun key => Memory.copy (Bytes.zero 65) (0x04 :: key.toList)
    Verifies := fun coordinates hash signature =>
      signature.toList = coordinates.toList.take 32 ++ hash.toList
  }

def Env.echoing : Env :=
  { Env.succeeding with
    bip32DeriveInitPrivkey256 := fun path => (cxOk, echoScheme.privateKey path)
    bip32DeriveGetPubkey256 := fun path =>
      (cxOk, echoScheme.publicKey (echoScheme.privateKey path), Bytes.zero 32)
    cxEcfpGeneratePairNoThrow := fun key => (cxOk, echoScheme.publicKey key)
    cxEcschnorrSignNoThrow := fun key hash =>
      (cxOk, Memory.copy (Bytes.zero maxDerSigLen) (key.toList ++ hash.toList)) }

theorem echoScheme_serves : echoScheme.Serves .echoing := by
  constructor
  · intro path key derived
    exact (Prod.mk.inj derived).2.symm
  · intro path rawPubkey chainCode derived
    exact (Prod.mk.inj (Prod.mk.inj derived).2).1.symm
  · intro key rawPubkey paired
    exact (Prod.mk.inj paired).2.symm
  · intro key hash signature signed
    obtain ⟨-, rfl⟩ := Prod.mk.inj signed
    have coordinates : (rawKey (echoScheme.publicKey key)).toList.take 32 = key.toList := by
      rw [toList_rawKey]
      simp only [echoScheme]
      rw [Memory.toList_copy _ (by simp), List.cons_append, List.drop_succ_cons, List.drop_zero,
        List.take_left' (by simp)]
    change (Memory.copy (Bytes.zero 64) (key.toList ++ hash.toList)).toList
      = (rawKey (echoScheme.publicKey key)).toList.take 32 ++ hash.toList
    rw [coordinates, Memory.toList_copy_of_length_eq _ _ (by simp)]

/-- What is played with these calls is served by the scheme. -/
theorem serves_of_echoing {inputs : List Input} {history : List (Step target)}
    (performed : history.map Record.action = (inputs.map (Action.mk .echoing)).reverse)
    : ∀ step ∈ history, echoScheme.Serves step.action.env := by
  intro step member
  have action := List.mem_map_of_mem (f := Record.action) member
  rw [performed, List.mem_reverse, List.mem_map] at action
  obtain ⟨input, -, same⟩ := action
  rw [← same]
  exact echoScheme_serves

/-- The key of the greeting's path is displayed and approved, and the greeting is signed. -/
def verifiedActions : List Action :=
  [.apdu (publicKeyCommand true greeting.path), .decision true, .apdu (messageCommand greeting),
    .decision true].map (Action.mk .echoing)

theorem messageSignature_verifies_sample
    : ∃ (history : List (Step .nanos)) (device : Device .nanos) (rawPublicKey : Bytes 64)
          (messageHash : Bytes 32) (signature : Bytes maxDerSigLen),
        (machine .nanos .bagl).Run history device
        ∧ history.map Record.action = verifiedActions.reverse
        ∧ history.flatMap sentMessageSigs = [.reply (.personalMessageSig signature messageHash)]
        ∧ echoScheme.Verifies rawPublicKey messageHash signature := by
  let rawPublicKey := rawKey (echoScheme.publicKey (echoScheme.privateKey greeting.path))
  obtain ⟨history, device, run, performed, sends, reporters, signers⟩ :=
    (machine .nanos .bagl).exists_played verifiedActions
      (fun history _ =>
        history.flatMap sentMessageSigs
          = [.reply (.personalMessageSig (greeting.sign .echoing).2 (greeting.hash .echoing))]
        ∧ history.map (fun step =>
            decide (Effect.reply (.pubkey rawPublicKey (Bytes.zero 32)) ∈ step.output))
          = [false, false, true, false]
        ∧ history.map (fun step =>
            decide
              (Effect.reply
                  (.personalMessageSig (greeting.sign .echoing).2 (greeting.hash .echoing))
                ∈ step.output))
          = [true, false, false, false]) (by decide +kernel)
  have serves := serves_of_echoing performed
  have played := performed
  obtain ⟨signing, before, rfl, signs, played⟩ := List.map_eq_cons_iff.mp played
  obtain ⟨opening, earlier, rfl, opens, played⟩ := List.map_eq_cons_iff.mp played
  obtain ⟨reporting, first, rfl, reports, played⟩ := List.map_eq_cons_iff.mp played
  obtain ⟨asking, last, rfl, asks, -⟩ := List.map_eq_cons_iff.mp played
  simp only [List.map_cons, List.cons.injEq] at reporters signers
  have reported := of_decide_eq_true reporters.2.2.1
  have sent := of_decide_eq_true signers.1
  have asked
      : lastCommand (reporting :: asking :: last) = some (publicKeyCommand true greeting.path) := by
    simp [lastCommand, reports, asks, Input.command]
  have requested
      : lastCommand (signing :: opening :: reporting :: asking :: last)
        = some (messageCommand greeting) := by
    simp [lastCommand, signs, opens, Input.command]
  have derived : (signing.action.env.bip32DeriveInitPrivkey256 greeting.path).1 = cxOk := by
    rw [signs]
    rfl
  obtain ⟨-, verifies⟩ :=
    messageSignature_verifies run serves (allowed_greeting .nanos) ⟨[signing, opening], rfl⟩ asked
      reported (List.suffix_refl _) requested sent derived
  exact ⟨_, device, rawPublicKey, _, _, run, performed, sends, verifies⟩

/-- The path of the inputs of the plain payloads. -/
def plainPath : List UInt32 := (walletPath 0x80000000 0 0).toList

/-- The key of an input's path is reported, and then a transaction with this input is signed. -/
def signedActions : List Action :=
  (Input.apdu (publicKeyCommand false plainPath)
    :: decidedSession true (plainHeader 1 1) [plainOutput 4] [] (plainInput 5)).map
      (Action.mk .echoing)

theorem transactionSignature_verifies_sample
    : ∃ (history : List (Step .nanos)) (device : Device .nanos) (rawPublicKey : Bytes 64)
          (sighash : Bytes 32) (signature : Bytes maxDerSigLen),
        (machine .nanos .bagl).Run history device
        ∧ history.map Record.action = signedActions.reverse
        ∧ echoScheme.Verifies rawPublicKey sighash signature := by
  let rawPublicKey := rawKey (echoScheme.publicKey (echoScheme.privateKey plainPath))
  let signature : Bytes maxDerSigLen :=
    Memory.copy (Bytes.zero 64) ((echoScheme.privateKey plainPath).toList ++ (Bytes.zero 32).toList)
  obtain ⟨history, device, run, performed, reporters, signers, paths⟩ :=
    (machine .nanos .bagl).exists_played signedActions
      (fun history _ =>
        history.map (fun step =>
            decide (Effect.reply (.pubkey rawPublicKey (Bytes.zero 32)) ∈ step.output))
          = [false, false, false, false, true]
        ∧ history.map (fun step =>
            decide (Effect.reply (.sig 0 0 signature (Bytes.zero 32)) ∈ step.output))
          = [true, false, false, false, false]
        ∧ (history.map fun step => (signingPath .echoing step.before.ctx).toList).head?
          = some plainPath) (by decide +kernel)
  have serves := serves_of_echoing performed
  have played := performed
  obtain ⟨signing, before, rfl, signs, played⟩ := List.map_eq_cons_iff.mp played
  obtain ⟨last, outputs, rfl, -, played⟩ := List.map_eq_cons_iff.mp played
  obtain ⟨output, headers, rfl, -, played⟩ := List.map_eq_cons_iff.mp played
  obtain ⟨header, reports, rfl, -, played⟩ := List.map_eq_cons_iff.mp played
  obtain ⟨reporting, rest, rfl, asks, -⟩ := List.map_eq_cons_iff.mp played
  simp only [List.map_cons, List.cons.injEq] at reporters signers
  have reported := of_decide_eq_true reporters.2.2.2.2.1
  have sent := of_decide_eq_true signers.1
  have path : (signingPath signing.action.env signing.before.ctx).toList = plainPath := by
    rw [signs]
    exact Option.some.inj paths
  have asked
      : lastCommand (reporting :: rest)
        = some
            (publicKeyCommand false
              (signingPath signing.action.env signing.before.ctx).toList) := by
    rw [path]
    simp [lastCommand, asks, Input.command]
  obtain ⟨-, verifies⟩ :=
    transactionSignature_verifies run serves (List.suffix_refl _) sent
      ⟨[signing, last, output, header], rfl⟩ asked reported
  exact ⟨_, device, rawPublicKey, _, signature, run, performed, verifies⟩

end KaspaApp
