import KaspaApp.Keys.PackedPaths
import KaspaApp.Session.AnsweredCommands

/-! Which key a public key reply reports. The key was derived at the path that the last command
packed, and a key that was asked for with a display is reported when its address was approved.
-/

namespace KaspaApp

open Histories

variable {target : Target} {frontEnd : FrontEnd} {env : Env} {cdata : Buffer} {display : Bool}
  {ctx : GlobalCtx target} {history : List (Step target)} {device : Device target}
  {step : Step target} {path : List UInt32} {rawPubkey : Bytes 65} {chainCode : Bytes 32}

/-- `get_public_key` and `get_public_key_with_confirmation` of the client. -/
def publicKeyCommand (display : Bool) (path : List UInt32) : Command :=
  {
    cla := kaspaCla
    ins := insGetPublicKey
    p1 := if display then 1 else 0
    p2 := p2Last
    data := packDerivationPath path
  }

-----------------------------------------------------------------------------------------
-- The handler
-----------------------------------------------------------------------------------------

/-- The key without the byte that tells its form. -/
def rawKey (rawPubkey : Bytes 65) : Bytes 64 :=
  Memory.copy (Bytes.zero 64) (rawPubkey.toList.drop 1)

theorem toList_rawKey (rawPubkey : Bytes 65)
    : (rawKey rawPubkey).toList = rawPubkey.toList.drop 1 :=
  Memory.toList_copy_of_length_eq _ _ (by simp)

/-- The context that a derived key is stored in. -/
def GlobalCtx.withKey (ctx : GlobalCtx target) (rawPubkey : Bytes 65) (chainCode : Bytes 32)
    : GlobalCtx target :=
  ctx.withPkInfo { PubkeyCtx.zero with rawPublicKey := rawKey rawPubkey, chainCode := chainCode }

@[simp] theorem GlobalCtx.path_withKey (ctx : GlobalCtx target) (rawPubkey : Bytes 65)
    (chainCode : Bytes 32)
    : (ctx.withKey rawPubkey chainCode).path = ctx.path := by
  simp only [GlobalCtx.path, GlobalCtx.withKey, GlobalCtx.withPkInfo]

@[simp] theorem GlobalCtx.rawPublicKey_withKey (ctx : GlobalCtx target) (rawPubkey : Bytes 65)
    (chainCode : Bytes 32)
    : (ctx.withKey rawPubkey chainCode).pkInfo.rawPublicKey = rawKey rawPubkey := by
  simp only [GlobalCtx.withKey, GlobalCtx.withPkInfo]

@[simp] theorem GlobalCtx.reqType_withKey (ctx : GlobalCtx target) (rawPubkey : Bytes 65)
    (chainCode : Bytes 32)
    : (ctx.withKey rawPubkey chainCode).reqType = ctx.reqType := by
  simp only [GlobalCtx.withKey, GlobalCtx.withPkInfo]

@[simp] theorem GlobalCtx.state_withKey (ctx : GlobalCtx target) (rawPubkey : Bytes 65)
    (chainCode : Bytes 32)
    : (ctx.withKey rawPubkey chainCode).state = ctx.state := by
  simp only [GlobalCtx.withKey, GlobalCtx.withPkInfo]

/-- The buffer that a screen formats an address in. -/
def addressOutLen : FrontEnd → Nat
  | .bagl => ecdsaAddressLen
  | .nbgl => schnorrAddressLen

/-- What the display of a key shows. -/
def keyDisplay (frontEnd : FrontEnd) (env : Env) (path : List UInt32) (rawPublicKey : Bytes 64)
    : List Effect :=
  match env.bip32PathFormat path 60 with
  | none => ioSendSw swDisplayBip32PathFail
  | some bip32Path =>
      match addressFromPubkey rawPublicKey .schnorr (addressOutLen frontEnd) with
      | none => ioSendSw swDisplayAddressFail
      | some address => [.review (.address bip32Path (cString address))]

/-- The display shows the path and the key of its context, and leaves the context as it is. -/
theorem uiDisplayAddress_eq (request : ctx.reqType = .confirmAddress)
    (idle : ctx.state = .stateNone)
    : uiDisplayAddress frontEnd env ctx
      = (ctx, keyDisplay frontEnd env ctx.path ctx.pkInfo.rawPublicKey) := by
  have ready : ¬ (ctx.reqType ≠ .confirmAddress ∨ ctx.state ≠ .stateNone) := by
    simp [request, idle]
  unfold uiDisplayAddress
  rw [if_neg ready, keyDisplay]
  cases env.bip32PathFormat ctx.path 60 with
  | none => rfl
  | some bip32Path =>
      cases frontEnd with
      | bagl =>
          simp only [addressOutLen]
          cases addressFromPubkey ctx.pkInfo.rawPublicKey .schnorr ecdsaAddressLen <;> rfl
      | nbgl =>
          simp only [addressOutLen]
          cases addressFromPubkey ctx.pkInfo.rawPublicKey .schnorr schnorrAddressLen <;> rfl

/-- The handler derives the key of a path. -/
structure DerivesKey (target : Target) (env : Env) (cdata : Buffer) (path : List UInt32)
    (rawPubkey : Bytes 65) (chainCode : Bytes 32)
    : Prop where
  reaches : ReachesDerivation target env cdata
  stored : (pathContext target env cdata).path = path
  derived : env.bip32DeriveGetPubkey256 path = (cxOk, rawPubkey, chainCode)

theorem DerivesKey.handled (derives : DerivesKey target env cdata path rawPubkey chainCode)
    (display : Bool)
    : handlerGetPublicKey frontEnd env cdata display
      = if display then
          uiDisplayAddress frontEnd env
            ((pathContext target env cdata).withKey rawPubkey chainCode)
        else
          ((pathContext target env cdata).withKey rawPubkey chainCode,
            [.reply (.pubkey (rawKey rawPubkey) chainCode)]) := by
  rw [handlerGetPublicKey_of_reaches derives.reaches, derives.stored, derives.derived,
    publicKeyDerived]
  exact if_neg (not_not.mpr rfl)

/-- A key that is asked for without a display is sent. -/
theorem DerivesKey.sent (derives : DerivesKey target env cdata path rawPubkey chainCode)
    : handlerGetPublicKey frontEnd env cdata false
      = ((pathContext target env cdata).withKey rawPubkey chainCode,
          [.reply (.pubkey (rawKey rawPubkey) chainCode)]) :=
  (derives.handled false).trans (if_neg Bool.false_ne_true)

/-- A key that is asked for with a display is shown. -/
theorem DerivesKey.shown (derives : DerivesKey target env cdata path rawPubkey chainCode)
    : handlerGetPublicKey frontEnd env cdata true
      = ((pathContext target env cdata).withKey rawPubkey chainCode,
          keyDisplay frontEnd env path (rawKey rawPubkey)) := by
  have request : (pathContext target env cdata).reqType = .confirmAddress := rfl
  have idle : (pathContext target env cdata).state = .stateNone := rfl
  have display := @uiDisplayAddress_eq target frontEnd env
    ((pathContext target env cdata).withKey rawPubkey chainCode) request idle
  rw [GlobalCtx.path_withKey, GlobalCtx.rawPublicKey_withKey, derives.stored] at display
  rw [derives.handled true, if_pos rfl, display]

/-- The handler replies with a status word, or derives a key. -/
theorem handlerGetPublicKey_cases (target : Target) (frontEnd : FrontEnd) (env : Env)
    (cdata : Buffer) (display : Bool)
    : (∃ code,
        (handlerGetPublicKey frontEnd env cdata display : GlobalCtx target × List Effect).2
        = ioSendSw code)
      ∨ ∃ path rawPubkey chainCode, DerivesKey target env cdata path rawPubkey chainCode := by
  by_cases reaches : ReachesDerivation target env cdata
  · rcases derived : env.bip32DeriveGetPubkey256 (pathContext target env cdata).path with
      ⟨error, rawPubkey, chainCode⟩
    by_cases ok : error = cxOk
    · subst ok
      exact Or.inr ⟨_, rawPubkey, chainCode, reaches, rfl, derived⟩
    · refine Or.inl ⟨error.toUInt16, ?_⟩
      rw [handlerGetPublicKey_of_reaches reaches, derived, publicKeyDerived]
      simp only [ne_eq, ok, not_false_eq_true, if_true]
  · obtain ⟨code, -, replied⟩ := @handlerGetPublicKey_refuses target frontEnd env cdata display
      reaches env.bip32DeriveGetPubkey256
    exact Or.inl ⟨code, replied⟩

-----------------------------------------------------------------------------------------
-- The keys of a run
-----------------------------------------------------------------------------------------

/-- The step asks for the key of a path: the one that is left of the elements that its command
packs.
-/
structure AsksKey (step : Step target) (display : Bool) (entries : List UInt32)
    (rawPubkey : Bytes 65) (chainCode : Bytes 32)
    : Prop where
  asked
    : ∃ cmd,
        step.action.input = .apdu cmd
        ∧ cmd.request = .getPublicKey display
        ∧ packDerivationPath entries <+: cmd.data
  nonempty : entries ≠ []
  short : entries.length ≤ maxBip32Path
  allowed : AllowedPath (storedPath entries)
  derived
    : step.action.env.bip32DeriveGetPubkey256 (storedPath entries)
      = (cxOk, rawPubkey, chainCode)

/-- The step approves the display of a key, its path and its address, that the command of the
opening step has asked for.
-/
structure ApprovesKey (frontEnd : FrontEnd) (opening step : Step target) (entries : List UInt32)
    (rawPubkey : Bytes 65) (chainCode : Bytes 32)
    : Prop where
  asks : AsksKey opening true entries rawPubkey chainCode
  shown
    : ∃ bip32Path address,
        opening.action.env.bip32PathFormat (storedPath entries) 60 = some bip32Path
        ∧ addressFromPubkey (rawKey rawPubkey) .schnorr (addressOutLen frontEnd) = some address
        ∧ opening.output = [.review (.address bip32Path (cString address))]
  approves : step.action.input = .decision true

/-- The two ways to report a key. -/
inductive ReportsKey (frontEnd : FrontEnd)
    : List (Step target) → Step target → List UInt32 → Bytes 65 → Bytes 32 → Prop
  | asked {earlier : List (Step target)} {step : Step target} {entries : List UInt32}
    {rawPubkey : Bytes 65} {chainCode : Bytes 32}
    (asks : AsksKey step false entries rawPubkey chainCode)
    : ReportsKey frontEnd earlier step entries rawPubkey chainCode
  | approved {opening step : Step target} {before : List (Step target)} {entries : List UInt32}
    {rawPubkey : Bytes 65} {chainCode : Bytes 32}
    (approves : ApprovesKey frontEnd opening step entries rawPubkey chainCode)
    : ReportsKey frontEnd (opening :: before) step entries rawPubkey chainCode

/-- Only the answer to `GET_PUBLIC_KEY` is unpacked as a public key. -/
theorem Request.eq_getPublicKey {request : Request} {data : List UInt8}
    {unpacked : UnpackedPublicKey} (found : request.unpack data = some (.publicKey unpacked))
    : ∃ display, request = .getPublicKey display := by
  cases request with
  | getPublicKey display => exact ⟨display, rfl⟩
  | input more => cases more <;> simp [Request.unpack] at found
  | _ => simp [Request.unpack] at found

/-- The handler derives the key that a command asks for. -/
theorem AsksKey.derives {entries : List UInt32} {cmd : Command}
    (asks : AsksKey step display entries rawPubkey chainCode)
    (input : step.action.input = .apdu cmd)
    : cmd.request = .getPublicKey display
      ∧ DerivesKey target step.action.env (cmd.buffer step.action.env) (storedPath entries)
          rawPubkey chainCode := by
  obtain ⟨other, sent, request, after, packs⟩ := asks.asked
  obtain rfl := Input.apdu.inj (sent.symm.trans input)
  have payload
      : (other.buffer step.action.env).rest = packDerivationPath entries ++ after := by
    rw [Command.rest_buffer, packs]
  obtain ⟨reaches, stored⟩ :=
    @reaches_pack_iff target step.action.env _ entries after asks.nonempty asks.short payload
  exact ⟨request, reaches.mpr asks.allowed, stored asks.allowed, asks.derived⟩

/-- A command whose handler derives a key asks for it. -/
theorem DerivesKey.asks {cmd : Command}
    (derives
      : DerivesKey target step.action.env (cmd.buffer step.action.env) path rawPubkey chainCode)
    (input : step.action.input = .apdu cmd) (request : cmd.request = .getPublicKey display)
    : ∃ entries,
        storedPath entries = path ∧ AsksKey step display entries rawPubkey chainCode := by
  obtain ⟨entries, after, nonempty, short, payload⟩ :=
    pack_of_pathRead derives.reaches.lengthRead derives.reaches.pathRead
  obtain ⟨reaches, stored⟩ :=
    @reaches_pack_iff target step.action.env _ entries after nonempty short payload
  have allowed := reaches.mp derives.reaches
  obtain rfl := (stored allowed).symm.trans derives.stored
  rw [Command.rest_buffer] at payload
  exact ⟨entries, rfl, ⟨cmd, input, request, after, payload.symm⟩, nonempty, short, allowed,
    derives.derived⟩

/-- What the display of a key leaves waiting is its review. -/
theorem review_of_keyDisplay {review : Review} {rawPublicKey : Bytes 64}
    (shown : keyDisplay frontEnd env path rawPublicKey = [.review review])
    : ∃ bip32Path address,
        env.bip32PathFormat path 60 = some bip32Path
        ∧ addressFromPubkey rawPublicKey .schnorr (addressOutLen frontEnd) = some address
        ∧ review = .address bip32Path (cString address) := by
  unfold keyDisplay at shown
  split at shown
  · simp [ioSendSw] at shown
  next bip32Path formatted =>
    split at shown
    · simp [ioSendSw] at shown
    next address found =>
      obtain rfl := Effect.review.inj (List.singleton_inj.mp shown)
      exact ⟨bip32Path, address, formatted, found, rfl⟩

/-- The display of a key does not send it. -/
theorem pubkey_notMem_keyDisplay (frontEnd : FrontEnd) (env : Env) (path : List UInt32)
    (shown rawPublicKey : Bytes 64) (chainCode : Bytes 32)
    : Effect.reply (.pubkey rawPublicKey chainCode) ∉ keyDisplay frontEnd env path shown := by
  unfold keyDisplay
  split
  · simp [ioSendSw]
  split
  · simp [ioSendSw]
  · simp

/-- A command sends exactly the key that it asks for without a display. -/
theorem command_sends_iff {cmd : Command} (taken : (machine target frontEnd).Takes step)
    (input : step.action.input = .apdu cmd) (rawPublicKey : Bytes 64) (chainCode : Bytes 32)
    : Effect.reply (.pubkey rawPublicKey chainCode) ∈ step.output
      ↔ ∃ entries rawPubkey,
          AsksKey step false entries rawPubkey chainCode ∧ rawKey rawPubkey = rawPublicKey := by
  obtain ⟨-, handled, -⟩ := handles_of_takes taken input
  constructor
  · intro sent
    have understands := @understands_handleRequest target frontEnd step.action.env cmd.request
      (cmd.buffer step.action.env) step.before.ctx
    rw [handled] at understands
    obtain ⟨display, request⟩ := Request.eq_getPublicKey (understands _ _ sent rfl)
    rw [request] at handled
    change handlerGetPublicKey frontEnd _ _ display = _ at handled
    rcases handlerGetPublicKey_cases target frontEnd step.action.env
        (cmd.buffer step.action.env) display with
      ⟨code, refused⟩ | ⟨path, rawPubkey, other, derives⟩
    · rw [handled] at refused
      simp only at refused
      simp [refused, ioSendSw] at sent
    · obtain ⟨entries, -, asks⟩ := derives.asks input request
      cases display with
      | false =>
          have output := (congrArg Prod.snd handled).symm.trans
            (congrArg Prod.snd (@DerivesKey.sent target frontEnd _ _ _ _ _ derives))
          simp only at output
          rw [output, List.mem_singleton, Effect.reply.injEq, Reply.pubkey.injEq] at sent
          obtain ⟨rfl, rfl⟩ := sent
          exact ⟨entries, rawPubkey, asks, rfl⟩
      | true =>
          have output := (congrArg Prod.snd handled).symm.trans
            (congrArg Prod.snd (@DerivesKey.shown target frontEnd _ _ _ _ _ derives))
          simp only at output
          rw [output] at sent
          exact absurd sent (pubkey_notMem_keyDisplay _ _ _ _ _ _)
  · rintro ⟨entries, rawPubkey, asks, rfl⟩
    obtain ⟨request, derives⟩ := asks.derives input
    have sent := @DerivesKey.sent target frontEnd _ _ _ _ _ derives
    rw [request] at handled
    change handlerGetPublicKey frontEnd _ _ false = _ at handled
    have output := (congrArg Prod.snd handled).symm.trans (congrArg Prod.snd sent)
    simp only at output
    rw [output]
    exact List.mem_singleton_self _

/-- The display that is decided shows the key that its command has derived, and the decision sends
this key or refuses it.
-/
structure DecidesKey (frontEnd : FrontEnd) (opening step : Step target) (cmd : Command)
    (review : Review) (choice : Bool) (path : List UInt32) (rawPubkey : Bytes 65)
    (chainCode : Bytes 32)
    : Prop where
  request : cmd.request = .getPublicKey true
  derives
    : DerivesKey target opening.action.env (cmd.buffer opening.action.env) path rawPubkey chainCode
  shown : keyDisplay frontEnd opening.action.env path (rawKey rawPubkey) = [.review review]
  output
    : step.output
      = if choice then [.reply (.pubkey (rawKey rawPubkey) chainCode)] else ioSendSw swDeny

theorem Decides.key {opening : Step target} {cmd : Command} {review : Review} {choice : Bool}
    (decides : Decides opening step frontEnd cmd review choice)
    (request : cmd.request = .getPublicKey display)
    : ∃ path rawPubkey chainCode,
        DecidesKey frontEnd opening step cmd review choice path rawPubkey chainCode := by
  have handled := decides.handled
  rw [request] at handled
  change handlerGetPublicKey frontEnd _ _ display = _ at handled
  rcases handlerGetPublicKey_cases target frontEnd opening.action.env
      (cmd.buffer opening.action.env) display with
    ⟨code, refused⟩ | ⟨path, rawPubkey, chainCode, derives⟩
  · rw [handled] at refused
    simp [ioSendSw] at refused
  · cases display with
    | false =>
        have sent := handled.symm.trans (@DerivesKey.sent target frontEnd _ _ _ _ _ derives)
        simp at sent
    | true =>
        have shown := handled.symm.trans (@DerivesKey.shown target frontEnd _ _ _ _ _ derives)
        obtain ⟨context, display⟩ := Prod.mk.inj shown
        obtain ⟨bip32Path, address, -, -, rfl⟩ := review_of_keyDisplay display.symm
        have output : (validatePubkey step.before.ctx choice).2 = step.output :=
          congrArg Prod.snd decides.decided
        refine ⟨path, rawPubkey, chainCode, request, derives, display.symm, ?_⟩
        rw [← output, context]
        cases choice with
        | false => rfl
        | true =>
            simp only [validatePubkey, if_true, helperSendResponsePubkey, GlobalCtx.withKey,
              GlobalCtx.withPkInfo]

theorem DerivesKey.unique {other : List UInt32} {otherPubkey : Bytes 65} {otherCode : Bytes 32}
    (derives : DerivesKey target env cdata path rawPubkey chainCode)
    (again : DerivesKey target env cdata other otherPubkey otherCode)
    : path = other ∧ rawPubkey = otherPubkey ∧ chainCode = otherCode := by
  obtain rfl := derives.stored.symm.trans again.stored
  have same := derives.derived.symm.trans again.derived
  simp only [Prod.mk.injEq, true_and] at same
  exact ⟨rfl, same⟩

/-- A decision sends exactly the key whose display it approves. -/
theorem decision_sends_iff {opening : Step target} {before : List (Step target)}
    (run : (machine target frontEnd).Run (opening :: before) step.before)
    (taken : (machine target frontEnd).Takes step) {choice : Bool}
    (input : step.action.input = .decision choice) (rawPublicKey : Bytes 64) (chainCode : Bytes 32)
    : Effect.reply (.pubkey rawPublicKey chainCode) ∈ step.output
      ↔ ∃ entries rawPubkey,
          ApprovesKey frontEnd opening step entries rawPubkey chainCode
          ∧ rawKey rawPubkey = rawPublicKey := by
  obtain ⟨_, _, cmd, review, same, decides⟩ := decides_of_run run taken input
  obtain ⟨rfl, rfl⟩ := List.cons.inj same
  constructor
  · intro sent
    have understands := @understands_decisionCallback target cmd.request review decides.reviewed
      step.action.env choice step.before.ctx
    rw [decides.decided] at understands
    obtain ⟨display, request⟩ := Request.eq_getPublicKey (understands _ _ sent rfl)
    obtain ⟨path, rawPubkey, other, key⟩ := decides.key request
    obtain ⟨entries, rfl, asks⟩ := key.derives.asks decides.asked key.request
    obtain ⟨bip32Path, address, formatted, found, rfl⟩ := review_of_keyDisplay key.shown
    rw [key.output] at sent
    cases choice with
    | false => simp [ioSendSw] at sent
    | true =>
        simp only [if_true, List.mem_singleton, Effect.reply.injEq, Reply.pubkey.injEq] at sent
        obtain ⟨rfl, rfl⟩ := sent
        exact ⟨entries, rawPubkey, ⟨asks, ⟨bip32Path, address, formatted, found, decides.opened⟩,
          input⟩, rfl⟩
  · rintro ⟨entries, rawPubkey, approves, rfl⟩
    obtain ⟨request, derives⟩ := approves.asks.derives decides.asked
    obtain ⟨path, other, code, key⟩ := decides.key request
    obtain ⟨rfl, rfl, rfl⟩ := derives.unique key.derives
    obtain rfl := Input.decision.inj (input.symm.trans approves.approves)
    rw [key.output, if_pos rfl]
    exact List.mem_singleton_self _

/-- The step sends a public key exactly if it asks for it or approves its display. -/
def PublicKeyExplained (frontEnd : FrontEnd) (earlier : List (Step target)) (step : Step target)
    : Prop :=
  ∀ rawPublicKey chainCode,
    Effect.reply (.pubkey rawPublicKey chainCode) ∈ step.output
    ↔ ∃ entries rawPubkey,
        ReportsKey frontEnd earlier step entries rawPubkey chainCode
        ∧ rawKey rawPubkey = rawPublicKey

theorem publicKeyExplained_of_run (run : (machine target frontEnd).Run history step.before)
    (taken : (machine target frontEnd).Takes step)
    : PublicKeyExplained frontEnd history step := by
  intro rawPublicKey chainCode
  cases input : step.action.input with
  | badLength =>
      rw [output_of_badLength taken input]
      refine iff_of_false (by simp [ioSendSw]) ?_
      rintro ⟨entries, rawPubkey, asks | approves, -⟩
      · obtain ⟨cmd, sent, -⟩ := asks.asked
        simp [input] at sent
      · simpa [input] using approves.approves
  | apdu cmd =>
      rw [command_sends_iff taken input]
      constructor
      · rintro ⟨entries, rawPubkey, asks, same⟩
        exact ⟨entries, rawPubkey, .asked asks, same⟩
      · rintro ⟨entries, rawPubkey, asks | approves, same⟩
        · exact ⟨entries, rawPubkey, asks, same⟩
        · simpa [input] using approves.approves
  | decision choice =>
      obtain ⟨opening, before, -, -, rfl, -⟩ := decides_of_run run taken input
      rw [decision_sends_iff run taken input]
      constructor
      · rintro ⟨entries, rawPubkey, approves, same⟩
        exact ⟨entries, rawPubkey, .approved approves, same⟩
      · rintro ⟨entries, rawPubkey, asks | approves, same⟩
        · obtain ⟨cmd, sent, -⟩ := asks.asked
          simp [input] at sent
        · exact ⟨entries, rawPubkey, approves, same⟩

/-- In every run, a step sends a public key exactly if its command, or the command of the step
before it whose display it approves, packs a path at which this key is derived.
-/
theorem publicKeys_explained (run : (machine target frontEnd).Run history device)
    : Throughout (PublicKeyExplained frontEnd) history :=
  run.throughout (fun _ _ => True) trivial fun run _ taken =>
    ⟨trivial, publicKeyExplained_of_run run taken⟩

/-- The shortest path is displayed, and its key is reported. -/
theorem publicKeys_explained_sample
    : ∃ (history : List (Step .stax)) (device : Device .stax),
        (machine .stax .nbgl).Run history device
        ∧ history.length = 2
        ∧ (∃ rawPublicKey chainCode,
            Effect.reply (.pubkey rawPublicKey chainCode) ∈ history.flatMap Record.output)
        ∧ Throughout (PublicKeyExplained .nbgl) history := by
  obtain ⟨history, device, run, length, sent⟩ :=
    (machine .stax .nbgl).exists_run
      [⟨.succeeding, .apdu (publicKeyCommand true [purpose, coinType])⟩,
        ⟨.succeeding, .decision true⟩]
      (fun history _ =>
        history.length = 2
        ∧ Effect.reply (.pubkey (Bytes.zero 64) (Bytes.zero 32)) ∈ history.flatMap Record.output)
      (by decide +kernel)
  exact ⟨history, device, run, length, ⟨_, _, sent⟩, publicKeys_explained run⟩

end KaspaApp
