import KaspaApp.Addresses.Mistyped
import KaspaApp.Addresses.Screens
import KaspaApp.Messages.Rendering
import KaspaApp.Session.OutputSlots
import KaspaApp.Session.PublicKeys
import KaspaApp.Session.SentPayloads

/-! A payment from one device to an address that the user of another one has approved. The receiver
approves an address and gets the key behind it, the sender compares the address with the one on
the screen of a transaction review.
-/

namespace KaspaApp

open Histories

variable {target : Target} {frontEnd : FrontEnd} {env : Env} {history : List (Step target)}
  {device : Device target} {step : Step target} {text : List UInt8} {rawPublicKey : Bytes 64}

-----------------------------------------------------------------------------------------
-- Texts
-----------------------------------------------------------------------------------------

theorem charsetAt_ne_zero {symbol : UInt8} (small : symbol.toNat < 32)
    : charsetAt symbol ≠ 0 := by
  intro zero
  have found := symbolOf_charsetAt small
  rw [zero] at found
  exact absurd found nofun

/-- No character of an address ends a string. -/
theorem cString_of_decoded {content : List UInt8} (read : decodeAddress text = some content)
    : cString text = text := by
  obtain ⟨symbols, spelled⟩ := exists_spelled read
  have nonzero : ∀ char ∈ text, char ≠ 0 := by
    intro char member
    rw [spelled.text] at member
    rcases List.mem_append.mp member with front | back
    · have letters : (kaspaHrp ++ [0x3a]).all (· ≠ 0) = true := by decide
      exact of_decide_eq_true (List.all_eq_true.mp letters char front)
    · obtain ⟨symbol, found, rfl⟩ := List.mem_map.mp back
      exact charsetAt_ne_zero (spelled.fit symbol found)
  simpa [cString] using @cString_append text [] nonzero

/-- The screens show an address as it is. -/
theorem cString_addressText (content : List UInt8)
    : cString (addressText content) = addressText content :=
  cString_of_decoded (decodeAddress_addressText content)

theorem addressText_inj {left right : List UInt8} (same : addressText left = addressText right)
    : left = right := by
  have read := decodeAddress_addressText left
  rw [same, decodeAddress_addressText right] at read
  exact (Option.some.inj read).symm

theorem PaymentScript.content_inj {left right : PaymentScript}
    (same : left.content = right.content)
    : left = right := by
  have bytes := scriptOfAddress_content left
  rw [same, scriptOfAddress_content right] at bytes
  exact PaymentScript.bytes_injective (Option.some.inj bytes).symm

/-- The address of a received key. -/
def keyAddress (rawPublicKey : Bytes 64) : List UInt8 :=
  addressText (scriptOfKey rawPublicKey .schnorr).content

theorem addressFromPubkey_keyAddress (frontEnd : FrontEnd) (rawPublicKey : Bytes 64)
    : addressFromPubkey rawPublicKey .schnorr (addressOutLen frontEnd)
      = some (keyAddress rawPublicKey) := by
  have room : AddressType.schnorr.addressLen ≤ addressOutLen frontEnd := by
    cases frontEnd <;> decide
  rw [addressFromPubkey_eq rawPublicKey .schnorr room, keyAddress, content_scriptOfKey]

/-- A payment to this address uses the script of the key. -/
theorem scriptOfAddress_keyAddress (rawPublicKey : Bytes 64)
    : scriptOfAddress (keyAddress rawPublicKey)
      = some (scriptBytesOfKey rawPublicKey .schnorr) := by
  rw [keyAddress, scriptOfAddress_content, bytes_scriptOfKey]

-----------------------------------------------------------------------------------------
-- The sender
-----------------------------------------------------------------------------------------

/-- No point of the curve has the coordinate zero. -/
def NonzeroKey (rawPublicKey : Bytes 64) : Prop :=
  rawPublicKey.toList.take 32 ≠ List.replicate 32 0

/-- The address that the screens show for an output. -/
def screenAddress (txout : TransactionOutput) : List UInt8 :=
  cString ((shownAddress ecdsaAddressLen txout).getD [])

theorem screenAddress_of_holds {txout : TransactionOutput} {script : PaymentScript}
    (holds : Holds txout.scriptPublicKey script)
    : screenAddress txout = addressText script.shown.content := by
  rw [screenAddress, shownAddress_of_holds holds (Nat.le_refl _), Option.getD_some,
    cString_addressText]

/-- A slot that nothing was written to is shown as the address of the coordinate zero. -/
theorem screenAddress_of_empty {txout : TransactionOutput}
    (empty : txout.scriptPublicKey = Bytes.zero scriptPublicKeyBufferLen)
    : screenAddress txout = addressText (0 :: List.replicate 32 0) := by
  rw [screenAddress, shownAddress, empty]
  decide +kernel

theorem shown_eq_schnorr_iff {script : PaymentScript} {key : Bytes 32}
    : script.shown = .schnorr key ↔ script = .schnorr key := by
  cases script <;> simp [PaymentScript.shown]

/-- The screen shows the address of a key exactly if the output pays to the key. -/
theorem screenAddress_eq_iff {txout : TransactionOutput} (shaped : Shaped txout.scriptPublicKey)
    (nonzero : NonzeroKey rawPublicKey) (stray : Stray)
    : screenAddress txout = keyAddress rawPublicKey
      ↔ committedScript stray txout = scriptBytesOfKey rawPublicKey .schnorr := by
  rcases shaped with empty | ⟨script, holds⟩
  · refine iff_of_false ?_ ?_
    · rw [screenAddress_of_empty empty]
      intro same
      have content := addressText_inj same
      rw [content_scriptOfKey] at content
      exact nonzero (List.cons.inj content).2.symm
    · intro same
      have short : (committedScript stray txout).length = 2 := by
        rw [committedScript, empty]
        rfl
      rw [same] at short
      simp [scriptBytesOfKey] at short
  · rw [screenAddress_of_holds holds, committedScript_of_holds holds, ← bytes_scriptOfKey]
    constructor
    · intro same
      have shown := PaymentScript.content_inj (addressText_inj same)
      rw [shown_eq_schnorr_iff.mp shown]
      rfl
    · intro same
      rw [PaymentScript.bytes_injective same, shown_scriptOfKey]
      rfl

/-- The step of a sender opens the review of a transaction with this address. -/
structure ShowsPayment (frontEnd : FrontEnd) (step : Step target) (text : List UInt8) : Prop where
  reached : ∃ earlier, (machine target frontEnd).Run earlier step.before
  taken : (machine target frontEnd).Takes step
  shown : ∃ amount fees, step.output = [.review (.transaction amount fees text)]

/-- The output whose address a transaction review shows. -/
def shownOutput (step : Step target) : TransactionOutput :=
  step.after.ctx.txInfo.transaction.txOutputs[0]

theorem text_of_uiDisplayTransaction {ctx left : GlobalCtx target} {amount fees : List UInt8}
    (shown : uiDisplayTransaction env ctx = (left, [.review (.transaction amount fees text)]))
    : text = screenAddress left.txInfo.transaction.txOutputs[0] := by
  unfold uiDisplayTransaction at shown
  split at shown
  · simp [ioSendSw] at shown
  simp only at shown
  split at shown
  · simp [ioSendSw] at shown
  split at shown
  · simp [ioSendSw] at shown
  simp only [Prod.mk.injEq, List.cons.injEq, Effect.review.injEq, Review.transaction.injEq,
    and_true] at shown
  obtain ⟨rfl, -, -, rfl⟩ := shown
  have inside : 0 < maxOutputCount := by decide
  rw [screenAddress, shownAddress, Transaction.output, Memory.read_of_lt _ _ inside]

theorem ShowsPayment.reviews (shows : ShowsPayment frontEnd step text)
    : ∃ cmd accepted, Reviews step cmd accepted := by
  obtain ⟨amount, fees, shown⟩ := shows.shown
  refine reviews_of_opensReview (transition_of_takes shows.taken) ?_
  rw [OpensReview, shown]
  rfl

/-- The shown address is that of the output. -/
theorem ShowsPayment.text_eq (shows : ShowsPayment frontEnd step text)
    : text = screenAddress (shownOutput step) := by
  obtain ⟨amount, fees, shown⟩ := shows.shown
  obtain ⟨cmd, accepted, reviews⟩ := shows.reviews
  obtain ⟨-, handled, -⟩ := handles_of_takes shows.taken reviews.input
  rw [reviews.request, handleRequest, if_neg (not_not.mpr reviews.admitted.reqType),
    handlerSignTxInput_of_admitted reviews.admitted, if_neg (not_not.mpr reviews.parsed),
    ← reviews.stored, handlerSignTxParsed_valid reviews.valid, shown] at handled
  exact text_of_uiDisplayTransaction handled

/-- The slot of the shown output is empty or begins with a script. -/
theorem ShowsPayment.shaped (shows : ShowsPayment frontEnd step text)
    : Shaped (shownOutput step).scriptPublicKey := by
  obtain ⟨earlier, run⟩ := shows.reached
  obtain ⟨amount, fees, shown⟩ := shows.shown
  obtain ⟨cmd, accepted, reviews⟩ := shows.reviews
  have after := Machine.Run.next step run shows.taken
  have waits : step.after.pending = some (.transaction amount fees text) := by
    rw [(handles_of_takes shows.taken reviews.input).2.2, shown]
    rfl
  have session : step.after.ctx.reqType = .confirmTransaction :=
    (ordered_of_run after).session _ waits
  exact (sound_of_run after).shaped session _
    (Vector.mem_toList_iff.mpr (Vector.getElem_mem (by decide)))

-----------------------------------------------------------------------------------------
-- The receiver
-----------------------------------------------------------------------------------------

/-- The step approves the address that the step before it has shown. -/
structure ApprovesAddress (earlier : List (Step target)) (step : Step target) (text : List UInt8)
    : Prop where
  shown
    : ∃ opening before bip32Path,
        earlier = opening :: before ∧ opening.output = [.review (.address bip32Path text)]
  approves : step.action.input = .decision true

/-- The address belongs to the key. Payments to it use the script of the key, and every device
shows it for a transaction exactly if the first output, as the signature commits to it, pays to
the key.
-/
structure BelongsTo (text : List UInt8) (rawPublicKey : Bytes 64) : Prop where
  decoded : scriptOfAddress text = some (scriptBytesOfKey rawPublicKey .schnorr)
  shown
    : NonzeroKey rawPublicKey
      → ∀ {sender : Target} {senderFrontEnd : FrontEnd} {payment : Step sender}
          {paymentText : List UInt8} (stray : Stray),
          ShowsPayment senderFrontEnd payment paymentText
          → (paymentText = text
            ↔ committedScript stray (shownOutput payment)
              = scriptBytesOfKey rawPublicKey .schnorr)

theorem belongsTo_keyAddress (rawPublicKey : Bytes 64)
    : BelongsTo (keyAddress rawPublicKey) rawPublicKey := by
  refine ⟨scriptOfAddress_keyAddress rawPublicKey, ?_⟩
  intro nonzero sender senderFrontEnd payment paymentText stray shows
  rw [shows.text_eq]
  exact screenAddress_eq_iff shows.shaped nonzero stray

/-- An approved address brings the key that it belongs to. -/
def AddressBringsKey (earlier : List (Step target)) (step : Step target) : Prop :=
  ∀ text,
    ApprovesAddress earlier step text
    → ∃ rawPublicKey chainCode,
        step.output = [.reply (.pubkey rawPublicKey chainCode)] ∧ BelongsTo text rawPublicKey

/-- An address review was opened by a command for a key. -/
theorem Request.eq_getPublicKey_of_reviewed {request : Request} {bip32Path address : List UInt8}
    (reviewed : request.reviewed = some (Review.address bip32Path address).session)
    : ∃ display, request = .getPublicKey display := by
  cases request with
  | getPublicKey display => exact ⟨display, rfl⟩
  | input more => cases more <;> simp [Request.reviewed, Review.session] at reviewed
  | _ => simp [Request.reviewed, Review.session] at reviewed

theorem addressBringsKey_of_run (run : (machine target frontEnd).Run history step.before)
    (taken : (machine target frontEnd).Takes step)
    : AddressBringsKey history step := by
  rintro text ⟨⟨opening, before, bip32Path, rfl, shown⟩, approves⟩
  obtain ⟨_, _, cmd, review, same, decides⟩ := decides_of_run run taken approves
  obtain ⟨rfl, rfl⟩ := List.cons.inj same
  have opened := decides.opened
  rw [shown] at opened
  obtain rfl := Effect.review.inj (List.singleton_inj.mp opened)
  obtain ⟨display, request⟩ := Request.eq_getPublicKey_of_reviewed decides.reviewed
  obtain ⟨path, rawPubkey, chainCode, key⟩ := decides.key request
  obtain ⟨_, address, -, found, displayed⟩ := review_of_keyDisplay key.shown
  rw [addressFromPubkey_keyAddress] at found
  obtain rfl := Option.some.inj found
  obtain ⟨-, rfl⟩ := Review.address.inj displayed
  refine ⟨rawKey rawPubkey, chainCode, key.output.trans (if_pos rfl), ?_⟩
  rw [keyAddress, cString_addressText]
  exact belongsTo_keyAddress (rawKey rawPubkey)

/-- In every run, approving an address sends the key that it belongs to: the address that the
review of another device shows is this one exactly if the transaction pays to this key.
-/
theorem approvedAddresses_paid (run : (machine target frontEnd).Run history device)
    : Throughout AddressBringsKey history :=
  run.throughout (fun _ _ => True) trivial fun run _ taken =>
    ⟨trivial, addressBringsKey_of_run run taken⟩

/-- An SDK that derives the key of all ones at every path. -/
def Env.onesKey : Env :=
  { Env.succeeding with
    bip32DeriveGetPubkey256 := fun _ => (cxOk, Vector.replicate 65 1, Bytes.zero 32) }

/-- A payment to the key of all ones. -/
def onesOutput : OutputPayload := ⟨4, .schnorr (Vector.replicate 32 1)⟩

/-- The receiver approves the address of the key of all ones, the sender's screen shows it for a
payment to this key.
-/
theorem approvedAddresses_paid_sample
    : ∃ (history : List (Step .stax)) (device : Device .stax) (payment : Step .nanos),
        (machine .stax .nbgl).Run history device
        ∧ Effect.reply (.pubkey (Vector.replicate 64 1) (Bytes.zero 32))
          ∈ history.flatMap Record.output
        ∧ ShowsPayment .bagl payment (keyAddress (Vector.replicate 64 1))
        ∧ NonzeroKey (Vector.replicate 64 1)
        ∧ Throughout AddressBringsKey history := by
  obtain ⟨history, device, run, sent⟩ :=
    (machine .stax .nbgl).exists_run
      ([.apdu (publicKeyCommand true [purpose, coinType]), .decision true].map
        (Action.mk .onesKey))
      (fun history _ =>
        Effect.reply (.pubkey (Vector.replicate 64 1) (Bytes.zero 32))
        ∈ history.flatMap Record.output)
      (by decide +kernel)
  obtain ⟨payments, sender, paid, review⟩ :=
    (machine .nanos .bagl).exists_run
      (((signTxCommands (plainHeader 1 1) [onesOutput] [] (plainInput 5)).map Input.apdu).map
        (Action.mk .succeeding))
      (fun payments _ =>
        (payments.map Record.output).head?
        = some [.review (.transaction [0x4b, 0x41, 0x53, 0x20, 0x30] [0x4b, 0x41, 0x53, 0x20, 0x30]
            (keyAddress (Vector.replicate 64 1)))])
      (by decide +kernel)
  cases paid with
  | start => simp at review
  | next payment earlier taken =>
      have shown := Option.some.inj review
      have nonzero : NonzeroKey (Vector.replicate 64 1) := by
        rw [NonzeroKey]
        decide
      have shows : ShowsPayment .bagl payment (keyAddress (Vector.replicate 64 1)) :=
        ⟨⟨_, earlier⟩, taken, _, _, shown⟩
      exact ⟨history, device, payment, run, sent, shows, nonzero, approvedAddresses_paid run⟩

end KaspaApp
