import KaspaApp.Session.SigningIndex
import KaspaApp.Session.Slots

/-! What is signed, compared with what was reviewed. Nothing stops output and input commands
after an approval, so the signed contents are the reviewed ones as long as no such command is
parsed between the approval and the signature.
-/

namespace KaspaApp

open Histories

variable {target : Target} {frontEnd : FrontEnd} {history : List (Step target)}
  {device : Device target} {step : Step target}

-----------------------------------------------------------------------------------------
-- The contents of a transaction
-----------------------------------------------------------------------------------------

structure InputContents where
  value : UInt64
  txId : Bytes 32
  index : UInt8
  addressType : UInt8
  addressIndex : UInt32
deriving DecidableEq

/-- What the user agrees to: the header fields, and every declared input and output. -/
structure Contents where
  version : UInt16
  account : UInt32
  inputCount : UInt32
  outputCount : UInt32
  inputs : List InputContents
  outputs : List (UInt64 × List UInt8)
deriving DecidableEq

def TransactionInput.contents (txin : TransactionInput) : InputContents :=
  {
    value := txin.value
    txId := txin.txId
    index := txin.index
    addressType := txin.addressType
    addressIndex := txin.addressIndex
  }

/-- The value and the script bytes, as many as `calc_outputs_hash` takes. -/
def TransactionOutput.contents (txout : TransactionOutput) (stray : Stray)
    : UInt64 × List UInt8 :=
  (txout.value,
    Memory.readBlock txout.scriptPublicKey stray.script (scriptLen txout.scriptPublicKey).toNat)

/-- The declared contents, read wherever the counts lead. -/
def Transaction.contents (tx : Transaction target) (stray : Stray) : Contents :=
  {
    version := tx.version
    account := tx.account
    inputCount := tx.txInputLen
    outputCount := tx.txOutputLen
    inputs :=
      (List.range tx.txInputLen.toNat).map fun index => (tx.input stray index).contents
    outputs :=
      (List.range tx.txOutputLen.toNat).map fun index => (tx.output stray index).contents stray
  }

/-- Inside the arrays and with complete scripts, the contents depend on the transaction
alone.
-/
theorem contents_stray {tx : Transaction target}
    (inputs : tx.txInputLen.toNat ≤ target.maxInputCount)
    (outputs : tx.txOutputLen.toNat ≤ maxOutputCount)
    (shaped : ∀ slot ∈ tx.txOutputs.toList, Shaped slot.scriptPublicKey) (left right : Stray)
    : tx.contents left = tx.contents right := by
  have inputsSame : ∀ index ∈ List.range tx.txInputLen.toNat,
      (tx.input left index).contents = (tx.input right index).contents := by
    intro index member
    have inside : index < target.maxInputCount := by
      have bound := List.mem_range.mp member
      omega
    simp only [Transaction.input, Memory.read_of_lt _ _ inside]
  have outputsSame : ∀ index ∈ List.range tx.txOutputLen.toNat,
      (tx.output left index).contents left = (tx.output right index).contents right := by
    intro index member
    have inside : index < maxOutputCount := by
      have bound := List.mem_range.mp member
      omega
    have fits := (shaped _ (Vector.mem_toList_iff.mpr (Vector.getElem_mem inside))).scriptLen_le
    simp only [Transaction.output, TransactionOutput.contents, Memory.read_of_lt _ _ inside,
      Memory.readBlock_of_le _ _ fits]
  rw [Transaction.contents, Transaction.contents, List.map_congr_left inputsSame,
    List.map_congr_left outputsSame]

-----------------------------------------------------------------------------------------
-- The property and its condition
-----------------------------------------------------------------------------------------

/-- The last step of the history opened a transaction review of these contents. -/
def OpenedWith (contents : Contents) (history : List (Step target)) : Prop :=
  match history with
  | [] => False
  | opening :: _ =>
      OpensReview .confirmTransaction opening
      ∧ opening.after.ctx.txInfo.transaction.contents (opening.action.env.stray .uiDisplay)
        = contents

instance (contents : Contents) (history : List (Step target))
    : Decidable (OpenedWith contents history) := by
  unfold OpenedWith
  split <;> infer_instance

/-- The last approved review was opened with these contents. -/
def LastApproved (contents : Contents) (history : List (Step target)) : Prop :=
  Since (fun step => ¬ Approves .confirmTransaction step)
    (fun before approval => Approves .confirmTransaction approval ∧ OpenedWith contents before)
    history

instance (contents : Contents) (history : List (Step target))
    : Decidable (LastApproved contents history) := by
  unfold LastApproved
  infer_instance

/-- The contents that a signing step hashes. -/
def signedContents (step : Step target) : Contents :=
  step.before.ctx.txInfo.transaction.contents (step.action.env.stray .calcSighash)

/-- A signature is over the contents of the review that the user approved last. -/
def SignsReviewedContents (earlier : List (Step target)) (step : Step target) : Prop :=
  ∀ sent ∈ sentSigs step,
    HashedBy step.action.env step.before.ctx.txInfo.transaction
        step.before.ctx.txInfo.signingInputIndex sent.sighash
      ∧ LastApproved (signedContents step) (step :: earlier)

/-- No output or input command has reached its parser since the last approval. -/
def UnwrittenSinceApproval (history : List (Step target)) : Prop :=
  Since (fun step => ¬ WritesSlot step) (fun _ step => Approves .confirmTransaction step) history

/-- A signature is requested for a transaction whose inputs fit their array, and by P1 = 3 only
while no command has written into it since the approval.
-/
def RequestsReviewedTransaction (earlier : List (Step target)) (step : Step target) : Prop :=
  (RequestsSignature step
      → step.before.ctx.txInfo.transaction.txInputLen.toNat ≤ target.maxInputCount)
  ∧ (IsNextSignature step → SigningAdmitted step.before.ctx → UnwrittenSinceApproval earlier)

instance (step : Step target) : Decidable (RequestsSignature step) :=
  inferInstanceAs (Decidable (_ ∨ _))

instance (earlier : List (Step target)) (step : Step target)
    : Decidable (RequestsReviewedTransaction earlier step) := by
  unfold RequestsReviewedTransaction UnwrittenSinceApproval
  infer_instance

-----------------------------------------------------------------------------------------
-- Output slots
-----------------------------------------------------------------------------------------

/-- The output slots of a signing session are empty or hold complete scripts, and a session
that was reviewed declares at most two outputs.
-/
structure Sound (history : List (Step target)) (device : Device target) : Prop where
  ordered : Ordered history device
  shaped
    : device.ctx.reqType = .confirmTransaction
      → ∀ slot ∈ device.ctx.txInfo.transaction.txOutputs.toList, Shaped slot.scriptPublicKey
  outputs
    : device.ctx.reqType = .confirmTransaction → device.ctx.state ≠ .stateNone
      → device.ctx.txInfo.transaction.txOutputLen.toNat ≤ maxOutputCount

theorem mem_setIfInBounds {Row : Type} {size index : Nat} {table : Vector Row size} {row new : Row}
    (member : row ∈ (table.setIfInBounds index new).toList)
    : row ∈ table.toList ∨ row = new := by
  rw [Vector.mem_toList_iff] at member ⊢
  obtain ⟨position, inside, found⟩ := Vector.mem_iff_getElem.mp member
  rw [Vector.getElem_setIfInBounds] at found
  split at found
  · exact Or.inr found.symm
  · exact Or.inl (found ▸ Vector.getElem_mem inside)

/-- Every write of an output command leaves its slot empty or with a complete script. -/
theorem OutputEffect.shaped (effect : OutputEffect step)
    (before
      : ∀ slot ∈ step.before.ctx.txInfo.transaction.txOutputs.toList,
          Shaped slot.scriptPublicKey)
    : ∀ slot ∈ step.after.ctx.txInfo.transaction.txOutputs.toList,
        Shaped slot.scriptPublicKey := by
  intro slot member
  cases effect with
  | kept none index slots => exact before slot (slots ▸ member)
  | refused row admitted writes script none index slots =>
      rw [slots] at member
      rcases mem_setIfInBounds member with kept | rfl
      · exact before slot kept
      · rcases script with ⟨old, member, same⟩ | complete
        · exact same ▸ before old member
        · exact Or.inr complete
  | accepted payload old admitted writes some index slots =>
      rw [slots] at member
      rcases mem_setIfInBounds member with kept | rfl
      · exact before slot kept
      · exact Or.inr ⟨payload.script, holds_copy old.scriptPublicKey payload.script⟩

theorem headed_shaped (target : Target) (cdata : Buffer)
    : ∀ slot ∈ (headed target cdata).txInfo.transaction.txOutputs.toList,
        Shaped slot.scriptPublicKey := by
  intro slot member
  obtain ⟨header, written⟩ :=
    transactionDeserialize_written target cdata (Vector.replicate kaspaMaxBip32PathLen 0)
  have outputs
      : (headed target cdata).txInfo.transaction.txOutputs
        = Vector.replicate maxOutputCount .zero :=
    congrArg Transaction.txOutputs written
  rw [outputs, Vector.mem_toList_iff, Vector.mem_replicate] at member
  exact Or.inl (by rw [member.2]; rfl)

/-- The outputs of a reviewed session were counted when it was reviewed. -/
theorem outputs_next
    (transition
      : Transition step.action.env step.before step.action.input step.output step.after)
    (sound : Sound history step.before) (session : step.after.ctx.reqType = .confirmTransaction)
    (reviewed : step.after.ctx.state ≠ .stateNone)
    : step.after.ctx.txInfo.transaction.txOutputLen.toNat ≤ maxOutputCount := by
  have taken := sessionStep_of_transition transition sound.ordered session
  obtain ⟨other, found⟩ := reviewed_before transition sound.ordered session reviewed
  have carried := (session_carried transition session).resolve_left other |>.1
  rw [(taken.sameHeader other).txOutputLen]
  rcases found with ⟨cmd, last⟩ | before
  · have counted := (validated_of_txValidate last.valid).outputsLe
    exact UInt32.le_iff_toNat_le.mp counted
  · exact sound.outputs carried before

theorem sound_next
    (transition
      : Transition step.action.env step.before step.action.input step.output step.after)
    (sound : Sound history step.before)
    : Sound (step :: history) step.after := by
  refine ⟨ordered_next transition sound.ordered, fun session => ?_,
    outputs_next transition sound⟩
  by_cases begins : IsHeader step
  · obtain ⟨cmd, heads⟩ := heads_of_isHeader transition begins
    rw [heads.after]
    exact headed_shaped target _
  · have taken := sessionStep_of_transition transition sound.ordered session
    have carried := (session_carried transition session).resolve_left begins |>.1
    exact (taken.outputEffect begins).shaped (sound.shaped carried)

-----------------------------------------------------------------------------------------
-- What an approval keeps
-----------------------------------------------------------------------------------------

/-- A transaction is its header fields and its two arrays. -/
theorem transaction_ext {left right : Transaction target} (header : SameHeader left right)
    (outputs : left.txOutputs = right.txOutputs) (inputs : left.txInputs = right.txInputs)
    : left = right := by
  cases left
  cases right
  obtain ⟨version, account, inputLen, outputLen⟩ := header
  simp only at version account inputLen outputLen outputs inputs
  subst version account inputLen outputLen outputs inputs
  rfl

/-- A step that no parser writes in leaves the transaction of its session as it is. -/
theorem transaction_kept
    (transition
      : Transition step.action.env step.before step.action.input step.output step.after)
    (ordered : Ordered history step.before)
    (session : step.after.ctx.reqType = .confirmTransaction) (other : ¬ IsHeader step)
    (unwritten : ¬ WritesSlot step)
    : step.after.ctx.txInfo.transaction = step.before.ctx.txInfo.transaction := by
  have taken := sessionStep_of_transition transition ordered session
  refine transaction_ext (taken.sameHeader other) ?_ ?_
  · cases taken.outputEffect other with
    | kept none index slots => exact slots
    | refused row admitted writes => exact absurd writes unwritten
    | accepted payload old admitted writes => exact absurd writes unwritten
  · cases taken.inputEffect other with
    | kept none index slots => exact slots
    | refused row admitted writes => exact absurd writes unwritten
    | accepted payload old admitted writes => exact absurd writes unwritten

/-- The last approved review was opened on this transaction. -/
def LastApprovedOn (tx : Transaction target) (history : List (Step target)) : Prop :=
  Since (fun step => ¬ Approves .confirmTransaction step)
    (fun before approval =>
      Approves .confirmTransaction approval
      ∧ ∃ opening earlier,
          before = opening :: earlier
          ∧ OpensReview .confirmTransaction opening
          ∧ opening.after.ctx.txInfo.transaction = tx)
    history

/-- An approved session that no command has written into since is on the approved
transaction.
-/
structure Reviewed (history : List (Step target)) (device : Device target) : Prop where
  sound : Sound history device
  approved
    : SigningAdmitted device.ctx → UnwrittenSinceApproval history
      → LastApprovedOn device.ctx.txInfo.transaction history

/-- An approval finds the transaction of the review it answers. -/
theorem openedOn_of_approves (ordered : Ordered history step.before)
    (approves : Approves .confirmTransaction step)
    : ∃ opening earlier,
        history = opening :: earlier
        ∧ OpensReview .confirmTransaction opening
        ∧ opening.after.ctx.txInfo.transaction = step.before.ctx.txInfo.transaction := by
  obtain ⟨review, waits, kind⟩ := Option.map_eq_some_iff.mp approves.2
  obtain ⟨opening, earlier, rfl, opened⟩ := ordered.opened review waits
  refine ⟨opening, earlier, rfl, ?_, by rw [opened.after]⟩
  rw [OpensReview, opened.output]
  simpa [openedReview] using kind

/-- A failed approval leaves no approved session. -/
theorem not_approves_of_unsent
    (transition
      : Transition step.action.env step.before step.action.input step.output step.after)
    (ordered : Ordered history step.before) (unsent : sentSigs step = [])
    (admitted : SigningAdmitted step.after.ctx)
    : ¬ Approves .confirmTransaction step := by
  rintro ⟨_, pending⟩
  obtain ⟨review, waits, kind⟩ := Option.map_eq_some_iff.mp pending
  have found := (admitted_carried transition ordered unsent admitted).1.state
  rw [ordered.state review waits] at found
  cases review <;> simp [Review.state] at found kind

theorem reviewed_next
    (transition
      : Transition step.action.env step.before step.action.input step.output step.after)
    (reviewed : Reviewed history step.before)
    : Reviewed (step :: history) step.after := by
  have ordered := reviewed.sound.ordered
  refine ⟨sound_next transition reviewed.sound, fun admitted unwritten => ?_⟩
  by_cases unsent : sentSigs step = []
  · have other := not_approves_of_unsent transition ordered unsent admitted
    obtain ⟨quiet, earlier⟩ := unwritten.resolve_left other
    have before := (admitted_carried transition ordered unsent admitted).1
    have notHeader : ¬ IsHeader step := by
      intro begins
      obtain ⟨cmd, heads⟩ := heads_of_isHeader transition begins
      have state := admitted.state
      rw [heads.after] at state
      exact absurd state (show State.stateNone ≠ .stateApproved by decide)
    rw [transaction_kept transition ordered admitted.reqType notHeader quiet]
    exact Or.inr ⟨other, reviewed.approved before earlier⟩
  · obtain ⟨start, signed, signs⟩ := signs_of_sentSigs transition unsent
    have kept : step.after.ctx.txInfo.transaction = step.before.ctx.txInfo.transaction := by
      simp only [signs.after, GlobalCtx.transaction_nextInput,
        (signs.request.signed_txInfo signs.result).1]
    rw [kept]
    by_cases approves : Approves .confirmTransaction step
    · exact Or.inl ⟨approves, openedOn_of_approves ordered approves⟩
    · obtain ⟨quiet, earlier⟩ := unwritten.resolve_left approves
      rcases (signs.request.requests _) with now | ⟨_, before⟩
      · exact absurd now approves
      · exact Or.inr ⟨approves, reviewed.approved before earlier⟩

/-- The approval itself, or a later P1 = 3 with nothing written in between, signs the
transaction of the last approved review.
-/
theorem lastApprovedOn_of_signs {start signed : GlobalCtx target}
    (reviewed : Reviewed history step.before) (signs : Signs step start signed)
    (requests : RequestsReviewedTransaction history step)
    : LastApprovedOn step.before.ctx.txInfo.transaction (step :: history) := by
  by_cases approves : Approves .confirmTransaction step
  · exact Or.inl ⟨approves, openedOn_of_approves reviewed.sound.ordered approves⟩
  · rcases (signs.request.requests _) with now | ⟨next, before⟩
    · exact absurd now approves
    · exact Or.inr ⟨approves, reviewed.approved before (requests.2 next before)⟩

theorem signsReviewedContents_of_transition
    (transition
      : Transition step.action.env step.before step.action.input step.output step.after)
    (reviewed : Reviewed history step.before)
    (requests : RequestsReviewedTransaction history step)
    : SignsReviewedContents history step := by
  intro sent member
  have sends : sentSigs step ≠ [] := List.ne_nil_of_mem member
  obtain ⟨start, signed, signs⟩ := signs_of_sentSigs transition sends
  have ordered := reviewed.sound.ordered
  have admitted := signs.admitted ordered
  have session := signs.request.reqType.symm.trans admitted.reqType
  rw [signs.sent, List.mem_singleton] at member
  subst member
  have hashed := cryptoSignTransaction_hashed step.action.env start (by rw [signs.result])
  rw [signs.request.txInfo, signs.result] at hashed
  refine ⟨hashed, ?_⟩
  have inside := requests.1 (signs.request.requests _)
  have reviewedBefore : step.before.ctx.state ≠ .stateNone := by
    rcases signs.request.origin with ⟨_, waits, _⟩ | ⟨_, _, _, _, admitted, _⟩
    · obtain ⟨review, pending, kind⟩ := Option.map_eq_some_iff.mp waits
      rw [ordered.state review pending]
      cases review <;> simp [Review.session, Review.state] at kind ⊢
    · simp [admitted.state]
  have sameContents (left right : Stray) :=
    contents_stray inside (reviewed.sound.outputs session reviewedBefore)
      (reviewed.sound.shaped session) left right
  refine (lastApprovedOn_of_signs reviewed signs requests).mono ?_ (fun _ quiet => quiet)
  rintro before approval ⟨approves, opening, earlier, rfl, opens, same⟩
  exact ⟨approves, opens, by rw [same]; exact sameContents _ _⟩

-----------------------------------------------------------------------------------------
-- Runs
-----------------------------------------------------------------------------------------

/-- As long as no command writes between an approval and a signature by P1 = 3, and signed
transactions keep to the input array, every signature of a run is over the contents that the
user reviewed.
-/
theorem signsReviewedContents (run : (machine target frontEnd).Run history device)
    (requests : Throughout RequestsReviewedTransaction history)
    : Throughout SignsReviewedContents history := by
  refine (run.throughout_of_invariant Reviewed requests ?_ ?_).2
  · refine ⟨⟨ordered_of_run .start, ?_, ?_⟩, fun admitted => ?_⟩
    · exact fun session => by simp [machine, GlobalCtx.zero] at session
    · exact fun session => by simp [machine, GlobalCtx.zero] at session
    · exact absurd admitted.reqType (by simp [machine, GlobalCtx.zero])
  · intro earlier step _ reviewed requests taken
    have transition := transition_of_takes taken
    exact ⟨reviewed_next transition reviewed,
      signsReviewedContents_of_transition transition reviewed requests⟩

theorem signsReviewedContents_sample
    : ∃ history device,
        (machine .nanos .bagl).Run history device
        ∧ history.map (fun step => (sentSigs step).length) = [1, 1, 0, 0, 0, 0]
        ∧ Throughout SignsReviewedContents history := by
  obtain ⟨history, device, run, requests, sent⟩ :=
    (machine .nanos .bagl).exists_run
      ((decidedSession true (plainHeader 1 2) [plainOutput 4] [plainInput 5] (plainInput 5)
        ++ [Input.apdu nextSignatureCommand]).map (Action.mk .succeeding))
      (fun history _ =>
        Throughout RequestsReviewedTransaction history
        ∧ history.map (fun step => (sentSigs step).length) = [1, 1, 0, 0, 0, 0])
      (by decide +kernel)
  exact ⟨history, device, run, sent, signsReviewedContents run requests⟩

/-- One of two inputs is reviewed and approved; the second one is sent afterwards and signed
by P1 = 3.
-/
theorem signs_unreviewed_contents
    : ¬ ∀ (history : List (Step .nanos)) (device : Device .nanos),
          (machine .nanos .bagl).Run history device
          → Throughout SignsReviewedContents history := by
  intro claim
  obtain ⟨history, device, run, broken⟩ :=
    (machine .nanos .bagl).exists_run
      ((decidedSession true (plainHeader 1 2) [plainOutput 4] [] (plainInput 5)
        ++ [Input.apdu (inputCommand true (plainInput 7)),
          Input.apdu nextSignatureCommand]).map (Action.mk .succeeding))
      (fun history _ =>
        ¬ Throughout
            (fun earlier step =>
              ∀ sent ∈ sentSigs step, LastApproved (signedContents step) (step :: earlier))
            history)
      (by decide +kernel)
  refine broken ((claim history device run).mono ?_)
  intro earlier step signs sent member
  exact (signs sent member).2

end KaspaApp
