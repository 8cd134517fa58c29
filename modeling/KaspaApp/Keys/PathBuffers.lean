import KaspaApp.Wire.Readers

/-! Where `handler_get_public_key` stores the path of a payload. The reader takes up to ten
elements, the array has five, and the length that is checked afterwards lies behind the array.
-/

namespace KaspaApp

variable {target : Target} {frontEnd : FrontEnd} {env : Env} {cdata : Buffer} {display : Bool}

/-- The result of `buffer_read_bip32_path` on the payload, and the entries it writes. -/
def pathRead (env : Env) (cdata : Buffer) : Bool × List UInt32 :=
  env.bufferReadBip32Path cdata.readU8.next cdata.readU8.value.toNat

/-- The context in which the path is written. -/
def pathStart (target : Target) (cdata : Buffer) : GlobalCtx target :=
  { GlobalCtx.cleared target .confirmAddress with bip32PathLen := cdata.readU8.value }

/-- The context in which the length and the fixed elements are checked. -/
def pathContext (target : Target) (env : Env) (cdata : Buffer) : GlobalCtx target :=
  (pathStart target cdata).writeBip32Path (pathRead env cdata).2

/-- The checks of `handler_get_public_key` in front of the key derivation. -/
structure ReachesDerivation (target : Target) (env : Env) (cdata : Buffer) : Prop where
  lengthRead : cdata.readU8.ok = true
  pathRead : (pathRead env cdata).1 = true
  lengthGe : 2 ≤ (pathContext target env cdata).bip32PathLen
  lengthLe : (pathContext target env cdata).bip32PathLen ≤ 5
  purpose : (pathContext target env cdata).bip32Path[0] = KaspaApp.purpose
  coinType : (pathContext target env cdata).bip32Path[1] = KaspaApp.coinType

/-- What `handler_get_public_key` does with the derived key. -/
def publicKeyDerived (frontEnd : FrontEnd) (env : Env) (display : Bool) (ctx : GlobalCtx target)
    (derived : UInt32 × Bytes 65 × Bytes 32)
    : GlobalCtx target × List Effect :=
  let (error, rawPubkey, chainCode) := derived
  let info := { PubkeyCtx.zero with chainCode := chainCode }
  if error ≠ cxOk then
    (ctx.withPkInfo info, ioSendSw error.toUInt16)
  else
    let rawPublicKey := Memory.copy info.rawPublicKey (rawPubkey.toList.drop 1)
    let ctx := ctx.withPkInfo { info with rawPublicKey := rawPublicKey }
    if display then uiDisplayAddress frontEnd env ctx else (ctx, helperSendResponsePubkey ctx)

/-- The handler, with its path reader and its derivation set apart. -/
theorem handlerGetPublicKey_eq (frontEnd : FrontEnd) (env : Env) (cdata : Buffer) (display : Bool)
    : handlerGetPublicKey frontEnd env cdata display
      = if !cdata.readU8.ok then
          (pathStart target cdata, ioSendSw swWrongDataLength)
        else if !(pathRead env cdata).1 then
          (pathContext target env cdata, ioSendSw swWrongDataLength)
        else if (pathContext target env cdata).bip32PathLen < 2
            ∨ (pathContext target env cdata).bip32PathLen > 5 then
          (pathContext target env cdata, ioSendSw swWrongBip32PathLen)
        else if (pathContext target env cdata).bip32Path[0] ≠ purpose then
          (pathContext target env cdata, ioSendSw swWrongBip32Purpose)
        else if (pathContext target env cdata).bip32Path[1] ≠ coinType then
          (pathContext target env cdata, ioSendSw swWrongBip32CoinType)
        else
          publicKeyDerived frontEnd env display (pathContext target env cdata)
            (env.bip32DeriveGetPubkey256 (pathContext target env cdata).path) :=
  rfl

/-- Behind its checks, the handler derives the key at the path of the context. -/
theorem handlerGetPublicKey_of_reaches (reaches : ReachesDerivation target env cdata)
    : handlerGetPublicKey frontEnd env cdata display
      = publicKeyDerived frontEnd env display (pathContext target env cdata)
          (env.bip32DeriveGetPubkey256 (pathContext target env cdata).path) := by
  have length
      : ¬ ((pathContext target env cdata).bip32PathLen < 2
          ∨ (pathContext target env cdata).bip32PathLen > 5) := by
    rw [not_or]
    exact ⟨UInt8.not_lt.mpr reaches.lengthGe, UInt8.not_lt.mpr reaches.lengthLe⟩
  rw [handlerGetPublicKey_eq, if_neg (by simp [reaches.lengthRead]),
    if_neg (by simp [reaches.pathRead]), if_neg length, if_neg (not_not.mpr reaches.purpose),
    if_neg (not_not.mpr reaches.coinType)]

/-- Where a check fails, the handler replies with a status word, whatever a derivation would
give.
-/
theorem handlerGetPublicKey_refuses (refused : ¬ ReachesDerivation target env cdata)
    (derive : List UInt32 → UInt32 × Bytes 65 × Bytes 32)
    : ∃ code,
        code ≠ swOk
        ∧ (handlerGetPublicKey frontEnd { env with bip32DeriveGetPubkey256 := derive } cdata
            display : GlobalCtx target × List Effect).2
          = ioSendSw code := by
  rw [handlerGetPublicKey_eq]
  have start : pathContext target { env with bip32DeriveGetPubkey256 := derive } cdata
      = pathContext target env cdata := rfl
  have read : pathRead { env with bip32DeriveGetPubkey256 := derive } cdata
      = pathRead env cdata := rfl
  rw [start, read]
  split
  · exact ⟨_, by decide, rfl⟩
  next lengthRead =>
  split
  · exact ⟨_, by decide, rfl⟩
  next pathRead =>
  split
  · exact ⟨_, by decide, rfl⟩
  next length =>
  split
  · exact ⟨_, by decide, rfl⟩
  next first =>
  split
  · exact ⟨_, by decide, rfl⟩
  next second =>
  refine absurd ⟨by simpa using lengthRead, by simpa using pathRead, ?_, ?_,
    not_not.mp first, not_not.mp second⟩ refused
  · exact UInt8.not_lt.mp fun short => length (Or.inl short)
  · exact UInt8.not_lt.mp fun long => length (Or.inr long)

/-- The entries of `bip32_path` that the handler makes the reader write. -/
def pathWrites (env : Env) (cdata : Buffer) : List Nat :=
  if cdata.readU8.ok then List.range (pathRead env cdata).2.length else []

/-- A path stays inside its array, changes no other field, and is used for a derivation only
with the length that the payload declares.
-/
structure PathStaysInside (target : Target) (env : Env) (cdata : Buffer) : Prop where
  written : ∀ entry ∈ pathWrites env cdata, entry < kaspaMaxBip32PathLen
  kept
    : cdata.readU8.ok = true
      → pathContext target env cdata
        = { pathStart target cdata with bip32Path := (pathContext target env cdata).bip32Path }
  derived
    : ReachesDerivation target env cdata
      → 2 ≤ cdata.readU8.value.toNat ∧ cdata.readU8.value.toNat ≤ 5

/-- The reader finds its entries in the payload behind a length byte. -/
def PathReadable (count : UInt8) (path : List UInt8) : Prop :=
  0 < count.toNat ∧ count.toNat ≤ maxBip32Path ∧ 4 * count.toNat ≤ path.length

instance (count : UInt8) (path : List UInt8) : Decidable (PathReadable count path) := by
  unfold PathReadable
  infer_instance

/-- The payload is empty, or its length byte is at most 5 where the reader succeeds with it, or
the reader fails and leaves at most 5 entries written.
-/
def PathFits (env : Env) (cdata : Buffer) : Prop :=
  match cdata.rest with
  | [] => True
  | count :: path =>
      if PathReadable count path then count.toNat ≤ 5
      else (env.partialPath (cdata.advance 1) count.toNat).length ≤ 5

/-- What the reader writes for a payload with a length byte. -/
theorem length_pathRead {count : UInt8} {path : List UInt8} (payload : cdata.rest = count :: path)
    : (pathRead env cdata).2.length
      = if PathReadable count path then count.toNat
        else (env.partialPath (cdata.advance 1) count.toNat).length := by
  obtain ⟨read, rest⟩ := Buffer.readU8_cons payload
  have enough
      : (cdata.advance 1).canRead (4 * count.toNat) = true ↔ 4 * count.toNat ≤ path.length := by
    rw [Buffer.canRead_iff, rest]
  simp only [pathRead, read, Env.bufferReadBip32Path]
  by_cases readable : PathReadable count path
  · have checks := readable
    obtain ⟨positive, limit, inside⟩ := checks
    simp [readable, positive, limit, enough.mpr inside]
  · rw [if_neg readable, if_neg]
    simp only [Bool.and_eq_true, decide_eq_true_eq, enough]
    rintro ⟨⟨positive, limit⟩, inside⟩
    exact readable ⟨positive, limit, inside⟩

/-- At most five entries fill the array and leave the length byte behind it alone. -/
theorem stays_iff_length
    : PathStaysInside target env cdata
      ↔ (cdata.readU8.ok = true → (pathRead env cdata).2.length ≤ 5) := by
  constructor
  · intro stays lengthRead
    have written := stays.written 5
    rw [pathWrites, if_pos lengthRead, List.mem_range] at written
    exact Nat.le_of_not_lt fun longer => Nat.lt_irrefl 5 (written longer)
  · intro short
    have same (lengthRead : cdata.readU8.ok = true)
        : (pathContext target env cdata).bip32PathLen = cdata.readU8.value := by
      have none : (pathRead env cdata).2[5]? = none := List.getElem?_eq_none (short lengthRead)
      simp only [pathContext, GlobalCtx.writeBip32Path, none]
      rfl
    constructor
    · intro entry member
      rw [pathWrites] at member
      split at member
      · next lengthRead => exact (List.mem_range.mp member).trans_le (short lengthRead)
      · simp at member
    · intro lengthRead
      have length := same lengthRead
      simp only [pathContext, GlobalCtx.writeBip32Path] at length ⊢
      rw [length]
      rfl
    · intro reaches
      have length := same reaches.lengthRead
      have ge := length ▸ reaches.lengthGe
      have le := length ▸ reaches.lengthLe
      exact ⟨UInt8.le_iff_toNat_le.mp ge, UInt8.le_iff_toNat_le.mp le⟩

/-- A path stays inside its array exactly if the reader, with the payload's length byte, writes
at most five entries.
-/
theorem pathStaysInside_iff (target : Target) (env : Env) (cdata : Buffer)
    : PathStaysInside target env cdata ↔ PathFits env cdata := by
  rw [stays_iff_length, PathFits]
  cases payload : cdata.rest with
  | nil => simp [Buffer.readU8_nil payload]
  | cons count path =>
      have lengthRead : cdata.readU8.ok = true := by rw [(Buffer.readU8_cons payload).1]
      rw [length_pathRead payload]
      simp only [lengthRead, forall_const]
      by_cases readable : PathReadable count path
      · rw [if_pos readable, if_pos readable]
      · rw [if_neg readable, if_neg readable]

/-- Six elements, the last one 5: the length byte becomes 5 and passes the check. -/
def overlongPath : List UInt8 :=
  [6] ++ FixedWidth.bigEndian 4 purpose.toNat ++ FixedWidth.bigEndian 4 coinType.toNat
  ++ List.replicate 15 0 ++ [5]

theorem derives_with_overlong_path
    : ¬ ∀ (target : Target) (env : Env) (cdata : Buffer),
          (∀ buf count, env.partialPath buf count = []) → PathStaysInside target env cdata := by
  intro claim
  have stays := claim .nanos .succeeding ⟨overlongPath, fun _ => 0, 0⟩ (fun _ _ => rfl)
  have reaches : ReachesDerivation .nanos .succeeding ⟨overlongPath, fun _ => 0, 0⟩ := by
    constructor <;> decide +kernel
  have declared : ((⟨overlongPath, fun _ => 0, 0⟩ : Buffer).readU8.value).toNat = 6 := by
    decide +kernel
  have bound := (stays.derived reaches).2
  omega

end KaspaApp
