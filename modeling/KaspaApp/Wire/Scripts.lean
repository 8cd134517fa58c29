import KaspaApp.Model.Types

/-! The payment scripts of the network, as values that cannot be malformed: the three
templates of the output parser.
-/

namespace KaspaApp

/-- A script that an output can pay to. -/
inductive PaymentScript where
  | schnorr (key : Bytes 32)
  | ecdsa (key : Bytes 33)
  | p2sh (hash : Bytes 32)
deriving DecidableEq

/-- The bytes of a script. -/
def PaymentScript.bytes : PaymentScript → List UInt8
  | .schnorr key => [0x20] ++ key.toList ++ [opCheckSig]
  | .ecdsa key => [0x21] ++ key.toList ++ [opCheckSigEcdsa]
  | .p2sh hash => [opBlake2b, 0x20] ++ hash.toList ++ [opEqual]

/-- The first byte of a script tells its template. -/
def PaymentScript.tag : PaymentScript → UInt8
  | .schnorr _ => 0x20
  | .ecdsa _ => 0x21
  | .p2sh _ => opBlake2b

@[simp] theorem PaymentScript.head_bytes (script : PaymentScript)
    : script.bytes.head? = some script.tag := by
  cases script <;> rfl

theorem PaymentScript.length_bytes (script : PaymentScript)
    : script.bytes.length = if script.tag = 0x20 then 34 else 35 := by
  cases script <;> simp [bytes, tag, opBlake2b]

theorem PaymentScript.length_bytes_le (script : PaymentScript) : script.bytes.length ≤ 35 := by
  rw [script.length_bytes]
  split <;> omega

theorem PaymentScript.length_bytes_ge (script : PaymentScript) : 34 ≤ script.bytes.length := by
  rw [script.length_bytes]
  split <;> omega

/-- The template and its hash or key are read back from the bytes. -/
theorem PaymentScript.bytes_injective {left right : PaymentScript}
    (same : left.bytes = right.bytes)
    : left = right := by
  cases left <;> cases right <;>
    simp [bytes, opBlake2b, opCheckSig, opCheckSigEcdsa, opEqual] at same ⊢
  all_goals exact Vector.toList_inj.mp same

/-- A string with a fixed front and a fixed last byte is `size` free bytes between the two. -/
theorem template_split {bytes : List UInt8} (front : List UInt8) (size : Nat) {last : UInt8}
    (length : bytes.length = front.length + size + 1)
    (starts : bytes.take front.length = front)
    (ends : bytes[front.length + size]? = some last)
    : ∃ middle : Bytes size, bytes = front ++ middle.toList ++ [last] := by
  obtain ⟨inside, value⟩ := List.getElem?_eq_some_iff.mp ends
  have back : bytes.drop (front.length + size) = [last] := by
    rw [List.drop_eq_getElem_cons inside, value, List.drop_of_length_le (by omega)]
  have fills : ((bytes.drop front.length).take size).length = size := by
    rw [List.length_take, List.length_drop]
    omega
  refine ⟨Memory.ofList _ fills, ?_⟩
  calc bytes
      = bytes.take (front.length + size) ++ bytes.drop (front.length + size) :=
        (List.take_append_drop _ _).symm
    _ = front ++ (Memory.ofList _ fills).toList ++ [last] := by
        rw [back, List.take_add, starts, Memory.toList_ofList]

/-- A byte string with the length and the fixed bytes of one of the templates. -/
inductive Template (bytes : List UInt8) : Prop
  | schnorr (tag : bytes[0]? = some 0x20) (length : bytes.length = 34)
    (last : bytes[33]? = some opCheckSig)
  | ecdsa (tag : bytes[0]? = some 0x21) (length : bytes.length = 35)
    (last : bytes[34]? = some opCheckSigEcdsa)
  | p2sh (tag : bytes[0]? = some opBlake2b) (length : bytes.length = 35)
    (second : bytes[1]? = some 0x20) (last : bytes[34]? = some opEqual)

theorem take_one_of_getElem? {bytes : List UInt8} {first : UInt8}
    (found : bytes[0]? = some first)
    : bytes.take 1 = [first] := by
  rw [List.take_one, List.head?_eq_getElem?, found, Option.toList_some]

/-- A string that fits a template is a script. -/
theorem Template.script {bytes : List UInt8} (template : Template bytes)
    : ∃ script : PaymentScript, bytes = script.bytes := by
  cases template with
  | schnorr tag length last =>
      obtain ⟨key, split⟩ :=
        template_split [0x20] 32 (by simp [length]) (take_one_of_getElem? tag) last
      exact ⟨.schnorr key, split⟩
  | ecdsa tag length last =>
      obtain ⟨key, split⟩ :=
        template_split [0x21] 33 (by simp [length]) (take_one_of_getElem? tag) last
      exact ⟨.ecdsa key, split⟩
  | p2sh tag length second last =>
      have starts : bytes.take 2 = [opBlake2b, 0x20] := by
        rw [List.take_add_one, take_one_of_getElem? tag, second]
        rfl
      obtain ⟨hash, split⟩ :=
        template_split [opBlake2b, 0x20] 32 (by simp [length]) starts last
      exact ⟨.p2sh hash, split⟩

/-- The slot begins with the script: what the output parser stores. -/
def Holds (slot : Bytes scriptPublicKeyBufferLen) (script : PaymentScript) : Prop :=
  slot.toList.take script.bytes.length = script.bytes

instance (slot : Bytes scriptPublicKeyBufferLen) (script : PaymentScript)
    : Decidable (Holds slot script) :=
  inferInstanceAs (Decidable (_ = _))

end KaspaApp
