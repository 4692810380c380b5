import Mathlib

/-! An AEAD as an ideal functionality. Every seal draws a nonce and a
ciphertext, its coins, and records the sealing; open gives back the plaintext
of a recorded sealing with the key, nonce, associated data and ciphertext it
is given, and fails on anything else. This is what a secure AEAD promises to
anyone who does not hold the key, stated as a table that a model can compute
with. A seal whose coins no earlier sealing used (`Fresh`) is then the only
sealing that opens with its nonce or with its ciphertext. -/
namespace IdealAead

/-- One recorded sealing. -/
structure Sealing (Key : Type) where
  key : Key
  nonce : List UInt8
  associatedData : List UInt8
  ciphertext : List UInt8
  plaintext : List UInt8
  deriving DecidableEq, Repr

/-- The sealings so far, oldest first. -/
structure State (Key : Type) where
  sealings : List (Sealing Key)
  deriving DecidableEq, Repr

variable {Key : Type} [DecidableEq Key]

/-- A sealing opens with exactly its key, nonce, associated data and
ciphertext. -/
def Sealing.Opens (sealing : Sealing Key) (key : Key) (nonce associatedData ciphertext : List UInt8) : Prop :=
  sealing.key = key ∧ sealing.nonce = nonce ∧ sealing.associatedData = associatedData ∧
    sealing.ciphertext = ciphertext

instance (sealing : Sealing Key) (key : Key) (nonce associatedData ciphertext : List UInt8) :
    Decidable (sealing.Opens key nonce associatedData ciphertext) :=
  inferInstanceAs (Decidable (_ ∧ _))

namespace State

def empty : State Key := ⟨[]⟩

/-- Sealing `plaintext` with the coins `nonce` and `ciphertext`. -/
def encrypt (t : State Key) (key : Key) (nonce associatedData ciphertext plaintext : List UInt8) : State Key :=
  ⟨t.sealings ++ [⟨key, nonce, associatedData, ciphertext, plaintext⟩]⟩

/-- Opening: the plaintext of the first sealing that opens with these. -/
def decrypt (t : State Key) (key : Key) (nonce associatedData ciphertext : List UInt8) : Option (List UInt8) :=
  (t.sealings.find? fun sealing => decide (sealing.Opens key nonce associatedData ciphertext)).map (·.plaintext)

/-- Coins that no sealing of `t` used. -/
def Fresh (t : State Key) (nonce ciphertext : List UInt8) : Prop :=
  nonce ∉ t.sealings.map (·.nonce) ∧ ciphertext ∉ t.sealings.map (·.ciphertext)

variable {t : State Key} {key : Key} {nonce associatedData ciphertext plaintext : List UInt8}

/-- What opens was sealed. -/
theorem mem_of_decrypt {opened : List UInt8} (decrypted : t.decrypt key nonce associatedData ciphertext = some opened) :
    ⟨key, nonce, associatedData, ciphertext, opened⟩ ∈ t.sealings := by
  obtain ⟨sealing, found, rfl⟩ := Option.map_eq_some_iff.mp decrypted
  have opens := List.find?_some found
  obtain ⟨sameKey, sameNonce, sameData, sameCiphertext⟩ := of_decide_eq_true opens
  rw [← sameKey, ← sameNonce, ← sameData, ← sameCiphertext]
  exact List.mem_of_find?_eq_some found

/-- A sealing with a nonce no earlier sealing used opens with its own key,
nonce, associated data and ciphertext, and gives back its plaintext. -/
theorem decrypt_encrypt_self (fresh : nonce ∉ t.sealings.map (·.nonce)) :
    (t.encrypt key nonce associatedData ciphertext plaintext).decrypt key nonce associatedData ciphertext =
      some plaintext := by
  have earlier : t.sealings.find? (fun sealing => decide (sealing.Opens key nonce associatedData ciphertext)) =
      none := by
    refine List.find?_eq_none.mpr fun sealing member opens => fresh ?_
    exact List.mem_map.mpr ⟨sealing, member, (of_decide_eq_true opens).2.1⟩
  simp only [decrypt, encrypt, List.find?_append, earlier, Option.none_or]
  simp [Sealing.Opens]

/-- Sealings are only ever added, and what opens keeps opening to the same
plaintext. -/
theorem decrypt_of_prefix {t' : State Key} (grown : t.sealings <+: t'.sealings) {opened : List UInt8}
    (decrypted : t.decrypt key nonce associatedData ciphertext = some opened) :
    t'.decrypt key nonce associatedData ciphertext = some opened := by
  obtain ⟨added, extended⟩ := grown
  obtain ⟨sealing, found, rfl⟩ := Option.map_eq_some_iff.mp decrypted
  simp only [decrypt, ← extended, List.find?_append, found, Option.some_or, Option.map_some]

omit [DecidableEq Key] in
theorem sealings_prefix_encrypt : t.sealings <+: (t.encrypt key nonce associatedData ciphertext plaintext).sealings :=
  List.prefix_append _ _

/-- After a sealing with fresh coins, nothing else that shares its nonce or
its ciphertext opens. -/
theorem decrypt_encrypt_of_shared (fresh : t.Fresh nonce ciphertext) {key' : Key}
    {nonce' associatedData' ciphertext' : List UInt8}
    (differs : (key', nonce', associatedData', ciphertext') ≠ (key, nonce, associatedData, ciphertext))
    (shared : nonce' = nonce ∨ ciphertext' = ciphertext) :
    (t.encrypt key nonce associatedData ciphertext plaintext).decrypt key' nonce' associatedData' ciphertext' = none := by
  cases decrypted : (t.encrypt key nonce associatedData ciphertext plaintext).decrypt key' nonce' associatedData'
      ciphertext' with
  | none => rfl
  | some opened =>
    have member := mem_of_decrypt decrypted
    simp only [encrypt, List.mem_append, List.mem_singleton, Sealing.mk.injEq] at member
    rcases member with earlier | ⟨rfl, rfl, rfl, rfl, -⟩
    · -- an earlier sealing would have used the fresh nonce or ciphertext
      rcases shared with rfl | rfl
      · exact absurd (List.mem_map_of_mem (f := (·.nonce)) earlier) fresh.1
      · exact absurd (List.mem_map_of_mem (f := (·.ciphertext)) earlier) fresh.2
    · exact absurd rfl differs

end State

end IdealAead
