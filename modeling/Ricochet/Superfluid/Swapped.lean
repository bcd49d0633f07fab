import Ricochet.Superfluid.Decode

/-!
# Tails in another order

The offsets of an encoding allow the tail of the user data to come before that of the call data.
`encodeSwapped` is such an encoding of the arguments of `callAgreement` and of an operation's data;
the contracts decode it like any other (`decodeCallAgreement_encodeSwapped`,
`decodeCallAgreementData_encodeSwapped`).
-/

namespace Ricochet

open CLib Abi

/-- `(…, bytes callData, bytes userData)` with the tail of the user data first. -/
def encodeSwapped (head callData userData : List UInt8) : List UInt8 :=
  head ++ (word (head.length + 64 + (bytes userData).length) ++
    (word (head.length + 64) ++ (bytes userData ++ bytes callData)))

theorem readBytes_encodeSwapped (head : List UInt8) {callData userData : List UInt8}
    (hmod : head.length % 32 = 0)
    (hhead : head.length < 256 ^ 30) (hcallData : callData.length < 256 ^ 31)
    (huserData : userData.length < 256 ^ 31) :
    readBytes (encodeSwapped head callData userData) head.length = some callData ∧
      readBytes (encodeSwapped head callData userData) (head.length + 32) = some userData := by
  have hbytes : (bytes userData).length = 32 + (userData.length + 31) / 32 * 32 :=
    length_bytes userData
  constructor
  · rw [encodeSwapped]
    refine readBytes_of_drop [] (by omega) (by omega) (by omega) ?_
    rw [← List.append_assoc, ← List.append_assoc, ← List.append_assoc, List.append_nil]
    refine List.drop_left' ?_
    simp only [List.length_append, length_word]
  · have hpre : head.length + 32 =
        (head ++ word (head.length + 64 + (bytes userData).length)).length := by
      rw [List.length_append, length_word]
    rw [encodeSwapped, ← List.append_assoc, hpre]
    refine readBytes_of_drop (bytes callData) (by omega) (by omega) (by omega) ?_
    rw [← List.append_assoc]
    refine List.drop_left' ?_
    simp only [List.length_append, length_word]

/-- A parser that takes the first tail for the call data finds the user data. -/
theorem encodeSwapped_split (head callData userData : List UInt8) :
    ∃ pre post, pre.length = head.length + 96 ∧
      encodeSwapped head callData userData = pre ++ (userData ++ post) := by
  refine ⟨head ++ (word (head.length + 64 + (bytes userData).length) ++
      (word (head.length + 64) ++ word userData.length)),
    List.replicate ((32 - userData.length % 32) % 32) 0 ++ bytes callData, ?_, ?_⟩
  · simp
  · simp [encodeSwapped, bytes, pad]

theorem length_encodeSwapped_mod {head : List UInt8} (callData userData : List UInt8)
    (hmod : head.length % 32 = 0) : (encodeSwapped head callData userData).length % 32 = 0 := by
  simp only [encodeSwapped, List.length_append, length_word, length_bytes]
  omega

theorem decodeCallAgreement_encodeSwapped (agreementClass : Address)
    {callData userData : List UInt8} (hcallData : callData.length < 256 ^ 31)
    (huserData : userData.length < 256 ^ 31) :
    decodeCallAgreement (encodeSwapped (addressWord agreementClass) callData userData) =
      some (agreementClass, callData, userData) := by
  obtain ⟨hcall, huser⟩ := readBytes_encodeSwapped (addressWord agreementClass) (by simp)
    (by simp) hcallData huserData
  rw [length_addressWord] at hcall huser
  have hclass : readAddress (encodeSwapped (addressWord agreementClass) callData userData) 0 =
      some agreementClass := readAddress_addressWord _ _
  simp only [decodeCallAgreement, hclass, hcall, huser, Option.bind_eq_bind, Option.bind_some]

theorem decodeCallAgreementData_encodeSwapped {callData userData : List UInt8}
    (hcallData : callData.length < 256 ^ 31) (huserData : userData.length < 256 ^ 31) :
    decodeCallAgreementData (encodeSwapped [] callData userData) = some (callData, userData) := by
  obtain ⟨hcall, huser⟩ := readBytes_encodeSwapped [] (by simp) (by simp) hcallData
    huserData
  rw [List.length_nil] at hcall huser
  simp only [decodeCallAgreementData, hcall, huser, Option.bind_eq_bind, Option.bind_some]

end Ricochet
