import TabSearch.InputError
import TabSearch.Text.Bytes

namespace TabSearch

def encodeText (text : List Char) : List UInt8 := text.flatMap String.utf8EncodeChar

theorem encodeText_append (s t : List Char) :
    encodeText (s ++ t) = encodeText s ++ encodeText t := List.flatMap_append

theorem encodeText_newline (text : List Char) :
    encodeText ('\n' :: text) = 10 :: encodeText text := rfl

theorem encodeText_eq_nil {text : List Char} : encodeText text = [] ↔ text = [] := by
  cases text with
  | nil => simp [encodeText]
  | cons c text => simp [encodeText, String.utf8EncodeChar_ne_nil]

theorem length_encodeText (text : List Char) : (encodeText text).length = byteCount text := by
  induction text with
  | nil => rfl
  | cons c text ih =>
      have hcons : encodeText (c :: text) = String.utf8EncodeChar c ++ encodeText text := rfl
      rw [hcons, List.length_append, String.length_utf8EncodeChar, ih, byteCount]

theorem toByteArray_encodeText (text : List Char) :
    (⟨(encodeText text).toArray⟩ : ByteArray) = (String.ofList text).toByteArray := by
  rw [String.toByteArray_ofList, List.utf8Encode]
  exact ByteArray.ext (Array.toList_inj.mp (by rw [List.toList_data_toByteArray, encodeText]))

theorem decodeText_encodeText (text : List Char) :
    decodeText (encodeText text) = some (String.ofList text) := by
  rw [decodeText, toByteArray_encodeText, String.fromUTF8?,
    dif_pos (String.ofList text).isValidUTF8]
  rfl

theorem encodeText_of_decodeText {bytes : List UInt8} {text : String}
    (h : decodeText bytes = some text) : encodeText text.toList = bytes := by
  rw [decodeText, String.fromUTF8?] at h
  split at h
  next hv =>
    obtain rfl := Option.some.inj h
    have hbytes := toByteArray_encodeText (String.fromUTF8 ⟨bytes.toArray⟩ hv).toList
    rw [String.ofList_toList] at hbytes
    exact congrArg (fun b => b.data.toList) hbytes
  next => cases h

theorem decodeText_eq_none {bytes : List UInt8} :
    decodeText bytes = none ↔ ∀ text, encodeText text ≠ bytes := by
  constructor
  · rintro h text rfl
    rw [decodeText_encodeText] at h
    cases h
  · intro h
    rw [Option.eq_none_iff_forall_ne_some]
    intro text htext
    exact h text.toList (encodeText_of_decodeText htext)

theorem encodeText_injective {s t : List Char} (h : encodeText s = encodeText t) : s = t := by
  have hdecode := congrArg decodeText h
  rw [decodeText_encodeText, decodeText_encodeText] at hdecode
  exact String.ofList_injective (Option.some.inj hdecode)

theorem newline_of_mem {c : Char} (h : 10 ∈ String.utf8EncodeChar c) : c = '\n' := by
  -- in longer forms every byte has its highest bit set
  have hbyte {k : Nat} (hlow : 128 ≤ k) (hhigh : k < 256) : (10 : UInt8) ≠ UInt8.ofNat k := by
    intro he
    have := congrArg UInt8.toNat he
    rw [UInt8.toNat_ofNat_of_lt' hhigh] at this
    change 10 = k at this
    omega
  rw [String.utf8EncodeChar.eq_def] at h
  dsimp only at h
  by_cases h1 : c.val.toNat ≤ 0x7f
  · rw [if_pos h1, List.mem_singleton] at h
    have hv := congrArg UInt8.toNat h
    rw [UInt8.toNat_ofNat_of_lt' (show c.val.toNat < 256 by omega)] at hv
    exact Char.ext (UInt32.toNat_inj.mp hv.symm)
  · exfalso
    rw [if_neg h1] at h
    split at h
    next h2 =>
      simp only [List.mem_cons, List.not_mem_nil, or_false] at h
      rcases h with h | h <;> exact hbyte (by omega) (by omega) h
    next h2 =>
      split at h <;> simp only [List.mem_cons, List.not_mem_nil, or_false] at h
      · rcases h with h | h | h <;> exact hbyte (by omega) (by omega) h
      · rcases h with h | h | h | h <;> exact hbyte (by omega) (by omega) h

theorem newline_not_mem_encodeText {text : List Char} (h : '\n' ∉ text) : 10 ∉ encodeText text := by
  intro hmem
  obtain ⟨c, hc, hbyte⟩ := List.mem_flatMap.mp hmem
  exact h (newline_of_mem hbyte ▸ hc)

end TabSearch
