import Feros.Transport.Stun
import Mathlib.Data.List.Basic
/-! # The address in a STUN response

* **`parse_total`**: no datagram makes the parser read out of range.
* **`parse_message`**: of a well-formed response it takes the first attribute that has an address.
* **`address_found_iff`**: that is the XOR-MAPPED-ADDRESS, unless a MAPPED-ADDRESS with another one
  stands in front of it. -/

namespace Feros

namespace Stun

open BigEndian

/-! ## Reads in range -/

/-- Two bytes that are there are read. -/
theorem readU16_of_lt (data : List UInt8) (i : ℕ) (inside : i + 1 < data.length) :
    ∃ n, readU16 data i = some n := by
  refine ⟨u16 data[i] data[i + 1], ?_⟩
  rw [readU16, byte, byte, List.getElem?_eq_getElem (by omega), List.getElem?_eq_getElem inside]
  rfl

/-- Four bytes that are there are read. -/
theorem readU32_of_lt (data : List UInt8) (i : ℕ) (inside : i + 3 < data.length) :
    ∃ n, readU32 data i = some n := by
  refine ⟨u32 data[i] data[i + 1] data[i + 2] data[i + 3], ?_⟩
  rw [readU32, byte, byte, byte, byte, List.getElem?_eq_getElem (by omega),
    List.getElem?_eq_getElem (by omega), List.getElem?_eq_getElem (by omega),
    List.getElem?_eq_getElem inside]
  rfl

/-- A xor-mapped address is read or refused, without a panic. -/
theorem parseXorMappedAddress_total (data : List UInt8) :
    ∃ result, parseXorMappedAddress data = some result := by
  unfold parseXorMappedAddress
  by_cases short : data.length < 8
  · exact ⟨none, if_pos short⟩
  · obtain ⟨port, readPort⟩ := readU16_of_lt data 2 (by omega)
    obtain ⟨addr, readAddr⟩ := readU32_of_lt data 4 (by omega)
    have family : byte data 1 = some data[1] := List.getElem?_eq_getElem (by omega)
    rw [if_neg short, family, readPort, readAddr]
    simp only [Option.bind_eq_bind, Option.bind_some]
    split
    · exact ⟨_, rfl⟩
    · exact ⟨_, rfl⟩

/-- A mapped address is read or refused, without a panic. -/
theorem parseMappedAddress_total (data : List UInt8) :
    ∃ result, parseMappedAddress data = some result := by
  unfold parseMappedAddress
  by_cases short : data.length < 8
  · exact ⟨none, if_pos short⟩
  · obtain ⟨port, readPort⟩ := readU16_of_lt data 2 (by omega)
    obtain ⟨addr, readAddr⟩ := readU32_of_lt data 4 (by omega)
    have family : byte data 1 = some data[1] := List.getElem?_eq_getElem (by omega)
    rw [if_neg short, family, readPort, readAddr]
    simp only [Option.bind_eq_bind, Option.bind_some]
    split
    · exact ⟨_, rfl⟩
    · exact ⟨_, rfl⟩

/-- **The loop stays inside the datagram.** -/
theorem parseAttributes_total {data : List UInt8} {attrsEnd : ℕ} (inside : attrsEnd ≤ data.length)
    (offset : ℕ) : ∃ result, parseAttributes data attrsEnd offset = some result := by
  -- The offset grows by at least four, so what is left of the attributes gets shorter.
  induction left : attrsEnd - offset using Nat.strongRecOn generalizing offset with
  | _ left ih =>
      subst left
      rw [parseAttributes.eq_def]
      by_cases more : offset + 4 ≤ attrsEnd
      · obtain ⟨attrType, readType⟩ := readU16_of_lt data offset (by omega)
        obtain ⟨length, readLength⟩ := readU16_of_lt data (offset + 2) (by omega)
        rw [dif_pos more, readType, readLength]
        dsimp only
        by_cases long : offset + 4 + length.toNat > attrsEnd
        · exact ⟨none, if_pos long⟩
        · have value : slice data (offset + 4) (offset + 4 + length.toNat) =
              some ((data.take (offset + 4 + length.toNat)).drop (offset + 4)) := if_pos (by omega)
          rw [if_neg long, value, Option.bind_some, Option.bind_some]
          split
          · exact parseXorMappedAddress_total _
          · split
            · exact parseMappedAddress_total _
            · exact ih _ (by omega) _ rfl
      · exact ⟨none, dif_neg more⟩

/-- **No datagram makes the parser read out of range.** -/
theorem parse_total (data expectedTxnId : List UInt8) :
    ∃ result, parseStunResponse data expectedTxnId = some result := by
  unfold parseStunResponse
  by_cases short : data.length < 20
  · exact ⟨none, if_pos short⟩
  · obtain ⟨msgType, readType⟩ := readU16_of_lt data 0 (by omega)
    obtain ⟨msgLen, readLen⟩ := readU16_of_lt data 2 (by omega)
    obtain ⟨cookie, readCookie⟩ := readU32_of_lt data 4 (by omega)
    have txn : slice data 8 20 = some ((data.take 20).drop 8) := if_pos (by omega)
    rw [if_neg short, readType, readCookie, txn, readLen]
    simp only [Option.bind_eq_bind, Option.bind_some]
    split
    · exact ⟨none, rfl⟩
    · split
      · exact ⟨none, rfl⟩
      · split
        · exact ⟨none, rfl⟩
        · exact parseAttributes_total (Nat.min_le_right _ _) 20

/-! ## Well-formed responses -/

/-- **An attribute.** -/
structure Attribute where
  attrType : UInt16
  value : List UInt8
  padding : List UInt8
  short : value.length < 65536
  padded : value.length + padding.length = (value.length + 3) / 4 * 4

/-- The bytes of an attribute. -/
def Attribute.bytes (a : Attribute) : List UInt8 :=
  bytes16 a.attrType ++ bytes16 (.ofNat a.value.length) ++ a.value ++ a.padding

/-- The bytes of attributes. -/
def attributeBytes (attrs : List Attribute) : List UInt8 := attrs.flatMap Attribute.bytes

/-- A response with these attributes, in a datagram that may be longer. -/
def message (txnId : List UInt8) (attrs : List Attribute) (rest : List UInt8) : List UInt8 :=
  bytes16 bindingResponse ++ bytes16 (.ofNat (attributeBytes attrs).length) ++ bytes32 magicCookie ++
    txnId ++ attributeBytes attrs ++ rest

/-- The value of a MAPPED-ADDRESS. -/
def mappedValue (reserved : UInt8) (address : SocketAddr) : List UInt8 :=
  reserved :: 0x01 :: (bytes16 address.port ++ bytes32 address.ip)

/-- The value of an XOR-MAPPED-ADDRESS. -/
def xorMappedValue (reserved : UInt8) (address : SocketAddr) : List UInt8 :=
  reserved :: 0x01 :: (bytes16 (address.port ^^^ (magicCookie >>> 16).toUInt16) ++
    bytes32 (address.ip ^^^ magicCookie))

/-- What the attributes say: the first one with an address. -/
def answer : List Attribute → Option (Option SocketAddr)
  | [] => some none
  | a :: attrs =>
    if a.attrType = xorMappedAddress then parseXorMappedAddress a.value
    else if a.attrType = mappedAddress then parseMappedAddress a.value
    else answer attrs

/-- An attribute is its header and its value, padded to four bytes. -/
theorem Attribute.length_bytes (a : Attribute) :
    a.bytes.length = 4 + (a.value.length + 3) / 4 * 4 := by
  simp only [Attribute.bytes, List.length_append, length_bytes16]
  have padded := a.padded
  omega

/-- **Two bytes are read back**, wherever they stand. -/
theorem readU16_append (front : List UInt8) (n : UInt16) (back : List UInt8) :
    readU16 (front ++ bytes16 n ++ back) front.length = some n := by
  have first : byte (front ++ bytes16 n ++ back) front.length = some (.ofNat (n.toNat / 256)) := by
    simp [byte, bytes16, List.append_assoc]
  have second : byte (front ++ bytes16 n ++ back) (front.length + 1) = some (.ofNat n.toNat) := by
    simp [byte, bytes16, List.append_assoc]
  rw [readU16, first, second]
  simp only [Option.bind_eq_bind, Option.bind_some]
  rw [u16_bytes16]
  rfl

/-- **Four bytes are read back**, wherever they stand. -/
theorem readU32_append (front : List UInt8) (n : UInt32) (back : List UInt8) :
    readU32 (front ++ bytes32 n ++ back) front.length = some n := by
  have at' : ∀ j < 4, byte (front ++ bytes32 n ++ back) (front.length + j) = (bytes32 n)[j]? := by
    intro j inside
    have here : j < (bytes32 n).length := inside
    rw [byte, List.append_assoc, List.getElem?_append_right (by omega), Nat.add_sub_cancel_left,
      List.getElem?_append_left here]
  have b₃ := at' 0 (by omega)
  rw [Nat.add_zero] at b₃
  rw [readU32, b₃, at' 1 (by omega), at' 2 (by omega), at' 3 (by omega)]
  exact congrArg some (u32_bytes32 n)

/-- The middle of three pieces is sliced out. -/
theorem slice_append (front middle back : List UInt8) :
    slice (front ++ middle ++ back) front.length (front.length + middle.length) = some middle := by
  have inside : front.length ≤ front.length + middle.length ∧
      front.length + middle.length ≤ (front ++ middle ++ back).length := by
    simp only [List.length_append]
    omega
  rw [slice, if_pos inside]
  congr 1
  rw [← List.length_append, List.take_left, List.drop_left]

/-- **The loop finds the first attribute with an address.** -/
theorem parseAttributes_eq (front : List UInt8) (attrs : List Attribute) (rest : List UInt8) :
    parseAttributes (front ++ attributeBytes attrs ++ rest)
      (front.length + (attributeBytes attrs).length) front.length = answer attrs := by
  induction attrs generalizing front with
  | nil =>
      rw [parseAttributes.eq_def, dif_neg]
      · rfl
      · simp [attributeBytes]
  | cons a attrs ih =>
      have short := a.short
      have padded := a.padded
      have whole : attributeBytes (a :: attrs) = a.bytes ++ attributeBytes attrs := rfl
      have length : (attributeBytes (a :: attrs)).length =
          4 + (a.value.length + 3) / 4 * 4 + (attributeBytes attrs).length := by
        rw [whole, List.length_append, a.length_bytes]
      -- The type, the length and the value are read where they were written.
      have readType : readU16 (front ++ attributeBytes (a :: attrs) ++ rest) front.length =
          some a.attrType := by
        have found := readU16_append front a.attrType
          (bytes16 (.ofNat a.value.length) ++ a.value ++ a.padding ++ attributeBytes attrs ++ rest)
        simpa only [whole, Attribute.bytes, List.append_assoc] using found
      have readLength : readU16 (front ++ attributeBytes (a :: attrs) ++ rest) (front.length + 2) =
          some (.ofNat a.value.length) := by
        have found := readU16_append (front ++ bytes16 a.attrType) (.ofNat a.value.length)
          (a.value ++ a.padding ++ attributeBytes attrs ++ rest)
        rw [List.length_append, length_bytes16] at found
        simpa only [whole, Attribute.bytes, List.append_assoc] using found
      have value : slice (front ++ attributeBytes (a :: attrs) ++ rest) (front.length + 4)
          (front.length + 4 + a.value.length) = some a.value := by
        have found := slice_append (front ++ bytes16 a.attrType ++ bytes16 (.ofNat a.value.length))
          a.value (a.padding ++ attributeBytes attrs ++ rest)
        rw [List.length_append, List.length_append, length_bytes16, length_bytes16] at found
        simpa only [whole, Attribute.bytes, List.append_assoc] using found
      -- A value is short enough for its length to be written in two bytes.
      have same : (UInt16.ofNat a.value.length).toNat = a.value.length := by
        rw [UInt16.toNat_ofNat']
        omega
      rw [parseAttributes.eq_def, dif_pos (by omega), readType, readLength]
      dsimp only
      rw [same, if_neg (by omega), value, Option.bind_some, Option.bind_some, answer]
      split
      · rfl
      · split
        · rfl
        · -- The next attribute begins behind the padding.
          have next := ih (front ++ a.bytes)
          rw [List.length_append, a.length_bytes] at next
          rw [← next, length, whole]
          congr 1
          · simp only [List.append_assoc]
          · omega
          · omega

/-- **The parser takes the first attribute with an address.** -/
theorem parse_message {txnId : List UInt8} (txn : txnId.length = 12) {attrs : List Attribute}
    (fits : (attributeBytes attrs).length < 65536) (rest : List UInt8) :
    parseStunResponse (message txnId attrs rest) txnId = answer attrs := by
  have long : ¬ (message txnId attrs rest).length < 20 := by
    simp only [message, List.length_append, length_bytes16, length_bytes32, txn]
    omega
  have readType : readU16 (message txnId attrs rest) 0 = some bindingResponse := by
    have found := readU16_append [] bindingResponse (bytes16 (.ofNat (attributeBytes attrs).length) ++
      bytes32 magicCookie ++ txnId ++ attributeBytes attrs ++ rest)
    simpa only [message, List.append_assoc, List.nil_append, List.length_nil] using found
  have readLen : readU16 (message txnId attrs rest) 2 =
      some (.ofNat (attributeBytes attrs).length) := by
    have found := readU16_append (bytes16 bindingResponse) (.ofNat (attributeBytes attrs).length)
      (bytes32 magicCookie ++ txnId ++ attributeBytes attrs ++ rest)
    simpa only [message, List.append_assoc, length_bytes16] using found
  have readCookie : readU32 (message txnId attrs rest) 4 = some magicCookie := by
    have found := readU32_append
      (bytes16 bindingResponse ++ bytes16 (.ofNat (attributeBytes attrs).length)) magicCookie
      (txnId ++ attributeBytes attrs ++ rest)
    simpa only [message, List.append_assoc, List.length_append, length_bytes16] using found
  have readTxn : slice (message txnId attrs rest) 8 20 = some txnId := by
    have found := slice_append (bytes16 bindingResponse ++
      bytes16 (.ofNat (attributeBytes attrs).length) ++ bytes32 magicCookie) txnId
      (attributeBytes attrs ++ rest)
    simpa only [message, List.append_assoc, List.length_append, length_bytes16, length_bytes32, txn]
      using found
  have length : (UInt16.ofNat (attributeBytes attrs).length).toNat = (attributeBytes attrs).length := by
    rw [UInt16.toNat_ofNat']
    omega
  have ends : min (20 + (attributeBytes attrs).length) (message txnId attrs rest).length =
      20 + (attributeBytes attrs).length := by
    refine Nat.min_eq_left ?_
    simp only [message, List.length_append, length_bytes16, length_bytes32, txn]
    omega
  have loop := parseAttributes_eq (bytes16 bindingResponse ++
    bytes16 (.ofNat (attributeBytes attrs).length) ++ bytes32 magicCookie ++ txnId) attrs rest
  simp only [List.length_append, length_bytes16, length_bytes32, txn] at loop
  unfold parseStunResponse
  rw [if_neg long, readType, readCookie, readTxn, readLen]
  simp only [Option.bind_eq_bind, Option.bind_some, ne_eq, not_true, if_false]
  rw [length, ends]
  exact loop

/-- An attribute with the encoded address says what it encodes. -/
theorem parseXorMappedAddress_value (reserved : UInt8) (address : SocketAddr) :
    parseXorMappedAddress (xorMappedValue reserved address) = some (some address) := by
  have port := readU16_append [reserved, 0x01] (address.port ^^^ (magicCookie >>> 16).toUInt16)
    (bytes32 (address.ip ^^^ magicCookie))
  have ip := readU32_append
    (reserved :: 0x01 :: bytes16 (address.port ^^^ (magicCookie >>> 16).toUInt16))
    (address.ip ^^^ magicCookie) []
  rw [List.append_nil] at ip
  have read₂ : readU16 (xorMappedValue reserved address) 2 =
      some (address.port ^^^ (magicCookie >>> 16).toUInt16) := port
  have read₄ : readU32 (xorMappedValue reserved address) 4 = some (address.ip ^^^ magicCookie) := ip
  have family : byte (xorMappedValue reserved address) 1 = some 0x01 := rfl
  have long : ¬ (xorMappedValue reserved address).length < 8 := Nat.lt_irrefl 8
  unfold parseXorMappedAddress
  rw [if_neg long, family, read₂, read₄]
  simp only [Option.bind_eq_bind, Option.bind_some, if_true, UInt16.xor_assoc, UInt16.xor_self,
    UInt16.xor_zero, UInt32.xor_assoc, UInt32.xor_self, UInt32.xor_zero]
  rfl

/-- **A MAPPED-ADDRESS says an address if and only if its value begins with it.** -/
theorem parseMappedAddress_iff {value : List UInt8} {address : SocketAddr} :
    parseMappedAddress value = some (some address) ↔
      ∃ reserved extra, value = mappedValue reserved address ++ extra := by
  constructor
  · intro parsed
    unfold parseMappedAddress at parsed
    by_cases short : value.length < 8
    · rw [if_pos short] at parsed
      cases parsed
    · rw [if_neg short] at parsed
      obtain ⟨b₀, b₁, b₂, b₃, b₄, b₅, b₆, b₇, extra, rfl⟩ : ∃ b₀ b₁ b₂ b₃ b₄ b₅ b₆ b₇ extra,
          value = b₀ :: b₁ :: b₂ :: b₃ :: b₄ :: b₅ :: b₆ :: b₇ :: extra := by
        rcases value with - | ⟨b₀, - | ⟨b₁, - | ⟨b₂, - | ⟨b₃, - | ⟨b₄, - | ⟨b₅, - | ⟨b₆, - | ⟨b₇, extra⟩⟩⟩⟩⟩⟩⟩⟩
        all_goals first
          | exact ⟨_, _, _, _, _, _, _, _, _, rfl⟩
          | exact absurd (by simp) short
      change (if b₁ = 0x01 then some (some ⟨u32 b₄ b₅ b₆ b₇, u16 b₂ b₃⟩) else some none) =
        some (some address) at parsed
      split at parsed
      · rename_i family
        injection parsed with parsed
        injection parsed with parsed
        subst parsed
        refine ⟨b₀, extra, ?_⟩
        rw [mappedValue, bytes16_u16, bytes32_u32, family]
        rfl
      · cases parsed
  · rintro ⟨reserved, extra, rfl⟩
    have port := readU16_append [reserved, 0x01] address.port (bytes32 address.ip ++ extra)
    have ip := readU32_append (reserved :: 0x01 :: bytes16 address.port) address.ip extra
    have whole : mappedValue reserved address ++ extra =
        [reserved, 0x01] ++ bytes16 address.port ++ (bytes32 address.ip ++ extra) := by
      simp only [mappedValue, List.append_assoc, List.cons_append, List.nil_append]
    have read₂ : readU16 (mappedValue reserved address ++ extra) 2 = some address.port :=
      whole ▸ port
    have read₄ : readU32 (mappedValue reserved address ++ extra) 4 = some address.ip := ip
    have family : byte (mappedValue reserved address ++ extra) 1 = some 0x01 := rfl
    have long : ¬ (mappedValue reserved address ++ extra).length < 8 := by
      rw [List.length_append]
      exact Nat.not_lt.2 (Nat.le_add_right 8 _)
    unfold parseMappedAddress
    rw [if_neg long, family, read₂, read₄]
    rfl

/-- In front of the first XOR-MAPPED-ADDRESS only a MAPPED-ADDRESS counts. -/
theorem answer_append {before : List Attribute} (plain : ∀ a ∈ before, a.attrType ≠ xorMappedAddress)
    {found : Attribute} (xor : found.attrType = xorMappedAddress) (after : List Attribute) :
    answer (before ++ found :: after) =
      match before.find? (·.attrType == mappedAddress) with
      | some a => parseMappedAddress a.value
      | none => parseXorMappedAddress found.value := by
  induction before with
  | nil => exact if_pos xor
  | cons a before ih =>
      have other := plain a List.mem_cons_self
      rw [List.cons_append, answer, if_neg other, List.find?_cons]
      by_cases mapped : a.attrType = mappedAddress
      · rw [if_pos mapped, beq_iff_eq.2 mapped]
      · rw [if_neg mapped, beq_eq_false_iff_ne.2 mapped]
        exact ih fun b held => plain b (List.mem_cons_of_mem a held)

/-! ## The guarantee -/

/-- **The parser never reads out of range, and finds the address if and only if the MAPPED-ADDRESS in
front of it, if there is one, says the same.** -/
theorem address_found_iff {txnId : List UInt8} (txn : txnId.length = 12) {before after : List Attribute}
    {found : Attribute} (plain : ∀ a ∈ before, a.attrType ≠ xorMappedAddress)
    (xor : found.attrType = xorMappedAddress) {reserved : UInt8} {address : SocketAddr}
    (value : found.value = xorMappedValue reserved address)
    (fits : (attributeBytes (before ++ found :: after)).length < 65536) (rest : List UInt8) :
    (∀ data expectedTxnId, ∃ result, parseStunResponse data expectedTxnId = some result) ∧
    (parseStunResponse (message txnId (before ++ found :: after) rest) txnId = some (some address) ↔
      ∀ a, before.find? (·.attrType == mappedAddress) = some a →
        ∃ reserved extra, a.value = mappedValue reserved address ++ extra) := by
  refine ⟨parse_total, ?_⟩
  rw [parse_message txn fits, answer_append plain xor]
  generalize before.find? (·.attrType == mappedAddress) = first
  cases first with
  | none =>
      refine iff_of_true ?_ fun a impossible => absurd impossible.symm (Option.some_ne_none a)
      rw [value]
      exact parseXorMappedAddress_value reserved address
  | some mapped =>
      constructor
      · intro parsed a same
        rw [← Option.some.inj same]
        exact parseMappedAddress_iff.1 parsed
      · intro same
        exact parseMappedAddress_iff.2 (same mapped rfl)

/-- The public address. -/
def publicAddress : SocketAddr := ⟨0xCB007107, 40000⟩

/-- An attribute with the public address. -/
def publicAttribute : Attribute :=
  ⟨xorMappedAddress, xorMappedValue 0 publicAddress, [], by decide, by decide⟩

/-- An attribute with another address. -/
def privateAttribute : Attribute :=
  ⟨mappedAddress, mappedValue 0 ⟨0x0A000001, 5000⟩, [], by decide, by decide⟩

/-- Behind an unknown attribute the address is found. -/
theorem address_found_behind_software :
    parseStunResponse (message (List.replicate 12 0)
      ([⟨0x8022, [0x66, 0x65, 0x72, 0x6F, 0x73], [0, 0, 0], by decide, by decide⟩] ++
        publicAttribute :: [privateAttribute]) []) (List.replicate 12 0) = some (some publicAddress) :=
  (@address_found_iff (List.replicate 12 0) rfl _ _ publicAttribute (by decide) rfl 0 publicAddress rfl
    (by decide +kernel) []).2.2
    fun a same => absurd (same.symm.trans rfl : some a = none) (Option.some_ne_none a)

/-- **The fallback is taken although the real address is there**, if it stands in front of it. -/
theorem fallback_first :
    parseStunResponse (message (List.replicate 12 0) [privateAttribute, publicAttribute] [])
      (List.replicate 12 0) ≠ some (some publicAddress) := by
  rw [parse_message rfl (by decide +kernel)]
  decide +kernel

end Stun

end Feros
