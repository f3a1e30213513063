import Feros.Library.BigEndian
/-! # STUN binding responses

The answer of a STUN server names the public address of the socket that asked.  The datagram comes from
the network, so every read is an `Option`: `none` is an index out of range, on which the source would
panic. -/

namespace Feros

namespace Stun

open BigEndian

/-- An IPv4 address and a port. -/
structure SocketAddr where
  ip : UInt32
  port : UInt16
  deriving DecidableEq, Repr

def magicCookie : UInt32 := 0x2112A442

def bindingResponse : UInt16 := 0x0101

def xorMappedAddress : UInt16 := 0x0020

/-- Attribute of older servers. -/
def mappedAddress : UInt16 := 0x0001

/-- `data[i]`. -/
def byte (data : List UInt8) (i : ℕ) : Option UInt8 := data[i]?

/-- `u16::from_be_bytes([data[i], data[i + 1]])`. -/
def readU16 (data : List UInt8) (i : ℕ) : Option UInt16 := do
  let b₁ ← byte data i
  let b₀ ← byte data (i + 1)
  return u16 b₁ b₀

/-- `u32::from_be_bytes` of four bytes from index `i`. -/
def readU32 (data : List UInt8) (i : ℕ) : Option UInt32 := do
  let b₃ ← byte data i
  let b₂ ← byte data (i + 1)
  let b₁ ← byte data (i + 2)
  let b₀ ← byte data (i + 3)
  return u32 b₃ b₂ b₁ b₀

/-- `&data[start..stop]`. -/
def slice (data : List UInt8) (start stop : ℕ) : Option (List UInt8) :=
  if start ≤ stop ∧ stop ≤ data.length then some ((data.take stop).drop start) else none

/-- The value of an XOR-MAPPED-ADDRESS. -/
def parseXorMappedAddress (data : List UInt8) : Option (Option SocketAddr) :=
  if data.length < 8 then some none
  else do
    let family ← byte data 1
    let xPort ← readU16 data 2
    let port := xPort ^^^ (magicCookie >>> 16).toUInt16
    if family = 0x01 then
      let xAddr ← readU32 data 4
      return some ⟨xAddr ^^^ magicCookie, port⟩
    -- IPv6 is not supported yet.
    else return none

/-- The value of a MAPPED-ADDRESS. -/
def parseMappedAddress (data : List UInt8) : Option (Option SocketAddr) :=
  if data.length < 8 then some none
  else do
    let family ← byte data 1
    let port ← readU16 data 2
    if family = 0x01 then
      let addr ← readU32 data 4
      return some ⟨addr, port⟩
    else return none

/-- The loop over the attributes. -/
def parseAttributes (data : List UInt8) (attrsEnd offset : ℕ) : Option (Option SocketAddr) :=
  if _inside : offset + 4 ≤ attrsEnd then
    match readU16 data offset, readU16 data (offset + 2) with
    | some attrType, some length =>
      let attrLen := length.toNat
      let attrStart := offset + 4
      let attrEnd := attrStart + attrLen
      if attrEnd > attrsEnd then some none
      else if attrType = xorMappedAddress then
        (slice data attrStart attrEnd).bind parseXorMappedAddress
      else if attrType = mappedAddress then
        (slice data attrStart attrEnd).bind parseMappedAddress
      -- Attributes are padded to four bytes.
      else parseAttributes data attrsEnd (attrStart + (attrLen + 3) / 4 * 4)
    | _, _ => none
  else some none
termination_by attrsEnd - offset

/-- **Parse a binding response** and extract the mapped address. -/
def parseStunResponse (data expectedTxnId : List UInt8) : Option (Option SocketAddr) :=
  if data.length < 20 then some none
  else do
    let msgType ← readU16 data 0
    if msgType ≠ bindingResponse then return none
    let cookie ← readU32 data 4
    if cookie ≠ magicCookie then return none
    let txnId ← slice data 8 20
    if txnId ≠ expectedTxnId then return none
    let msgLen ← readU16 data 2
    parseAttributes data (min (20 + msgLen.toNat) data.length) 20

end Stun

end Feros
