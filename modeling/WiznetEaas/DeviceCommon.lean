import WiznetEaas.ByteMemory
import WiznetEaas.CStrings

/-!
# Text helpers of device_common.c

Number conversions, the address check and the firmware version gate. The address
that `is_ipaddr` stores through its second argument goes to the socket library
only and is not represented.
-/

namespace WiznetEaas.DeviceCommon

open ByteMemory CStrings

/-- The signed result of `atoi` in the returned unsigned type. -/
def stringToInt (pString : List UInt8) : Nat := (strtol pString % 4294967296).toNat

def hexStringToInt (pHexString : List UInt8) : Nat := strtoulHex pHexString

/-- The loop of `is_ipaddr`, with its running octet, dot count and digit count. -/
def isIpaddrLoop : List UInt8 → Nat → Nat → Nat → Bool
  | [], _, _, _ => true
  | byte :: rest, tval, dotcnt, tmpcnt =>
    if 48 ≤ byte ∧ byte ≤ 57 then
      let next := tval * 10 + (byte.toNat - 48)
      if next > 255 then false
      else if tmpcnt + 1 > 3 then false
      else isIpaddrLoop rest next dotcnt (tmpcnt + 1)
    else if byte = 46 then
      if tval > 255 then false
      else if dotcnt + 1 > 4 then false
      else isIpaddrLoop rest 0 (dotcnt + 1) 0
    else false

/-- The length is kept in eight bits, so only that many characters are checked. -/
def isIpaddr (ipaddr : List UInt8) : Bool :=
  let len := ipaddr.length % 256
  if len > 15 ∨ len < 7 then false else isIpaddrLoop (ipaddr.take len) 0 0 0

/-- Length and count are 16-bit variables. -/
def getCharCount (pString : List UInt8) (wantedChar : UInt8) : Nat :=
  u16 ((pString.take (u16 pString.length)).count wantedChar)

/-- `APPLICATION_VERSION_MAJOR`, `_MINOR` and `_PATCH`. -/
structure Version where
  major : Nat
  minor : Nat
  patch : Nat

/-- The version this repository builds. -/
def applicationVersion : Version := ⟨1, 0, 0⟩

/-- Each component is compared by itself; a missing number counts as zero. -/
def isUpperVersionFw (current : Version) (pFwVersion : List UInt8) : Bool :=
  if getCharCount pFwVersion 46 ≠ 2 then false
  else
    let scanned := scanTriple pFwVersion
    if scanned.1 < current.major ∨ scanned.2.1 < current.minor ∨ scanned.2.2 < current.patch then
      false
    else true

end WiznetEaas.DeviceCommon
