import WirelessSimu.Kernel.Buffer

namespace WirelessSimu

/-! The frames that mac80211 hands to the driver: the part of the 802.11 header and
of `struct ieee80211_tx_info` that the transmit path reads, and the driver's control
block. -/

/-- `flags` and `hw_key` and `vif` are those of the transmit info, the key as its
cipher suite and the interface as its number. -/
structure Frame where
  frameControl : UInt16
  flags : UInt32
  hwKey : Option UInt32
  vif : Option Nat
  deriving DecidableEq, Repr

def ieee80211TxCtlHw80211Encap : UInt32 := 0x4000

def ieee80211FctlFtype : UInt16 := 0x000c

def ieee80211FctlStype : UInt16 := 0x00f0

def ieee80211FctlProtected : UInt16 := 0x4000

namespace Frame

def hw80211Encap (frame : Frame) : Bool :=
  frame.flags &&& ieee80211TxCtlHw80211Encap ≠ 0

def isMgmt (frame : Frame) : Bool :=
  frame.frameControl &&& ieee80211FctlFtype = 0x0000

def isMgmtSubtype (frame : Frame) (stype : UInt16) : Bool :=
  frame.frameControl &&& (ieee80211FctlFtype ||| ieee80211FctlStype) = stype

def isProbeResp (frame : Frame) : Bool := frame.isMgmtSubtype 0x0050

def isDisassoc (frame : Frame) : Bool := frame.isMgmtSubtype 0x00a0

def isDeauth (frame : Frame) : Bool := frame.isMgmtSubtype 0x00c0

def isAction (frame : Frame) : Bool := frame.isMgmtSubtype 0x00d0

def hasProtected (frame : Frame) : Bool :=
  frame.frameControl &&& ieee80211FctlProtected ≠ 0

end Frame

inductive HalEncryptType where
  | wep40
  | wep104
  | tkipNoMic
  | wep128
  | tkipMic
  | wapi
  | ccmp128
  | «open»
  | ccmp256
  | gcmp128
  | aesGcmp256
  | wapiGcmSm4
  deriving DecidableEq, Repr

/-- `wireless_simu_dp_tx_get_encrypt_type`, on the suites of the 802.11 OUI. -/
def dpTxGetEncryptType (cipher : UInt32) : HalEncryptType :=
  if cipher = 0x000fac01 then .wep40
  else if cipher = 0x000fac05 then .wep104
  else if cipher = 0x000fac02 then .tkipMic
  else if cipher = 0x000fac04 then .ccmp128
  else if cipher = 0x000fac0a then .ccmp256
  else if cipher = 0x000fac08 then .gcmp128
  else if cipher = 0x000fac09 then .aesGcmp256
  else .open

def dpRxCryptoMicLen : HalEncryptType → UInt32
  | .ccmp128 => 8
  | .ccmp256 => 16
  | .gcmp128 | .aesGcmp256 => 16
  | .open | .tkipNoMic | .tkipMic => 0
  | .wep40 | .wep104 | .wep128 | .wapiGcmSm4 | .wapi => 0

/-- `struct wireless_simu_skb_cb` less `paddr`, which stands with the buffer. -/
structure SkbCb where
  flags : UInt8
  cipher : UInt32
  vif : Option Nat
  deriving DecidableEq, Repr

def skbHw80211Encap : UInt8 := 1

def skbCipherSet : UInt8 := 2

def Frame.skbCb (frame : Frame) : SkbCb :=
  let cb : SkbCb := { flags := 0, cipher := 0, vif := frame.vif }
  let cb :=
    match frame.hwKey with
    | some cipher => { cb with cipher := cipher, flags := cb.flags ||| skbCipherSet }
    | none => cb
  if frame.hw80211Encap then { cb with flags := cb.flags ||| skbHw80211Encap } else cb

@[simp] theorem Frame.skbCb_vif (frame : Frame) : frame.skbCb.vif = frame.vif := by
  unfold Frame.skbCb
  cases frame.hwKey with
  | none => simp only; split <;> rfl
  | some cipher => simp only; split <;> rfl

/-- The bytes that `wireless_simu_mgmt_tx_wmi` adds behind the frame for its MIC. -/
def mgmtTxMicLength (frame : Frame) (cb : SkbCb) : UInt32 :=
  if !frame.hw80211Encap && frame.hasProtected &&
      (frame.isAction || frame.isDeauth || frame.isDisassoc) then
    dpRxCryptoMicLen (dpTxGetEncryptType cb.cipher)
  else 0

end WirelessSimu
