import Mathlib.Data.Nat.Notation

/-! # Capacity constants

    The fixed capacities of the `heapless` collections of the library. The
    wire-level ones come from ISO/GP limits; the others bound the population of
    a card and are tuned per target.
-/

namespace Scll

/-! ### Wire level -/

def AID_MAX : ℕ := 16
/-- 4 header + 1 Lc + 255 data + 1 Le. -/
def CAPDU_MAX : ℕ := 261
/-- 256 response data octets + 2 SW. -/
def RAPDU_MAX : ℕ := 258
/-- ATR is at most 33 octets and ATS at most 254. -/
def ATR_ATS_MAX : ℕ := 255
def HASH_MAX : ℕ := 64
/-- The raw payload of a single GET DATA. -/
def GETDATA_RAW_MAX : ℕ := 256
def IIN_MAX : ℕ := 16
def CIN_MAX : ℕ := 16
def INSTALL_PARAMS_MAX : ℕ := 255
def ENC_KEY_BLOCK_MAX : ℕ := 32
def KCV_LEN : ℕ := 3

/-! ### Product -/

def MAX_SCP_VARIANTS : ℕ := 8
def MAX_KEYSETS : ℕ := 16
def MAX_KEYS_PER_SET : ℕ := 16
def MAX_PRIVILEGE_BYTES : ℕ := 8
def MAX_SDS : ℕ := 8
def MAX_APPLETS : ℕ := 48
def MAX_ELFS : ℕ := 32
def MAX_REGISTRY_ENTRIES : ℕ := 64
def MAX_STATUS_PAGES : ℕ := 16
def MAX_STATUS_SCOPE_BYTES : ℕ := MAX_STATUS_PAGES * RAPDU_MAX
def MAX_MODULES_PER_ELF : ℕ := 16
def MAX_REMOVED_OBJECTS : ℕ := 32
def MAX_CAP_IMPORTS : ℕ := 16
def MAX_CAP_APPLETS : ℕ := 8
def MAX_TLVS : ℕ := 64
def OTHER_DETAIL_MAX : ℕ := 64

/-! ### LOAD and CAP -/

/-- LOAD payload per block, so that the wrapped command stays a short APDU. -/
def LOAD_BLOCK_DATA : ℕ := 223
def INFLATE_WINDOW : ℕ := 32 * 1024

end Scll
