import QubesIdd.Wide

/-! The registry below `LGIDD_REGKEY`: its content, and the answers the registry
functions give to the driver's queries. A reader sees only the answers. -/

namespace QubesIdd

inductive RegType where
  | REG_SZ
  | REG_EXPAND_SZ
  | REG_DWORD
  | REG_MULTI_SZ
  | other (code : UInt32)
  deriving DecidableEq, Repr

/-- The answer to one query: its status, the type and byte count it reports, and
the bytes it writes to the buffer. -/
structure RegReply where
  success : Bool
  type : RegType
  cb : Nat
  data : List UInt8

def RegReply.failed : RegReply := ⟨false, .REG_SZ, 0, []⟩

inductive ValueName where
  | ExtraMode
  | Modes
  | DefaultRefresh
  deriving DecidableEq, Repr

/-- The registry functions as one reader calls them. A query without a buffer size
passes no buffer. `regGetDword` is `RegGetValueW` restricted to `REG_DWORD`, which
either fails or stores four bytes. -/
structure RegApi where
  regOpenKeyExW : Bool
  regQueryValueExW : ValueName → Option Nat → RegReply
  regGetMultiSz : ValueName → Option Nat → RegReply
  regGetDword : ValueName → Option UInt32

def toBytes (s : WString) : List UInt8 := s.flatMap fun c => [UInt8.ofNat (c.toNat % 256), UInt8.ofNat (c.toNat / 256)]

def ofBytes : List UInt8 → WString
  | lo :: hi :: rest => UInt16.ofNat (lo.toNat + 256 * hi.toNat) :: ofBytes rest
  | _ => []

theorem ofBytes_toBytes (s : WString) : ofBytes (toBytes s) = s := by
  induction s with
  | nil => rfl
  | cons c rest ih =>
    have bound := c.toNat_lt
    have whole : (UInt8.ofNat (c.toNat % 256)).toNat + 256 * (UInt8.ofNat (c.toNat / 256)).toNat = c.toNat := by
      simp only [UInt8.toNat_ofNat']
      omega
    change UInt16.ofNat _ :: ofBytes (toBytes rest) = c :: rest
    rw [ih, whole, UInt16.ofNat_toNat]

theorem toBytes_length (s : WString) : (toBytes s).length = 2 * s.length := by
  simp [toBytes, List.length_flatMap, List.map_const', Nat.mul_comm]

theorem ofBytes_short {bytes : List UInt8} (short : ∀ lo hi rest, bytes = lo :: hi :: rest → False) :
    bytes.length < 2 ∧ ofBytes bytes = [] := by
  match bytes, short with
  | [], _ => exact ⟨by decide, rfl⟩
  | [_], _ => exact ⟨Nat.lt_succ_self 1, rfl⟩
  | lo :: hi :: rest, short => exact absurd rfl (short lo hi rest)

theorem ofBytes_length (bytes : List UInt8) : (ofBytes bytes).length = bytes.length / 2 := by
  induction bytes using ofBytes.induct with
  | case1 lo hi rest ih =>
    rw [ofBytes, List.length_cons, ih, List.length_cons, List.length_cons]
    omega
  | case2 bytes short =>
    obtain ⟨length, nothing⟩ := ofBytes_short short
    rw [nothing, List.length_nil, Nat.div_eq_of_lt length]

structure RegValue where
  type : RegType
  data : List UInt8

/-- What `RegGetValueW` hands back for a multi-string: whatever was stored, the
buffer ends in two NULs. -/
structure MultiSz where
  chars : WString
  terminated : [0, 0] <:+ chars

/-- The values of the key. `modes` and `defaultRefresh` are read through
`RegGetValueW`; for them `none` stands for every failure, absent and malformed
values included. -/
structure RegKey where
  extraMode : Option RegValue := none
  modes : Option MultiSz := none
  defaultRefresh : Option UInt32 := none

/-- The key may not exist, and may exist without being readable. -/
structure Registry where
  key : Option RegKey
  canQuery : Bool

namespace Registry

def opened (reg : Registry) : Option RegKey := if reg.canQuery then reg.key else none

def reply (type : RegType) (data : List UInt8) : Option Nat → RegReply
  | none => ⟨true, type, data.length, []⟩
  | some size => if data.length ≤ size then ⟨true, type, data.length, data⟩ else ⟨false, type, data.length, []⟩

def api (reg : Registry) : RegApi where
  regOpenKeyExW := reg.opened.isSome
  regQueryValueExW
    | .ExtraMode, size => ((reg.opened.bind RegKey.extraMode).map fun value => reply value.type value.data size).getD .failed
    | _, _ => .failed
  regGetMultiSz
    | .Modes, size => ((reg.opened.bind RegKey.modes).map fun value => reply .REG_MULTI_SZ (toBytes value.chars) size).getD .failed
    | _, _ => .failed
  regGetDword
    | .DefaultRefresh => reg.opened.bind RegKey.defaultRefresh
    | _ => none

end Registry
end QubesIdd
