import TsnFieldbus.Common.DiscoveryTypes
import TsnFieldbus.Foundations.BigEndianBits

/-!
# Demo Runtime

The pure functions of `demo_runtime.rs`: the VLAN tag of the demo's streams, and
`netmask_to_prefix_length`, which turns the netmask of an accepted IP configuration into the
prefix length that `ip addr add` takes.

- `vlanIdentifier_buildVlanTag`: a tag keeps the identifier and the priority apart.
- `foldlM_octet_eq`: the two loops walk through the bits of the mask in the order written.
- `netmaskToPrefixLength_spec`: the answer is the number of leading ones of a proper mask, and
  every other mask is refused.
-/

namespace TsnFieldbus

open Foundations

/-! ## VLAN tags -/

/-- `build_vlan_tag`. -/
def buildVlanTag (vlanId : UInt16) (priorityCodePoint : UInt8) : UInt16 :=
  let pcp := (priorityCodePoint &&& 0x07).toUInt16
  ((pcp <<< 13) &&& 0xE000) ||| (vlanId &&& 0x0FFF)

/-- `vlan_identifier`. -/
def vlanIdentifier (vlanTag : UInt16) : UInt16 := vlanTag &&& 0x0FFF

/-- The identifier is not touched by the priority. -/
theorem vlanIdentifier_buildVlanTag (vlanId : UInt16) (priorityCodePoint : UInt8) :
    vlanIdentifier (buildVlanTag vlanId priorityCodePoint) = vlanId &&& 0x0FFF := by
  have hpriority (x : UInt16) : x &&& 0xE000 &&& 0x0FFF = 0 := by
    rw [UInt16.and_assoc]
    exact UInt16.and_zero
  have hdistrib (x y z : UInt16) : (x ||| y) &&& z = x &&& z ||| y &&& z :=
    UInt16.toBitVec_inj.mp BitVec.and_or_distrib_right
  rw [vlanIdentifier, buildVlanTag, hdistrib, hpriority, UInt16.zero_or, UInt16.and_assoc,
    UInt16.and_self]

/-! ## The loop over the bits -/

/-- The variables `prefix` and `hit_zero`. -/
structure MaskScan where
  prefixLength : UInt8
  hitZero : Bool
deriving DecidableEq, Repr

/-- The text of the only error. -/
def nonContiguousNetmask : String := "Invalid non-contiguous netmask"

/-- `u8::saturating_add(1)`. -/
def saturatingSuccU8 (x : UInt8) : UInt8 := if x.toNat < 255 then x + 1 else x

/-- The body of the inner loop. -/
def MaskScan.step (scan : MaskScan) (bitSet : Bool) : Except String MaskScan :=
  if bitSet then
    if scan.hitZero then .error nonContiguousNetmask
    else .ok { scan with prefixLength := saturatingSuccU8 scan.prefixLength }
  else .ok { scan with hitZero := true }

/-- `((octet >> index) & 1) == 1`. -/
def bitSet (octet : UInt8) (index : ℕ) : Bool := (octet >>> .ofNat index) &&& 1 == 1

/-- The inner loop, from the most significant bit down. -/
def MaskScan.octet (scan : MaskScan) (octet : UInt8) : Except String MaskScan :=
  (List.range 8).reverse.foldlM (fun scan index => scan.step (bitSet octet index)) scan

/-- `netmask_to_prefix_length`. -/
def netmaskToPrefixLength (netmask : Ipv4) : Except String UInt8 :=
  (netmask.toList.foldlM MaskScan.octet ⟨0, false⟩).map MaskScan.prefixLength

/-! ## One loop over all bits -/

theorem bitSet_eq_testBit (octet : UInt8) {index : ℕ} (h : index < 8) :
    bitSet octet index = octet.toNat.testBit index := by
  have hlt : index < 256 := by omega
  have hindex : (UInt8.ofNat index).toNat = index := UInt8.toNat_ofNat_of_lt' hlt
  rw [bitSet, Nat.testBit_eq_decide_div_mod_eq, Bool.beq_eq_decide_eq, decide_eq_decide,
    ← UInt8.toNat_inj, UInt8.toNat_and, UInt8.toNat_shiftRight, hindex, Nat.mod_eq_of_lt h,
    UInt8.toNat_one, Nat.and_one_is_mod, Nat.shiftRight_eq_div_pow]

theorem octet_eq (scan : MaskScan) (octet : UInt8) :
    scan.octet octet =
      ((List.range 8).reverse.map octet.toNat.testBit).foldlM MaskScan.step scan := by
  have hbits : (List.range 8).reverse.map octet.toNat.testBit =
      (List.range 8).reverse.map (bitSet octet) := by
    apply List.map_congr_left
    intro index hindex
    exact (bitSet_eq_testBit octet (List.mem_range.mp (List.mem_reverse.mp hindex))).symm
  rw [hbits, List.foldlM_map]
  rfl

/-- The two loops together walk through the bits of the mask. -/
theorem foldlM_octet_eq (scan : MaskScan) (octets : List UInt8) :
    octets.foldlM MaskScan.octet scan = (BigEndian.bits octets).foldlM MaskScan.step scan := by
  induction octets generalizing scan with
  | nil => rfl
  | cons octet octets ih =>
    rw [List.foldlM_cons, BigEndian.bits_cons, List.foldlM_append, octet_eq]
    exact bind_congr ih

/-! ## What the loop accepts -/

/-- After a zero the loop accepts zeros only. -/
theorem foldlM_step_hitZero (prefixLength : UInt8) (bits : List Bool) :
    bits.foldlM MaskScan.step ⟨prefixLength, true⟩ =
      if true ∈ bits then .error nonContiguousNetmask else .ok ⟨prefixLength, true⟩ := by
  induction bits with
  | nil => rfl
  | cons bit bits ih =>
    cases bit with
    | true => rfl
    | false =>
      rw [List.foldlM_cons]
      change bits.foldlM MaskScan.step ⟨prefixLength, true⟩ = _
      rw [ih]
      simp

/-- The loop fails with its one error. -/
theorem foldlM_step_error {scan : MaskScan} {bits : List Bool} {message : String}
    (h : bits.foldlM MaskScan.step scan = .error message) : message = nonContiguousNetmask := by
  induction bits generalizing scan with
  | nil => cases h
  | cons bit bits ih =>
    rw [List.foldlM_cons] at h
    cases hstep : scan.step bit with
    | ok next =>
      rw [hstep] at h
      exact ih h
    -- there is one message, that of a one behind a zero
    | error message' =>
      rw [hstep] at h
      cases h
      unfold MaskScan.step at hstep
      split at hstep
      · split at hstep
        · cases hstep
          rfl
        · cases hstep
      · cases hstep

/-- Zeros behind each other are a list without ones. -/
theorem eq_replicate_false_iff (bits : List Bool) :
    (∃ zeros, bits = List.replicate zeros false) ↔ true ∉ bits := by
  constructor
  · rintro ⟨zeros, rfl⟩ hmem
    cases List.eq_of_mem_replicate hmem
  · intro hmem
    refine ⟨bits.length, List.eq_replicate_of_mem ?_⟩
    intro bit hbit
    cases bit with
    | false => rfl
    | true => exact absurd hbit hmem

/-- Behind a zero the loop accepts zeros, and the count stays. -/
theorem foldlM_step_hitZero_eq_ok_iff {prefixLength result : UInt8} {bits : List Bool} :
    (bits.foldlM MaskScan.step ⟨prefixLength, true⟩).map MaskScan.prefixLength = .ok result ↔
      result = prefixLength ∧ ∃ zeros, bits = List.replicate zeros false := by
  rw [foldlM_step_hitZero, eq_replicate_false_iff]
  constructor
  · intro h
    by_cases hmem : true ∈ bits
    · rw [if_pos hmem] at h
      cases h
    · rw [if_neg hmem] at h
      cases h
      exact ⟨rfl, hmem⟩
  · rintro ⟨rfl, hmem⟩
    rw [if_neg hmem]
    rfl

/-- A one before any zero is counted. -/
theorem step_one {prefixLength : UInt8} (hroom : prefixLength.toNat < 255) :
    MaskScan.step ⟨prefixLength, false⟩ true = .ok ⟨prefixLength + 1, false⟩ ∧
      (prefixLength + 1).toNat = prefixLength.toNat + 1 := by
  constructor
  · simp only [MaskScan.step, saturatingSuccU8, if_pos hroom]
    rfl
  · rw [UInt8.toNat_add, UInt8.toNat_one]
    omega

/-- Before a zero the loop counts the leading ones and accepts only zeros behind them. -/
theorem foldlM_step_eq_ok_iff {prefixLength result : UInt8} {bits : List Bool}
    (hroom : prefixLength.toNat + bits.length < 256) :
    (bits.foldlM MaskScan.step ⟨prefixLength, false⟩).map MaskScan.prefixLength = .ok result ↔
      ∃ ones zeros, result.toNat = prefixLength.toNat + ones ∧
        bits = List.replicate ones true ++ List.replicate zeros false := by
  induction bits generalizing prefixLength with
  -- no bits are left: no ones and no zeros
  | nil =>
    constructor
    · intro h
      cases h
      exact ⟨0, 0, rfl, rfl⟩
    · rintro ⟨ones, zeros, hresult, hbits⟩
      have hones := congrArg List.length hbits
      simp only [List.length_nil, List.length_append, List.length_replicate] at hones
      have heq : result = prefixLength := UInt8.toNat_inj.mp (by omega)
      rw [heq]
      rfl
  | cons bit bits ih =>
    rw [List.length_cons] at hroom
    rw [List.foldlM_cons]
    cases bit with
    -- a one lengthens the prefix
    | true =>
      obtain ⟨hstep, hsucc⟩ := @step_one prefixLength (by omega)
      rw [hstep]
      change (bits.foldlM MaskScan.step ⟨prefixLength + 1, false⟩).map _ = _ ↔ _
      rw [ih (by omega), hsucc]
      constructor
      · rintro ⟨ones, zeros, hresult, hbits⟩
        refine ⟨ones + 1, zeros, by omega, ?_⟩
        rw [hbits]
        rfl
      · rintro ⟨ones, zeros, hresult, hbits⟩
        cases ones with
        | zero =>
          -- after a zero no one may follow
          have hmem := (eq_replicate_false_iff _).mp ⟨zeros, hbits⟩
          exact absurd (List.mem_cons_self) hmem
        | succ ones => exact ⟨ones, zeros, by omega, (List.cons.inj hbits).2⟩
    -- the first zero ends it, and the rest must be zeros
    | false =>
      change (bits.foldlM MaskScan.step ⟨prefixLength, true⟩).map _ = _ ↔ _
      rw [foldlM_step_hitZero_eq_ok_iff]
      constructor
      · rintro ⟨rfl, zeros, hbits⟩
        refine ⟨0, zeros + 1, rfl, ?_⟩
        rw [hbits]
        rfl
      · rintro ⟨ones, zeros, hresult, hbits⟩
        cases ones with
        | zero =>
          cases zeros with
          | zero => cases hbits
          | succ zeros =>
            exact ⟨UInt8.toNat_inj.mp hresult, zeros, (List.cons.inj hbits).2⟩
        | succ ones => cases (List.cons.inj hbits).1

/-- The prefix length is answered exactly for the masks that have one, and it is the number of
their ones; every other mask is refused. -/
theorem netmaskToPrefixLength_spec (netmask : Ipv4) :
    (∀ p : UInt8, netmaskToPrefixLength netmask = .ok p ↔
      BigEndian.IsPrefixMask 32 (BigEndian.decode netmask.toList) p.toNat) ∧
    ((∀ p, ¬ BigEndian.IsPrefixMask 32 (BigEndian.decode netmask.toList) p) →
      netmaskToPrefixLength netmask = .error nonContiguousNetmask) := by
  have hlen : 8 * netmask.toList.length = 32 := by rw [netmask.toList_length]
  -- the scan over the octets is a scan over 32 bits
  have hok (p : UInt8) : netmaskToPrefixLength netmask = .ok p ↔
      BigEndian.IsPrefixMask 32 (BigEndian.decode netmask.toList) p.toNat := by
    have hroom : (0 : UInt8).toNat + (BigEndian.bits netmask.toList).length < 256 := by
      rw [BigEndian.length_bits, hlen]
      decide
    rw [netmaskToPrefixLength, foldlM_octet_eq, foldlM_step_eq_ok_iff hroom, ← hlen,
      BigEndian.isPrefixMask_decode, UInt8.toNat_zero]
    constructor
    · rintro ⟨ones, zeros, hresult, hbits⟩
      rw [Nat.zero_add] at hresult
      exact ⟨zeros, hresult ▸ hbits⟩
    · rintro ⟨zeros, hbits⟩
      exact ⟨p.toNat, zeros, (Nat.zero_add _).symm, hbits⟩
  refine ⟨hok, ?_⟩
  intro hnone
  cases hresult : netmaskToPrefixLength netmask with
  | ok p => exact absurd ((hok p).mp hresult) (hnone p.toNat)
  | error message =>
    rw [netmaskToPrefixLength, foldlM_octet_eq] at hresult
    -- a scan that ends without error has a prefix length
    cases hscan : (BigEndian.bits netmask.toList).foldlM MaskScan.step ⟨0, false⟩ with
    | ok scan =>
      rw [hscan] at hresult
      cases hresult
    | error message' =>
      rw [hscan] at hresult
      cases hresult
      rw [foldlM_step_error hscan]

example : (netmaskToPrefixLength (.new 240 0 0 0)).toOption = some 4 := by decide

example : (netmaskToPrefixLength (.new 255 0 255 0)).toOption = none := by decide

end TsnFieldbus
