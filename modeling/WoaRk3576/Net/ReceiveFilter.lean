/-
# The receive filter of dwc_eqos: `AdapterSetReceiveFilter`

The framework hands the driver a packet filter and a list of multicast addresses.  The driver
writes `Mac_Packet_Filter` and the registers `Mac_Address[i]`: the station's own address in the
first, one address of the list in each of the others that the device has.  A promiscuous filter
leaves the address registers as they are.

* `accepts` is what the registers let through, `ReceiveFilter.Wants` what was asked for;
* `accepts_iff_wants`: after the call the one is the other, whatever the registers held before, as
  long as no register beyond those of the device was ever enabled.

The call is a list of register writes, and the registers after it are those of the list
(`Lib/Writes.lean`): each address register is named by one round of the loop, so it has what this
round writes, wherever it stands among the others (`applyWrites_writeMulticast`).  A register that
gets no address of the list gets zeros, which leaves it disabled; the first one is the station's
and always enabled.  Which frames match is then a question about bytes: an address is the six bytes
in two words (`matches_iff`), and it is in a register if and only if it is one of those that the
device has a register for (`mem_programmed_iff`).

Addresses for which the device has no register are left out (`ReceiveFilter.programmed`); the
driver announces how many it takes (`maximumMulticastAddresses`).
-/
import WoaRk3576.Lib.Writes
import WoaRk3576.Net.DeviceReset

namespace WoaRk3576.Net

open WoaRk3576.Lib

/-! ## 1. The registers

A frame is compared with every address register that is enabled.  The device has as many of them as
a feature register says; the map has 128. -/

/-- The registers that decide which frames are received. -/
inductive FilterReg
  | packetFilter
  | mac (reg : ResetReg)
  deriving DecidableEq, Repr

/-- What the registers hold. -/
abbrev FilterRegs := FilterReg → BitVec 32

/-- The number of address registers in front of them. -/
def macAddressSlots : Nat := 128

/-- `MacPacketFilter_t`: `PromiscuousMode`, `PassAllMulticast` and `DisableBroadcast`. -/
def macPacketFilter (promiscuousMode passAllMulticast disableBroadcast : Bool) : BitVec 32 :=
  (BitVec.ofBool promiscuousMode).setWidth 32 ||| (BitVec.ofBool passAllMulticast).setWidth 32 <<< 4
    ||| (BitVec.ofBool disableBroadcast).setWidth 32 <<< 5

/-- `AddressEnable`. -/
def addressEnable (high : BitVec 32) : Bool := high.getLsbD 31

@[simp]
theorem addressEnable_macAddressHigh (addr : Fin 6 → BitVec 8) (enable : Bool) :
    addressEnable (macAddressHigh addr enable) = enable := by
  simp [addressEnable, macAddressHigh, BitVec.getLsbD_of_ge]

theorem getLsbD_macPacketFilter (promiscuousMode passAllMulticast disableBroadcast : Bool) :
    (macPacketFilter promiscuousMode passAllMulticast disableBroadcast).getLsbD 0 = promiscuousMode
    ∧ (macPacketFilter promiscuousMode passAllMulticast disableBroadcast).getLsbD 4
      = passAllMulticast
    ∧ (macPacketFilter promiscuousMode passAllMulticast disableBroadcast).getLsbD 5
      = disableBroadcast := by
  refine ⟨?_, ?_, ?_⟩
  · simp [macPacketFilter]
  · simp [macPacketFilter, BitVec.getLsbD_of_ge]
  · simp [macPacketFilter, BitVec.getLsbD_of_ge]

/-! ## 2. `AdapterSetReceiveFilter`

The routine as the list of what it writes, in order: the own address, the addresses of the list as
far as there are registers, zeros for the others, and the filter word.  A promiscuous filter writes
the filter word only. -/

abbrev MacAddress := Fin 6 → BitVec 8

/-- `NET_ADAPTER_LINK_LAYER_ADDRESS`: the length and the first six bytes. -/
structure LinkLayerAddress where
  length : Nat
  address : MacAddress

/-- `NETRECEIVEFILTER`: the packet filter and the multicast addresses. -/
structure ReceiveFilter where
  directed : Bool
  multicast : Bool
  allMulticast : Bool
  broadcast : Bool
  promiscuous : Bool
  multicastAddresses : List LinkLayerAddress

/-- `MacAddrCount` of `Mac_Hw_Feature0`, seven bits. -/
def macAddrCount (feature0 : BitVec 32) : Nat := (feature0.extractLsb' 18 7).toNat

theorem macAddrCount_lt (feature0 : BitVec 32) : macAddrCount feature0 < macAddressSlots :=
  (feature0.extractLsb' 18 7).isLt

/-- `mcast`, of which `mcastCount` is the length. -/
def ReceiveFilter.mcast (f : ReceiveFilter) : List LinkLayerAddress :=
  if f.multicast then f.multicastAddresses else []

/-- What is put into address register `i`: an address of the list, or zeros. -/
def ReceiveFilter.slot (f : ReceiveFilter) (i : Nat) : MacAddress × Bool :=
  match f.mcast[i - 1]? with
  | some a => if 6 ≤ a.length then (a.address, true) else (fun _ => 0, false)
  | none => (fun _ => 0, false)

/-- `SetOneMacAddress` on the registers of this file. -/
def writeMacAddress (index : Nat) (addr : MacAddress) (enable : Bool) :
    List (FilterReg × BitVec 32) :=
  (setOneMacAddress index addr enable).map fun w => (.mac w.1, w.2)

/-- The loop over the other address registers. -/
def writeMulticast (count : Nat) (f : ReceiveFilter) : List (FilterReg × BitVec 32) :=
  (List.range' 1 (count - 1)).flatMap fun i => writeMacAddress i (f.slot i).1 (f.slot i).2

/-- **`AdapterSetReceiveFilter`**: what it writes, in order. -/
def adapterSetReceiveFilter (currentMacAddress : MacAddress) (feature0 : BitVec 32)
    (f : ReceiveFilter) : List (FilterReg × BitVec 32) :=
  if f.promiscuous then [(.packetFilter, macPacketFilter true false false)]
  else
    writeMacAddress 0 currentMacAddress f.directed ++ writeMulticast (macAddrCount feature0) f
      ++ [(.packetFilter, macPacketFilter false f.allMulticast (!f.broadcast))]

/-- `MaximumMulticastAddresses`, as the driver announces it. -/
def maximumMulticastAddresses (feature0 : BitVec 32) : Nat :=
  if 1 < macAddrCount feature0 then macAddrCount feature0 - 1 else 0

/-! ## 3. What the device lets through, and what was asked for

Two predicates of an address: `accepts`, what the registers let through, and `Wants`, what the
filter asks for.  They are stated independently of each other, and their agreement for every
address is the result. -/

theorem octetCount_pos : 0 < 6 := by decide

/-- The octet that goes over the wire first. -/
def firstOctet : Fin 6 := ⟨0, octetCount_pos⟩

/-- `ETH_IS_MULTICAST`: the group bit of an address. -/
def ethIsMulticast (addr : MacAddress) : Bool := (addr firstOctet).getLsbD 0

/-- `ETH_IS_BROADCAST`. -/
def ethIsBroadcast (addr : MacAddress) : Bool := decide (∀ k, addr k = 0xFF)

/-- Address register `i` has the address `dest`. -/
def Matches (regs : FilterRegs) (i : Nat) (dest : MacAddress) : Prop :=
  ∀ k : Fin 6, lane (regs (.mac (if k.val < 4 then .macAddressLow i else .macAddressHigh i)))
    (k.val % 4) = dest k

/-- **The frames to `dest` that the registers let through.**  The first address register is always
enabled. -/
def accepts (regs : FilterRegs) (dest : MacAddress) : Prop :=
  (regs .packetFilter).getLsbD 0 = true ∨
    if ethIsBroadcast dest then (regs .packetFilter).getLsbD 5 = false
    else ethIsMulticast dest = true ∧ (regs .packetFilter).getLsbD 4 = true
      ∨ ∃ i < macAddressSlots, (i = 0 ∨ addressEnable (regs (.mac (.macAddressHigh i))) = true)
        ∧ Matches regs i dest

/-- The multicast addresses for which the device has a register. -/
def ReceiveFilter.programmed (f : ReceiveFilter) (feature0 : BitVec 32) : List MacAddress :=
  ((f.mcast.take (maximumMulticastAddresses feature0)).filter (6 ≤ ·.length)).map (·.address)

/-- **The frames to `dest` that the filter asks for.** -/
def ReceiveFilter.Wants (f : ReceiveFilter) (currentMacAddress : MacAddress)
    (feature0 : BitVec 32) (dest : MacAddress) : Prop :=
  f.promiscuous = true ∨
    if ethIsBroadcast dest then f.broadcast = true
    else ethIsMulticast dest = true ∧ f.allMulticast = true
      ∨ dest = currentMacAddress ∨ dest ∈ f.programmed feature0

/-- No address register that the device does not have is enabled. -/
def SlotsBeyondOff (regs : FilterRegs) (feature0 : BitVec 32) : Prop :=
  ∀ i, i ≠ 0 → macAddrCount feature0 ≤ i → addressEnable (regs (.mac (.macAddressHigh i))) = false

/-! ## 4. The address registers after the call

Each register is written once, so its value after the call is that of its one write
(`Lib/Writes.lean`).  What is left to show is which write belongs to which register. -/

theorem mem_writeMacAddress {index : Nat} {addr : MacAddress} {enable : Bool}
    {w : FilterReg × BitVec 32} (h : w ∈ writeMacAddress index addr enable) :
    w.1 = .mac (.macAddressHigh index) ∨ w.1 = .mac (.macAddressLow index) := by
  simp only [writeMacAddress, setOneMacAddress, List.map_cons, List.map_nil, List.mem_cons,
    List.not_mem_nil, or_false] at h
  rcases h with rfl | rfl
  · exact Or.inl rfl
  · exact Or.inr rfl

theorem applyWrites_writeMacAddress (regs : FilterRegs) (index : Nat) (addr : MacAddress)
    (enable : Bool) :
    applyWrites regs (writeMacAddress index addr enable) (.mac (.macAddressHigh index))
      = macAddressHigh addr enable
    ∧ applyWrites regs (writeMacAddress index addr enable) (.mac (.macAddressLow index))
      = macAddressLow addr := by
  constructor
  · simp [writeMacAddress, setOneMacAddress]
  · simp [writeMacAddress, setOneMacAddress]

/-- A register that belongs to no address from 1 to `count` is not written by the loop. -/
theorem mem_writeMulticast {count : Nat} {f : ReceiveFilter} {w : FilterReg × BitVec 32}
    (h : w ∈ writeMulticast count f) : ∃ i, 1 ≤ i ∧ i < count
      ∧ (w.1 = .mac (.macAddressHigh i) ∨ w.1 = .mac (.macAddressLow i)) := by
  obtain ⟨i, hi, hw⟩ := List.mem_flatMap.mp h
  obtain ⟨hle, hlt⟩ := List.mem_range'_1.mp hi
  exact ⟨i, hle, by omega, mem_writeMacAddress hw⟩

/-- **The loop puts `slot i` into register `i`.** -/
theorem applyWrites_writeMulticast (regs : FilterRegs) {count i : Nat} (f : ReceiveFilter)
    (hi : 1 ≤ i) (hcount : i < count) :
    applyWrites regs (writeMulticast count f) (.mac (.macAddressHigh i))
      = macAddressHigh (f.slot i).1 (f.slot i).2
    ∧ applyWrites regs (writeMulticast count f) (.mac (.macAddressLow i))
      = macAddressLow (f.slot i).1 := by
  have hmem : i ∈ List.range' 1 (count - 1) := List.mem_range'_1.mpr (by omega)
  constructor
  · refine applyWrites_flatMap (b := i) (fun regs => (applyWrites_writeMacAddress regs i _ _).1)
      hmem ?_ regs
    intro j _ hji w hw
    rcases mem_writeMacAddress hw with h | h
    · simp [h, hji]
    · simp [h]
  · refine applyWrites_flatMap (b := i) (fun regs => (applyWrites_writeMacAddress regs i _ _).2)
      hmem ?_ regs
    intro j _ hji w hw
    rcases mem_writeMacAddress hw with h | h
    · simp [h]
    · simp [h, hji]

section Call

variable {current : MacAddress} {feature0 : BitVec 32} {f : ReceiveFilter}

/-- What the registers hold for a filter that is not promiscuous. -/
structure Programmed (current : MacAddress) (feature0 : BitVec 32) (f : ReceiveFilter)
    (regs : FilterRegs) : Prop where
  packetFilter : regs .packetFilter = macPacketFilter false f.allMulticast (!f.broadcast)
  ownHigh : ∃ enable, regs (.mac (.macAddressHigh 0)) = macAddressHigh current enable
  ownLow : regs (.mac (.macAddressLow 0)) = macAddressLow current
  slotOff : ∀ i, i ≠ 0 → macAddrCount feature0 ≤ i ∨ (f.slot i).2 = false →
    addressEnable (regs (.mac (.macAddressHigh i))) = false
  slotOn : ∀ i, i ≠ 0 → i < macAddrCount feature0 → (f.slot i).2 = true →
    regs (.mac (.macAddressHigh i)) = macAddressHigh (f.slot i).1 true
      ∧ regs (.mac (.macAddressLow i)) = macAddressLow (f.slot i).1

/-- A call writes the packet filter and the registers of the addresses the device has. -/
theorem mem_adapterSetReceiveFilter {w : FilterReg × BitVec 32}
    (h : w ∈ adapterSetReceiveFilter current feature0 f) : w.1 = .packetFilter
      ∨ ∃ i, (i = 0 ∨ i < macAddrCount feature0)
        ∧ (w.1 = .mac (.macAddressHigh i) ∨ w.1 = .mac (.macAddressLow i)) := by
  unfold adapterSetReceiveFilter at h
  split at h
  · rw [List.mem_singleton] at h
    exact Or.inl (by rw [h])
  · rcases List.mem_append.mp h with h | h
    · rcases List.mem_append.mp h with h | h
      · exact Or.inr ⟨0, Or.inl rfl, mem_writeMacAddress h⟩
      · obtain ⟨i, -, hlt, hreg⟩ := mem_writeMulticast h
        exact Or.inr ⟨i, Or.inr hlt, hreg⟩
    · rw [List.mem_singleton] at h
      exact Or.inl (by rw [h])

theorem slotsBeyondOff_after {regs : FilterRegs} (h : SlotsBeyondOff regs feature0) :
    SlotsBeyondOff (applyWrites regs (adapterSetReceiveFilter current feature0 f)) feature0 := by
  intro i hi hle
  rw [applyWrites_of_ne, h i hi hle]
  intro w hw
  rcases mem_adapterSetReceiveFilter hw with hreg | ⟨j, hj, hreg | hreg⟩
  · simp [hreg]
  · rw [hreg]
    simp only [ne_eq, FilterReg.mac.injEq, ResetReg.macAddressHigh.injEq]
    rintro rfl
    exact hj.elim hi (Nat.not_lt.mpr hle)
  · simp [hreg]

theorem programmed_after {regs : FilterRegs} (hoff : SlotsBeyondOff regs feature0)
    (hf : f.promiscuous = false) :
    Programmed current feature0 f
      (applyWrites regs (adapterSetReceiveFilter current feature0 f)) := by
  have hbeyond : SlotsBeyondOff (applyWrites regs (adapterSetReceiveFilter current feature0 f))
      feature0 := slotsBeyondOff_after hoff
  rw [adapterSetReceiveFilter, hf, if_neg Bool.false_ne_true, applyWrites_append,
    applyWrites_append] at hbeyond ⊢
  have hown := applyWrites_writeMacAddress regs 0 current f.directed
  have hslot : ∀ i, i ≠ 0 → i < macAddrCount feature0 → _ :=
    fun i hi hlt => applyWrites_writeMulticast
      (applyWrites regs (writeMacAddress 0 current f.directed)) f (Nat.pos_of_ne_zero hi) hlt
  refine ⟨?_, ⟨f.directed, ?_⟩, ?_, fun i hi hoff => ?_, fun i hi hlt hon => ?_⟩
  · simp
  · rw [applyWrites_of_ne (by simp), applyWrites_of_ne, hown.1]
    intro w hw
    obtain ⟨i, hi, -, h | h⟩ := mem_writeMulticast hw
    · simpa [h] using Nat.ne_of_gt hi
    · simp [h]
  · rw [applyWrites_of_ne (by simp), applyWrites_of_ne, hown.2]
    intro w hw
    obtain ⟨i, hi, -, h | h⟩ := mem_writeMulticast hw
    · simp [h]
    · simpa [h] using Nat.ne_of_gt hi
  · rcases Nat.lt_or_ge i (macAddrCount feature0) with hlt | hge
    · have hdisabled := hoff.resolve_left (Nat.not_le.mpr hlt)
      rw [applyWrites_of_ne (by simp), (hslot i hi hlt).1, addressEnable_macAddressHigh, hdisabled]
    · exact hbeyond i hi hge
  · obtain ⟨hhigh, hlow⟩ := hslot i hi hlt
    rw [hon] at hhigh
    exact ⟨(applyWrites_of_ne (by simp) _).trans hhigh, (applyWrites_of_ne (by simp) _).trans hlow⟩

/-! ## 5. What is let through

An address is let through by a register that has it, or by one of the three bits of the packet
filter.  Each of the ways is one of the filter's. -/

/-- A register that was written has the address it was given. -/
theorem matches_iff {regs : FilterRegs} {i : Nat} {addr dest : MacAddress} {enable : Bool}
    (hhigh : regs (.mac (.macAddressHigh i)) = macAddressHigh addr enable)
    (hlow : regs (.mac (.macAddressLow i)) = macAddressLow addr) :
    Matches regs i dest ↔ dest = addr := by
  have hlane : ∀ k : Fin 6, lane (regs (.mac (if k.val < 4 then .macAddressLow i
      else .macAddressHigh i))) (k.val % 4) = addr k := by
    intro k
    rw [← lane_macAddress addr enable k]
    split
    · rw [hlow]
    · rw [hhigh]
  constructor
  · exact fun h => funext fun k => (h k).symm.trans (hlane k)
  · rintro rfl
    exact hlane

/-- An address is in a register if and only if it is one of those that are programmed. -/
theorem mem_programmed_iff {dest : MacAddress} : dest ∈ f.programmed feature0
    ↔ ∃ i, 1 ≤ i ∧ i < macAddrCount feature0 ∧ (f.slot i).2 = true ∧ dest = (f.slot i).1 := by
  have hmax : maximumMulticastAddresses feature0 = macAddrCount feature0 - 1 := by
    unfold maximumMulticastAddresses
    split <;> omega
  simp only [ReceiveFilter.programmed, hmax, List.mem_map, List.mem_filter, decide_eq_true_eq]
  constructor
  · rintro ⟨a, ⟨hmem, hlength⟩, rfl⟩
    obtain ⟨n, hn, ha⟩ := List.mem_iff_getElem.mp hmem
    rw [List.length_take, Nat.lt_min] at hn
    rw [List.getElem_take] at ha
    refine ⟨n + 1, Nat.le_add_left 1 n, by omega, ?_⟩
    have hslot : f.slot (n + 1) = (a.address, true) := by
      rw [ReceiveFilter.slot, Nat.add_sub_cancel, List.getElem?_eq_getElem hn.2, ha]
      exact if_pos hlength
    rw [hslot]
    exact ⟨rfl, rfl⟩
  · rintro ⟨i, hi, hlt, henable, rfl⟩
    unfold ReceiveFilter.slot at henable ⊢
    cases hget : f.mcast[i - 1]? with
    | none => simp [hget] at henable
    | some a =>
      by_cases hlength : 6 ≤ a.length
      · refine ⟨a, ⟨List.mem_take_iff_getElem.mpr ?_, hlength⟩, by simp [hlength]⟩
        obtain ⟨hbound, ha⟩ := List.getElem?_eq_some_iff.mp hget
        exact ⟨i - 1, by omega, ha⟩
      · simp [hget, hlength] at henable

/-- **Registers that hold a filter let through what it asks for.** -/
theorem Programmed.accepts_iff {regs : FilterRegs} (hp : Programmed current feature0 f regs)
    (hf : f.promiscuous = false) (dest : MacAddress) :
    accepts regs dest ↔ f.Wants current feature0 dest := by
  obtain ⟨hprom, hall, hbroad⟩ := getLsbD_macPacketFilter false f.allMulticast (!f.broadcast)
  obtain ⟨enable, hown⟩ := hp.ownHigh
  have hslots : (∃ i < macAddressSlots,
      (i = 0 ∨ addressEnable (regs (.mac (.macAddressHigh i))) = true) ∧ Matches regs i dest)
      ↔ dest = current ∨ dest ∈ f.programmed feature0 := by
    rw [mem_programmed_iff]
    constructor
    · rintro ⟨i, -, henable, hmatch⟩
      rcases Nat.eq_zero_or_pos i with rfl | hi
      · exact Or.inl ((matches_iff hown hp.ownLow).mp hmatch)
      · have hon := henable.resolve_left (Nat.ne_of_gt hi)
        have hslot : ¬ (macAddrCount feature0 ≤ i ∨ (f.slot i).2 = false) := by
          intro hoff
          rw [hp.slotOff i (Nat.ne_of_gt hi) hoff] at hon
          exact Bool.false_ne_true hon
        rw [not_or, Nat.not_le, Bool.not_eq_false] at hslot
        obtain ⟨hhigh, hlow⟩ := hp.slotOn i (Nat.ne_of_gt hi) hslot.1 hslot.2
        exact Or.inr ⟨i, hi, hslot.1, hslot.2, (matches_iff hhigh hlow).mp hmatch⟩
    · rintro (rfl | ⟨i, hi, hlt, hon, rfl⟩)
      · exact ⟨0, by decide, Or.inl rfl, (matches_iff hown hp.ownLow).mpr rfl⟩
      · obtain ⟨hhigh, hlow⟩ := hp.slotOn i (Nat.ne_of_gt hi) hlt hon
        refine ⟨i, hlt.trans (macAddrCount_lt feature0), Or.inr ?_, (matches_iff hhigh hlow).mpr rfl⟩
        rw [hhigh, addressEnable_macAddressHigh]
  rw [accepts, ReceiveFilter.Wants, hslots, hp.packetFilter, hprom, hall, hbroad, hf]
  simp

/-- **After the call the device lets through what was asked for**, and nothing else. -/
theorem accepts_iff_wants {regs : FilterRegs} (hoff : SlotsBeyondOff regs feature0)
    (dest : MacAddress) :
    accepts (applyWrites regs (adapterSetReceiveFilter current feature0 f)) dest
      ↔ f.Wants current feature0 dest := by
  cases hf : f.promiscuous with
  | true =>
    have hbits := getLsbD_macPacketFilter true false false
    simp [accepts, ReceiveFilter.Wants, adapterSetReceiveFilter, hf, hbits.1]
  | false => exact (programmed_after hoff hf).accepts_iff hf dest

end Call

end WoaRk3576.Net
