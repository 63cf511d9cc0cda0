import EdgeHealthd.Library.Wrapping
import EdgeHealthd.ResourceReasons

/-!
The arithmetic of the resource readings. The percentage of a mount is computed from
byte counts on 64 bits, and its factor of 100 can leave them; the percentage of the
memory is computed from megabytes, whose division has made room for the factor.
-/

namespace EdgeHealthd

section Storage

variable (stat : Statvfs)

def Statvfs.capacity : Nat := stat.blocks.toNat * stat.frsize.toNat

def Statvfs.used : Nat := (stat.blocks.toNat - stat.bfree.toNat) * stat.frsize.toNat

def Statvfs.room : Nat := stat.bavail.toNat * stat.frsize.toNat

def Statvfs.percent : Nat := 100 * (stat.blocks.toNat - stat.bfree.toNat) / stat.blocks.toNat

/-- What `statvfs` promises of a filesystem that has a capacity. -/
structure Statvfs.Sensible : Prop where
  free_le : stat.bfree ≤ stat.blocks
  capacity_pos : 0 < stat.capacity

/-- The mount is reported with the integer values, and the schema's bound on the percentage
holds. -/
structure ReportsExactly (mount : StorageMount) : Prop where
  available : mount.available = true
  usedPct : ∃ usedPct, mount.usedPct = some usedPct ∧ usedPct.toNat = stat.percent ∧
    usedPct.toNat ≤ 100
  availMb : ∃ availMb, mount.availMb = some availMb ∧ availMb.toNat = stat.room / 2 ^ 20

variable {stat}

theorem Statvfs.percent_le : stat.percent ≤ 100 := by
  unfold Statvfs.percent
  refine Nat.div_le_of_le_mul ?_
  rw [Nat.mul_comm]
  exact Nat.mul_le_mul_right 100 (Nat.sub_le _ _)

theorem Statvfs.Sensible.percent_eq (sensible : stat.Sensible) :
    100 * stat.used / stat.capacity = stat.percent := by
  have size : 0 < stat.frsize.toNat := Nat.pos_of_mul_pos_left sensible.capacity_pos
  rw [Statvfs.used, Statvfs.capacity, ← Nat.mul_assoc, Nat.mul_div_mul_right _ _ size]
  rfl

theorem Statvfs.Sensible.products (sensible : stat.Sensible) :
    (stat.blocks * stat.frsize).toNat = stat.capacity % 2 ^ 64 ∧
      ((stat.blocks * stat.frsize - stat.bfree * stat.frsize) * 100).toNat =
        100 * stat.used % 2 ^ 64 ∧
      (stat.bavail * stat.frsize).toNat = stat.room % 2 ^ 64 := by
  refine ⟨UInt64.toNat_mul _ _, ?_, UInt64.toNat_mul _ _⟩
  have order : stat.bfree.toNat * stat.frsize.toNat ≤ stat.blocks.toNat * stat.frsize.toNat :=
    Nat.mul_le_mul_right _ (UInt64.le_iff_toNat_le.mp sensible.free_le)
  have factor : (100 : UInt64).toNat = 100 := rfl
  rw [UInt64.toNat_mul, UInt64.toNat_sub, UInt64.toNat_mul, UInt64.toNat_mul, factor,
    Statvfs.used, Nat.sub_mul]
  omega

theorem Statvfs.Sensible.reportsExactly_iff (sensible : stat.Sensible) (fsType : Option Int)
    (path : String) :
    ReportsExactly stat (ResourcesProbe.collectMount ⟨some stat, fsType⟩ path) ↔
      0 < stat.capacity % 2 ^ 64 ∧
        100 * stat.used % 2 ^ 64 / (stat.capacity % 2 ^ 64) % 256 = stat.percent ∧
        stat.room % 2 ^ 64 / 2 ^ 20 = stat.room / 2 ^ 20 := by
  obtain ⟨total, used, room⟩ := sensible.products
  have positive : stat.blocks * stat.frsize > 0 ↔ 0 < stat.capacity % 2 ^ 64 := by
    rw [← total]
    exact UInt64.lt_iff_toNat_lt
  have usedPct : ((stat.blocks * stat.frsize - stat.bfree * stat.frsize) * 100 /
      (stat.blocks * stat.frsize)).toUInt8.toNat =
        100 * stat.used % 2 ^ 64 / (stat.capacity % 2 ^ 64) % 256 := by
    rw [UInt64.toNat_toUInt8, UInt64.toNat_div, used, total]
  have availMb : (stat.bavail * stat.frsize / (1024 * 1024)).toNat =
      stat.room % 2 ^ 64 / 2 ^ 20 := by
    rw [UInt64.toNat_div, room]
    rfl
  unfold ResourcesProbe.collectMount
  dsimp only
  by_cases capacity : stat.blocks * stat.frsize > 0
  · rw [if_pos capacity]
    constructor
    · rintro ⟨_, ⟨_, ⟨⟩, percent, _⟩, ⟨_, ⟨⟩, free⟩⟩
      rw [usedPct] at percent
      rw [availMb] at free
      exact ⟨positive.mp capacity, percent, free⟩
    · rintro ⟨_, percent, free⟩
      rw [← usedPct] at percent
      rw [← availMb] at free
      exact ⟨rfl, ⟨_, rfl, percent, percent ▸ Statvfs.percent_le⟩, ⟨_, rfl, free⟩⟩
  · rw [if_neg capacity]
    constructor
    · intro exact
      cases exact.available
    · intro numbers
      exact absurd (positive.mpr numbers.1) capacity

theorem Statvfs.Sensible.percent_exact_iff (sensible : stat.Sensible)
    (fits : stat.capacity < 2 ^ 64) :
    100 * stat.used % 2 ^ 64 / (stat.capacity % 2 ^ 64) % 256 = stat.percent ↔
      100 * stat.used < 2 ^ 64 := by
  have quotient : 100 * stat.used % 2 ^ 64 / stat.capacity ≤ 100 := by
    refine Nat.le_trans (Nat.div_le_div_right (Nat.mod_le _ _)) ?_
    rw [sensible.percent_eq]
    exact Statvfs.percent_le
  rw [Nat.mod_eq_of_lt fits, Nat.mod_eq_of_lt (by omega), ← sensible.percent_eq]
  exact Wrapping.mod_div_eq_iff sensible.capacity_pos (Nat.le_of_lt fits)

/-- The free space fits 64 bits of bytes and, below 2^64 bytes, the used space does so a
hundredfold; from there on it takes a coincidence of the wrapped quotients. -/
def Statvfs.KeepsQuotients (stat : Statvfs) : Prop :=
  stat.room < 2 ^ 64 ∧
    if stat.capacity < 2 ^ 64 then 100 * stat.used < 2 ^ 64
    else 0 < stat.capacity % 2 ^ 64 ∧
      100 * stat.used % 2 ^ 64 / (stat.capacity % 2 ^ 64) % 256 = stat.percent

theorem Statvfs.keepsQuotients_of_capacity (fits : stat.capacity < 2 ^ 64) :
    stat.KeepsQuotients ↔ stat.room < 2 ^ 64 ∧ 100 * stat.used < 2 ^ 64 := by
  rw [Statvfs.KeepsQuotients, if_pos fits]

theorem Statvfs.Sensible.exact_iff (sensible : stat.Sensible) (fsType : Option Int)
    (path : String) :
    ReportsExactly stat (ResourcesProbe.collectMount ⟨some stat, fsType⟩ path) ↔
      stat.KeepsQuotients := by
  have free : stat.room % 2 ^ 64 / 2 ^ 20 = stat.room / 2 ^ 20 ↔ stat.room < 2 ^ 64 :=
    Wrapping.mod_div_eq_iff (by decide) (by decide)
  rw [sensible.reportsExactly_iff, free, Statvfs.KeepsQuotients]
  split
  · rename_i fits
    have positive : 0 < stat.capacity % 2 ^ 64 := by
      rw [Nat.mod_eq_of_lt fits]
      exact sensible.capacity_pos
    rw [sensible.percent_exact_iff fits]
    exact ⟨fun ⟨_, used, room⟩ => ⟨room, used⟩, fun ⟨room, used⟩ => ⟨positive, used, room⟩⟩
  · exact ⟨fun ⟨positive, used, room⟩ => ⟨room, positive, used⟩,
      fun ⟨room, positive, used⟩ => ⟨positive, used, room⟩⟩

/-- A mount is reported exactly where the quotients survive the word. A filesystem is so in
every state of its use when a hundred times its capacity fits. -/
theorem storage_exact_iff (fsType : Option Int) (path : String) :
    (∀ stat : Statvfs, stat.Sensible →
      (ReportsExactly stat (ResourcesProbe.collectMount ⟨some stat, fsType⟩ path) ↔
        stat.KeepsQuotients)) ∧
      ∀ blocks frsize : UInt64, 0 < blocks.toNat * frsize.toNat →
        ((∀ bfree bavail, bfree ≤ blocks → bavail ≤ bfree →
          ReportsExactly ⟨blocks, bfree, bavail, frsize⟩
            (ResourcesProbe.collectMount ⟨some ⟨blocks, bfree, bavail, frsize⟩, fsType⟩ path)) ↔
          100 * (blocks.toNat * frsize.toNat) < 2 ^ 64) := by
  refine ⟨fun stat sensible => sensible.exact_iff fsType path, ?_⟩
  intro blocks frsize capacity
  have sensible : ∀ bfree bavail, bfree ≤ blocks →
      Statvfs.Sensible ⟨blocks, bfree, bavail, frsize⟩ := fun _ _ free => ⟨free, capacity⟩
  constructor
  · intro always
    have empty := ((sensible blocks blocks (UInt64.le_refl _)).exact_iff fsType path).mp
      (always blocks blocks (UInt64.le_refl _) (UInt64.le_refl _))
    have full := ((sensible 0 0 UInt64.zero_le).exact_iff fsType path).mp
      (always 0 0 UInt64.zero_le (UInt64.le_refl _))
    have fits : blocks.toNat * frsize.toNat < 2 ^ 64 := empty.1
    have used := (@Statvfs.keepsQuotients_of_capacity ⟨blocks, 0, 0, frsize⟩ fits).mp full
    exact used.2
  · intro fits bfree bavail free available
    have freeBytes : bavail.toNat * frsize.toNat ≤ blocks.toNat * frsize.toNat :=
      Nat.mul_le_mul_right _ (UInt64.le_iff_toNat_le.mp (UInt64.le_trans available free))
    have usedBytes : (blocks.toNat - bfree.toNat) * frsize.toNat ≤
        blocks.toNat * frsize.toNat := Nat.mul_le_mul_right _ (Nat.sub_le _ _)
    have below : Statvfs.capacity ⟨blocks, bfree, bavail, frsize⟩ < 2 ^ 64 := by
      show blocks.toNat * frsize.toNat < 2 ^ 64
      omega
    rw [(sensible bfree bavail free).exact_iff, Statvfs.keepsQuotients_of_capacity below]
    show bavail.toNat * frsize.toNat < 2 ^ 64 ∧
      100 * ((blocks.toNat - bfree.toNat) * frsize.toNat) < 2 ^ 64
    omega

def rootStorage : Statvfs :=
  { blocks := 0x100000, bfree := 0x40000, bavail := 0x20000, frsize := 4096 }

theorem rootStorage_exact :
    rootStorage.Sensible ∧ rootStorage.percent = 75 ∧
      ReportsExactly rootStorage
        (ResourcesProbe.collectMount { statvfs := some rootStorage } "/") := by
  have sensible : rootStorage.Sensible := ⟨by decide, by decide⟩
  refine ⟨sensible, by decide, ((storage_exact_iff none "/").1 rootStorage sensible).mpr ?_⟩
  exact ⟨by decide, by decide⟩

def fullStorage : Statvfs := { blocks := 0x400000000000, bfree := 0, bavail := 0, frsize := 4096 }

theorem full_storage_reads_36 :
    fullStorage.Sensible ∧ fullStorage.percent = 100 ∧
      (ResourcesProbe.collectMount { statvfs := some fullStorage } "/data").usedPct = some 36 ∧
      ¬ReportsExactly fullStorage
        (ResourcesProbe.collectMount { statvfs := some fullStorage } "/data") := by
  refine ⟨⟨by decide, by decide⟩, by decide, by decide, ?_⟩
  rintro ⟨_, ⟨_, ⟨⟩, percent, _⟩, _⟩
  exact absurd percent (by decide)

end Storage

section Memory

variable (config : Config) (memory : MemoryUsage)

/-- `mem_used_mb * 100 / mem_total_mb`, or nothing where the product leaves 64 bits or the
divisor is zero. -/
def checkedMemoryPct : Option Nat :=
  if memory.memUsedMb.toNat * 100 < 2 ^ 64 ∧ memory.memTotalMb ≠ 0 then
    some (memory.memUsedMb.toNat * 100 / memory.memTotalMb.toNat)
  else none

/-- `evaluate_memory` with checked arithmetic. -/
def checkedEvaluateMemory : Option Severity :=
  if memory.memTotalMb == 0 then some .unknown
  else (checkedMemoryPct memory).map fun pct =>
    if pct ≥ config.thresholds.memUsedCrit.toNat then .crit
    else if pct ≥ config.thresholds.memUsedWarn.toNat then .warn
    else .ok

/-- The memory part of `generate_reasons` with checked arithmetic. -/
def checkedMemoryReasons : Option (List String) :=
  if memory.memTotalMb > 0 then
    (checkedMemoryPct memory).map fun pct =>
      if pct ≥ config.thresholds.memUsedWarn.toNat then ["mem_used_high"] else []
  else some []

theorem usage_bounds (amounts : MemoryAmounts) :
    amounts.usage.memUsedMb ≤ amounts.usage.memTotalMb ∧
      amounts.usage.memUsedMb.toNat < 2 ^ 54 := by
  have total : amounts.total.toNat < 2 ^ 64 := amounts.total.toNat_lt
  unfold MemoryAmounts.usage
  dsimp only
  rw [UInt64.le_iff_toNat_le, UInt64.toNat_div]
  show _ ≤ amounts.total.toNat / 1024 ∧ _
  split
  · rename_i covered
    rw [UInt64.toNat_div, UInt64.toNat_sub_of_le _ _ covered]
    show (amounts.total.toNat - amounts.available.toNat) / 1024 ≤ _ ∧
      (amounts.total.toNat - amounts.available.toNat) / 1024 < 2 ^ 54
    omega
  · exact ⟨Nat.zero_le _, by decide⟩

variable {memory}

theorem collectMemory_usage {meminfo : Except Int (List (String × UInt64))}
    {sysinfo : Except Int Sysinfo}
    (collected : ResourcesProbe.collectMemory meminfo sysinfo = .ok memory) :
    ∃ amounts : MemoryAmounts, amounts.usage = memory := by
  unfold ResourcesProbe.collectMemory at collected
  dsimp only at collected
  split at collected
  · exact ⟨_, Except.ok.inj collected⟩
  · exact ⟨_, Except.ok.inj collected⟩
  · cases collected

variable (used : memory.memUsedMb ≤ memory.memTotalMb) (small : memory.memUsedMb.toNat < 2 ^ 54)

include small

theorem memoryPct_toNat :
    (memoryPct memory).toNat = memory.memUsedMb.toNat * 100 / memory.memTotalMb.toNat := by
  have factor : (100 : UInt64).toNat = 100 := rfl
  rw [memoryPct, UInt64.toNat_div, UInt64.toNat_mul, factor, Nat.mod_eq_of_lt (by omega)]

theorem checkedMemoryPct_eq (nonzero : memory.memTotalMb ≠ 0) :
    checkedMemoryPct memory = some (memoryPct memory).toNat := by
  rw [checkedMemoryPct, if_pos ⟨by omega, nonzero⟩, memoryPct_toNat small]

omit small in
theorem memoryPct_ge_iff (threshold : UInt8) :
    memoryPct memory ≥ threshold.toUInt64 ↔ (memoryPct memory).toNat ≥ threshold.toNat := by
  rw [ge_iff_le, UInt64.le_iff_toNat_le, UInt8.toNat_toUInt64]

theorem checkedEvaluateMemory_eq :
    checkedEvaluateMemory config memory = some (evaluateMemory config memory) := by
  unfold checkedEvaluateMemory evaluateMemory
  by_cases zero : memory.memTotalMb = 0
  · rw [if_pos (beq_iff_eq.mpr zero), if_pos (beq_iff_eq.mpr zero)]
  · rw [if_neg (by simpa using zero), if_neg (by simpa using zero),
      checkedMemoryPct_eq small zero, Option.map_some]
    simp only [memoryPct_ge_iff]

theorem checkedMemoryReasons_eq {sections : SnapshotState}
    (shown : sections.resources.memory = memory) :
    checkedMemoryReasons config memory =
      some (withCode "mem_used_high" (sections.reasons config)) := by
  have kept : withCode "mem_used_high" ["mem_used_high"] = ["mem_used_high"] := by decide
  rw [withCode_resources config sections (by decide),
    if_neg (show "disk_used_high" ≠ "mem_used_high" by decide),
    if_neg (show "temp_high" ≠ "mem_used_high" by decide), kept, List.append_nil, List.append_nil,
    shown, memoryFlagged, checkedMemoryReasons]
  by_cases positive : memory.memTotalMb > 0
  · rw [if_pos positive, checkedMemoryPct_eq small (UInt64.pos_iff_ne_zero.mp positive)]
    simp only [Option.map_some, positive, decide_true, Bool.true_and, decide_eq_true_eq,
      memoryPct_ge_iff]
  · rw [if_neg positive]
    simp only [positive, decide_false, Bool.false_and, Bool.false_eq_true, ↓reduceIte]

include used

theorem memoryPct_le : (memoryPct memory).toNat ≤ 100 := by
  rw [memoryPct_toNat small]
  refine Nat.div_le_of_le_mul ?_
  exact Nat.mul_le_mul_right 100 (UInt64.le_iff_toNat_le.mp used)

omit used small in
/-- Whatever memory is collected, both users of the percentage compute it without a wrap
and without a division by zero, and it is the integer quotient. -/
theorem memory_percent_exact {meminfo : Except Int (List (String × UInt64))}
    {sysinfo : Except Int Sysinfo}
    (collected : ResourcesProbe.collectMemory meminfo sysinfo = .ok memory) :
    memory.memUsedMb ≤ memory.memTotalMb ∧
      memory.memUsedMb.toNat * 100 < 2 ^ 64 ∧
      checkedEvaluateMemory config memory = some (evaluateMemory config memory) ∧
      (∀ sections : SnapshotState, sections.resources.memory = memory →
        checkedMemoryReasons config memory =
          some (withCode "mem_used_high" (sections.reasons config))) ∧
      (memoryPct memory).toNat = 100 * memory.memUsedMb.toNat / memory.memTotalMb.toNat ∧
      (memoryPct memory).toNat ≤ 100 := by
  obtain ⟨amounts, rfl⟩ := collectMemory_usage collected
  obtain ⟨used, small⟩ := usage_bounds amounts
  refine ⟨used, by omega, checkedEvaluateMemory_eq config small,
    fun sections shown => checkedMemoryReasons_eq config small shown, ?_, memoryPct_le used small⟩
  rw [memoryPct_toNat small, Nat.mul_comm]

end Memory

def largeMemory : MemoryUsage where
  memTotalMb := 0x3fffffffffffff
  memUsedMb := 0x3ffffffffffffe

theorem largeMemory_percent :
    ResourcesProbe.collectMemory
        (.ok [("MemTotal:", 0xffffffffffffffff), ("MemAvailable:", 1024)]) (.error 0) =
          .ok largeMemory ∧
      largeMemory.memUsedMb ≤ largeMemory.memTotalMb ∧ (memoryPct largeMemory).toNat ≤ 100 := by
  have collected : ResourcesProbe.collectMemory
      (.ok [("MemTotal:", 0xffffffffffffffff), ("MemAvailable:", 1024)]) (.error 0) =
        .ok largeMemory := by
    decide +kernel
  obtain ⟨used, _, _, _, _, percent⟩ := memory_percent_exact {} collected
  exact ⟨collected, used, percent⟩

end EdgeHealthd
