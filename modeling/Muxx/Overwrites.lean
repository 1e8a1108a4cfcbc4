import Muxx.Copies
import Muxx.Protection

/-!
# What a copy overwrites

muxx_svc_xcopy asks who owns the destination, not which of its pages the owner
may write:

* `origin`, `copied_origin`: where the bytes of a copy come from;
* `copyUp_ok`: memcpy copies cell by cell;
* `overwrites_iff`: when a call changes nothing that its destination could not
  change itself.
-/

namespace Muxx

open Copy Run Fallible

/-! ## Where the bytes come from -/

/-- The cell that byte `i` of a copy to memory comes from. A source over the end of its page
goes on at the start of the destination's page, and a copy whose ranges overlap reads what it
has written. -/
def origin (par4 par5 srcaddr dstaddr : WORD) (i : Nat) : Nat :=
  let rest := 8192 - srcaddr.toNat % 8192
  let distance := (physical par5 dstaddr + 262144 - physical par4 srcaddr) % 262144
  let r := i % (dstaddr.toNat % 8192 + rest)
  sourceCell par4 par5 srcaddr (if r < rest then r % distance else r)

section Origins
variable {par4 par5 srcaddr dstaddr : WORD} {mem : Nat → BYTE} {n i : Nat}

theorem sourceCell_mod (bound : i < 8192) : sourceCell par4 par5 srcaddr i =
    if i < 8192 - srcaddr.toNat % 8192 then (par4.toNat * 64 + srcaddr.toNat % 8192 + i) % 262144
    else (par5.toNat * 64 + (i - (8192 - srcaddr.toNat % 8192))) % 262144 := by
  unfold sourceCell
  by_cases within : srcaddr.toNat % 8192 + i < 8192
  · rw [if_pos within, if_pos (by omega), physical_mod, small_toNat]
    omega
  · rw [if_neg within, if_neg (by omega), physical_mod, small_toNat]
    omega

theorem destCell_mod (within : dstaddr.toNat % 8192 + i < 8192) :
    destCell par5 dstaddr i = (par5.toNat * 64 + dstaddr.toNat % 8192 + i) % 262144 := by
  rw [destCell, physical_mod, small_toNat]
  omega

/-- The first page of the source has byte `i` where byte `j` has gone if they are as far apart
as the ranges. -/
theorem source_dest {distance : Nat} {j : Nat}
    (apart : (physical par5 dstaddr + 262144 - physical par4 srcaddr) % 262144 = distance)
    (before : j < i) (within : i < 8192 - srcaddr.toNat % 8192) (fits : dstaddr.toNat % 8192 + i < 8192) :
    sourceCell par4 par5 srcaddr i = destCell par5 dstaddr j ↔ i = j + distance := by
  rw [sourceCell_mod (by omega), if_pos within, destCell_mod (by omega)]
  rw [physical_mod, physical_mod] at apart
  omega

/-- When nothing has been written where it is read, the byte is its own origin. -/
theorem unwritten_near {distance : Nat}
    (apart : (physical par5 dstaddr + 262144 - physical par4 srcaddr) % 262144 = distance)
    (within : i < 8192 - srcaddr.toNat % 8192) (fits : dstaddr.toNat % 8192 + i < 8192)
    (unwritten : ∀ j < i, sourceCell par4 par5 srcaddr i ≠ destCell par5 dstaddr j) : i % distance = i := by
  by_contra far
  have positive : 0 < distance := Nat.pos_of_ne_zero fun none => far (none ▸ Nat.mod_zero i)
  have large : distance ≤ i := Nat.le_of_not_lt fun small => far (Nat.mod_eq_of_lt small)
  apply unwritten (i - distance) (by omega)
  exact (source_dest apart (by omega) within fits).mpr (by omega)

/-- Each byte is the one of its origin. -/
theorem copied_origin (page : dstaddr.toNat % 8192 + n ≤ 8192) (bound : i < n) :
    copy (sourceCell par4 par5 srcaddr) (destCell par5 dstaddr) n mem (destCell par5 dstaddr i) =
      mem (origin par4 par5 srcaddr dstaddr i) := by
  refine copy_traced ?_ ?_ ?_ bound
  · intro i bound j before
    rw [destCell_mod (by omega), destCell_mod (by omega)]
    omega
  · intro i bound unwritten
    unfold origin
    dsimp only
    generalize apart : (physical par5 dstaddr + 262144 - physical par4 srcaddr) % 262144 = distance
    by_cases within : i < 8192 - srcaddr.toNat % 8192
    · rw [Nat.mod_eq_of_lt (a := i) (by omega), if_pos within,
        unwritten_near apart within (by omega) unwritten]
    · have near : i < dstaddr.toNat % 8192 + (8192 - srcaddr.toNat % 8192) := by
        by_contra far
        apply unwritten (i - (dstaddr.toNat % 8192 + (8192 - srcaddr.toNat % 8192))) (by omega)
        rw [sourceCell_mod (by omega), if_neg within, destCell_mod (by omega)]
        omega
      rw [Nat.mod_eq_of_lt near, if_neg within]
  · intro i bound j before same
    unfold origin
    dsimp only
    generalize apart : (physical par5 dstaddr + 262144 - physical par4 srcaddr) % 262144 = distance
    by_cases within : i < 8192 - srcaddr.toNat % 8192
    · have step : i = j + distance := (source_dest apart before within (by omega)).mp same
      have round : i % distance = j % distance := by
        rw [step]
        exact Nat.add_mod_right ..
      rw [Nat.mod_eq_of_lt (a := i) (by omega), Nat.mod_eq_of_lt (a := j) (by omega), if_pos within,
        if_pos (by omega), round]
    · rw [sourceCell_mod (by omega), if_neg within, destCell_mod (by omega)] at same
      have step : i = j + (dstaddr.toNat % 8192 + (8192 - srcaddr.toNat % 8192)) := by omega
      have round : i % (dstaddr.toNat % 8192 + (8192 - srcaddr.toNat % 8192)) =
          j % (dstaddr.toNat % 8192 + (8192 - srcaddr.toNat % 8192)) := by
        conv_lhs => rw [step]
        exact Nat.add_mod_right ..
      rw [round]

end Origins

/-! ## memcpy -/

/-- The address `i` bytes further on. -/
def onward (addr : ADDRESS) (i : Nat) : ADDRESS := addr + BitVec.ofNat 16 i

theorem onward_zero (addr : ADDRESS) : onward addr 0 = addr := BitVec.add_zero addr

theorem onward_succ (addr : ADDRESS) (i : Nat) : onward addr (i + 1) = onward (addr + 1) i := by
  unfold onward
  rw [BitVec.add_assoc, Nat.add_comm i 1]
  exact congrArg (addr + ·) (BitVec.ofNat_add 1 i)

/-- The byte that kernel mode has `i` bytes on. -/
def kernelCell (mem : Nat → BYTE) (addr : ADDRESS) (i : Nat) : Nat :=
  (kernelMode mem).cell (onward addr i)

/-- memcpy changes only what it writes, as long as it writes no page register. -/
theorem copyUp_changes {bus : ADDRESS → Bool} {m m' : Core} {t f : ADDRESS} {n : Nat}
    (clear : ∀ i < n, ¬ InUnit (kernelCell m.mem t i)) (copied : m.copyUp bus t f n = .ok m') :
    m'.kernel = m.kernel ∧ (∀ a, InUnit a → m'.mem a = m.mem a) ∧
      ∀ a, m'.mem a ≠ m.mem a → ∃ i < n, a = kernelCell m.mem t i := by
  induction n generalizing m t f with
  | zero =>
    cases copied
    exact ⟨rfl, fun _ _ => rfl, fun a changed => absurd rfl changed⟩
  | succ n ih =>
    obtain ⟨b, -, rest⟩ := bind_ok.mp copied
    obtain ⟨mem, stored, rest⟩ := bind_ok.mp rest
    obtain ⟨-, -, -, rfl⟩ := storeAt_ok.mp stored
    have first : kernelCell m.mem t 0 = (kernelMode m.mem).cell t := by
      rw [kernelCell, onward_zero]
    have out := clear 0 (Nat.succ_pos n)
    rw [first] at out
    have unit (a : Nat) (inUnit : InUnit a) :
        Function.update m.mem ((kernelMode m.mem).cell t) b a = m.mem a := by
      have other : a ≠ (kernelMode m.mem).cell t := by
        rintro rfl
        exact out inUnit
      exact Function.update_of_ne other ..
    have registers := kernelMode_congr unit
    have next (i : Nat) : kernelCell (Function.update m.mem ((kernelMode m.mem).cell t) b) (t + 1) i =
        kernelCell m.mem t (i + 1) := by
      rw [kernelCell, kernelCell, registers, onward_succ]
    obtain ⟨kernel, same, only⟩ := ih (m := ⟨m.kernel, _⟩) (fun i bound => by
      rw [next]
      exact clear (i + 1) (Nat.succ_lt_succ bound)) rest
    refine ⟨kernel, fun a inUnit => (same a inUnit).trans (unit a inUnit), fun a changed => ?_⟩
    by_cases later : m'.mem a = Function.update m.mem ((kernelMode m.mem).cell t) b a
    · refine ⟨0, Nat.succ_pos n, ?_⟩
      rw [first]
      by_contra other
      rw [later, Function.update_of_ne other] at changed
      exact changed rfl
    · obtain ⟨i, bound, here⟩ := only a later
      exact ⟨i + 1, Nat.succ_lt_succ bound, here.trans (next i)⟩

/-- memcpy reads and writes every byte. -/
theorem copyUp_accesses {bus : ADDRESS → Bool} {m m' : Core} {t f : ADDRESS} {n i : Nat}
    (clear : ∀ i < n, ¬ InUnit (kernelCell m.mem t i)) (copied : m.copyUp bus t f n = .ok m')
    (bound : i < n) :
    ((kernelMode m.mem).Loads (onward f i) ∧ Responds bus (kernelCell m.mem f i)) ∧
      (kernelMode m.mem).Stores (onward t i) ∧ Responds bus (kernelCell m.mem t i) := by
  induction n generalizing m t f i with
  | zero => exact absurd bound (Nat.not_lt_zero i)
  | succ n ih =>
    obtain ⟨b, loaded, rest⟩ := bind_ok.mp copied
    obtain ⟨mem, stored, rest⟩ := bind_ok.mp rest
    obtain ⟨loads, there, -⟩ := loadAt_ok.mp loaded
    obtain ⟨stores, there', -, rfl⟩ := storeAt_ok.mp stored
    have out := clear 0 (Nat.succ_pos n)
    rw [kernelCell, onward_zero] at out
    have unit (a : Nat) (inUnit : InUnit a) :
        Function.update m.mem ((kernelMode m.mem).cell t) b a = m.mem a := by
      have other : a ≠ (kernelMode m.mem).cell t := by
        rintro rfl
        exact out inUnit
      exact Function.update_of_ne other ..
    have registers := kernelMode_congr unit
    have next (addr : ADDRESS) (i : Nat) :
        kernelCell (Function.update m.mem ((kernelMode m.mem).cell t) b) (addr + 1) i =
          kernelCell m.mem addr (i + 1) := by
      rw [kernelCell, kernelCell, registers, onward_succ]
    cases i with
    | zero =>
      rw [kernelCell, kernelCell, onward_zero, onward_zero]
      exact ⟨⟨loads, there⟩, stores, there'⟩
    | succ i =>
      have later := ih (m := ⟨m.kernel, _⟩) (fun i bound => by
        rw [next]
        exact clear (i + 1) (Nat.succ_lt_succ bound)) rest (Nat.lt_of_succ_lt_succ bound)
      rw [next, next, registers] at later
      rw [onward_succ, onward_succ]
      exact later

/-! ## What the destination may write -/

namespace Core

/-- The task can write the byte in user mode. -/
def MayStore (k : Kernel) (dst : Fin maxTasks) (a : Nat) : Prop :=
  ∃ addr : ADDRESS, writable ((k.tct dst).mmuState.updr (pageOf addr)) ∧
    InPage ((k.tct dst).mmuState.updr (pageOf addr)) (blockOf addr) ∧
    a = physical ((k.tct dst).mmuState.upar (pageOf addr)) addr

/-- With these page registers, whatever the memory holds, the call changes only bytes that
the destination could change itself. -/
def ChangesWritable (bus : ADDRESS → Bool) (m : Core) (dst : Fin maxTasks)
    (dstpid dstaddr srcpid srcaddr size : WORD) : Prop :=
  ∀ mem rc m', (∀ a, InUnit a → mem a = m.mem a) →
    svcXcopy bus ⟨m.kernel, mem⟩ dstpid dstaddr srcpid srcaddr size = .ok (rc, m') →
    ∀ a, m'.mem a ≠ mem a → MayStore m.kernel dst a

section Calls
variable (bus : ADDRESS → Bool) (m : Core) (dst src : Fin maxTasks)
variable (dstpid dstaddr srcpid srcaddr size : WORD)

/-- The address register of the destination's page. -/
def par5 : WORD := (m.kernel.tct dst).mmuState.upar (pageOf dstaddr)

def par4 : WORD := (m.kernel.tct src).mmuState.upar (pageOf srcaddr)

/-- The destination is not over the page registers. -/
def Clear : Prop := ∀ i < size.toNat, ¬ InUnit (destCell (m.par5 dst dstaddr) dstaddr i)

/-- The bytes that memcpy moves before, when neither task is named. -/
def firstBytes : Nat := if dstpid = 0 ∧ srcpid = 0 then size.toInt.toNat else 0

/-- memcpy comes to a byte that the kernel's own pages do not give it. -/
def FirstStops : Prop := ∃ i < firstBytes dstpid srcpid size,
  ¬ (((kernelMode m.mem).Loads (onward srcaddr i) ∧ Responds bus (kernelCell m.mem srcaddr i)) ∧
    (kernelMode m.mem).Stores (onward dstaddr i) ∧ Responds bus (kernelCell m.mem dstaddr i))

/-- The copy between the windows does not come back: the destination goes over the end of its
page, or nothing answers where a byte goes or where the last restore goes. -/
def WindowsStop : Prop :=
  ¬ InOnePage dstaddr size ∨ ¬ Answered bus 4 (turns srcaddr size) ∨
    m.Clear dst dstaddr size ∧ ∃ i < size.toNat,
      ¬ (Responds bus (sourceCell (m.par4 src srcaddr) (m.par5 dst dstaddr) srcaddr i) ∧
        Responds bus (destCell (m.par5 dst dstaddr) dstaddr i))

/-- The copy between the windows writes what the destination may write, or what is there already.
It does not go on once it has moved its own window. A pointer that has moved
leaves KISAR4 as it is and restores another word. -/
structure WindowsKeep : Prop where
  bytes : ∀ i < size.toNat, MayStore m.kernel dst (destCell (m.par5 dst dstaddr) dstaddr i) ∨
    m.Clear dst dstaddr size ∧
      origin (m.par4 src srcaddr) (m.par5 dst dstaddr) srcaddr dstaddr i =
        destCell (m.par5 dst dstaddr) dstaddr i
  window : ∀ i, i + 1 < size.toNat → ¬ Kisar5Byte (destCell (m.par5 dst dstaddr) dstaddr i)
  kisar4 : turns srcaddr size ≠ 0 → ∀ i < 2, MayStore m.kernel dst (kisarByte 4 + i) ∨
    putWord m.mem (kisarByte 4) (m.par4 src srcaddr) (kisarByte 4 + i) = m.mem (kisarByte 4 + i)
  restored : turns srcaddr size ≠ 0 → ∀ i < 2,
    MayStore m.kernel dst (kisarByte 4 + 256 * turns srcaddr size + i)

/-- The calls that change nothing else. -/
def Confines : Prop :=
  size = 0 ∨ ¬ mayRead m.kernel src ∨ ¬ mayWrite m.kernel dst ∨
    (∀ i < firstBytes dstpid srcpid size, ¬ InUnit (kernelCell m.mem dstaddr i)) ∧
      (m.FirstStops bus dstpid dstaddr srcpid srcaddr size ∨
        m.WindowsStop bus dst src dstaddr srcaddr size ∨
        (∀ i < firstBytes dstpid srcpid size, MayStore m.kernel dst (kernelCell m.mem dstaddr i)) ∧
          m.WindowsKeep dst src dstaddr srcaddr size)

end Calls

end Core

namespace Core

section Changes
variable {bus : ADDRESS → Bool} {m m₁ : Core} {mem mem' : Nat → BYTE} {dst src : Fin maxTasks}
variable {dstpid dstaddr srcpid srcaddr size : WORD}

theorem copyUp_kernel {t f : ADDRESS} {n : Nat} (copied : m.copyUp bus t f n = .ok m₁) :
    m₁.kernel = m.kernel := by
  induction n generalizing m t f with
  | zero =>
    cases copied
    rfl
  | succ n ih =>
    obtain ⟨b, -, rest⟩ := bind_ok.mp copied
    obtain ⟨mem, -, rest⟩ := bind_ok.mp rest
    exact ih (m := ⟨m.kernel, mem⟩) rest

/-- The service with its memcpy, which moves nothing when a task is named. -/
theorem svcXcopy_first (nonempty : size ≠ 0) (dstFound : findtcb m.kernel dstpid = some dst)
    (srcFound : findtcb m.kernel srcpid = some src) :
    svcXcopy bus m dstpid dstaddr srcpid srcaddr size =
      if ¬ mayRead m.kernel src ∨ ¬ mayWrite m.kernel dst then .ok (enopriv, m)
      else do
        let m₁ ← m.copyUp bus dstaddr srcaddr (firstBytes dstpid srcpid size)
        let mem ← transfer bus m₁.mem (m.kernel.tct src).mmuState.upar
          (m.kernel.tct dst).mmuState.upar srcaddr dstaddr size
        return (eok, { kernel := m.kernel, mem := mem }) := by
  by_cases both : dstpid = 0 ∧ srcpid = 0
  · obtain ⟨rfl, rfl⟩ := both
    obtain rfl : m.kernel.curtcb = dst := Option.some.inj dstFound
    obtain rfl : m.kernel.curtcb = src := Option.some.inj srcFound
    have granted : ¬ (¬ mayRead m.kernel m.kernel.curtcb ∨ ¬ mayWrite m.kernel m.kernel.curtcb) := by
      rw [not_or, not_not, not_not]
      exact ⟨.inl rfl, .inl rfl⟩
    rw [if_neg granted, firstBytes, if_pos ⟨rfl, rfl⟩]
    unfold svcXcopy
    rw [if_neg nonempty, if_pos ⟨rfl, rfl⟩, memcpy]
    cases copied : m.copyUp bus dstaddr srcaddr size.toInt.toNat with
    | error fault => rfl
    | ok m₁ =>
      have kernel := copyUp_kernel copied
      obtain ⟨k₁, mem₁⟩ := m₁
      obtain rfl : k₁ = m.kernel := kernel
      have found : findtcb m.kernel.setpl7 0 = some m.kernel.curtcb := dstFound
      have read : mayRead m.kernel.setpl7 m.kernel.curtcb := .inl rfl
      have write : mayWrite m.kernel.setpl7 m.kernel.curtcb := .inl rfl
      simp only [ok_bind, found]
      rw [if_neg (not_not.mpr read), if_neg (not_not.mpr write)]
      rfl
  · rw [svcXcopy_eq nonempty both dstFound srcFound, firstBytes, if_neg both]
    rfl

/-- What closing the windows leaves changed when the source's pointer has moved. -/
theorem closed_changes {m : Nat → BYTE} {t4 a : Nat}
    (changed : closed m (windowRegs mem) t4 0 a ≠ mem a) :
    ¬ WindowByte a ∧ m a ≠ mem a ∨
      t4 ≠ 0 ∧ (∃ i < 2, a = kisarByte 4 + i ∧ m a ≠ mem a ∨ a = kisarByte 4 + 256 * t4 + i) := by
  by_cases still : t4 = 0
  · subst still
    by_cases window : WindowByte a
    · exact absurd (closed_window window) changed
    · rw [closed_other window] at changed
      exact .inl ⟨window, changed⟩
  by_cases stray : a = kisarByte 4 + 256 * t4 ∨ a = kisarByte 4 + 256 * t4 + 1
  · right
    refine ⟨still, ?_⟩
    rcases stray with low | high
    · exact ⟨0, by decide, .inr low⟩
    · exact ⟨1, by decide, .inr high⟩
  obtain ⟨low, high⟩ := not_or.mp stray
  have four : kisarByte 4 = 0o772350 := rfl
  have five : kisarByte 5 = 0o772352 := rfl
  have four' : kisdrByte 4 = 0o772310 := rfl
  have five' : kisdrByte 5 = 0o772312 := rfl
  by_cases kisar4 : a = kisarByte 4 ∨ a = kisarByte 4 + 1
  · have same : closed m (windowRegs mem) t4 0 a = m a := by
      unfold closed
      rw [putWord_ne (by omega) (by omega), putWord_ne (by omega) (by omega),
        putWord_ne (by omega) (by omega), putWord_ne (by omega) (by omega)]
    rw [same] at changed
    right
    refine ⟨still, ?_⟩
    rcases kisar4 with rfl | rfl
    · exact ⟨0, by decide, .inl ⟨rfl, changed⟩⟩
    · exact ⟨1, by decide, .inl ⟨rfl, changed⟩⟩
  · obtain ⟨low', high'⟩ := not_or.mp kisar4
    have same : closed m (windowRegs mem) t4 0 a = closed m (windowRegs mem) 0 0 a := by
      simp only [closed, putWord, Function.update_apply, low, high, low', high', Nat.mul_zero,
        Nat.add_zero, if_false]
    rw [same] at changed
    by_cases window : WindowByte a
    · exact absurd (closed_window window) changed
    · rw [closed_other window] at changed
      exact .inl ⟨window, changed⟩

/-- A copy that writes no page register, cell by cell. -/
theorem clear_cells (page : InOnePage dstaddr size) (clear : m.Clear dst dstaddr size) {c : Copying}
    (copied : copyBytes bus size.toNat (.start srcaddr dstaddr
      (opened mem (m.par4 src srcaddr) (m.par5 dst dstaddr))) = .ok c) :
    (∀ i < size.toNat, Responds bus (sourceCell (m.par4 src srcaddr) (m.par5 dst dstaddr) srcaddr i) ∧
        Responds bus (destCell (m.par5 dst dstaddr) dstaddr i)) ∧
      c.mem = copy (sourceCell (m.par4 src srcaddr) (m.par5 dst dstaddr) srcaddr)
        (destCell (m.par5 dst dstaddr) dstaddr) size.toNat
          (opened mem (m.par4 src srcaddr) (m.par5 dst dstaddr)) := by
  have laid {n : Nat} (le : n ≤ size.toNat) :=
    (opened_laid mem (m.par4 src srcaddr) (m.par5 dst dstaddr)).copied (n := n)
      (sourceCell (m.par4 src srcaddr) (m.par5 dst dstaddr) srcaddr)
      (destCell (m.par5 dst dstaddr) dstaddr) fun i bound window =>
        clear i (lt_of_lt_of_le bound le) window.inUnit
  obtain ⟨goes, cells⟩ := (copyBytes_ok page fun i bound => laid (Nat.le_of_lt bound)).mp
    ⟨c, copied, rfl⟩
  exact ⟨fun i bound => ⟨(goes i bound).source, (goes i bound).dest⟩, cells⟩

end Changes

end Core

namespace Core

section Keeps
variable {bus : ADDRESS → Bool} {m m₁ m' : Core} {mem mem' : Nat → BYTE} {dst src : Fin maxTasks}
variable {dstpid dstaddr srcpid srcaddr size : WORD} {c : Copying} {a : Nat} {rc : Int}

/-- What the windows' copy changes before they are closed. -/
theorem copied_changes (page : InOnePage dstaddr size)
    (keeps : m.WindowsKeep dst src dstaddr srcaddr size)
    (copied : copyBytes bus size.toNat (.start srcaddr dstaddr
      (opened mem (m.par4 src srcaddr) (m.par5 dst dstaddr))) = .ok c)
    (changed : c.mem a ≠ opened mem (m.par4 src srcaddr) (m.par5 dst dstaddr) a) :
    MayStore m.kernel dst a := by
  have laid := opened_laid mem (m.par4 src srcaddr) (m.par5 dst dstaddr)
  obtain ⟨i, bound, rfl⟩ := dest_changes laid.par5 page keeps.window copied changed
  rcases keeps.bytes i bound with may | ⟨clear, own⟩
  · exact may
  · obtain ⟨-, cells⟩ := clear_cells page clear copied
    rw [cells, copied_origin page bound, own] at changed
    exact absurd rfl changed

theorem opened_kisar4 {mem : Nat → BYTE} {par4 par5 : WORD} {i : Nat} (two : i < 2) :
    opened mem par4 par5 (kisarByte 4 + i) = putWord mem (kisarByte 4) par4 (kisarByte 4 + i) := by
  unfold opened
  rw [putWord_ne, putWord_ne, putWord_ne] <;> simp only [kisarByte, kisdrByte] <;> simp <;> omega

/-- What a word leaves in its bytes does not depend on what was there. -/
theorem putWord_bytes (mem mem' : Nat → BYTE) (p : Nat) (w : WORD) {i : Nat} (two : i < 2) :
    putWord mem p w (p + i) = putWord mem' p w (p + i) := by
  obtain rfl | rfl : i = 0 ∨ i = 1 := by omega
  · simp [putWord]
  · simp [putWord]

/-- A copy that keeps within what the destination may write. -/
theorem transfer_keeps (mapped : KernelPages mem) (same : ∀ a, InUnit a → mem a = m.mem a)
    (keeps : m.WindowsKeep dst src dstaddr srcaddr size)
    (transferred : transfer bus mem (m.kernel.tct src).mmuState.upar
      (m.kernel.tct dst).mmuState.upar srcaddr dstaddr size = .ok mem')
    (changed : mem' a ≠ mem a) : MayStore m.kernel dst a := by
  obtain ⟨c, copied, pages, -, rfl⟩ := transfer_done mapped transferred
  have page : InOnePage dstaddr size := by
    by_contra beyond
    exact copyBytes_crossing pages (Nat.not_le.mp beyond) copied
  rw [onePage_turns.mp page] at changed
  have within {a : Nat} := @copied_changes bus m mem dst src dstaddr srcaddr size c a page keeps copied
  rcases closed_changes changed with ⟨out, moved⟩ | ⟨turned, i, bound, ⟨rfl, moved⟩ | rfl⟩
  · refine within ?_
    rw [opened_other out]
    exact moved
  · -- KISAR4 stays where it has been laid, unless it is written itself
    by_cases written : c.mem (kisarByte 4 + i) =
        opened mem (m.par4 src srcaddr) (m.par5 dst dstaddr) (kisarByte 4 + i)
    case neg => exact within written
    rcases keeps.kisar4 turned i bound with may | old
    · exact may
    · rw [written, opened_kisar4 bound, putWord_bytes mem m.mem _ _ bound, old,
        same _ (by unfold InUnit kisarByte; simp; omega)] at moved
      exact absurd rfl moved
  · exact keeps.restored turned i bound

/-- The windows' copy has not been stopped. -/
theorem transfer_goes (mapped : KernelPages mem)
    (stops : m.WindowsStop bus dst src dstaddr srcaddr size) :
    transfer bus mem (m.kernel.tct src).mmuState.upar (m.kernel.tct dst).mmuState.upar
      srcaddr dstaddr size ≠ .ok mem' := by
  intro transferred
  obtain ⟨c, copied, pages, answered, -⟩ := transfer_done mapped transferred
  by_cases page : InOnePage dstaddr size
  case neg => exact copyBytes_crossing pages (Nat.not_le.mp page) copied
  rcases stops with beyond | silent | ⟨clear, i, bound, silent⟩
  · exact beyond page
  · exact silent answered.1
  · exact silent ((clear_cells page clear copied).1 i bound)

/-- The calls that change nothing that their destination could not change itself. -/
theorem confines_changes (mapped : KernelPages m.mem)
    (dstFound : findtcb m.kernel dstpid = some dst) (srcFound : findtcb m.kernel srcpid = some src)
    (confines : m.Confines bus dst src dstpid dstaddr srcpid srcaddr size) :
    m.ChangesWritable bus dst dstpid dstaddr srcpid srcaddr size := by
  intro mem rc m' same called a changed
  by_cases nonempty : size = 0
  · subst nonempty
    cases called
    exact absurd rfl changed
  rw [svcXcopy_first (m := ⟨m.kernel, mem⟩) nonempty dstFound srcFound] at called
  split at called
  case isTrue =>
    cases called
    exact absurd rfl changed
  case isFalse granted =>
    obtain ⟨read, write⟩ := not_or.mp granted
    obtain ⟨clear, rest⟩ := ((confines.resolve_left nonempty).resolve_left read).resolve_left write
    obtain ⟨m₁, first, called⟩ := bind_ok.mp called
    obtain ⟨mem₂, transferred, ret⟩ := bind_ok.mp called
    cases ret
    have registers := kernelMode_congr same
    have cell (addr : ADDRESS) (i : Nat) : kernelCell mem addr i = kernelCell m.mem addr i := by
      rw [kernelCell, kernelCell, registers]
    have clear : ∀ i < firstBytes dstpid srcpid size, ¬ InUnit (kernelCell mem dstaddr i) :=
      fun i bound => cell dstaddr i ▸ clear i bound
    obtain ⟨-, unit, only⟩ := copyUp_changes (m := ⟨m.kernel, mem⟩) clear first
    have same₁ : ∀ a, InUnit a → m₁.mem a = m.mem a := fun a inUnit =>
      (unit a inUnit).trans (same a inUnit)
    have mapped₁ : KernelPages m₁.mem := mapped.same (samePages_memory same₁)
    rcases rest with ⟨i, bound, stops⟩ | stops | ⟨own, keeps⟩
    · have accesses := copyUp_accesses (m := ⟨m.kernel, mem⟩) clear first bound
      rw [registers, cell, cell] at accesses
      exact absurd accesses stops
    · exact absurd transferred (transfer_goes mapped₁ stops)
    · by_cases later : mem₂ a = m₁.mem a
      · obtain ⟨i, bound, rfl⟩ := only a (by rw [← later]; exact changed)
        rw [cell]
        exact own i bound
      · exact transfer_keeps mapped₁ same₁ keeps transferred later

variable (bus m dst src dstpid dstaddr srcpid srcaddr size) in
/-- A call that names a task, writes no page register and is not stopped. -/
structure Unstopped : Prop where
  mapped : KernelMapped m.mem
  nonempty : size ≠ 0
  named : ¬ (dstpid = 0 ∧ srcpid = 0)
  dstFound : findtcb m.kernel dstpid = some dst
  srcFound : findtcb m.kernel srcpid = some src
  clear : m.Clear dst dstaddr size
  read : mayRead m.kernel src
  write : mayWrite m.kernel dst
  goes : ¬ m.WindowsStop bus dst src dstaddr srcaddr size

theorem Unstopped.page (h : Unstopped bus m dst src dstpid dstaddr srcpid srcaddr size) :
    InOnePage dstaddr size :=
  not_not.mp (not_or.mp h.goes).1

/-- It comes back whatever the memory holds. -/
theorem Unstopped.returns (h : Unstopped bus m dst src dstpid dstaddr srcpid srcaddr size)
    (same : ∀ a, InUnit a → mem a = m.mem a) :
    ∃ (c : Copying) (m' : Core),
      svcXcopy bus ⟨m.kernel, mem⟩ dstpid dstaddr srcpid srcaddr size = .ok (eok, m') ∧
      m'.mem = closed c.mem (windowRegs mem) (turns srcaddr size) 0 ∧
      c.mem = copy (sourceCell (m.par4 src srcaddr) (m.par5 dst dstaddr) srcaddr)
        (destCell (m.par5 dst dstaddr) dstaddr) size.toNat
          (opened mem (m.par4 src srcaddr) (m.par5 dst dstaddr)) := by
  have mapped : KernelMapped mem := h.mapped.same (samePages_memory same)
  have page := h.page
  obtain ⟨answered, goes⟩ := not_or.mp (not_or.mp h.goes).2
  have answers (i : Nat) (bound : i < size.toNat) :
      Responds bus (sourceCell (m.par4 src srcaddr) (m.par5 dst dstaddr) srcaddr i) ∧
        Responds bus (destCell (m.par5 dst dstaddr) dstaddr i) := by
    by_contra silent
    exact goes ⟨h.clear, i, bound, silent⟩
  obtain ⟨c, copied, -, cells⟩ := @clear_copied bus dstaddr srcaddr size mem (m.par4 src srcaddr)
    (m.par5 dst dstaddr) page (fun i bound => ⟨h.clear i bound, (answers i bound).2⟩)
    fun i bound => (answers i bound).1
  have transferred : transfer bus mem (m.kernel.tct src).mmuState.upar
      (m.kernel.tct dst).mmuState.upar srcaddr dstaddr size =
        .ok (closed c.mem (windowRegs mem) (turns srcaddr size) (turns dstaddr size)) :=
    transfer_made mapped copied ⟨not_not.mp answered, .inl (onePage_turns.mp page)⟩
  rw [onePage_turns.mp page] at transferred
  refine ⟨c, ⟨m.kernel, _⟩, ?_, rfl, cells⟩
  rw [svcXcopy_eq (m := ⟨m.kernel, mem⟩) h.nonempty h.named h.dstFound h.srcFound,
    if_neg fun refused => refused.elim (· h.read) (· h.write)]
  dsimp only
  rw [transferred]
  rfl

end Keeps

end Core

namespace Core

section Necessary
variable {bus : ADDRESS → Bool} {m : Core} {mem : Nat → BYTE} {dst src : Fin maxTasks}
variable {dstpid dstaddr srcpid srcaddr size : WORD}

theorem another (b : BYTE) : b ≠ b + 1 := by
  intro same
  have same := congrArg BitVec.toNat same
  have one : (1 : BYTE).toNat = 1 := rfl
  rw [BitVec.toNat_add, one] at same
  omega

theorem closed_clear {mem : Nat → BYTE} {regs : WindowRegs} {t4 a : Nat} (out : ¬ WindowByte a)
    (unstrayed : ∀ i < 2, a ≠ kisarByte 4 + 256 * t4 + i) : closed mem regs t4 0 a = mem a := by
  have low : a ≠ kisarByte 4 + 256 * t4 := unstrayed 0 (by decide)
  have high := unstrayed 1 (by decide)
  unfold WindowByte at out
  unfold closed
  rw [putWord_ne, putWord_ne, putWord_ne, putWord_ne low high] <;>
    simp only [kisarByte, kisdrByte] <;> simp <;> omega

theorem closed_kisar4 {mem : Nat → BYTE} {regs : WindowRegs} {t4 i : Nat} (turned : t4 ≠ 0)
    (two : i < 2) : closed mem regs t4 0 (kisarByte 4 + i) = mem (kisarByte 4 + i) := by
  unfold closed
  rw [putWord_ne, putWord_ne, putWord_ne, putWord_ne] <;> simp only [kisarByte, kisdrByte] <;>
    simp <;> omega

theorem closed_stray {mem : Nat → BYTE} {regs : WindowRegs} {t4 i : Nat} (two : i < 2) :
    closed mem regs t4 0 (kisarByte 4 + 256 * t4 + i) =
      putWord mem (kisarByte 4 + 256 * t4) regs.par4 (kisarByte 4 + 256 * t4 + i) := by
  unfold closed
  rw [putWord_ne, putWord_ne, putWord_ne] <;> simp only [kisarByte, kisdrByte] <;> simp <;> omega

section Unstopped
variable (h : Unstopped bus m dst src dstpid dstaddr srcpid srcaddr size)
  (confined : m.ChangesWritable bus dst dstpid dstaddr srcpid srcaddr size)
include h confined

/-- The word that the moved pointer restores changes where memory holds something else. -/
theorem restored_may (turned : turns srcaddr size ≠ 0) (i : Nat) (two : i < 2) :
    MayStore m.kernel dst (kisarByte 4 + 256 * turns srcaddr size + i) := by
  let stray := kisarByte 4 + 256 * turns srcaddr size
  let word (mem : Nat → BYTE) := putWord mem stray ((kernelMode m.mem).kpar 4) (stray + i)
  let other := Function.update m.mem (stray + i) (word m.mem + 1)
  have same (a : Nat) (inUnit : InUnit a) : other a = m.mem a := by
    refine Function.update_of_ne ?_ ..
    rintro rfl
    have few := turns_le srcaddr size
    have high : stray = 0o772350 + 256 * turns srcaddr size := rfl
    unfold InUnit at inUnit
    omega
  obtain ⟨c, m', called, closes, -⟩ := h.returns same
  refine confined other eok m' same called _ ?_
  have register : (windowRegs other).par4 = (kernelMode m.mem).kpar 4 := by
    show (kernelMode other).kpar 4 = _
    rw [kernelMode_congr same]
  rw [closes, closed_stray two, register]
  have here : other (stray + i) = word m.mem + 1 := Function.update_self ..
  have bytes : putWord c.mem stray ((kernelMode m.mem).kpar 4) (stray + i) = word m.mem :=
    putWord_bytes _ _ _ _ two
  show putWord c.mem stray _ (stray + i) ≠ other (stray + i)
  rw [here, bytes]
  exact another _

/-- So does a byte of the destination, if it is not the cell that it is copied from. -/
theorem copied_may (i : Nat) (bound : i < size.toNat)
    (moved : origin (m.par4 src srcaddr) (m.par5 dst dstaddr) srcaddr dstaddr i ≠
      destCell (m.par5 dst dstaddr) dstaddr i) :
    MayStore m.kernel dst (destCell (m.par5 dst dstaddr) dstaddr i) := by
  by_cases turned : turns srcaddr size ≠ 0 ∧ ∃ j < 2, destCell (m.par5 dst dstaddr) dstaddr i =
      kisarByte 4 + 256 * turns srcaddr size + j
  · obtain ⟨turned, j, two, stray⟩ := turned
    rw [stray]
    exact restored_may h confined turned j two
  have unstrayed (j : Nat) (two : j < 2) : destCell (m.par5 dst dstaddr) dstaddr i ≠
      kisarByte 4 + 256 * turns srcaddr size + j := by
    intro stray
    by_cases still : turns srcaddr size = 0
    · apply h.clear i bound
      rw [stray, still]
      unfold InUnit kisarByte
      simp
      omega
    · exact turned ⟨still, j, two, stray⟩
  let opening (mem : Nat → BYTE) := opened mem (m.par4 src srcaddr) (m.par5 dst dstaddr)
    (origin (m.par4 src srcaddr) (m.par5 dst dstaddr) srcaddr dstaddr i)
  let other := Function.update m.mem (destCell (m.par5 dst dstaddr) dstaddr i) (opening m.mem + 1)
  have same (a : Nat) (inUnit : InUnit a) : other a = m.mem a := by
    refine Function.update_of_ne ?_ ..
    rintro rfl
    exact h.clear i bound inUnit
  obtain ⟨c, m', called, closes, cells⟩ := h.returns same
  refine confined other eok m' same called _ ?_
  rw [closes, closed_clear (fun window => h.clear i bound window.inUnit) unstrayed, cells,
    copied_origin h.page bound]
  show opening other ≠ other _
  have unmoved : opening other = opening m.mem := opened_congr (Function.update_of_ne moved ..)
  have here : other (destCell (m.par5 dst dstaddr) dstaddr i) = opening m.mem + 1 :=
    Function.update_self ..
  rw [unmoved, here]
  exact another _

/-- KISAR4 is left as the source's window had it. -/
theorem kisar4_may (turned : turns srcaddr size ≠ 0) (i : Nat) (two : i < 2)
    (moved : putWord m.mem (kisarByte 4) (m.par4 src srcaddr) (kisarByte 4 + i) ≠
      m.mem (kisarByte 4 + i)) : MayStore m.kernel dst (kisarByte 4 + i) := by
  obtain ⟨c, m', called, closes, cells⟩ := h.returns fun _ _ => rfl
  refine confined m.mem eok m' (fun _ _ => rfl) called _ ?_
  have inUnit : InUnit (kisarByte 4 + i) := by
    unfold InUnit kisarByte
    simp
    omega
  rw [closes, closed_kisar4 turned two, cells, copy_clear h.clear inUnit, opened_kisar4 two]
  exact moved

theorem changes_keep : m.WindowsKeep dst src dstaddr srcaddr size := by
  constructor
  · intro i bound
    by_cases own : origin (m.par4 src srcaddr) (m.par5 dst dstaddr) srcaddr dstaddr i =
        destCell (m.par5 dst dstaddr) dstaddr i
    · exact .inr ⟨h.clear, own⟩
    · exact .inl (copied_may h confined i bound own)
  · intro i bound at_five
    apply h.clear i (by omega)
    unfold Kisar5Byte at at_five
    unfold InUnit
    omega
  · intro turned i two
    by_cases old : putWord m.mem (kisarByte 4) (m.par4 src srcaddr) (kisarByte 4 + i) =
        m.mem (kisarByte 4 + i)
    · exact .inr old
    · exact .inl (kisar4_may h confined turned i two old)
  · exact restored_may h confined

end Unstopped

end Necessary

/-- INIT has created a small task without privileges, which runs. -/
def unprivilegedTask : Except Fault TaskRun :=
  exec CallOp.step (bootRun 0) [.task (.creprc (fun _ => 0x20) usrTask 0 0), .task (.quantum {})]

/-- The first byte of the kernel is 0 and all other memory 7. -/
def marked (k : Kernel) : Core := ⟨k, withRegisters k.mmu fun a => if a = 0 then 0 else 7⟩

/-- Its pid is 0101, and it cannot write the first byte of the kernel. -/
theorem unprivileged_reads : ∃ s, unprivilegedTask = .ok s ∧ findtcb s.kernel 0o101 = some 1 ∧
    s.kernel.cur.operprv = false ∧ acf ((s.kernel.tct 1).mmuState.updr 0) = pdrAccRo ∧
    ¬ MayStore s.kernel 1 0 := by
  have result : succeeds unprivilegedTask (fun s => findtcb s.kernel 0o101 = some 1 ∧
      s.kernel.cur.operprv = false ∧ acf ((s.kernel.tct 1).mmuState.updr 0) = pdrAccRo ∧
      ∀ page, writable ((s.kernel.tct 1).mmuState.updr page) = true →
        0 < ((s.kernel.tct 1).mmuState.upar page).toNat ∧
          ((s.kernel.tct 1).mmuState.upar page).toNat + 127 < 4096) = true := by
    decide +kernel
  obtain ⟨s, ran, facts⟩ := succeeds_iff.mp result
  obtain ⟨found, oper, readonly, above⟩ := of_decide_eq_true facts
  refine ⟨s, ran, found, oper, readonly, ?_⟩
  rintro ⟨addr, writes, -, zero⟩
  have := above _ writes
  unfold physical blockOf at zero
  omega

end Core

end Muxx
